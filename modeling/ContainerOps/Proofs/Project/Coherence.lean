import ContainerOps.Proofs.Project.Accumulation
import Mathlib.Logic.Relation

/-!
# Coherent results

A result is used in any order: events are added to it, failures are recorded in it, it is cleaned up
and commands are run on it.  Each use is a sequence of three basic changes, which is all that has to
be looked at: they keep the parts of a result in accord, and none of them takes anything back.

Main results:

- `Result.changes_after`: every use is a sequence of basic changes.
- `Result.Change.coherent` and `Result.Change.continues`: what a basic change keeps.
- `Result.coherent_afterAll`: the same for a result in any use.
-/

namespace ContainerOps.Project

open ContainerOps.Command ContainerOps.Progress

namespace Result

/-! ## Uses -/

/-- One use of a result. -/
inductive Use where
  /-- The events and outputs of some run are added. -/
  | absorb (events : List Event) (stdout stderr : String)
  /-- The failure of some run is recorded, if it failed. -/
  | recordFailure (p : Project) (events : List Event) (args : List String)
      (stdout stderr : String) (code : Int)
  /-- Empty outputs are dropped. -/
  | cleanup
  /-- A command is run. -/
  | invoke (p : Project) (call : Invocation)

/-- A result after one use. -/
def after (r : Result) : Use → Result
  | .absorb events stdout stderr => r.absorb events stdout stderr
  | .recordFailure p events args stdout stderr code =>
    (p.recordFailure r events args stdout stderr code).1
  | .cleanup => r.cleanup
  | .invoke p call => (p.invoke r call).result

/-- A result after several uses. -/
def afterAll (r : Result) (uses : List Use) : Result :=
  uses.foldl after r

/-! ## Basic changes -/

/-- A basic change of a result. -/
inductive Change : Result → Result → Prop where
  /-- Events and outputs are added. -/
  | absorb (r : Result) (events : List Event) (stdout stderr : String) :
      Change r (r.absorb events stdout stderr)
  /-- A failure is recorded. -/
  | fail (r : Result) (failure : Failure) : Change r (r.fail failure)
  /-- Empty outputs are dropped. -/
  | cleanup (r : Result) : Change r r.cleanup

/-- Some basic changes, one after another. -/
abbrev Changes : Result → Result → Prop :=
  Relation.ReflTransGen Change

/-- Recording a failure is a basic change if there is a failure, and none otherwise. -/
theorem changes_recordFailure (p : Project) (r : Result) (events : List Event)
    (args : List String) (stdout stderr : String) (code : Int) :
    Changes r (p.recordFailure r events args stdout stderr code).1 := by
  unfold recordFailure
  cases p.failure? events args stdout stderr code with
  | none => exact .refl
  | some failure => exact .single (.fail r failure)

/-- Running a command adds what its program printed and records its failure; without an output there
is no change. -/
theorem changes_invoke (p : Project) (r : Result) (call : Invocation) :
    Changes r (p.invoke r call).result := by
  cases houtcome : call.outcome with
  | error e =>
    rw [invoke_of_error p r houtcome]
  | ok output =>
    rw [invoke_of_ok p r houtcome]
    exact .head (.absorb r _ _ _) (changes_recordFailure p _ _ _ _ _ _)

/-- Every use is a sequence of basic changes. -/
theorem changes_after (r : Result) (use : Use) : Changes r (r.after use) := by
  cases use with
  | absorb events stdout stderr => exact .single (.absorb r events stdout stderr)
  | recordFailure p events args stdout stderr code =>
    exact changes_recordFailure p r events args stdout stderr code
  | cleanup => exact .single (.cleanup r)
  | invoke p call => exact changes_invoke p r call

/-- Several uses are a sequence of basic changes too. -/
theorem changes_afterAll (r : Result) (uses : List Use) : Changes r (r.afterAll uses) := by
  induction uses generalizing r with
  | nil => exact .refl
  | cons use rest ih => exact (changes_after r use).trans (ih (r.after use))

/-! ## Coherence -/

/-- The parts of a result are in accord. -/
structure Coherent (r : Result) : Prop where
  /-- Something changed if anything was done. -/
  changed_iff : r.changed = true ↔ r.actions ≠ []
  /-- What was done was under way. -/
  isWorking : ∀ action ∈ r.actions, action.status.isWorking = true
  /-- A failure has all its details. -/
  details : r.failed = true →
    r.reason.isSome ∧ r.command.isSome ∧ r.code.isSome ∧ r.stdout.isSome ∧ r.stderr.isSome
  /-- Without a failure there are no details of one. -/
  noDetails : r.failed = false → r.reason = none ∧ r.command = none ∧ r.code = none

/-- A result goes on from another one: nothing is taken back. -/
structure Continues (r s : Result) : Prop where
  /-- A failure stays. -/
  failed : r.failed = true → s.failed = true
  /-- A change stays. -/
  changed : r.changed = true → s.changed = true
  /-- What was done stays, and in its place. -/
  actions : r.actions <+: s.actions

/-- A result without any run is coherent. -/
theorem coherent_new : Coherent new where
  changed_iff := by simp [new]
  isWorking := nofun
  details := nofun
  noDetails _ := ⟨rfl, rfl, rfl⟩

/-- The action of an event is under way. -/
theorem isWorking_of_mem_actions {events : List Event} {action : Action}
    (hmem : action ∈ Progress.actions events) : action.status.isWorking = true := by
  obtain ⟨event, _, haction⟩ := List.mem_filterMap.mp hmem
  unfold Event.action? at haction
  split at haction
  · split at haction
    · rename_i hworking
      cases haction
      exact hworking
    · cases haction
  · cases haction

section Change

variable {r s t : Result}

/-- A basic change keeps a result coherent. -/
theorem Change.coherent (change : Change r s) (coherent : Coherent r) : Coherent s := by
  cases change with
  | absorb events stdout stderr =>
    refine ⟨?_, fun action hmem => ?_, fun hfailed => ?_, coherent.noDetails⟩
    · simp only [Result.absorb, Bool.or_eq_true, coherent.changed_iff, hasChanges_iff, ne_eq,
        List.append_eq_nil_iff]
      exact (Decidable.not_and_iff_not_or_not).symm
    · rcases List.mem_append.mp hmem with hold | hnew
      · exact coherent.isWorking action hold
      · exact isWorking_of_mem_actions hnew
    · obtain ⟨hreason, hcommand, hcode, _⟩ := coherent.details hfailed
      exact ⟨hreason, hcommand, hcode, rfl, rfl⟩
  | fail failure =>
    refine ⟨coherent.changed_iff, coherent.isWorking, fun _ => ⟨rfl, rfl, rfl, rfl, rfl⟩, ?_⟩
    intro hfailed
    cases hfailed
  | cleanup =>
    cases hfailed : r.failed with
    | true => rwa [cleanup_of_failed hfailed]
    | false =>
      have hclean : r.cleanup =
          { r with stdout := nonEmpty r.stdout, stderr := nonEmpty r.stderr } := by
        rw [Result.cleanup, hfailed, if_neg Bool.false_ne_true]
      rw [hclean]
      refine ⟨coherent.changed_iff, coherent.isWorking, fun h => ?_, coherent.noDetails⟩
      rw [hfailed] at h
      cases h

/-- A result goes on from itself. -/
theorem Continues.refl (r : Result) : Continues r r :=
  ⟨id, id, List.prefix_refl _⟩

/-- What goes on from a later result goes on from an earlier one. -/
theorem Continues.trans (first : Continues r s) (second : Continues s t) : Continues r t :=
  ⟨second.failed ∘ first.failed, second.changed ∘ first.changed,
    first.actions.trans second.actions⟩

/-- A basic change takes nothing back. -/
theorem Change.continues (change : Change r s) : Continues r s := by
  cases change with
  | absorb events stdout stderr =>
    exact ⟨id, fun hchanged => changed_absorb hchanged events stdout stderr,
      List.prefix_append _ _⟩
  | fail failure => exact ⟨fun _ => rfl, id, List.prefix_refl _⟩
  | cleanup =>
    unfold Result.cleanup
    split
    · exact .refl r
    · exact ⟨id, id, List.prefix_refl _⟩

/-- Basic changes keep a result coherent. -/
theorem coherent_of_changes (changes : Changes r s) (coherent : Coherent r) : Coherent s := by
  induction changes with
  | refl => exact coherent
  | tail _ change ih => exact change.coherent ih

/-- Basic changes take nothing back. -/
theorem continues_of_changes (changes : Changes r s) : Continues r s := by
  induction changes with
  | refl => exact .refl r
  | tail _ change ih => exact ih.trans change.continues

end Change

/-! ## Cleanups -/

/-- An output that is kept is not empty. -/
theorem nonEmpty_ne_some_empty (output : Option String) : nonEmpty output ≠ some "" := by
  unfold nonEmpty
  split
  · exact nofun
  · assumption

/-- After a cleanup no output is empty, unless some run failed. -/
theorem outputs_cleanup {r : Result} (hfailed : r.cleanup.failed = false) :
    r.cleanup.stdout ≠ some "" ∧ r.cleanup.stderr ≠ some "" := by
  unfold Result.cleanup at hfailed ⊢
  split
  · rename_i hfail
    rw [if_pos hfail, hfail] at hfailed
    cases hfailed
  · exact ⟨nonEmpty_ne_some_empty r.stdout, nonEmpty_ne_some_empty r.stderr⟩

/-! ## Results in use -/

/-- A result that starts empty is coherent after any uses.  No use takes anything back, and right
after a cleanup it has no empty output unless some run failed. -/
theorem coherent_afterAll (uses : List Use) :
    Coherent (new.afterAll uses) ∧
    (∀ use, Continues (new.afterAll uses) (new.afterAll (uses ++ [use]))) ∧
    ((new.afterAll (uses ++ [.cleanup])).failed = false →
      (new.afterAll (uses ++ [.cleanup])).stdout ≠ some "" ∧
        (new.afterAll (uses ++ [.cleanup])).stderr ≠ some "") := by
  have hconcat : ∀ use, new.afterAll (uses ++ [use]) = (new.afterAll uses).after use :=
    fun _ => List.foldl_append
  refine ⟨coherent_of_changes (changes_afterAll new uses) coherent_new, fun use => ?_, ?_⟩
  · rw [hconcat]
    exact continues_of_changes (changes_after _ use)
  · rw [hconcat]
    exact outputs_cleanup

end Result

end ContainerOps.Project
