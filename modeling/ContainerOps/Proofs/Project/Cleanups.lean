import ContainerOps.Proofs.Project.Coherence

/-!
# Cleanups between other uses

A cleanup takes empty outputs away, and nothing that happens to a result later can tell an output
that is empty from one that is not there.  So of several cleanups only the last one counts.  Two
results are compared by what a cleanup makes of them: as long as that is the same, every use keeps
it the same and answers alike.

Main results:

- `after_cleanup`: a use of a result that was cleaned up first.
- `agree_of_fewer`: two histories with and without some cleanups stay in step.
- `cleanups_unobservable`: what a history that ends with a cleanup leaves and answers.
-/

namespace ContainerOps.Project.Result

open ContainerOps.Command ContainerOps.Progress

/-! ## Answers -/

/-- What a use of a result gives back to its caller. -/
inductive Answer where
  /-- Whether a failure was recorded. -/
  | recorded (failed : Bool)
  /-- The request of a command, whether the command failed or the error there was instead of its
  output, and what the user is told. -/
  | invoked (request : Request) (answer : Except Error Bool) (notices : List Notice)

/-- The answer to a use.  Adding events and cleaning up give nothing back. -/
def answer? (r : Result) : Use → Option Answer
  | .absorb _ _ _ => none
  | .recordFailure p events args stdout stderr code =>
    some (.recorded (p.recordFailure r events args stdout stderr code).2)
  | .cleanup => none
  | .invoke p call =>
    some (.invoked (p.runSubcommand r call.args call.dryRun).request (p.invoke r call).answer
      (p.invoke r call).notices)

/-- The answers to several uses, in order. -/
def answers (r : Result) : List Use → List Answer
  | [] => []
  | use :: rest => (r.answer? use).toList ++ answers (r.after use) rest

/-! ## Cleaning up first -/

/-- A cleanup leaves everything but the outputs. -/
theorem cleanup_eq (r : Result) :
    r.cleanup = { r with stdout := r.cleanup.stdout, stderr := r.cleanup.stderr } := by
  unfold cleanup
  split <;> rfl

/-- An output that is not empty stays. -/
theorem nonEmpty_nonEmpty (output : Option String) :
    nonEmpty (nonEmpty output) = nonEmpty output := by
  unfold nonEmpty
  split <;> simp_all

/-- A second cleanup changes nothing. -/
@[simp]
theorem cleanup_cleanup (r : Result) : r.cleanup.cleanup = r.cleanup := by
  cases hfailed : r.failed with
  | true => rw [cleanup_of_failed hfailed, cleanup_of_failed hfailed]
  | false => simp [cleanup, hfailed, nonEmpty_nonEmpty]

/-- More output is added to an empty output as to none. -/
theorem combineText_nonEmpty (output : Option String) (part : String) :
    combineText [nonEmpty output, some part] = combineText [output, some part] := by
  unfold nonEmpty
  split
  · next hempty =>
    rw [hempty, combineText_empty_cons]
    exact combineText_singleton part
  · rfl

/-- Events and outputs are added to a result that was cleaned up as to any other. -/
theorem absorb_cleanup (r : Result) (events : List Event) (stdout stderr : String) :
    r.cleanup.absorb events stdout stderr = r.absorb events stdout stderr := by
  unfold cleanup
  split
  · rfl
  · simp only [absorb, combineText_nonEmpty]

/-- A failure takes the place of the outputs, whether they were cleaned up or not. -/
theorem fail_cleanup (r : Result) (failure : Failure) :
    r.cleanup.fail failure = r.fail failure := by
  unfold cleanup
  split <;> rfl

/-- A command that finishes does the same to a result that was cleaned up. -/
theorem complete_cleanup (p : Project) (r : Result) (args : List String) (dryRun : Bool)
    (output : Output) :
    p.complete r.cleanup args dryRun output = p.complete r args dryRun output := by
  unfold complete
  dsimp only
  rw [absorb_cleanup]

/-- What a use leaves does not depend on a cleanup before it, if there is one after it. -/
theorem after_cleanup (r : Result) (use : Use) :
    (r.cleanup.after use).cleanup = (r.after use).cleanup := by
  cases use with
  | absorb events stdout stderr => exact congrArg cleanup (r.absorb_cleanup events stdout stderr)
  | recordFailure p events args stdout stderr code =>
    simp only [after, recordFailure]
    cases p.failure? events args stdout stderr code with
    | none => exact r.cleanup_cleanup
    | some failure => exact congrArg cleanup (r.fail_cleanup failure)
  | cleanup => exact r.cleanup.cleanup_cleanup
  | invoke p call =>
    simp only [after]
    cases houtcome : call.outcome with
    | error e =>
      rw [invoke_of_error p _ houtcome, invoke_of_error p _ houtcome]
      exact r.cleanup_cleanup
    | ok output => rw [invoke_of_ok p _ houtcome, invoke_of_ok p _ houtcome, complete_cleanup]

/-- Nor does the answer to the use. -/
theorem answer?_cleanup (r : Result) (use : Use) : r.cleanup.answer? use = r.answer? use := by
  cases use with
  | absorb events stdout stderr => rfl
  | recordFailure p events args stdout stderr code =>
    simp only [answer?, recordFailure]
    cases p.failure? events args stdout stderr code <;> rfl
  | cleanup => rfl
  | invoke p call =>
    have hrequest : (p.runSubcommand r.cleanup call.args call.dryRun).request =
        (p.runSubcommand r call.args call.dryRun).request := rfl
    simp only [answer?, hrequest]
    cases houtcome : call.outcome with
    | error e => rw [invoke_of_error p _ houtcome, invoke_of_error p _ houtcome]
    | ok output => rw [invoke_of_ok p _ houtcome, invoke_of_ok p _ houtcome, complete_cleanup]

/-! ## Histories -/

/-- A history without some of the cleanups of another one. -/
inductive Fewer : List Use → List Use → Prop where
  /-- Nothing was done. -/
  | nil : Fewer [] []
  /-- The same is done in both. -/
  | keep {uses fewer : List Use} (use : Use) (rest : Fewer uses fewer) :
      Fewer (use :: uses) (use :: fewer)
  /-- A cleanup is left out. -/
  | drop {uses fewer : List Use} (rest : Fewer uses fewer) : Fewer (.cleanup :: uses) fewer

/-- Two results are the same to a cleanup.  A use keeps them so, and answers alike. -/
theorem agree_after {r s : Result} (hsame : r.cleanup = s.cleanup) (use : Use) :
    (r.after use).cleanup = (s.after use).cleanup ∧ r.answer? use = s.answer? use := by
  constructor
  · rw [← after_cleanup, hsame, after_cleanup]
  · rw [← answer?_cleanup, hsame, answer?_cleanup]

/-- Histories with and without some cleanups keep two results the same to a cleanup, and answer
alike. -/
theorem agree_of_fewer {uses fewer : List Use} (hfewer : Fewer uses fewer) {r s : Result}
    (hsame : r.cleanup = s.cleanup) :
    (r.afterAll uses).cleanup = (s.afterAll fewer).cleanup ∧
      r.answers uses = s.answers fewer := by
  induction hfewer generalizing r s with
  | nil => exact ⟨hsame, rfl⟩
  | keep use _ ih =>
    obtain ⟨hafter, hanswer⟩ := agree_after hsame use
    obtain ⟨hresult, hanswers⟩ := ih hafter
    refine ⟨hresult, ?_⟩
    rw [answers, answers, hanswer, hanswers]
  | drop _ ih =>
    -- the result that is cleaned up is still the same as the other one to a cleanup
    have hcleaned : r.cleanup.cleanup = s.cleanup := r.cleanup_cleanup.trans hsame
    exact ih hcleaned

/-- Uses are answered one after another. -/
theorem answers_append (r : Result) (before after : List Use) :
    r.answers (before ++ after) = r.answers before ++ (r.afterAll before).answers after := by
  induction before generalizing r with
  | nil => rfl
  | cons use rest ih =>
    rw [List.cons_append, answers, answers, ih, List.append_assoc]
    rfl

/-- A cleanup before another one cannot be observed: without any such cleanups the result at the end
is the same in all its parts, and so is every answer on the way.  A second cleanup changes nothing,
no cleanup changes anything but the outputs, and none changes the result of a failure. -/
theorem cleanups_unobservable :
    (∀ (r : Result) (uses fewer : List Use), Fewer uses fewer →
      r.afterAll (uses ++ [.cleanup]) = r.afterAll (fewer ++ [.cleanup]) ∧
        r.answers (uses ++ [.cleanup]) = r.answers (fewer ++ [.cleanup])) ∧
    ∀ r : Result, r.cleanup.cleanup = r.cleanup ∧
      r.cleanup = { r with stdout := r.cleanup.stdout, stderr := r.cleanup.stderr } ∧
      (r.failed = true → r.cleanup = r) := by
  have hlast : ∀ (r : Result) uses, r.afterAll (uses ++ [.cleanup]) = (r.afterAll uses).cleanup :=
    fun r uses => List.foldl_append
  refine ⟨fun r uses fewer hfewer => ?_, fun r =>
    ⟨r.cleanup_cleanup, r.cleanup_eq, cleanup_of_failed⟩⟩
  obtain ⟨hresult, hanswers⟩ := agree_of_fewer hfewer (rfl : r.cleanup = r.cleanup)
  constructor
  · rw [hlast, hlast, hresult]
  · rw [answers_append, answers_append, hanswers]
    rfl

/-- Two cleanups are left out, of which the first one finds an empty output, and the second one
stands between a program that does not start and one that reports an error. -/
theorem cleanups_unobservable_between_commands :
    ∃ (p : Project) (uses fewer : List Use), Fewer uses fewer ∧
      uses = [.absorb [] "" "a", .cleanup, .recordFailure p [] ["up"] "" "" 0,
        .invoke p
          { args := ["up"], dryRun := false, outcome := .error (.spawn "docker" "no such file") },
        .cleanup, .absorb [] "b" ""] ∧
      fewer.length = 4 ∧ (new.afterAll uses).stdout = some "b" ∧
      new.afterAll (uses ++ [.cleanup]) = new.afterAll (fewer ++ [.cleanup]) ∧
      new.answers (uses ++ [.cleanup]) = new.answers (fewer ++ [.cleanup]) := by
  obtain ⟨hcleanups, _⟩ := cleanups_unobservable
  let p : Project :=
    { binary := "docker", directory := "web", name := none, envFiles := [], profiles := []
      version := .of 2 24 0, checkMode := false, environment := .empty }
  have hfewer : Fewer
      [.absorb [] "" "a", .cleanup, .recordFailure p [] ["up"] "" "" 0,
        .invoke p
          { args := ["up"], dryRun := false, outcome := .error (.spawn "docker" "no such file") },
        .cleanup, .absorb [] "b" ""]
      [.absorb [] "" "a", .recordFailure p [] ["up"] "" "" 0,
        .invoke p
          { args := ["up"], dryRun := false, outcome := .error (.spawn "docker" "no such file") },
        .absorb [] "b" ""] :=
    .keep _ (.drop (.keep _ (.keep _ (.drop (.keep _ .nil)))))
  exact ⟨p, _, _, hfewer, rfl, rfl, by decide, hcleanups new _ _ hfewer⟩

end ContainerOps.Project.Result
