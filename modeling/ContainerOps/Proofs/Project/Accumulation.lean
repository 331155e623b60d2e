import ContainerOps.Proofs.Command.Combination
import ContainerOps.Proofs.Project.Failure

/-!
# Results of many commands

A result takes part in one command after another: each adds what it did, and a command that failed
puts its own outputs in the place of those gathered so far.  What is left at the end has a closed
form in the commands whose programs finished; the others leave no trace.

Main results:

- `sinceFailure_concat` and `lastFailure?_concat`: what one more run does to the closed form.
- `result_complete_account`: one command takes the closed form to that of one more run.
- `result_invokeAll_account`: so do many.
- `invokeAll_new_eq_account`: a result that starts empty always has the closed form.
-/

namespace ContainerOps.Project

open ContainerOps.Command ContainerOps.Progress ContainerOps.Text

/-! ## Finished runs -/

/-- A command whose program finished. -/
structure Run where
  /-- The arguments of the command. -/
  args : List String
  /-- The arguments ask for a dry run. -/
  dryRun : Bool
  /-- What the program printed, and its exit code. -/
  output : Output

/-- The run of a command whose program finished. -/
def Invocation.run? (call : Invocation) : Option Run :=
  match call.outcome with
  | .ok output => some { args := call.args, dryRun := call.dryRun, output := output }
  | .error _ => none

/-- What a command answers: whether it failed, or the error there was instead of its output. -/
def Invocation.answer (call : Invocation) : Except Error Bool :=
  call.outcome.map fun output =>
    isFailed (read output.stderrText call.dryRun).events output.code

namespace Run

/-- The events of a run. -/
def events (run : Run) : List Event :=
  (read run.output.stderrText run.dryRun).events

/-- The run failed. -/
def failed (run : Run) : Bool :=
  isFailed run.events run.output.code

end Run

/-- The runs from the last one on that failed; all runs if none failed. -/
def sinceFailure : List Run → List Run
  | [] => []
  | run :: rest => if rest.any Run.failed then sinceFailure rest else run :: rest

/-- The last run that failed. -/
def lastFailure? (runs : List Run) : Option Run :=
  (runs.filter Run.failed).getLast?

/-- What is kept of the outputs of some runs: those since the last failure that are not empty, one
below the other. -/
def outputOf? (text : Output → String) (runs : List Run) : Option String :=
  if runs.isEmpty then none
  else
    some (join "\n" (((sinceFailure runs).map fun run => text run.output).filter fun part =>
      !part.isEmpty))

/-- What some runs leave of a result that was empty before them. -/
def account (p : Project) (runs : List Run) : Result :=
  { changed := runs.any fun run => hasChanges run.events
    actions := runs.flatMap fun run => actions run.events
    stdout := outputOf? Output.stdoutText runs
    stderr := outputOf? Output.stderrText runs
    failed := runs.any Run.failed
    reason := (lastFailure? runs).map fun run => join "\n" (reasons run.events run.output.code)
    command := (lastFailure? runs).map fun run => render p.binary (p.baseArgs ++ run.args)
    code := (lastFailure? runs).map fun run => run.output.code }

/-! ## One more run -/

/-- A run that failed starts the outputs anew; any other is added to them. -/
theorem sinceFailure_concat (runs : List Run) (run : Run) :
    sinceFailure (runs ++ [run]) = if run.failed then [run] else sinceFailure runs ++ [run] := by
  induction runs with
  | nil => simp [sinceFailure]
  | cons first rest ih =>
    cases hfailed : run.failed with
    | true => simp [sinceFailure, ih, hfailed]
    | false =>
      rw [hfailed, if_neg Bool.false_ne_true] at ih
      rw [List.cons_append, sinceFailure, sinceFailure, ih]
      cases hrest : rest.any Run.failed <;> simp [hrest, hfailed]

/-- A run that failed is the last that failed; any other leaves the last one before it. -/
theorem lastFailure?_concat (runs : List Run) (run : Run) :
    lastFailure? (runs ++ [run]) = if run.failed then some run else lastFailure? runs := by
  unfold lastFailure?
  cases hfailed : run.failed <;> simp [List.filter_append, hfailed]

/-- The outputs with one more run that failed are those of that run. -/
theorem outputOf?_concat_of_failed (text : Output → String) (runs : List Run) {run : Run}
    (hfailed : run.failed = true) :
    outputOf? text (runs ++ [run]) = some (text run.output) := by
  have hsingle := combineText_singleton (text run.output)
  rw [← List.map_singleton (f := some), combineText_map_some] at hsingle
  unfold outputOf?
  rw [sinceFailure_concat, if_pos hfailed]
  simp [hsingle]

/-- The outputs with one more run that did not fail are combined with those of that run. -/
theorem outputOf?_concat_of_not_failed (text : Output → String) (runs : List Run) {run : Run}
    (hfailed : run.failed = false) :
    outputOf? text (runs ++ [run]) =
      some (combineText [outputOf? text runs, some (text run.output)]) := by
  have hsince : sinceFailure (runs ++ [run]) = sinceFailure runs ++ [run] := by
    rw [sinceFailure_concat, hfailed, if_neg Bool.false_ne_true]
  unfold outputOf?
  rw [hsince, if_neg (by simp), ← combineText_map_some, List.map_append, List.map_append]
  by_cases hruns : runs = []
  · subst hruns
    rfl
  · rw [if_neg (by simpa using hruns), ← combineText_map_some, ← combineText_pair]
    rw [List.map_singleton, List.map_singleton, combineText_singleton]

/-- One command takes the closed form to that of one more run. -/
theorem result_complete_account (p : Project) (runs : List Run) (run : Run) :
    (p.complete (p.account runs) (p.baseArgs ++ run.args) run.dryRun run.output).result =
      p.account (runs ++ [run]) := by
  rw [result_complete]
  change (if run.failed then _ else _) = _
  unfold account
  rw [lastFailure?_concat]
  cases hfailed : run.failed with
  | true =>
    rw [outputOf?_concat_of_failed _ runs hfailed, outputOf?_concat_of_failed _ runs hfailed]
    simp [Result.fail, Result.absorb, report, Run.events, hfailed]
  | false =>
    rw [outputOf?_concat_of_not_failed _ runs hfailed,
      outputOf?_concat_of_not_failed _ runs hfailed]
    simp [Result.absorb, Run.events, hfailed]

/-! ## Many commands -/

/-- A command whose program finished completes. -/
theorem invoke_of_ok (p : Project) (result : Result) {call : Invocation} {output : Output}
    (hfinished : call.outcome = .ok output) :
    p.invoke result call =
      { result := (p.complete result (p.baseArgs ++ call.args) call.dryRun output).result
        answer := .ok (isFailed (read output.stderrText call.dryRun).events output.code)
        notices := (p.complete result (p.baseArgs ++ call.args) call.dryRun output).notices } := by
  unfold invoke
  rw [hfinished, conclude_runSubcommand]
  dsimp only
  rw [failed_complete]

/-- Many commands take the closed form to that of all their runs. -/
theorem result_invokeAll_account (p : Project) (runs : List Run) (calls : List Invocation) :
    (p.invokeAll (p.account runs) calls).1 =
      p.account (runs ++ calls.filterMap Invocation.run?) := by
  induction calls generalizing runs with
  | nil => simp [invokeAll]
  | cons call rest ih =>
    cases houtcome : call.outcome with
    | error e =>
      have hrun : call.run? = none := by rw [Invocation.run?, houtcome]
      rw [List.filterMap_cons_none hrun, invokeAll, invoke_of_error p _ houtcome]
      exact ih runs
    | ok output =>
      let run : Run := { args := call.args, dryRun := call.dryRun, output := output }
      have hrun : call.run? = some run := by rw [Invocation.run?, houtcome]
      have hresult := result_complete_account p runs run
      rw [List.filterMap_cons_some hrun, invokeAll, invoke_of_ok p _ houtcome,
        List.append_cons, ← ih (runs ++ [run]), ← hresult]

/-- A command answers the same whatever result it is added to. -/
theorem answer_invoke (p : Project) (result : Result) (call : Invocation) :
    (p.invoke result call).answer = call.answer := by
  unfold Invocation.answer
  cases houtcome : call.outcome with
  | ok output =>
    rw [invoke_of_ok p result houtcome]
    rfl
  | error e =>
    rw [invoke_of_error p result houtcome]
    rfl

/-- The answers to many commands are those to each. -/
theorem map_answer_invokeAll (p : Project) (result : Result) (calls : List Invocation) :
    (p.invokeAll result calls).2.map Reply.answer = calls.map (Invocation.answer) := by
  induction calls generalizing result with
  | nil => rfl
  | cons call rest ih => rw [invokeAll, List.map_cons, List.map_cons, answer_invoke, ih]

/-- A command answers that it failed exactly if its program finished and its run failed. -/
theorem answer_eq_ok_true_iff (call : Invocation) :
    call.answer = .ok true ↔ ∃ run, call.run? = some run ∧ run.failed = true := by
  unfold Invocation.answer Invocation.run?
  cases call.outcome with
  | ok output => simp [Except.map, Run.failed, Run.events]
  | error e => simp [Except.map]

/-- Some command answers that it failed exactly if some run failed. -/
theorem exists_answer_iff (p : Project) (result : Result) (calls : List Invocation) :
    (∃ reply ∈ (p.invokeAll result calls).2, reply.answer = .ok true) ↔
      (calls.filterMap Invocation.run?).any Run.failed = true := by
  rw [← List.mem_map, map_answer_invokeAll, List.mem_map, List.any_eq_true]
  constructor
  · rintro ⟨call, hcall, hanswer⟩
    obtain ⟨run, hrun, hfailed⟩ := (answer_eq_ok_true_iff call).mp hanswer
    exact ⟨run, List.mem_filterMap.mpr ⟨call, hcall, hrun⟩, hfailed⟩
  · rintro ⟨run, hmem, hfailed⟩
    obtain ⟨call, hcall, hrun⟩ := List.mem_filterMap.mp hmem
    exact ⟨call, hcall, (answer_eq_ok_true_iff call).mpr ⟨run, hrun, hfailed⟩⟩

/-- Commands on a result that starts empty leave what their finished runs amount to.  An error in
place of an output is that of its command only: it is handed on as it is, the result stays as it is
and nothing is told. -/
theorem invokeAll_new_eq_account (p : Project) (calls : List Invocation) :
    (∀ result call e,
      ((p.invoke result call).answer = .error e ↔ call.outcome = .error e) ∧
      (call.outcome = .error e →
        (p.invoke result call).result = result ∧ (p.invoke result call).notices = [])) ∧
    ((p.invokeAll .new calls).1.failed = true ↔
      ∃ reply ∈ (p.invokeAll .new calls).2, reply.answer = .ok true) ∧
    (p.invokeAll .new calls).2.map Reply.answer = calls.map (Invocation.answer) ∧
    (p.invokeAll .new calls).1 = p.account (calls.filterMap Invocation.run?) := by
  have haccount : (p.invokeAll .new calls).1 = p.account (calls.filterMap Invocation.run?) :=
    result_invokeAll_account p [] calls
  refine ⟨fun result call e => ⟨?_, ?_⟩, ?_, map_answer_invokeAll p .new calls, haccount⟩
  · rw [answer_invoke, Invocation.answer]
    cases call.outcome <;> simp [Except.map]
  · intro herror
    rw [invoke_of_error p result herror]
    exact ⟨rfl, rfl⟩
  · rw [exists_answer_iff, haccount]
    rfl

end ContainerOps.Project
