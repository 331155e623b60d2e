import ContainerOps.Project.Operation
import ContainerOps.Proofs.Progress.LineByLine

/-!
# When a command failed

A command failed if its program ended with an exit code other than zero, or if some line of its
error output says so.  The result of the command, the test on its events and the report on them
give the same answer, and none of them depends on how the lines follow one another.

Main results:

- `conclude_runSubcommand`: a command whose program finished completes.
- `failed_complete`: a completed command failed exactly when the test on its events says so.
- `result_complete`: what a completed command does to a result.
- `failed_runSubcommand_iff_line`: failures, changes and actions are found line by line.
-/

namespace ContainerOps.Project

open ContainerOps.Command ContainerOps.Progress ContainerOps.Text

/-- The arguments of a request on a project. -/
@[simp]
theorem args_request (p : Project) (args : List String) :
    (p.request args).args = p.baseArgs ++ args := by
  simp [request, Request.of, Request.inDirectory, Request.withEnvironment, Request.withArgs]

/-- A command whose program finished completes. -/
theorem conclude_runSubcommand (p : Project) (result : Result) (args : List String)
    (dryRun : Bool) (output : Output) :
    (p.runSubcommand result args dryRun).conclude (.ok output) =
      .ok (p.complete result (p.baseArgs ++ args) dryRun output) := by
  rw [← args_request]
  rfl

/-- The report on the output of a command. -/
def report (p : Project) (args : List String) (dryRun : Bool) (output : Output) : Failure :=
  { reason := join "\n" (reasons (read output.stderrText dryRun).events output.code)
    command := render p.binary args
    stdout := output.stdoutText
    stderr := output.stderrText
    code := output.code }

/-- There is a report exactly on the output of a command that failed. -/
theorem failure?_eq_report (p : Project) (args : List String) (dryRun : Bool) (output : Output) :
    p.failure? (read output.stderrText dryRun).events args output.stdoutText output.stderrText
        output.code =
      if isFailed (read output.stderrText dryRun).events output.code then
        some (p.report args dryRun output)
      else none := by
  have hnil := reasons_eq_nil_iff (read output.stderrText dryRun).events output.code
  unfold failure? Progress.failure? report
  cases hreasons : reasons (read output.stderrText dryRun).events output.code with
  | nil => rw [if_neg (by simp [hnil.mp hreasons])]
  | cons first rest =>
    have hfailed : isFailed (read output.stderrText dryRun).events output.code = true := by
      rw [← Bool.not_eq_false, ← hnil, hreasons]
      exact List.cons_ne_nil first rest
    rw [if_pos hfailed]

/-- A completed command failed exactly when the test on its events says so. -/
theorem failed_complete (p : Project) (result : Result) (args : List String) (dryRun : Bool)
    (output : Output) :
    (p.complete result args dryRun output).failed =
      isFailed (read output.stderrText dryRun).events output.code := by
  unfold complete recordFailure
  dsimp only
  rw [failure?_eq_report]
  cases isFailed (read output.stderrText dryRun).events output.code <;> rfl

/-- A command adds its events and outputs to a result, and then its failure if it failed. -/
theorem result_complete (p : Project) (result : Result) (args : List String) (dryRun : Bool)
    (output : Output) :
    (p.complete result args dryRun output).result =
      let absorbed := result.absorb (read output.stderrText dryRun).events output.stdoutText
        output.stderrText
      if isFailed (read output.stderrText dryRun).events output.code then
        absorbed.fail (p.report args dryRun output)
      else absorbed := by
  unfold complete recordFailure
  dsimp only
  rw [failure?_eq_report]
  cases isFailed (read output.stderrText dryRun).events output.code <;> rfl

/-- Whether a command failed, whether it changed anything and what it did can be told from the
single lines of its error output: no line hides what another one says, and no order of the lines
makes them say more. -/
theorem failed_runSubcommand_iff_line (p : Project) (result : Result) (args : List String)
    (dryRun : Bool) (output : Output) :
    (∃ done, (p.runSubcommand result args dryRun).conclude (.ok output) = .ok done ∧
      (done.failed = true ↔ output.code ≠ 0 ∨
        ∃ raw ∈ lines output.stderrText, trimmed raw ≠ "" ∧
          failsAlone (unmarked dryRun (trimmed raw)) = true) ∧
      done.failed = isFailed (read output.stderrText dryRun).events output.code ∧
      ∀ args stdout stderr binary, done.failed =
        (Progress.failure? (read output.stderrText dryRun).events output.code args stdout stderr
          binary).isSome) ∧
    (∀ text, actions (read text dryRun).events =
        (entries dryRun (lines text)).filterMap actionAlone? ∧
      (hasChanges (read text dryRun).events = true ↔
        (entries dryRun (lines text)).filterMap actionAlone? ≠ [])) ∧
    ∀ a b, actions (read (a ++ "\n" ++ b) dryRun).events =
        actions (read a dryRun).events ++ actions (read b dryRun).events ∧
      ∀ code, isFailed (read (a ++ "\n" ++ b) dryRun).events code =
        (isFailed (read a dryRun).events code || isFailed (read b dryRun).events code) := by
  refine ⟨⟨_, conclude_runSubcommand p result args dryRun output, ?_, ?_, ?_⟩, ?_, ?_⟩
  · rw [failed_complete, isFailed_read, Bool.or_eq_true, bne_iff_ne, List.any_eq_true]
    refine or_congr_right ?_
    constructor
    · rintro ⟨line, hline, hfails⟩
      obtain ⟨raw, hraw, hblank, rfl⟩ := mem_entries_iff.mp hline
      exact ⟨raw, hraw, hblank, hfails⟩
    · rintro ⟨raw, hraw, hblank, hfails⟩
      exact ⟨_, mem_entries_iff.mpr ⟨raw, hraw, hblank, rfl⟩, hfails⟩
  · exact failed_complete p result _ dryRun output
  · intro args stdout stderr binary
    rw [failed_complete, failure?_isSome]
  · intro text
    rw [hasChanges_iff, actions_read]
    exact ⟨rfl, Iff.rfl⟩
  · intro a b
    exact ⟨actions_read_append a b dryRun, isFailed_read_append a b dryRun⟩

end ContainerOps.Project
