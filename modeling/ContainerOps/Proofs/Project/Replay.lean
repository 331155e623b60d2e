import ContainerOps.Proofs.Command.Splitting
import ContainerOps.Proofs.Project.Failure

/-!
# Shown commands replay

A failure, and an error about an exit code, show the command that was run.  Whoever has such a line
knows the program and every single argument, because a shell reads them back from it.

Main results:

- `splitWords_command_of_failure`: the report on a failed run shows its command.
- `listed_nonZeroExit`: so does an error about an exit code.
- `shown_commands_replay`: every command that is shown reads back as what was run.
-/

namespace ContainerOps.Project

open ContainerOps.Command ContainerOps.Progress ContainerOps.Decoding
open ContainerOps.Json (Outline)

/-! ## Failures -/

/-- The report on a failed run shows its command. -/
theorem splitWords_command_of_failure {events : List Event} {code : Int} {args : List String}
    {stdout stderr binary : String} {failure : Failure}
    (hfailure : Progress.failure? events code args stdout stderr binary = some failure) :
    splitWords failure.command = some (binary :: args) := by
  unfold Progress.failure? at hfailure
  split at hfailure
  · cases hfailure
  · cases hfailure
    exact splitWords_render binary args

/-- A result with the failure of a command shows that command. -/
theorem replays_command_of_failed (p : Project) (result : Result) (args : List String)
    (dryRun : Bool) {outcome : Outcome} {done : Completed}
    (hdone : (p.runSubcommand result args dryRun).conclude outcome = .ok done)
    (hfailed : done.failed = true) :
    ∃ line, done.result.command = some line ∧
      Replays line (p.runSubcommand result args dryRun).request := by
  cases outcome with
  | error e => cases hdone
  | ok output =>
    rw [conclude_runSubcommand] at hdone
    cases hdone
    rw [failed_complete] at hfailed
    refine ⟨render p.binary (p.baseArgs ++ args), ?_, ?_⟩
    · rw [result_complete]
      dsimp only
      rw [if_pos hfailed]
      rfl
    · exact replays_display (p.request args)

/-! ## Exit codes -/

/-- A conclusion does not complain about an exit code. -/
def IgnoresExit {α : Type} (conclusion : Except Error α) : Prop :=
  ∀ command code stderr, conclusion ≠ .error (.nonZeroExit command code stderr)

/-- Whenever an operation complains about an exit code, it shows its command, unless it just hands
on a complaint that took the place of the output. -/
def ShowsCommand {α : Type} (op : Operation α) : Prop :=
  ∀ outcome command code stderr,
    op.conclude outcome = .error (.nonZeroExit command code stderr) →
      Replays command op.request ∨ outcome = .error (.nonZeroExit command code stderr)

/-- An error behind a map was there before. -/
theorem eq_error_of_map {α β : Type} {conclusion : Except Error α} {f : α → β} {e : Error}
    (herror : conclusion.map f = .error e) : conclusion = .error e := by
  cases conclusion with
  | error e' =>
    cases herror
    rfl
  | ok value => cases herror

theorem ignoresExit_mapError {α φ : Type} {wrap : φ → Error}
    (hwrap : ∀ fault command code stderr, wrap fault ≠ .nonZeroExit command code stderr)
    (conclusion : Except φ α) : IgnoresExit (conclusion.mapError wrap) := by
  intro command code stderr herror
  cases conclusion with
  | error fault => exact hwrap fault command code stderr (Except.error.inj herror)
  | ok value => cases herror

/-- What is read of a document does not depend on an exit code. -/
theorem ignoresExit_parseDocument {α : Type} (subject : Subject)
    (read : Outline → Except Fault α) (stdout : String) :
    IgnoresExit (parseDocument subject read stdout) :=
  ignoresExit_mapError (fun _ _ _ _ h => Error.noConfusion h) _

/-- Nor does what is read of a stream. -/
theorem ignoresExit_parseLines {α : Type} (subject : Subject) (read : Outline → Except Fault α)
    (lines : List String) : IgnoresExit (parseLines subject read lines) := by
  induction lines with
  | nil => exact fun _ _ _ => nofun
  | cons line rest ih =>
    intro command code stderr herror
    rw [parseLines] at herror
    split at herror
    case h_1 e hline =>
      cases herror
      exact ignoresExit_parseDocument subject read line command code stderr hline
    case h_2 value hline => exact ih command code stderr (eq_error_of_map herror)

/-- What is read of a listing of containers does not depend on an exit code. -/
theorem ignoresExit_readContainers (p : Project) (stdout : String) :
    IgnoresExit (p.readContainers stdout) := by
  unfold readContainers
  split
  · exact ignoresExit_parseLines _ _ _
  · exact ignoresExit_parseDocument _ _ _

/-! ## Operations -/

/-- A program that has to succeed and does not is shown. -/
theorem succeeded_nonZeroExit {request : Request} {outcome : Outcome} {command stderr : String}
    {code : Int} (herror : succeeded request outcome = .error (.nonZeroExit command code stderr)) :
    command = request.display ∨ outcome = .error (.nonZeroExit command code stderr) := by
  unfold succeeded at herror
  cases outcome with
  | error e =>
    cases herror
    exact .inr rfl
  | ok output =>
    dsimp only at herror
    split at herror
    · cases herror
    · cases herror
      exact .inl rfl

/-- So is a program that has to print text as well. -/
theorem listed_nonZeroExit {request : Request} {outcome : Outcome} {command stderr : String}
    {code : Int} (herror : listed request outcome = .error (.nonZeroExit command code stderr)) :
    command = request.display ∨ outcome = .error (.nonZeroExit command code stderr) := by
  unfold listed at herror
  split at herror
  case h_1 e hsucceeded =>
    cases herror
    exact succeeded_nonZeroExit hsucceeded
  case h_2 output hsucceeded =>
    have hignores : IgnoresExit ((Text.Utf8.text output.stdout).mapError .invalidUtf8) :=
      ignoresExit_mapError (fun _ _ _ _ h => Error.noConfusion h) _
    exact absurd herror (hignores command code stderr)

/-- An operation that reads what its program printed shows its command. -/
theorem showsCommand_of_listed {α : Type} (request : Request) {read : String → Except Error α}
    (hread : ∀ stdout, IgnoresExit (read stdout)) :
    ShowsCommand
      { request := request
        conclude := fun outcome =>
          match listed request outcome with
          | .error e => .error e
          | .ok stdout => read stdout } := by
  intro outcome command code stderr herror
  dsimp only at herror
  cases hlisted : listed request outcome with
  | error e =>
    rw [hlisted] at herror
    cases herror
    refine (listed_nonZeroExit hlisted).imp_left ?_
    rintro rfl
    exact replays_display request
  | ok stdout =>
    rw [hlisted] at herror
    exact absurd herror (hread stdout command code stderr)

theorem showsCommand_listContainersRaw (p : Project) : ShowsCommand p.listContainersRaw :=
  showsCommand_of_listed _ p.ignoresExit_readContainers

/-- Taking the members of the containers apart hides no complaint and adds none. -/
theorem showsCommand_listContainers (p : Project) : ShowsCommand p.listContainers := by
  intro outcome command code stderr herror
  exact p.showsCommand_listContainersRaw outcome command code stderr (eq_error_of_map herror)

theorem showsCommand_listImages (p : Project) : ShowsCommand p.listImages :=
  showsCommand_of_listed _ fun _ => ignoresExit_parseDocument _ _ _

/-- A command on a project and the question for a version never complain about an exit code
themselves. -/
theorem showsCommand_runSubcommand (p : Project) (result : Result) (args : List String)
    (dryRun : Bool) : ShowsCommand (p.runSubcommand result args dryRun) := by
  intro outcome command code stderr herror
  cases outcome <;> cases herror
  exact .inr rfl

theorem showsCommand_detectVersion (binary : String) : ShowsCommand (detectVersion binary) := by
  intro outcome command code stderr herror
  cases outcome <;> cases herror
  exact .inr rfl

/-- Every command that is shown reads back as the program and the arguments that were run, in a
failure, in an error about an exit code and as a request, and no two commands are shown alike. -/
theorem shown_commands_replay :
    (∀ command args, splitWords (render command args) = some (command :: args)) ∧
    (∀ command args command' args', render command args = render command' args' →
      command = command' ∧ args = args') ∧
    (∀ r : Request, splitWords r.display = some (r.binary :: r.args)) ∧
    (∀ events code args stdout stderr binary failure,
      Progress.failure? events code args stdout stderr binary = some failure →
        splitWords failure.command = some (binary :: args)) ∧
    (∀ (p : Project) result args dryRun outcome done,
      (p.runSubcommand result args dryRun).conclude outcome = .ok done → done.failed = true →
        ∃ line, done.result.command = some line ∧
          Replays line (p.runSubcommand result args dryRun).request) ∧
    (∀ p : Project, ShowsCommand p.listContainersRaw ∧ ShowsCommand p.listContainers ∧
      ShowsCommand p.listImages ∧
      ∀ result args dryRun, ShowsCommand (p.runSubcommand result args dryRun)) ∧
    ∀ binary, ShowsCommand (detectVersion binary) := by
  refine ⟨splitWords_render, ?_, replays_display, ?_, ?_, ?_, showsCommand_detectVersion⟩
  · intro command args command' args' hshown
    exact render_inj.mp hshown
  · intro events code args stdout stderr binary failure hfailure
    exact splitWords_command_of_failure hfailure
  · intro p result args dryRun outcome done hdone hfailed
    exact p.replays_command_of_failed result args dryRun hdone hfailed
  · intro p
    exact ⟨p.showsCommand_listContainersRaw, p.showsCommand_listContainers,
      p.showsCommand_listImages, p.showsCommand_runSubcommand⟩

/-- A program with a blank in its name fails in a directory with a quote in its name, on a command
with an empty argument and one that could be a comment, and when it is to list images. -/
theorem shown_commands_replay_of_awkward_names :
    let p : Project :=
      { binary := "/opt/my docker", directory := "it's", name := none, envFiles := [],
        profiles := [], version := .of 2 18 0, checkMode := false, environment := .empty }
    let output : Output := { code := 1, stdout := [], stderr := [] }
    let base := ["/opt/my docker", "compose", "--ansi", "never", "--project-directory", "it's"]
    (∃ done, (p.runSubcommand .new ["up", "", "#1"] false).conclude (.ok output) = .ok done ∧
      done.failed = true ∧
        ∃ line, done.result.command = some line ∧
          splitWords line = some (base ++ ["up", "", "#1"])) ∧
    ∃ command, p.listImages.conclude (.ok output) = .error (.nonZeroExit command 1 "") ∧
      splitWords command = some (base ++ ["images", "--format", "json"]) := by
  intro p output base
  obtain ⟨-, -, -, -, hrun, hoperations, -⟩ := shown_commands_replay
  have hfailed : (p.complete .new (p.baseArgs ++ ["up", "", "#1"]) false output).failed = true :=
    p.failed_complete .new _ false output
  have himages : p.listImages.conclude (.ok output) =
      .error (.nonZeroExit p.listImages.request.display 1 "") := by
    have hsilent : output.stderrText = "" := by decide +kernel
    rw [← hsilent]
    rfl
  refine ⟨⟨_, p.conclude_runSubcommand _ _ _ _, hfailed, ?_⟩, _, himages, ?_⟩
  · exact hrun p .new ["up", "", "#1"] false (.ok output) _ (p.conclude_runSubcommand _ _ _ _)
      hfailed
  · exact ((hoperations p).2.2.1 (.ok output) _ 1 "" himages).resolve_right nofun

end ContainerOps.Project
