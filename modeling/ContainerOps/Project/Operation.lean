import ContainerOps.Command.Request
import ContainerOps.Project.Listing
import ContainerOps.Project.Result
import ContainerOps.Project.Settings

/-!
# Operations on a project

Every operation runs one program.  It is a request together with what is concluded from the
outcome, so that nothing here depends on how programs are run.  Whoever runs them may answer with an
error of any kind, which every operation hands on as it is.

Main results:

- `invoke_of_error`: a command without output leaves the result as it is and tells the user nothing.
-/

namespace ContainerOps.Project

open ContainerOps.Command ContainerOps.Progress

/-! ## Operations -/

/-- What is made of a request: the output of a program that ended, or any error. -/
abbrev Outcome := Except Error Output

/-- A request and what is concluded from its outcome. -/
structure Operation (α : Type) where
  /-- The program to run. -/
  request : Request
  /-- What follows from the outcome. -/
  conclude : Outcome → Except Error α

/-- The output of a program that succeeded. -/
def succeeded (request : Request) (outcome : Outcome) : Except Error Output :=
  match outcome with
  | .error e => .error e
  | .ok output =>
    if output.success then .ok output
    else .error (.nonZeroExit request.display output.code output.stderrText)

/-- The output of a program that succeeded, which has to be text. -/
def listed (request : Request) (outcome : Outcome) : Except Error String :=
  match succeeded request outcome with
  | .error e => .error e
  | .ok output => (Text.Utf8.text output.stdout).mapError .invalidUtf8

/-- Asks a program for the version of its compose plugin; none if it has no usable plugin. -/
def detectVersion (binary : String) : Operation (Option String) :=
  let request := (Request.of binary).withArgs ["compose", "version", "--short"]
  { request := request
    conclude := fun outcome =>
      match outcome with
      | .error e => .error e
      | .ok output =>
        let version := Text.trimmed output.stdoutText
        .ok (if output.success && !version.isEmpty then some version else none) }

/-! ## Arguments -/

/-- An option with its value. -/
def option (name value : String) : List String :=
  [name, value]

/-- The arguments of every command on a project. -/
def baseArgs (p : Project) : List String :=
  ["compose", "--ansi", "never"]
    ++ (if p.version.atLeast 2 19 0 then option "--progress" "plain" else [])
    ++ option "--project-directory" p.directory
    ++ (match p.name with
      | some name => option "--project-name" name
      | none => [])
    ++ p.envFiles.flatMap (option "--env-file")
    ++ p.profiles.flatMap (option "--profile")

/-- The request to run a command on a project. -/
def request (p : Project) (args : List String) : Request :=
  (((Request.of p.binary).withArgs (p.baseArgs ++ args)).inDirectory p.directory).withEnvironment
    p.environment

/-! ## Listings -/

/-- Containers as compose lists them.  Since version 2.21.0 it prints one per line instead of an
array. -/
def readContainers (p : Project) (stdout : String) : Except Error (List RawContainer) :=
  if p.version.atLeast 2 21 0 then parseStream .containers RawContainer.read stdout
  else parseDocument .containers (readArray RawContainer.read) stdout

/-- Lists the containers as they are listed. -/
def listContainersRaw (p : Project) : Operation (List RawContainer) :=
  let request := p.request (["ps", "--format", "json", "--all"]
    ++ if p.version.atLeast 2 23 0 then ["--no-trunc"] else [])
  { request := request
    conclude := fun outcome =>
      match listed request outcome with
      | .error e => .error e
      | .ok stdout => p.readContainers stdout }

/-- Lists the containers. -/
def listContainers (p : Project) : Operation (List Container) :=
  { request := p.listContainersRaw.request
    conclude := fun outcome =>
      (p.listContainersRaw.conclude outcome).map (·.map Container.ofRaw) }

/-- Lists the images. -/
def listImages (p : Project) : Operation (List Json) :=
  let request := p.request ["images", "--format", "json"]
  { request := request
    conclude := fun outcome =>
      match listed request outcome with
      | .error e => .error e
      | .ok stdout => parseDocument .images (readArray Json.Outline.complete) stdout }

/-! ## Commands -/

/-- The failure of a run on a project, if it failed. -/
def failure? (p : Project) (events : List Event) (args : List String) (stdout stderr : String)
    (code : Int) : Option Failure :=
  Progress.failure? events code args stdout stderr p.binary

/-- The result with the failure of a run, and whether the run failed. -/
def recordFailure (p : Project) (result : Result) (events : List Event) (args : List String)
    (stdout stderr : String) (code : Int) : Result × Bool :=
  match p.failure? events args stdout stderr code with
  | some failure => (result.fail failure, true)
  | none => (result, false)

/-- What a finished command leaves. -/
structure Completed where
  /-- The result with the command. -/
  result : Result
  /-- The command failed. -/
  failed : Bool
  /-- What to tell the user. -/
  notices : List Notice

/-- What follows from the output of a command. -/
def complete (p : Project) (result : Result) (args : List String) (dryRun : Bool)
    (output : Output) : Completed :=
  let stdout := output.stdoutText
  let stderr := output.stderrText
  let reading := Progress.read stderr dryRun
  let recorded := p.recordFailure (result.absorb reading.events stdout stderr) reading.events args
    stdout stderr output.code
  { result := recorded.1
    failed := recorded.2
    notices := reading.notices ++ remarks reading.events }

/-- Runs a command on a project and adds it to a result.  `dryRun` tells whether the arguments ask
for a dry run. -/
def runSubcommand (p : Project) (result : Result) (args : List String) (dryRun : Bool) :
    Operation Completed :=
  let request := p.request args
  { request := request
    conclude := fun outcome =>
      match outcome with
      | .error e => .error e
      | .ok output => .ok (p.complete result request.args dryRun output) }

/-! ## Commands on a result -/

/-- A command on a project, with the outcome of its request. -/
structure Invocation where
  /-- The arguments of the command. -/
  args : List String
  /-- The arguments ask for a dry run. -/
  dryRun : Bool
  /-- What came of the request. -/
  outcome : Outcome

/-- What a command leaves to its caller. -/
structure Reply where
  /-- The result with the command. -/
  result : Result
  /-- Whether the command failed, or the error there was instead of its output. -/
  answer : Except Error Bool
  /-- What the user is told. -/
  notices : List Notice

/-- Runs a command on a result.  Without a conclusion there is nothing to change or to tell. -/
def invoke (p : Project) (result : Result) (call : Invocation) : Reply :=
  match (p.runSubcommand result call.args call.dryRun).conclude call.outcome with
  | .ok done => { result := done.result, answer := .ok done.failed, notices := done.notices }
  | .error e => { result := result, answer := .error e, notices := [] }

/-- Runs commands on one result, and collects what they answer. -/
def invokeAll (p : Project) (result : Result) : List Invocation → Result × List Reply
  | [] => (result, [])
  | call :: rest =>
    let first := p.invoke result call
    let more := p.invokeAll first.result rest
    (more.1, first :: more.2)

/-- A command without output leaves the result as it is and tells the user nothing. -/
theorem invoke_of_error (p : Project) (result : Result) {call : Invocation} {e : Error}
    (herror : call.outcome = .error e) :
    p.invoke result call = { result := result, answer := .error e, notices := [] } := by
  unfold invoke
  rw [herror]
  rfl

end ContainerOps.Project
