import ContainerOps.Shell.Run
import ContainerOps.Table

/-!
# The shell as a program

Called as a program, the shell is given a name, arguments, an environment, and a directory among
some files.  Its input is empty, and what it writes is collected.  It is the one program that there
is on a host, with which requests can be run.

Main results:

- `status_program_lt`: the outcome that a shell shows is less than 256.
-/

namespace ContainerOps.Shell

open ContainerOps.World

/-- The bound on the depth of calls. -/
def maxDepth : Nat := 1000000000

/-- The variables of an environment: in each of its entries, all up to the first equals sign is the
name. -/
def variablesOf (environment : Table String) : List (Octets × Octets) :=
  environment.entries.map fun e =>
    let split := Action.splitAssignment
      (State.nameOctets e.1 ++ '=' :: State.nameOctets e.2)
    (split.1, split.2.getD [])

/-- What the shell takes over when it is called. -/
def originOf (name : String) (environment : Table String) (tree : FileTree)
    (directory : Location) : Origin :=
  { name := State.nameOctets name
    environment := variablesOf environment
    directory := directory
    mask := 0o22
    descriptors := [(0, 0), (1, 1), (2, 2)]
    ignored := []
    process := 1000
    parent := 999
    world :=
      { tree := tree
        channels := #[giving [], collecting, collecting]
        sent := []
        processes := 1000 } }

/-- How a shell has ended. -/
structure Ending where
  /-- The signal that has killed it. -/
  signal : Option Nat
  /-- Its outcome. -/
  status : Nat
  /-- What it has written. -/
  output : Octets
  /-- What it has written as error text. -/
  errors : Octets
  /-- The files. -/
  tree : FileTree

/-- How a shell has ended, by the signal that has killed it and the state that it left. -/
def Ending.of (signal : Option Nat) (s : State) : Ending :=
  { signal := signal
    status := s.status % 256
    output := s.collected 1
    errors := s.collected 2
    tree := s.world.tree }

/-- Runs the shell with arguments to its end. -/
def toEnd (args : List Octets) : Action (Option Nat) := do
  leave maxDepth (← Action.outcomeOf (runProgram maxDepth args))

/-- Runs the shell under a name with arguments and an environment in a directory. -/
def program (name : String) (args : List String) (environment : Table String) (tree : FileTree)
    (directory : Location) : Ending :=
  let start := State.start (originOf name environment tree directory)
  match toEnd (args.map State.nameOctets) start with
  | (.ok signal, s) => .of signal s
  | (.error _, s) => .of none s

/-- The outcome that a shell shows is less than 256. -/
theorem status_program_lt (name : String) (args : List String) (environment : Table String)
    (tree : FileTree) (directory : Location) :
    (program name args environment tree directory).status < 256 := by
  have hof : ∀ signal s, (Ending.of signal s).status < 256 := fun _ _ => Nat.mod_lt _ (by decide)
  unfold program
  dsimp only
  split
  · exact hof _ _
  · exact hof _ _

end ContainerOps.Shell
