import ContainerOps.Shell.State

/-!
# Descriptors

A descriptor leads to a channel.  Channels are opened by paths; what is read from one is gone from
it, whoever has read it.
-/

namespace ContainerOps.Shell

open ContainerOps.World

/-! ## Openings -/

/-- A way to open a file allows to read it. -/
def Opening.reads : Opening → Bool
  | .input => true
  | .both => true
  | _ => false

/-- A way to open a file allows to write it. -/
def Opening.writes : Opening → Bool
  | .input => false
  | _ => true

/-- Why a channel is not opened. -/
inductive OpenFault where
  | notFound | notDirectory | isDirectory | alreadyThere | noDevice
deriving DecidableEq

/-- Why a channel is not opened, in words; for writing, what is missing is a directory. -/
def OpenFault.message (fault : OpenFault) (opening : Opening) : String :=
  match fault with
  | .isDirectory => "Is a directory"
  | .alreadyThere => "File exists"
  | .noDevice => "No such device or address"
  | _ => if opening = .input then "No such file" else "Directory nonexistent"

/-- The fault of a path that leads nowhere. -/
def OpenFault.ofPath : FileTree.PathFault → OpenFault
  | .notFound => .notFound
  | .notDirectory => .notDirectory

namespace State

/-! ## Channels -/

/-- The number of the channel that a descriptor leads to. -/
def channelNumber? (s : State) (descriptor : Nat) : Option Nat :=
  s.descriptors.lookup descriptor

/-- The channel that a descriptor leads to. -/
def channel? (s : State) (descriptor : Nat) : Option Channel :=
  (s.channelNumber? descriptor).bind fun n => s.world.channels[n]?

/-- The state in which a descriptor leads to a channel, or nowhere. -/
def lead (s : State) (descriptor : Nat) (channel : Option Nat) : State :=
  let others := s.descriptors.filter fun e => e.1 != descriptor
  { s with descriptors := ((channel.map fun n => (descriptor, n)).toList) ++ others }

/-- The state with one channel more, and its number. -/
def addChannel (s : State) (channel : Channel) : Nat × State :=
  (s.world.channels.size,
    { s with world := { s.world with channels := s.world.channels.push channel } })

/-- The state in which a channel leads elsewhere. -/
def turn (s : State) (n : Nat) (target : ChannelEnd) : State :=
  let channels := s.world.channels.modify n fun channel => { channel with target := target }
  { s with world := { s.world with channels := channels } }

/-- The state without the channels behind so many that no descriptor leads to. -/
def forgetChannels (s : State) (kept : Nat) : State :=
  let kept := s.descriptors.foldl (fun kept e => max kept (e.2 + 1)) kept
  { s with world := { s.world with channels := s.world.channels.take kept } }

/-- The state with other files. -/
def withTree (s : State) (tree : FileTree) : State :=
  { s with world := { s.world with tree := tree } }

/-! ## Opening -/

/-- Opens what stands at a location. -/
def openEntry (s : State) (opening : Opening) (location : Location) (entry : Entry) :
    Except OpenFault (Nat × State) :=
  let added := fun (s : State) (target : ChannelEnd) =>
    .ok (s.addChannel
      { target := target, readable := opening.reads, writable := opening.writes })
  match entry with
  | .directory => if opening = .input then added s .directory else .error .isDirectory
  | .device .null => added s .nothing
  | .device .full => added s .full
  | .device .terminal => .error .noDevice
  | .device (.descriptor n) =>
    match s.channelNumber? n with
    | some channel => .ok (channel, s)
    | none => .error .notFound
  | .file _ executable =>
    let emptied := s.withTree (s.world.tree.put location (.file [] executable))
    match opening with
    | .output =>
      if s.isOn .noclobber then .error .alreadyThere else added emptied (.file location 0 false)
    | .replacement => added emptied (.file location 0 false)
    | .append => added s (.file location 0 true)
    | _ => added s (.file location 0 false)

/-- Opens a new file. -/
def openNew (s : State) (opening : Opening) (path : String) : Except OpenFault (Nat × State) :=
  let bare := String.ofList (path.toList.reverse.dropWhile (· == '/')).reverse
  match s.world.tree.place s.directory bare with
  | .error fault => .error (.ofPath fault)
  | .ok location =>
    if path.endsWith "/" then .error .isDirectory
    else
      let added := s.withTree (s.world.tree.put location (.file [] false))
      .ok (added.addChannel
        { target := .file location 0 (opening = .append)
          readable := opening.reads
          writable := opening.writes })

/-- Opens the file that a path names. -/
def openPath (s : State) (opening : Opening) (path : Octets) : Except OpenFault (Nat × State) :=
  let path := pathText path
  match s.world.tree.resolve s.directory path, s.world.tree.lookup s.directory path with
  | .ok location, .ok entry => s.openEntry opening location entry
  | _, .error .notFound =>
    if opening = .input then .error .notFound else s.openNew opening path
  | _, .error fault => .error (.ofPath fault)
  | .error fault, _ => .error (.ofPath fault)

/-! ## Reading -/

/-- What is left to read through a descriptor, if it can be read. -/
def unread? (s : State) (descriptor : Nat) : Option (List UInt8) :=
  match s.channel? descriptor with
  | some { target := .text unread, readable := true, .. } => some (bytes unread)
  | some { target := .nothing, readable := true, .. } => some []
  | some { target := .full, readable := true, .. } => some []
  | some { target := .file location position _, readable := true, .. } =>
    match s.world.tree.entryAt location with
    | some (.file content _) => some (content.drop position)
    | _ => none
  | _ => none

/-- The state once so many octets more were read through a descriptor. -/
def advance (s : State) (descriptor count : Nat) : State :=
  match s.channelNumber? descriptor, s.channel? descriptor with
  | some n, some { target := .text unread, .. } => s.turn n (.text (unread.drop count))
  | some n, some { target := .file location position atEnd, .. } =>
    s.turn n (.file location (position + count) atEnd)
  | _, _ => s

/-! ## Writing -/

/-- The content of a file with something written at a position; a gap before it is filled with null
octets. -/
def overwritten (content : List UInt8) (position : Nat) (added : List UInt8) : List UInt8 :=
  content.take position ++ List.replicate (position - content.length) 0 ++ added ++
    content.drop (position + added.length)

/-- Writes to a channel, if that is possible. -/
def writeTo (s : State) (n : Nat) (channel : Channel) (text : Octets) : Option State :=
  if !channel.writable then none
  else
    match channel.target with
    | .collected parts => some (s.turn n (.collected (text :: parts)))
    | .nothing => some s
    | .file location position atEnd =>
      match s.world.tree.entryAt location with
      | some (.file content executable) =>
        let position := if atEnd then content.length else position
        let content := overwritten content position (bytes text)
        some ((s.withTree (s.world.tree.put location (.file content executable))).turn n
          (.file location (position + text.length) atEnd))
      | _ => none
    | _ => none

/-- Writes through a descriptor, if that is possible. -/
def write (s : State) (descriptor : Nat) (text : Octets) : Option State :=
  if text.isEmpty then some s
  else
    match s.channelNumber? descriptor, s.channel? descriptor with
    | some n, some channel => s.writeTo n channel text
    | _, _ => none

/-- What was collected in a channel. -/
def collected (s : State) (n : Nat) : Octets :=
  match s.world.channels[n]? with
  | some { target := .collected parts, .. } => parts.reverse.flatten
  | _ => []

end State

end ContainerOps.Shell
