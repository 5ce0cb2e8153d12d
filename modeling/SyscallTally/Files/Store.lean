import SyscallTally.Files.Path
import SyscallTally.Kernel.Blueprint

/-!
Contract: a tree of files and directories, and the operations of the operating system on it.

Owns:
- `Store`, the tree as a list of places with what is there, and with the guards on them;
- the walk along a path and its refusals;
- reading, writing, creating directories, removing.

Does not own: links and times, which no operation here shows, and permissions to read or search.

A place is the list of names from the root. The working directory and the directories above it
always exist.

## What may not be changed

The operating system may refuse a change for want of permission or because the file system can only
be read. That is a guard on a place. A file with a guard can be read and cannot be written. In a
directory with a guard nothing can be created and nothing removed. Where there is nothing, a guard
keeps it so. So whatever has been created here has no guard; a file that is removed takes its guard
with it.
-/

set_option autoImplicit false

namespace SyscallTally.Files

/-- What a file holds: octets, or a compiled probe object that is given by its blueprint. An object
is not text. -/
inductive Contents where
  | octets (octets : List UInt8)
  | object (blueprint : Kernel.Blueprint)
deriving DecidableEq, Repr

/-- What is at a place. -/
inductive Node where
  | directory
  | file (contents : Contents)
deriving DecidableEq, Repr

/-- The names from the root to a place. -/
abbrev Place := List Name

/-- Why nothing may be changed at a place. -/
inductive Guard where
  /-- The user may not change it. -/
  | denied
  /-- It is on a file system that can only be read. -/
  | readOnly
deriving DecidableEq, Repr

/-- How a change is refused. -/
def Guard.fault : Guard → Fault
  | .denied => .denied
  | .readOnly => .readOnly

/-- A tree of files. Of two entries for one place the first counts. -/
structure Store where
  workingDirectory : Place
  nodes : List (Place × Node) := []
  guards : List (Place × Guard) := []
deriving DecidableEq, Repr

namespace Store

/-- What is at a place, if anything. -/
def node? (store : Store) (place : Place) : Option Node :=
  if place.isPrefixOf store.workingDirectory then some .directory
  else store.nodes.lookup place

/-- Whether there is a directory at a place. -/
def isDirectory (store : Store) (place : Place) : Bool :=
  store.node? place == some .directory

/-- The guard on a place, if there is one. -/
def guard? (store : Store) (place : Place) : Option Guard := store.guards.lookup place

/-- Why a name in a directory may not be written or created. A file may be written whatever its
directory is like; what is not there yet can only be created in a directory without a guard. -/
def refusal? (store : Store) (above : Place) (name : Name) : Option Fault :=
  let own := store.guard? (above ++ [name])
  let guard := if (store.node? (above ++ [name])).isSome then own else own.or (store.guard? above)
  guard.map Guard.fault

/-- Puts something at a place, in the stead of what was there. -/
def put (store : Store) (place : Place) (node : Node) : Store :=
  { store with nodes := (place, node) :: store.nodes.filter (·.1 != place) }

@[simp]
theorem guard?_put (store : Store) (place : Place) (node : Node) :
    (store.put place node).guard? = store.guard? := rfl

theorem refusal?_of_isSome {store : Store} {above : Place} {name : Name}
    (present : (store.node? (above ++ [name])).isSome = true) :
    store.refusal? above name = (store.guard? (above ++ [name])).map Guard.fault := by
  simp only [refusal?, present, if_true]

/-- What may be written or created has no guard. -/
theorem guard?_of_refusal? {store : Store} {above : Place} {name : Name}
    (free : store.refusal? above name = none) : store.guard? (above ++ [name]) = none := by
  rw [refusal?, Option.map_eq_none_iff] at free
  split at free
  case isTrue => exact free
  case isFalse => exact (Option.or_eq_none_iff.mp free).1

/-! ## Walking -/

/-- One name of a walk. -/
def enter (store : Store) (here : Place) (name : Name) : Except Fault Place :=
  if !store.isDirectory here then .error .notDirectory
  else if name = dot then .ok here
  else if name = dotDot then .ok here.dropLast
  else if Path.nameLimit < name.length then .error .nameTooLong
  else if (store.node? (here ++ [name])).isSome then .ok (here ++ [name])
  else .error .missing

/-- The place at the end of a walk along names. Every place on the way must exist. -/
def walk (store : Store) : Place → List Name → Except Fault Place
  | here, [] => .ok here
  | here, name :: rest =>
      match store.enter here name with
      | .ok next => walk store next rest
      | .error fault => .error fault

/-- Where the walk along a path starts. -/
def start (store : Store) (path : Path) : Place :=
  if Path.isAbsolute path then [] else store.workingDirectory

/-- Opens what a path names, for reading. Directories can be opened, and not read. -/
def openNode (store : Store) (path : Path) : Except Fault Node :=
  match Path.fault? path with
  | some fault => .error fault
  | none =>
      match store.walk (store.start path) (Path.names path) with
      | .error fault => .error fault
      | .ok place =>
          match store.node? place with
          | none => .error .missing
          | some .directory => .ok .directory
          | some (.file contents) =>
              if Path.endsInSlash path then .error .notDirectory else .ok (.file contents)

/-- Whether a path names something. -/
def pathExists (store : Store) (path : Path) : Bool :=
  match store.openNode path with
  | .ok _ => true
  | .error _ => false

/-- What the file of a path holds. -/
def read (store : Store) (path : Path) : Except Fault Contents :=
  match store.openNode path with
  | .error fault => .error fault
  | .ok .directory => .error .isDirectory
  | .ok (.file contents) => .ok contents

/-! ## Changing -/

/-- The directory in which the last name of a path lives, and that name. -/
def lastName (store : Store) (path : Path) : Except Fault (Place × Option Name) :=
  match Path.fault? path with
  | some fault => .error fault
  | none =>
      match store.walk (store.start path) (Path.names path).dropLast with
      | .error fault => .error fault
      | .ok place =>
          if store.isDirectory place then .ok (place, (Path.names path).getLast?)
          else .error .notDirectory

/-- Whether a last name is one that can be created: a proper name, not a dot or two. -/
def isProper (name : Name) : Bool := name != dot && name != dotDot

/-- Writes a file, which is created if it does not exist. -/
def write (store : Store) (path : Path) (contents : Contents) : Except Fault Store :=
  match store.lastName path with
  | .error fault => .error fault
  | .ok (_, none) => .error .isDirectory
  | .ok (place, some name) =>
      if Path.endsInSlash path || !isProper name then .error .isDirectory
      else if Path.nameLimit < name.length then .error .nameTooLong
      else if store.isDirectory (place ++ [name]) then .error .isDirectory
      else
        match store.refusal? place name with
        | some fault => .error fault
        | none => .ok (store.put (place ++ [name]) (.file contents))

def createDirectory (store : Store) (path : Path) : Except Fault Store :=
  match store.lastName path with
  | .error fault => .error fault
  | .ok (_, none) => .error .alreadyExists
  | .ok (place, some name) =>
      if !isProper name then .error .alreadyExists
      else if Path.nameLimit < name.length then .error .nameTooLong
      else if (store.node? (place ++ [name])).isSome then .error .alreadyExists
      else
        match store.refusal? place name with
        | some fault => .error fault
        | none => .ok (store.put (place ++ [name]) .directory)

/-- Whether a path names a directory. -/
def namesDirectory (store : Store) (path : Path) : Bool :=
  match store.openNode path with
  | .ok .directory => true
  | _ => false

/-- The answer to a refused creation: no failure where there is a directory already. -/
def settle (store : Store) (path : Path) (fault : Fault) : Except Fault Unit × Store :=
  (if store.namesDirectory path then .ok () else .error fault, store)

/-- Creates a directory and those above it that are missing, the limit being the number of
directories to look at. The directories created before a failure stay. -/
def createChainWithin : Nat → Path → Store → Except Fault Unit × Store
  | 0, path, store => store.settle path .missing
  | limit + 1, path, store =>
      if path.isEmpty then (.ok (), store)
      else
        match store.createDirectory path with
        | .ok created => (.ok (), created)
        | .error .missing =>
            match Path.parent? path with
            | none => (.error .missing, store)
            | some parent =>
                match createChainWithin limit parent store with
                | (.error fault, above) => (.error fault, above)
                | (.ok (), above) =>
                    match above.createDirectory path with
                    | .ok created => (.ok (), created)
                    | .error fault => above.settle path fault
        | .error fault => store.settle path fault

/-- Creates a directory and those above it that are missing. A parent is shorter than its path, so
there are no more of them than the path has octets. -/
def createChain (store : Store) (path : Path) : Except Fault Unit × Store :=
  createChainWithin (path.length + 1) path store

def remove (store : Store) (path : Path) : Except Fault Store :=
  match store.lastName path with
  | .error fault => .error fault
  | .ok (_, none) => .error .isDirectory
  | .ok (place, some name) =>
      if !isProper name then .error .isDirectory
      else if Path.nameLimit < name.length then .error .nameTooLong
      else
        match store.node? (place ++ [name]) with
        | none => .error .missing
        | some .directory => .error .isDirectory
        | some (.file _) =>
            if Path.endsInSlash path then .error .notDirectory
            else
              match store.guard? place with
              | some guard => .error guard.fault
              | none =>
                  .ok { store with
                    nodes := store.nodes.filter (·.1 != place ++ [name])
                    guards := store.guards.filter (·.1 != place ++ [name]) }

end Store

end SyscallTally.Files
