import PermissionRules.Files.Fault
import PermissionRules.Files.Path
import PermissionRules.Ordered

/-! A tree of directories and files, and what paths lead to in it. A path is followed name by name; each
name but the last one must lead to a directory, and so must the last one before a slash. -/
namespace PermissionRules.Files

abbrev Name := List Char

/-- The names that lead to a place from the root, the last one first. -/
abbrev Location := List Name

inductive Node where
  | directory
  | file (content : ByteArray)

instance : DecidableEq Node
  | .directory, .directory => isTrue rfl
  | .file a, .file b =>
    have := ByteArray.instDecidableEq a b
    decidable_of_iff (a = b) (by simp)
  | .directory, .file _ | .file _, .directory => isFalse nofun

structure Store where
  workingDirectory : Location
  nodes : Ordered Location Node
  deriving DecidableEq

namespace Store

/-- A place and the places above it, short of the root. -/
def leadingTo : Location → List Location
  | [] => []
  | name :: outer => leadingTo outer ++ [name :: outer]

/-- A store that holds a working directory and the directories above it. -/
def empty (workingDirectory : Location) : Store :=
  ⟨workingDirectory, (leadingTo workingDirectory).map fun location => (location, .directory)⟩

def node? (store : Store) (location : Location) : Option Node :=
  if location.isEmpty then some .directory else store.nodes.get? location

def put (store : Store) (location : Location) (node : Node) : Store :=
  { store with nodes := store.nodes.put location node }

def here : Name := ['.']
def above : Name := ['.', '.']

/-- The longest name, in bytes. -/
def maxName : Nat := 255

/-- The longest path, in bytes, with one more for its end. -/
def maxPath : Nat := 4096

def byteLength (text : List Char) : Nat :=
  (String.ofList text).utf8ByteSize

def isTooLong (name : Name) : Bool :=
  maxName < byteLength name

/-- One name on from a directory. -/
def enter (store : Store) (directory : Location) (name : Name) : Except Fault Location :=
  if name.isEmpty || name == here then .ok directory
  else if name == above then .ok directory.tail
  else if isTooLong name then .error .nameTooLong
  else match store.node? (name :: directory) with
    | some _ => .ok (name :: directory)
    | none => .error .notFound

def follow (store : Store) (location : Location) : List Name → Except Fault Location
  | [] => .ok location
  | name :: names =>
    match store.node? location with
    | none => .error .notFound
    | some (.file _) => .error .notADirectory
    | some .directory =>
      match store.enter location name with
      | .error fault => .error fault
      | .ok location => store.follow location names

/-- What is wrong with a path whatever the store holds. -/
def pathFault? (path : Path) : Option Fault :=
  if path.toList.contains '\x00' then some .nulInName
  else if path.isEmpty then some .notFound
  else if maxPath ≤ path.utf8ByteSize then some .nameTooLong
  else none

def startOf (store : Store) (path : Path) : Location :=
  if Path.isAbsolute path then [] else store.workingDirectory

/-- Where a path leads. -/
def locate (store : Store) (path : Path) : Except Fault Location :=
  match pathFault? path with
  | some fault => .error fault
  | none => store.follow (store.startOf path) (Path.segments path)

def read (store : Store) (path : Path) : Except Fault ByteArray :=
  match store.locate path with
  | .error fault => .error fault
  | .ok location => match store.node? location with
    | some (.file content) => .ok content
    | some .directory => .error .isADirectory
    | none => .error .notFound

/-- Whether a path leads anywhere, unless that cannot be told. -/
def exists? (store : Store) (path : Path) : Except Fault Bool :=
  match store.locate path with
  | .ok _ => .ok true
  | .error .notFound => .ok false
  | .error fault => .error fault

def isDirectory (store : Store) (path : Path) : Bool :=
  match store.locate path with
  | .ok location => store.node? location == some .directory
  | .error _ => false

/-- A name to be made in a directory, with whether the path ends in a slash. -/
structure Place where
  directory : Location
  name : Name
  slash : Bool

/-- The place that a path names, whether or not anything is there yet; the path of a root has none. -/
def place? (store : Store) (path : Path) : Except Fault (Option Place) :=
  match pathFault? path with
  | some fault => .error fault
  | none =>
    let segments := Path.segments path
    match segments.reverse.dropWhile List.isEmpty with
    | [] => .ok none
    | name :: before =>
      match store.follow (store.startOf path) before.reverse with
      | .error fault => .error fault
      | .ok directory => match store.node? directory with
        | some .directory => .ok (some ⟨directory, name, segments.getLast? == some []⟩)
        | some (.file _) => .error .notADirectory
        | none => .error .notFound

/-- Makes a file where there is nothing yet. -/
def makeFile (store : Store) (path : Path) (content : ByteArray) : Except Fault Store :=
  match store.place? path with
  | .error fault => .error fault
  | .ok none => .error .isADirectory
  | .ok (some place) =>
    if place.name == here || place.name == above || place.slash then .error .isADirectory
    else if isTooLong place.name then .error .nameTooLong
    else .ok (store.put (place.name :: place.directory) (.file content))

/-- Replaces the content of a file, which is made if necessary. -/
def write (store : Store) (path : Path) (content : ByteArray) : Except Fault Store :=
  match store.locate path with
  | .error _ => store.makeFile path content
  | .ok location => match store.node? location with
    | some (.file _) => .ok (store.put location (.file content))
    | _ => .error .isADirectory

def makeDirectory (store : Store) (path : Path) : Except Fault Store :=
  match store.place? path with
  | .error fault => .error fault
  | .ok none => .error .alreadyExists
  | .ok (some place) =>
    if place.name == here || place.name == above then .error .alreadyExists
    else if isTooLong place.name then .error .nameTooLong
    else match store.node? (place.name :: place.directory) with
      | some _ => .error .alreadyExists
      | none => .ok (store.put (place.name :: place.directory) .directory)

/-- Makes the first path of a list as a directory, after the others where that is necessary. What was
made stays when a later step fails. -/
def makeDirectories (store : Store) : List Path → Except Fault Unit × Store
  | [] => (.ok (), store)
  | path :: shorter =>
    match store.makeDirectory path with
    | .ok store => (.ok (), store)
    | .error .notFound =>
      match store.makeDirectories shorter with
      | (.error fault, store) => (.error fault, store)
      | (.ok (), store) => match store.makeDirectory path with
        | .ok store => (.ok (), store)
        | .error fault => (if store.isDirectory path then .ok () else .error fault, store)
    | .error fault => (if store.isDirectory path then .ok () else .error fault, store)

/-- Makes the directories above a path. A path that leads anywhere has them already, and so has one
whose parent exists. -/
def ensureParent (store : Store) (path : Path) : Except Fault Unit × Store :=
  match store.locate path, Path.parent? path with
  | .ok _, _ | _, none | _, some "" => (.ok (), store)
  | .error _, some parent =>
    match store.exists? parent with
    | .error fault => (.error fault, store)
    | .ok true => (.ok (), store)
    | .ok false => store.makeDirectories (Path.ancestors parent)

/-- Writes a file after making the directories above it. -/
def save (store : Store) (path : Path) (content : ByteArray) : Except Fault Unit × Store :=
  match store.ensureParent path with
  | (.error fault, store) => (.error fault, store)
  | (.ok (), store) => match store.write path content with
    | .ok store => (.ok (), store)
    | .error fault => (.error fault, store)

end Store
end PermissionRules.Files
