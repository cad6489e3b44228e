import SoundLedger.Path

/-!
# Directories

The contents of a directory tree as a value: which places hold a regular file, with what bytes, and
which hold a directory. Reading never changes it; writing gives a new value. One place is the
working directory, from which relative paths start.

A write replaces the whole content of a file or fails and changes nothing. Only a place that already
lies in a directory can be written.
-/

namespace SoundLedger

/-- Why an access to the directory failed. -/
inductive Fault where
  | notFound
  | notDirectory
  | isDirectory
  | nameTooLong
  | unusablePath
  | notText
deriving DecidableEq, Repr

/-- The fault in words. -/
def Fault.message : Fault → String
  | .notFound => "No such file or directory (os error 2)"
  | .notDirectory => "Not a directory (os error 20)"
  | .isDirectory => "Is a directory (os error 21)"
  | .nameTooLong => "File name too long (os error 36)"
  | .unusablePath => "file name contained an unexpected NUL byte"
  | .notText => "stream did not contain valid UTF-8"

/-- A place in the tree: the names that lead to it, innermost first. -/
abbrev Place := List String

/-- The absolute path of a place. -/
def Place.toPath (place : Place) : Path := ⟨"/" ++ "/".intercalate place.reverse⟩

/-- What a place holds. -/
inductive Node where
  | folder
  | file (content : ByteArray)

/-- A directory tree. The root is always a directory. Of two entries for one place the first counts.
-/
structure Directory where
  entries : List (Place × Node)
  /-- The place that relative paths start in. -/
  working : Place

namespace Directory

/-- The tree that holds nothing, with its root as the working directory. -/
def empty : Directory := ⟨[], []⟩

/-- What a place holds, if it holds anything. -/
def node? (d : Directory) (place : Place) : Option Node :=
  if place = [] then some .folder else d.entries.lookup place

/-- The content of a place that holds a regular file. -/
def file? (d : Directory) (place : Place) : Option ByteArray :=
  match d.node? place with
  | some (.file content) => some content
  | _ => none

/-- The tree with one more or one replaced entry. -/
def insert (d : Directory) (place : Place) (node : Node) : Directory :=
  { d with entries := (place, node) :: d.entries }

/-! ## Finding places -/

/-- Whether a name is short enough for an entry. -/
def fits (name : String) : Bool := name.utf8ByteSize ≤ 255

/-- Follows names from a place. Each name is looked up in a directory; whether the last one names
anything is left open. -/
def walk (d : Directory) (here : Place) : List String → Except Fault Place
  | [] => .ok here
  | name :: rest =>
    match d.node? here with
    | some .folder =>
      -- above the root there is only the root
      if name = ".." then d.walk here.tail rest
      else if fits name then d.walk (name :: here) rest
      else .error .nameTooLong
    | some (.file _) => .error .notDirectory
    | none => .error .notFound

/-- The place that a path starts from. -/
def startOf (d : Directory) (p : Path) : Place := if p.isAbsolute then [] else d.working

/-- The place that a path leads to. -/
def locate (d : Directory) (p : Path) : Except Fault Place :=
  if !p.isUsable then .error (if p.text = "" then .notFound else .unusablePath)
  else
    match d.walk (d.startOf p) p.steps with
    | .error fault => .error fault
    | .ok place =>
      if p.endsInDirectory then
        match d.node? place with
        | some .folder => .ok place
        | some (.file _) => .error .notDirectory
        | none => .error .notFound
      else .ok place

/-- Whether a path names anything. -/
def contains (d : Directory) (p : Path) : Bool :=
  match d.locate p with
  | .ok place => (d.node? place).isSome
  | .error _ => false

/-! ## Reading and writing -/

/-- The text of the file that a path names. -/
def readText (d : Directory) (p : Path) : Except Fault String :=
  match d.locate p with
  | .error fault => .error fault
  | .ok place =>
    match d.node? place with
    | some (.file content) =>
      match String.fromUTF8? content with
      | some text => .ok text
      | none => .error .notText
    | some .folder => .error .isDirectory
    | none => .error .notFound

/-- The tree after a file has been given a new content. -/
def writeBytes (d : Directory) (p : Path) (content : ByteArray) : Except Fault Directory :=
  match d.locate p with
  | .error fault => .error fault
  | .ok place =>
    match d.node? place with
    | some .folder => .error .isDirectory
    | _ => .ok (d.insert place (.file content))

/-- The tree after a file has been given a new text. -/
def writeText (d : Directory) (p : Path) (text : String) : Except Fault Directory :=
  d.writeBytes p text.toUTF8

/-- Makes the directories that are missing on the way along some names. Those made before a fault
remain. -/
def makeFolders (d : Directory) (here : Place) : List String → Directory × Option Fault
  | [] => (d, none)
  | name :: rest =>
    if name = ".." then d.makeFolders here.tail rest
    else if !fits name then (d, some .nameTooLong)
    else
      match d.node? (name :: here) with
      | some .folder => d.makeFolders (name :: here) rest
      | some (.file _) => (d, some .notDirectory)
      | none => (d.insert (name :: here) .folder).makeFolders (name :: here) rest

/-- Makes the directory that a path names, with all missing directories above it. -/
def makePath (d : Directory) (p : Path) : Directory × Option Fault :=
  if p.isUsable then d.makeFolders (d.startOf p) p.steps
  else (d, some .unusablePath)

/-! ## What a path depends on -/

/-- The places that are met when names are followed from a place, that place included. -/
def placesFrom (here : Place) : List String → List Place
  | [] => [here]
  | name :: rest => here :: placesFrom (if name = ".." then here.tail else name :: here) rest

/-- The places whose nodes decide where a path leads and what it names. -/
def placesOn (d : Directory) (p : Path) : List Place := placesFrom (d.startOf p) p.steps

/-- The entries that a later state of a tree has in front of those of an earlier one, oldest first.
-/
def additions (before after : Directory) : List (Place × Node) :=
  (after.entries.take (after.entries.length - before.entries.length)).reverse

end Directory

end SoundLedger
