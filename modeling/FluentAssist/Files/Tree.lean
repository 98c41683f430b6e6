import FluentAssist.Files.Path

/-!
# File systems

`FileSystem m` is what the program asks of a file system, in any monad. `FileTree` is a file
system as a value: files with their texts, directories, and a current directory. Reading through
a path visits every part of it, so `a/../b` needs a directory `a`.
-/

set_option autoImplicit false

namespace FluentAssist

/-- Why a file could not be read. -/
inductive FileError
  | notFound
  | notADirectory
  | isADirectory
  | nameTooLong
  | nulByte
  | permissionDenied
  /-- The bytes of the file are no text. -/
  | invalidText
  deriving DecidableEq, Repr

/-- The wording of a file error. -/
def FileError.message : FileError → String
  | .notFound => "No such file or directory (os error 2)"
  | .notADirectory => "Not a directory (os error 20)"
  | .isADirectory => "Is a directory (os error 21)"
  | .nameTooLong => "File name too long (os error 36)"
  | .nulByte => "file name contained an unexpected NUL byte"
  | .permissionDenied => "Permission denied (os error 13)"
  | .invalidText => "stream did not contain valid UTF-8"

/-- What the program asks of a file system. -/
structure FileSystem (m : Type → Type) where
  /-- The text of a file. -/
  read : Path → m (Except FileError String)
  /-- Whether a path leads to a file or a directory. -/
  holds : Path → m Bool
  /-- Whether a path leads to a file. -/
  isFile : Path → m Bool

/-- Files and directories by the names on the way to them, and the current directory. -/
structure FileTree where
  /-- A text makes a file, nothing makes a directory. Directories on the way need no entry. -/
  entries : List (List Path.Name × Option String)
  current : List Path.Name
  deriving Repr

/-- What a path leads to. -/
inductive FileNode
  | file (content : String)
  | directory
  deriving DecidableEq, Repr

namespace FileTree

/-- The names on the way to a place that is written as a text. -/
def placeOf (text : String) : List Path.Name :=
  (Path.ofString text).parts.filter fun part => !part.isEmpty

/-- What stands at a place. -/
def node? (tree : FileTree) (place : List Path.Name) : Option FileNode :=
  match tree.entries.lookup place with
  | some (some content) => some (.file content)
  | some none => some .directory
  | none =>
    if place.isPrefixOf tree.current || tree.entries.any (fun entry => place.isPrefixOf entry.1)
    then some .directory
    else none

/-- The place that a part of a path leads to from a directory. -/
def step (place : List Path.Name) (part : Path.Name) : List Path.Name :=
  match Path.componentOf? part with
  | some .parent => place.dropLast
  | some (.normal name) => place ++ [name]
  | _ => place

/-- The longest name of a file, in bytes. -/
def longestName : Nat := 255

/-- The longest path, in bytes. -/
def longestPath : Nat := 4095

/-- The place that the parts of a path lead to. Every part but the last has to end in a
directory. -/
def walk (tree : FileTree) :
    List Path.Name → List Path.Name → Except FileError (List Path.Name)
  | place, [] => .ok place
  | place, part :: parts =>
    match tree.node? place with
    | none => .error .notFound
    | some (.file _) => .error .notADirectory
    | some .directory =>
      if longestName < part.length then .error .nameTooLong
      else walk tree (step place part) parts

/-- What a path leads to. -/
def resolve (tree : FileTree) (path : Path) : Except FileError FileNode := do
  if path.bytes.isEmpty then .error .notFound
  else if path.bytes.contains 0 then .error .nulByte
  else if longestPath < path.bytes.length then .error .nameTooLong
  else
    let place ← walk tree (if path.isAbsolute then [] else tree.current) path.parts
    match tree.node? place with
    | some node => .ok node
    | none => .error .notFound

/-- The text of a file. -/
def read (tree : FileTree) (path : Path) : Except FileError String := do
  match ← tree.resolve path with
  | .file content => .ok content
  | .directory => .error .isADirectory

/-- Whether a path leads to a file or a directory. -/
def holds (tree : FileTree) (path : Path) : Bool := (tree.resolve path).toOption.isSome

/-- Whether a path leads to a file. -/
def isFile (tree : FileTree) (path : Path) : Bool := (tree.read path).toOption.isSome

/-- A tree as a file system. -/
def files (tree : FileTree) : FileSystem Id where
  read path := tree.read path
  holds path := tree.holds path
  isFile path := tree.isFile path

end FileTree

end FluentAssist
