import FluentAssist.Text.Search
import FluentAssist.Text.Utf8

/-!
# Paths

A path is a sequence of bytes whose parts are separated by slashes. Its bytes need not be text;
`Path.text` shows them as well as can be. A path is kept as written: joining and replacing an
extension change the bytes, and nothing is normalised. Repeated slashes, a trailing slash and `.`
parts other than the first do not count as components.
-/

set_option autoImplicit false

namespace FluentAssist

/-- A path as written. -/
structure Path where
  bytes : List UInt8
  deriving DecidableEq, Repr

namespace Path

/-- A part of a path. -/
abbrev Name := List UInt8

/-- The path of a text. -/
def ofText (text : Text) : Path := ⟨Utf8.encode text⟩

/-- The path of a string. -/
def ofString (text : String) : Path := ofText text.toList

/-- A path as text; what is no text is shown as replacement characters. -/
def text (path : Path) : Text := Utf8.decodeLossy path.bytes

/-- What separates the parts of a path. -/
def slash : UInt8 := 0x2F

/-- What separates the extension of a name. -/
def dot : UInt8 := 0x2E

/-- A part of a path that counts. -/
inductive Component
  | root
  | current
  | parent
  | normal (name : Name)
  deriving DecidableEq, Repr

/-- The parts of a path between slashes. -/
def parts (path : Path) : List Name := Text.pieces slash path.bytes

/-- Whether a path starts at the root. -/
def isAbsolute (path : Path) : Bool := path.bytes.head? == some slash

/-- The component of a part between slashes; none if the part does not count. -/
def componentOf? (part : Name) : Option Component :=
  if part.isEmpty || part == [dot] then none
  else if part == [dot, dot] then some .parent
  else some (.normal part)

/-- The components of a path. -/
def components (path : Path) : List Component :=
  let first : List Component :=
    if path.isAbsolute then [.root]
    else if path.parts.head? == some [dot] then [.current]
    else []
  first ++ path.parts.filterMap componentOf?

/-- `base` followed by `path`; an absolute path replaces the base. -/
def join (base path : Path) : Path :=
  if path.isAbsolute then path
  else if base.bytes.isEmpty || base.bytes.getLast? == some slash then ⟨base.bytes ++ path.bytes⟩
  else ⟨base.bytes ++ slash :: path.bytes⟩

/-- Reversed bytes of a path without trailing slashes and trailing `.` parts. -/
def dropTail : List UInt8 → List UInt8
  | [] => []
  | [b] => if b = slash then [] else [b]
  | b :: c :: rest =>
    if b = slash then dropTail (c :: rest)
    else if b = dot ∧ c = slash then dropTail rest
    else b :: c :: rest

/-- A path up to the end of its last component that is not `.`. -/
def body (path : Path) : List UInt8 := (dropTail path.bytes.reverse).reverse

/-- What follows the last slash of a path's body. -/
def lastName (path : Path) : Name := Text.afterLast (· == slash) path.body

/-- The last component, if it is a name. -/
def fileName? (path : Path) : Option Name :=
  let name := path.lastName
  if name.isEmpty || name == [dot] || name == [dot, dot] then none else some name

/-- Splits a name at its last dot into stem and extension. A name whose only dot comes first has
no extension. -/
def splitName (name : Name) : Name × Option Name :=
  let extension := Text.afterLast (· == dot) name
  let stem := name.take (name.length - extension.length - 1)
  if stem.isEmpty then (name, none) else (stem, some extension)

/-- The name without its extension. -/
def fileStem? (path : Path) : Option Name := path.fileName?.map fun name => (splitName name).1

/-- The extension of the last component. -/
def extension? (path : Path) : Option Name := path.fileName?.bind fun name => (splitName name).2

/-- Everything of a path before the name of its last component. -/
def directory (path : Path) : List UInt8 :=
  path.body.take (path.body.length - path.lastName.length)

/-- Puts an extension behind the stem of the last component. What follows the stem is dropped; a
path without a name stays as it is. -/
def setExtension (path : Path) (extension : Name) : Path :=
  match path.fileStem? with
  | none => path
  | some stem => ⟨path.directory ++ stem ++ dot :: extension⟩

/-- The path with another extension. First as many bytes as the old extension has are cut off its
end; if no name is left then, as for `..py`, that is the result. -/
def withExtension (path : Path) (extension : Name) : Path :=
  match path.extension? with
  | none => path.setExtension extension
  | some old =>
    setExtension ⟨path.bytes.take (path.bytes.length - old.length)⟩ extension

end Path

end FluentAssist
