import FluentAssist.Files.Tree
import FluentAssist.Knowledge.Bundled
import FluentAssist.Knowledge.Decode

/-!
# Loading the knowledge base

Every table is a file of its own in an assets directory. A file that is missing or malformed
leaves its table empty and does not touch the others. The assets directory is the first of the
configured search paths, below the first of the base directories, that holds a component table;
without one the bundled knowledge base is used.
-/

set_option autoImplicit false

namespace FluentAssist.Assets

open Knowledge (RawReader)

/-- The file of the component table. -/
def componentsFile : String := "quasar_components.json"

/-- The file of the generic lists. -/
def genericFile : String := "quasar_lists.json"

/-- The file of the utility classes. -/
def classesFile : String := "tailwind_classes.json"

/-- The file of the icon names. -/
def iconsFile : String := "material_icons.json"

/-- The file of the element functions. -/
def functionsFile : String := "nicegui_functions.json"

/-- The file of the map from element classes to components. -/
def classMapFile : String := "nicegui_to_quasar_map.json"

/-- Why a table could not be loaded. -/
inductive LoadError
  | read (path : Path) (cause : FileError)
  | parse (path : Path)
  deriving DecidableEq, Repr

/-- The wording of a failed read. -/
def readMessage (path : Path) (cause : FileError) : String :=
  "Failed to read " ++ String.ofList path.text ++ ": " ++ cause.message

/-- Reads one table. -/
def loadTable {m : Type → Type} [Monad m] {α : Type} (files : FileSystem m) (path : Path)
    (read : RawReader α) : m (Except LoadError α) := do
  match ← files.read path with
  | .error cause => return .error (.read path cause)
  | .ok content =>
    match Knowledge.decode? read content.toList with
    | some table => return .ok table
    | none => return .error (.parse path)

/-- Reads one table; a table that cannot be loaded is empty. -/
def loadOr {m : Type → Type} [Monad m] {α : Type} (files : FileSystem m) (directory : Path)
    (file : String) (read : RawReader α) (empty : α) : m α := do
  match ← loadTable files (directory.join (Path.ofString file)) read with
  | .ok table => return table
  | .error _ => return empty

/-- Loads every table of an assets directory. -/
def loadDirectory {m : Type → Type} [Monad m] (files : FileSystem m) (directory : Path) :
    m KnowledgeBase := do
  return {
    components := ← loadOr files directory componentsFile Knowledge.readComponents {}
    generic := ← loadOr files directory genericFile Knowledge.readGeneric {}
    utilityClasses := ← loadOr files directory classesFile Knowledge.readNames []
    icons := ← loadOr files directory iconsFile Knowledge.readNames []
    uiFunctions := ← loadOr files directory functionsFile Knowledge.readNames []
    classMap := ← loadOr files directory classMapFile Knowledge.readNameMap {} }

/-- Where the knowledge base comes from. -/
inductive Source
  | directory (path : Path)
  | bundled
  deriving DecidableEq, Repr

/-- The first directory of a list that holds a component table. -/
def firstWithComponents {m : Type → Type} [Monad m] (files : FileSystem m) :
    List Path → m Source
  | [] => return .bundled
  | candidate :: rest => do
    let table := candidate.join (Path.ofString componentsFile)
    if ← files.holds table then return .directory candidate
    else firstWithComponents files rest

/-- The assets directory: every search path is tried below every base, base by base. -/
def find {m : Type → Type} [Monad m] (files : FileSystem m) (bases : List Path)
    (searchPaths : List String) : m Source :=
  firstWithComponents files
    (bases.flatMap fun base => searchPaths.map fun path => base.join (Path.ofString path))

/-- The knowledge base of a source. -/
def load {m : Type → Type} [Monad m] (files : FileSystem m) : Source → m KnowledgeBase
  | .directory path => loadDirectory files path
  | .bundled => return KnowledgeBase.bundled

end FluentAssist.Assets
