import FluentAssist.Files.Tree

/-!
# Companion files

A script may have a component file of the same name beside it, and the other way round. A script
is looked for beside a component, and first a template, then a plain component beside a script.
-/

set_option autoImplicit false

namespace FluentAssist.Companion

/-- Why there is no companion. -/
inductive NavigationError
  /-- The file is neither a script nor a component. -/
  | unsupported (path : Path)
  /-- No candidate exists; the first one is named. -/
  | notFound (path : Path)
  deriving DecidableEq, Repr

/-- The wording of a navigation error. -/
def NavigationError.message : NavigationError → String
  | .unsupported path => "Open a Python/Vue/JS file first: " ++ String.ofList path.text
  | .notFound path => "Related file not found: " ++ String.ofList path.text

/-- The extensions of the companions of a file with the given extension. -/
def extensionsFor? (extension : Path.Name) : Option (List String) :=
  if extension = (Path.ofString "py").bytes then some ["vue", "js"]
  else if extension ∈ [(Path.ofString "vue").bytes, (Path.ofString "js").bytes] then some ["py"]
  else none

/-- The companions to try, in order. -/
def candidates (path : Path) : Except NavigationError (List Path) :=
  match path.extension?.bind extensionsFor? with
  | some extensions => .ok (extensions.map fun e => path.withExtension (Path.ofString e).bytes)
  | none => .error (.unsupported path)

/-- The first file of a list. -/
def firstFile? {m : Type → Type} [Monad m] (files : FileSystem m) : List Path → m (Option Path)
  | [] => return none
  | path :: rest => do
    if ← files.isFile path then return some path else firstFile? files rest

/-- The first companion that exists. -/
def find {m : Type → Type} [Monad m] (files : FileSystem m) (path : Path) :
    m (Except NavigationError Path) := do
  match candidates path with
  | .error e => return .error e
  | .ok paths =>
    match ← firstFile? files paths with
    | some found => return .ok found
    | none => return .error (.notFound (paths.headD path))

end FluentAssist.Companion
