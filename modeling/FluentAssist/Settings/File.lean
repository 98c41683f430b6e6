import FluentAssist.Files.Tree
import FluentAssist.Settings.Basic
import FluentAssist.Yaml.Node

/-!
# Settings files

A settings file is a YAML mapping of sections, each a mapping of settings. What is left out keeps
its default, and names that are not known are passed over, but a setting must not be written twice
and must have the right type. Numbers and truth values are plain scalars; where a text is wanted,
any scalar is taken as it is written. An empty plain scalar, which is nothing at all, stands for an
empty section or list.

In a workspace the first of four files that can be loaded counts.
-/

set_option autoImplicit false

namespace FluentAssist.Settings

open Yaml (Document Node ScalarStyle)

/-- The names of settings files in a workspace, in the order in which they are tried. -/
def fileNames : List String :=
  [".nicegui-lsp.yaml", ".nicegui-lsp.yml", "nicegui-lsp.yaml", "nicegui-lsp.yml"]

/-- Why a settings file could not be loaded. -/
inductive LoadError
  | read (path : Path) (cause : FileError)
  | parse (path : Path)
  deriving DecidableEq, Repr

/-- The wording of a failed read. -/
def readMessage (path : Path) (cause : FileError) : String :=
  "failed to read config file " ++ String.ofList path.text ++ ": " ++ cause.message

/-- The text of a scalar. -/
def text? (document : Document) (node : Node) : Option Text :=
  match document.resolve node with
  | some (.scalar text _ _) => some text
  | _ => none

/-- The text of a scalar as a setting. -/
def string? (document : Document) (node : Node) : Option String :=
  (text? document node).map String.ofList

/-- The text of a scalar that may stand for a value of a type: a plain one, or a literal block with
the tag of the type. -/
def typedText? (type : String) (document : Document) (node : Node) : Option Text :=
  match document.resolve node with
  | some (.scalar text .plain _) => some text
  | some (.scalar text .literal (some tag)) =>
    if tag = ("tag:yaml.org,2002:" ++ type).toList then some text else none
  | _ => none

/-- A truth value. -/
def bool? (document : Document) (node : Node) : Option Bool := do
  let text ← typedText? "bool" document node
  if ["true", "True", "TRUE"].any (·.toList == text) then some true
  else if ["false", "False", "FALSE"].any (·.toList == text) then some false
  else none

/-- The value of a digit in a base. -/
def digit? (base : Nat) (c : Char) : Option Nat := (Text.hexValue? c).filter (· < base)

/-- A number of 64 bits from its digits in a base, possibly after a plus sign. -/
def digits? (base : Nat) (text : Text) : Option Nat := do
  let digits := if text.head? = some '+' then text.drop 1 else text
  if digits.isEmpty then none
  else
    let values ← digits.mapM (digit? base)
    let value := values.foldl (fun n d => n * base + d) 0
    if value < wordSize64 then some value else none

/-- The base that the start of a number announces. -/
def baseOf? : Text → Option (Nat × Text)
  | '0' :: 'x' :: rest => some (16, rest)
  | '0' :: 'o' :: rest => some (8, rest)
  | '0' :: 'b' :: rest => some (2, rest)
  | _ => none

/-- Whether a text starts with a sign. -/
def isSigned (text : Text) : Bool := text.head? == some '+' || text.head? == some '-'

/-- A natural number of 64 bits. A decimal number has no leading zero. -/
def naturalOf? (text : Text) : Option Nat :=
  let body := if text.head? = some '+' then text.drop 1 else text
  match baseOf? body with
  | some (base, rest) => if isSigned rest then none else digits? base rest
  | none =>
    if isSigned body || (1 < body.length && body.head? == some '0') then none
    else digits? 10 body

/-- A natural number. -/
def nat? (document : Document) (node : Node) : Option Nat :=
  (typedText? "int" document node).bind naturalOf?

/-- A list of texts. -/
def strings? (document : Document) (node : Node) : Option (List String) :=
  match document.resolve node with
  | some (.sequence items) => items.mapM (string? document)
  | some (.scalar [] .plain _) => some []
  | _ => none

/-- The entries of a section, with their names. -/
def section? (document : Document) (node : Node) : Option (List (Text × Node)) :=
  match document.resolve node with
  | some (.mapping entries) =>
    entries.mapM fun (key, value) => (text? document key).map fun name => (name, value)
  | some (.scalar [] .plain _) => some []
  | _ => none

/-- The setting of a name in a section, or a default if it is left out. It is an error if the name
is written twice. -/
def field {α : Type} (entries : List (Text × Node)) (name : String) (default : α)
    (read : Node → Option α) : Option α :=
  match entries.filter fun entry => entry.1 == name.toList with
  | [] => some default
  | [(_, value)] => read value
  | _ => none

/-- The settings of the server. -/
def serverSettings? (document : Document) (node : Node) : Option ServerSettings := do
  let entries ← section? document node
  let base : ServerSettings := {}
  return {
    name := ← field entries "name" base.name (string? document)
    logLevel := ← field entries "log_level" base.logLevel (string? document)
    workspaceDiscovery :=
      ← field entries "workspace_discovery" base.workspaceDiscovery (bool? document) }

/-- The search paths of the knowledge base. -/
def searchPaths? (document : Document) (default : List String) (node : Node) :
    Option (List String) := do
  field (← section? document node) "search_paths" default (strings? document)

/-- The settings of completion. -/
def completionSettings? (document : Document) (node : Node) : Option CompletionSettings := do
  let entries ← section? document node
  let base : CompletionSettings := {}
  return {
    stringSuggestions :=
      ← field entries "enable_string_suggestions" base.stringSuggestions (bool? document)
    lookback := ← field entries "lookback_chars" base.lookback (nat? document)
    cacheCapacity := ← field entries "cache_capacity" base.cacheCapacity (nat? document) }

/-- The settings of the type analysis. -/
def analyzerSettings? (document : Document) (node : Node) : Option AnalyzerSettings := do
  let entries ← section? document node
  let base : AnalyzerSettings := {}
  return {
    enabled := ← field entries "enabled" base.enabled (bool? document)
    command := ← field entries "command" base.command (strings? document) }

/-- The address of the preview. -/
def previewUrl? (document : Document) (default : String) (node : Node) : Option String := do
  field (← section? document node) "url" default (string? document)

/-- The settings of a document. -/
def ofDocument? (document : Document) : Option Settings := do
  let entries ← section? document document.root
  let base : Settings := {}
  return {
    server := ← field entries "engine" base.server (serverSettings? document)
    searchPaths :=
      ← field entries "assets" base.searchPaths (searchPaths? document base.searchPaths)
    completion := ← field entries "completion" base.completion (completionSettings? document)
    analyzer := ← field entries "analyzer" base.analyzer (analyzerSettings? document)
    previewUrl := ← field entries "preview" base.previewUrl (previewUrl? document base.previewUrl) }

/-- The settings in the text of a file. -/
def ofText? (text : Text) : Option Settings := do
  match ← Yaml.document? text with
  | none => return {}
  | some document => ofDocument? document

/-- Loads a settings file. -/
def load {m : Type → Type} [Monad m] (files : FileSystem m) (path : Path) :
    m (Except LoadError Settings) := do
  match ← files.read path with
  | .error cause => return .error (.read path cause)
  | .ok content =>
    match ofText? content.toList with
    | some settings => return .ok settings
    | none => return .error (.parse path)

/-- The settings of the first file of some that is there and can be loaded. -/
def firstOf {m : Type → Type} [Monad m] (files : FileSystem m) : List Path → m Settings
  | [] => return {}
  | path :: later => do
    if ← files.holds path then
      match ← load files path with
      | .ok settings => return settings
      | .error _ => firstOf files later
    else firstOf files later

/-- The settings of a workspace. -/
def discover {m : Type → Type} [Monad m] (files : FileSystem m) (root : Path) : m Settings :=
  firstOf files (fileNames.map fun name => root.join (Path.ofString name))

end FluentAssist.Settings
