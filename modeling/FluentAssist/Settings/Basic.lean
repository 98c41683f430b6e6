import FluentAssist.Json.Value

/-!
# Settings

What can be configured, and the values that hold unless a settings file or the editor says
otherwise.
-/

set_option autoImplicit false

namespace FluentAssist

/-- Settings of the server itself. -/
structure ServerSettings where
  name : String := "nicegui-lsp"
  logLevel : String := "info"
  /-- Whether a settings file is looked for in the workspace. -/
  workspaceDiscovery : Bool := true
  deriving DecidableEq, Repr

/-- Settings of completion. -/
structure CompletionSettings where
  /-- Whether quotation marks trigger completion. -/
  stringSuggestions : Bool := true
  /-- The characters searched before the cursor. -/
  lookback : Nat := 4096
  /-- The number of entries of each cache. -/
  cacheCapacity : Nat := 512
  deriving DecidableEq, Repr

/-- Settings of the type analysis. -/
structure AnalyzerSettings where
  enabled : Bool := true
  /-- The program and its arguments. -/
  command : List String := ["pyright-langserver", "--stdio"]
  deriving DecidableEq, Repr

/-- All settings. -/
structure Settings where
  server : ServerSettings := {}
  /-- Directories that may hold the knowledge base. -/
  searchPaths : List String :=
    ["assets", ".nicegui-lsp/assets", "share/nicegui-lsp/assets", "../share/nicegui-lsp/assets"]
  completion : CompletionSettings := {}
  analyzer : AnalyzerSettings := {}
  previewUrl : String := "http://localhost:8080"
  deriving DecidableEq, Repr

namespace Settings

/-- Characters after which an editor asks for completion by itself. -/
def plainTriggers : List String := [".", "(", "=", ":", ";", " "]

/-- The quotation marks that may trigger completion as well. -/
def quoteTriggers : List String := ["'", "\""]

/-- The characters that are announced as triggers. -/
def triggers (settings : Settings) : List String :=
  plainTriggers ++ (if settings.completion.stringSuggestions then quoteTriggers else [])

/-- Whether a completion request that was triggered by a character is served. -/
def acceptsTrigger (settings : Settings) : Option String → Bool
  | none => true
  | some trigger =>
    if quoteTriggers.contains trigger then settings.completion.stringSuggestions else true

/-- The settings as a value, under the names that a settings file uses. -/
def toJson (settings : Settings) : Json :=
  .obj [
    ("engine", .obj [
      ("name", .str settings.server.name),
      ("log_level", .str settings.server.logLevel),
      ("workspace_discovery", .bool settings.server.workspaceDiscovery)]),
    ("assets", .obj [("search_paths", .ofStrings settings.searchPaths)]),
    ("completion", .obj [
      ("enable_string_suggestions", .bool settings.completion.stringSuggestions),
      ("lookback_chars", .ofNat settings.completion.lookback),
      ("cache_capacity", .ofNat settings.completion.cacheCapacity)]),
    ("analyzer", .obj [
      ("enabled", .bool settings.analyzer.enabled),
      ("command", .ofStrings settings.analyzer.command)]),
    ("preview", .obj [("url", .str settings.previewUrl)])]

end Settings

end FluentAssist
