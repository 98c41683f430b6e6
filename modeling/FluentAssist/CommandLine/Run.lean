import FluentAssist.CommandLine.Invocation
import FluentAssist.Engine
import FluentAssist.Files.Companion
import FluentAssist.Json.Printer
import FluentAssist.Knowledge.Assets
import FluentAssist.Preview
import FluentAssist.Text.Position
import FluentAssist.Text.Quoted

/-!
# Running an invocation

Every command but serving ends with a report: what is written to the two output streams, and the
exit code. Results end with a line break.
-/

set_option autoImplicit false

namespace FluentAssist.CommandLine

/-- The name and version of the program. -/
def versionText : String := "nicegui-lsp 0.1.0"

/-- What a finished run leaves behind. -/
structure Report where
  exit : Nat
  output : Text := []
  errors : Text := []
  deriving DecidableEq, Repr

/-- What a run comes to. -/
inductive Start
  /-- The language server takes over. -/
  | serve (settings : Settings)
  /-- The usage is to be explained. -/
  | explain
  | done (report : Report)
  deriving DecidableEq, Repr

/-- A result. -/
def Report.result (text : Text) : Report := ⟨0, text ++ ['\n'], []⟩

/-- The report of a wrong usage. -/
def Report.misuse : Report := ⟨2, [], []⟩

/-- The report of a cursor window that does not exist. -/
def Report.crash : Report := ⟨101, [], []⟩

/-- An error, and possibly its cause. -/
def Report.error (message : Text) (cause : Option Text) : Report :=
  let tail := match cause with
    | some cause => "\n\nCaused by:\n    ".toList ++ cause
    | none => []
  ⟨1, [], "Error: ".toList ++ message ++ tail ++ ['\n']⟩

/-- A text filled up with blanks to a width. -/
def padded (width : Nat) (text : Text) : Text :=
  text ++ List.replicate (width - text.length) ' '

/-- Lines as one text. -/
def joined (lines : List Text) : Text := List.intercalate ['\n'] lines

/-- A row of the list of completions. -/
def completionRow (candidate : Candidate) : Text :=
  let kind := (candidate.kind.map CandidateKind.name).getD ""
  "  ".toList ++ padded 30 candidate.label.toList ++ [' '] ++ padded 10 kind.toList ++ [' '] ++
    (candidate.description.getD "").toList

/-- Completions as text. -/
def completionsText (candidates : List Candidate) : Text :=
  if candidates.isEmpty then "No completions found".toList
  else
    joined (("Completions (" ++ toString candidates.length ++ "):").toList ::
      candidates.map completionRow)

/-- A text that may be absent. -/
def optionalText : Option Text → Text
  | some text => "Some(".toList ++ Text.quoted text ++ [')']
  | none => "None".toList

/-- A cursor context as text. -/
def contextText : Option Context → Text
  | none => "No completion context".toList
  | some context => joined [
      "Kind:     ".toList ++ context.kind.name.toList,
      "Method:   ".toList ++ ((context.method.map BuilderMethod.name).getD "-").toList,
      "Word:     ".toList ++ Text.quoted context.word,
      "Surround: ".toList ++ optionalText context.surround,
      "Match at: ".toList ++ (toString context.matchStart).toList]

/-- A hover text, or that there is none. -/
def hoverText : Option HoverInfo → Text
  | some info => info.contents
  | none => "No hover information".toList

/-- The sizes of a knowledge base as text. -/
def statsText (kb : KnowledgeBase) : Text :=
  let row (title : String) (n : Nat) : Text := (title ++ toString n).toList
  joined [
    "Knowledge base:".toList,
    row "  Components:      " kb.components.size,
    row "  Icons:           " kb.icons.length,
    row "  Utility classes: " kb.utilityClasses.length,
    row "  UI functions:    " kb.uiFunctions.length,
    row "  Mapped classes:  " kb.classMap.size]

/-- The result of a search that may meet a window that does not exist. -/
def searchReport {α : Type} (format : Format) (text : α → Text) (json : α → Json) :
    Except WindowFault α → Report
  | .error _ => .crash
  | .ok found =>
    .result (match format with
      | .text => text found
      | .json => (json found).pretty)

section

variable {m : Type → Type} [Monad m]

/-- Reads the file of a place and searches at its offset. -/
def search {α : Type} (files : FileSystem m) (place : Place) (format : Format) (text : α → Text)
    (json : α → Json) (run : Text → Nat → Except WindowFault α) : m Report := do
  match ← files.read place.file with
  | .error cause =>
    return .error ("failed to read ".toList ++ place.file.text) (some cause.message.toList)
  | .ok content =>
    let source := content.toList
    let offset := Text.offsetOfLineColumn source place.line place.column
    return searchReport format text json (run source offset)

/-- Reports the companion of a file. -/
def companionReport (files : FileSystem m) (format : Format) (file : Path) : m Report := do
  match ← Companion.find files file with
  | .error fault => return .error fault.message.toList none
  | .ok found =>
    return .result (match format with
      | .text => found.text
      | .json => (Json.obj [("companion", .ofText found.text)]).compact)

/-- Reports the preview page of an address. -/
def previewReport (address : Text) : Report :=
  match Preview.validate address with
  | .ok url => .result (Preview.page url)
  | .error fault => .error fault.message.toList none

/-- Runs a command with a knowledge base and settings. -/
def perform (files : FileSystem m) (format : Format) (engine : Engine) (settings : Settings) :
    Command → m Start
  | .serve => return .serve settings
  | .complete place max =>
    .done <$> search files place format completionsText
      (fun items => .arr (items.map Candidate.toJson))
      fun text offset => (engine.complete text offset).map (·.take max)
  | .context place =>
    .done <$> search files place format contextText (Json.ofOption Context.toJson) engine.context
  | .hover place =>
    .done <$> search files place format hoverText (Json.ofOption HoverInfo.toJson) engine.hover
  | .companion file => .done <$> companionReport files format file
  | .preview url => return .done (previewReport (url.getD settings.previewUrl.toList))
  | .stats =>
    return .done (.result (match format with
      | .text => statsText engine.kb
      | .json => (Json.obj (engine.kb.stats.map fun (name, n) => (name, .ofNat n))).pretty))

/-- The settings of an invocation: those of the file it names, or of the current directory. -/
def settingsOf (files : FileSystem m) : Option Path → m (Except Settings.LoadError Settings)
  | some path => Settings.load files path
  | none => .ok <$> Settings.discover files (Path.ofString ".")

/-- The knowledge base of an invocation: that of the directory it names, or one that is found from
the current directory. -/
def knowledgeOf (files : FileSystem m) (settings : Settings) : Option Path → m KnowledgeBase
  | some directory => Assets.loadDirectory files directory
  | none => do Assets.load files (← Assets.find files [Path.ofString "."] settings.searchPaths)

/-- The report of settings that could not be loaded. -/
def settingsReport : Settings.LoadError → Report
  | .read path cause => .error (Settings.readMessage path cause).toList (some cause.message.toList)
  | .parse path => .error ("failed to parse config file ".toList ++ path.text) none

/-- Runs an invocation. -/
def Invocation.run (files : FileSystem m) (invocation : Invocation) : m Start := do
  match ← settingsOf files invocation.config with
  | .error fault => return .done (settingsReport fault)
  | .ok settings =>
    if invocation.command = .serve then return .serve settings
    else
      let kb ← knowledgeOf files settings invocation.assets
      perform files invocation.format ⟨kb, settings.completion.lookback⟩ settings invocation.command

/-- Runs the program with its arguments. -/
def run (files : FileSystem m) (environment : Option Text) (arguments : List Text) : m Start :=
  match Invocation.parse environment arguments with
  | .ok invocation => invocation.run files
  | .error .help => return .explain
  | .error .version => return .done (.result versionText.toList)
  | .error .misuse => return .done .misuse

end

end FluentAssist.CommandLine
