import FluentAssist.Server.Lifecycle

/-!
# The settings after the start

A server is made with settings, for instance those of a file on its command line. When it starts,
a settings file of the workspace may replace them as a whole, and the options of the editor are
applied last. So three layers decide about a setting (`Settings.layered`), and of the four files of
a workspace the first one that loads is the layer.

`Server.start` follows the layers with one exception, which `start_settings_layered_iff` states
exactly. If a file is looked for and none loads, the settings that the server was made with are
given up for the defaults, instead of being kept.
-/

set_option autoImplicit false

namespace FluentAssist

open Protocol (StartParams)

/-- The directory of the workspace, if it is on this machine. -/
def Protocol.StartParams.directory? (params : StartParams) : Option Path :=
  params.workspace?.bind Url.toFilePath?

namespace Settings

/-- The settings of a file that is there and can be loaded. -/
def loaded? (files : FileSystem Id) (path : Path) : Option Settings :=
  if (files.holds path).run then (load files path).run.toOption else none

/-- The settings of the first settings file of a workspace that loads. -/
def ofWorkspace? (files : FileSystem Id) (root : Path) : Option Settings :=
  (fileNames.map fun name => root.join (Path.ofString name)).findSome? (loaded? files)

/-- The first file that loads counts, else one of the later ones. -/
theorem firstOf_cons (files : FileSystem Id) (path : Path) (later : List Path) :
    firstOf files (path :: later) = (loaded? files path).getD (firstOf files later) := by
  rw [firstOf, loaded?]
  cases hholds : (files.holds path).run with
  | false =>
    rw [show files.holds path = false from hholds]
    rfl
  | true =>
    rw [show files.holds path = true from hholds]
    cases hload : (load files path).run with
    | ok settings =>
      rw [show load files path = .ok settings from hload]
      rfl
    | error failure =>
      rw [show load files path = .error failure from hload]
      rfl

/-- Files that do not load are passed over; without one that does, the defaults remain. -/
theorem firstOf_eq (files : FileSystem Id) (paths : List Path) :
    firstOf files paths = (paths.findSome? (loaded? files)).getD {} := by
  induction paths with
  | nil => rfl
  | cons path later ih =>
    rw [firstOf_cons, List.findSome?_cons, ih]
    cases loaded? files path <;> rfl

/-- What is found in a workspace are the settings of its file, or else the defaults. -/
theorem discover_eq (files : FileSystem Id) (root : Path) :
    discover files root = (ofWorkspace? files root).getD {} :=
  firstOf_eq files _

/-! ## The options of the editor -/

/-- What the options of an editor set; nothing, if there are none or they are not understood. -/
def understood (options : Option Json) : ClientOptions :=
  (options.bind ClientOptions.decode?).getD {}

/-- The understood part of options sets what the options set. -/
theorem withOptions_understood (settings : Settings) (options : Option Json) :
    settings.withOptions (understood options) =
      match options with
      | some options => settings.applyClient options
      | none => settings := by
  cases options with
  | none => rfl
  | some options =>
    simp only [understood, applyClient, Option.bind_some]
    cases ClientOptions.decode? options <;> rfl

/-- Two settings agree in everything that the options do not set. -/
structure AgreeBeyond (options : ClientOptions) (settings other : Settings) : Prop where
  server : settings.server = other.server
  searchPaths : settings.searchPaths = other.searchPaths
  lookback : settings.completion.lookback = other.completion.lookback
  cacheCapacity : settings.completion.cacheCapacity = other.completion.cacheCapacity
  analyzer : settings.analyzer = other.analyzer
  stringSuggestions : options.stringSuggestions = none →
    settings.completion.stringSuggestions = other.completion.stringSuggestions
  previewUrl : options.url? = none → settings.previewUrl = other.previewUrl

/-- Options change what they set and nothing else. -/
theorem agreeBeyond_withOptions (settings : Settings) (options : ClientOptions) :
    AgreeBeyond options settings (settings.withOptions options) where
  server := rfl
  searchPaths := rfl
  lookback := rfl
  cacheCapacity := rfl
  analyzer := rfl
  stringSuggestions := fun hnone => by simp [withOptions, hnone]
  previewUrl := fun hnone => by simp [withOptions, hnone]

/-- Options make two settings the same exactly if these agree in all that the options do not set. -/
theorem withOptions_eq_iff {settings other : Settings} {options : ClientOptions} :
    settings.withOptions options = other.withOptions options ↔
      AgreeBeyond options settings other := by
  constructor
  · intro heq
    have hsettings := agreeBeyond_withOptions settings options
    have hother := agreeBeyond_withOptions other options
    rw [heq] at hsettings
    exact ⟨hsettings.server.trans hother.server.symm,
      hsettings.searchPaths.trans hother.searchPaths.symm,
      hsettings.lookback.trans hother.lookback.symm,
      hsettings.cacheCapacity.trans hother.cacheCapacity.symm,
      hsettings.analyzer.trans hother.analyzer.symm,
      fun hnone => (hsettings.stringSuggestions hnone).trans (hother.stringSuggestions hnone).symm,
      fun hnone => (hsettings.previewUrl hnone).trans (hother.previewUrl hnone).symm⟩
  · intro hagree
    have hsuggestions :
        options.stringSuggestions.getD settings.completion.stringSuggestions =
          options.stringSuggestions.getD other.completion.stringSuggestions := by
      cases hset : options.stringSuggestions with
      | none => exact hagree.stringSuggestions hset
      | some enabled => rfl
    have hurl : options.url?.getD settings.previewUrl = options.url?.getD other.previewUrl := by
      cases hset : options.url? with
      | none => exact hagree.previewUrl hset
      | some url => rfl
    simp only [withOptions]
    rw [hagree.server, hagree.searchPaths, hagree.lookback, hagree.cacheCapacity, hagree.analyzer,
      hsuggestions, hurl]

/-! ## The layers -/

/-- Whether a settings file is looked for in a workspace. -/
def Searched (settings : Settings) (root : Option Path) : Prop :=
  root.isSome ∧ settings.server.workspaceDiscovery = true

instance (settings : Settings) (root : Option Path) : Decidable (settings.Searched root) :=
  inferInstanceAs (Decidable (_ ∧ _))

/-- The settings of the workspace file that counts, if one is looked for and loads. -/
def fileLayer? (files : FileSystem Id) (settings : Settings) (root : Option Path) :
    Option Settings :=
  if settings.Searched root then root.bind (ofWorkspace? files) else none

/-- The layers of settings: those that the server was made with, or else those of the workspace,
and over them the options of the editor. -/
def layered (files : FileSystem Id) (settings : Settings) (root : Option Path)
    (options : Option Json) : Settings :=
  ((fileLayer? files settings root).getD settings).withOptions (understood options)

end Settings

namespace Server

open Settings

/-- The start takes the settings of the workspace, else the defaults if it has looked for them, else
its own, and sets the options over them. -/
theorem startSettings_eq (files : FileSystem Id) (settings : Settings) (root : Option Path)
    (options : Option Json) :
    startSettings files settings root options =
      ((fileLayer? files settings root).getD
        (if settings.Searched root then {} else settings)).withOptions (understood options) := by
  cases root with
  | none =>
    rw [withOptions_understood]
    rfl
  | some root =>
    cases hdiscovery : settings.server.workspaceDiscovery with
    | false =>
      have hidle : ¬ settings.Searched (some root) := by simp [Searched, hdiscovery]
      rw [fileLayer?, if_neg hidle, if_neg hidle, withOptions_understood]
      simp only [startSettings, hdiscovery]
      rfl
    | true =>
      have hsearched : settings.Searched (some root) := ⟨rfl, hdiscovery⟩
      rw [fileLayer?, if_pos hsearched, if_pos hsearched, withOptions_understood]
      simp only [startSettings, hdiscovery, discover_eq]
      rfl

/-- **Settings are layered unless a search for a file is in vain.** Whatever settings a server was
made with, whatever files there are and whatever the editor sends: after the start the settings are
those of the first workspace file that loads, if one is looked for, under the options of the editor.
If none is looked for, they are those that the server was made with; if the search is in vain, they
are the defaults. So the layers are kept exactly if the search is not in vain, or if the server was
made with the defaults but for what the options set. -/
theorem start_settings_layered_iff (files : FileSystem Id) (server : Server)
    (params : StartParams) :
    ((start files server params).run.settings =
      ((fileLayer? files server.settings params.directory?).getD
        (if server.settings.Searched params.directory? then {}
          else server.settings)).withOptions (understood params.options)) ∧
    ((start files server params).run.settings =
        layered files server.settings params.directory? params.options ↔
      ¬ server.settings.Searched params.directory? ∨
      (fileLayer? files server.settings params.directory?).isSome ∨
      AgreeBeyond (understood params.options) {} server.settings) := by
  have hstart := startSettings_eq files server.settings
    params.directory? params.options
  have hsettings : (start files server params).run.settings =
      startSettings files server.settings params.directory?
        params.options := rfl
  refine ⟨hsettings.trans hstart, ?_⟩
  rw [hsettings, hstart, layered, withOptions_eq_iff]
  by_cases hsearched : server.settings.Searched params.directory?
  · rw [if_pos hsearched]
    cases fileLayer? files server.settings params.directory? with
    | none => simp [hsearched]
    | some settings => simp [withOptions_eq_iff.1 (rfl : settings.withOptions _ = _)]
  · rw [if_neg hsearched]
    exact iff_of_true (withOptions_eq_iff.1 rfl) (Or.inl hsearched)

/-! ## A name that is given up -/

/-- A server that was given a name of its own. -/
def namedServer : Server where
  settings := { server := { name := "custom" } }

/-- An introduction that tells of a workspace and nothing else. -/
def workspaceOnly : StartParams where
  folders := []
  root := some { scheme := "file".toList, path := .segments ["w".toList] }
  options := none

/-- In a workspace without files the server goes by its default name. -/
theorem vain_search_resets_settings :
    workspaceOnly.directory? = some (Path.ofString "/w") ∧
    fileLayer? (FileTree.files ⟨[], []⟩) namedServer.settings workspaceOnly.directory? = none ∧
    layered (FileTree.files ⟨[], []⟩) namedServer.settings workspaceOnly.directory? none =
      namedServer.settings ∧
    (start (FileTree.files ⟨[], []⟩) namedServer workspaceOnly).run.settings = {} ∧
    (start (FileTree.files ⟨[], []⟩) namedServer workspaceOnly).run.settings.server.name =
      "nicegui-lsp" := by
  refine ⟨by decide +kernel, by decide +kernel, by decide +kernel, by decide +kernel,
    by decide +kernel⟩

end Server

end FluentAssist
