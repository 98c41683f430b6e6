import FluentAssist.Settings.Client
import Mathlib.Data.List.Induction

/-!
# Options that come one after the other

An editor sends options as any JSON value, at the start and later on. `WellTyped` says which values
are understood, by the parts of a value and without decoding it: a value is an object or a list of
three parts at most, and every part that is there has its type. Such a value may give one or two
settings (`givenSuggestions?`, `givenUrl?`); any other value gives nothing, also by those of its
parts that are in order.

`client_options_apply_atomically` is the main statement. After a run of values each of the two
settings is the one that was given last (`LastGiven`), and all others are what they were.
-/

set_option autoImplicit false

namespace FluentAssist

namespace ClientOptions

/-! ## The parts of a value -/

/-- A part of a record: the member with a key, or the item at a place if the record is a list. -/
def part? (key : String) (place : Nat) : Json → Option Json
  | .obj members => members.lookup key
  | .arr items => items[place]?
  | _ => none

/-- A value that can be a record of some fields: an object, or a list that is not longer. -/
def IsRecord (fields : Nat) : Json → Prop
  | .obj _ => True
  | .arr items => items.length ≤ fields
  | _ => False

/-- A part that is missing or `null`. -/
def LeftOut (part : Option Json) : Prop := part = none ∨ part = some .null

/-- The part about quotation marks. -/
def suggestionsPart (value : Json) : Option Json := part? "enableStringSuggestions" 0 value

/-- The part about the preview. -/
def previewPart (value : Json) : Option Json := part? "preview" 1 value

/-- The address in the part about the preview. -/
def nestedUrlPart (value : Json) : Option Json := (previewPart value).bind (part? "url" 0)

/-- The address that is a part of its own. -/
def flatUrlPart (value : Json) : Option Json := part? "preview.url" 2 value

/-- A value of the right shape in which every part is left out or has its type. -/
structure WellTyped (value : Json) : Prop where
  record : IsRecord 3 value
  suggestions : LeftOut (suggestionsPart value) ∨
    ∃ enabled, suggestionsPart value = some (.bool enabled)
  preview : LeftOut (previewPart value) ∨
    ∃ preview, previewPart value = some preview ∧ IsRecord 1 preview
  nestedUrl : LeftOut (nestedUrlPart value) ∨ ∃ url, nestedUrlPart value = some (.str url)
  flatUrl : LeftOut (flatUrlPart value) ∨ ∃ url, flatUrlPart value = some (.str url)

/-- Whether quotation marks trigger completion, if a value tells. -/
def givenSuggestions? (value : Json) : Option Bool := (suggestionsPart value).bind Json.bool?

/-- The address of the preview that a value gives. The one in the part about the preview wins. -/
def givenUrl? (value : Json) : Option String :=
  ((nestedUrlPart value).bind Json.string?).or ((flatUrlPart value).bind Json.string?)

/-! ## Decoding -/

section Optional

variable {α : Type} {read : Json → Option α} {part : Option Json} {result : Option α}

/-- A part that is left out is read as nothing. -/
theorem optional?_of_leftOut (h : LeftOut part) : Json.optional? read part = some none := by
  rcases h with rfl | rfl <;> rfl

/-- A part that is not left out has to be read. -/
theorem optional?_of_not_leftOut {value : Json} (h : ¬ LeftOut (some value)) :
    Json.optional? read (some value) = (read value).map some := by
  cases value with
  | null => exact absurd (.inr rfl) h
  | bool | num | str | arr | obj => rfl

/-- A part is understood exactly if it is left out or can be read, and then it is what is read. -/
theorem optional?_eq_some_iff (hnull : read .null = none) :
    Json.optional? read part = some result ↔
      (LeftOut part ∨ ∃ value, part = some value ∧ (read value).isSome) ∧
        part.bind read = result := by
  by_cases hleft : LeftOut part
  · have hnone : part.bind read = none := by
      rcases hleft with rfl | rfl
      · rfl
      · exact hnull
    rw [optional?_of_leftOut hleft, hnone, Option.some.injEq]
    exact ⟨fun h => ⟨.inl hleft, h⟩, fun h => h.2⟩
  · cases part with
    | none => exact absurd (.inl rfl) hleft
    | some value =>
      rw [optional?_of_not_leftOut hleft, Option.map_eq_some_iff, Option.bind_some]
      constructor
      · rintro ⟨a, ha, rfl⟩
        exact ⟨.inr ⟨value, rfl, by rw [ha]; rfl⟩, ha⟩
      · rintro ⟨hleft' | ⟨_, hvalue, hread⟩, rfl⟩
        · exact absurd hleft' hleft
        · cases hvalue
          obtain ⟨a, ha⟩ := Option.isSome_iff_exists.1 hread
          exact ⟨a, ha, ha.symm⟩

/-- The same for a reader of one kind of value. -/
theorem optional?_eq_some_iff_of_kind {kind : α → Json} (hnull : read .null = none)
    (hkind : ∀ value, (read value).isSome ↔ ∃ a, value = kind a) :
    Json.optional? read part = some result ↔
      (LeftOut part ∨ ∃ a, part = some (kind a)) ∧ part.bind read = result := by
  have hread : (∃ value, part = some value ∧ (read value).isSome) ↔ ∃ a, part = some (kind a) := by
    constructor
    · rintro ⟨value, hpart, hvalue⟩
      obtain ⟨a, rfl⟩ := (hkind value).1 hvalue
      exact ⟨a, hpart⟩
    · rintro ⟨a, hpart⟩
      exact ⟨kind a, hpart, (hkind _).2 ⟨a, rfl⟩⟩
  rw [optional?_eq_some_iff hnull, hread]

end Optional

/-- An optional truth value is read exactly if it is left out or one. -/
theorem optional?_bool?_eq_some_iff {part : Option Json} {result : Option Bool} :
    Json.optional? Json.bool? part = some result ↔
      (LeftOut part ∨ ∃ enabled, part = some (.bool enabled)) ∧ part.bind Json.bool? = result := by
  refine optional?_eq_some_iff_of_kind rfl fun value => ?_
  cases value <;> simp [Json.bool?]

/-- An optional text is read exactly if it is left out or one. -/
theorem optional?_string?_eq_some_iff {part : Option Json} {result : Option String} :
    Json.optional? Json.string? part = some result ↔
      (LeftOut part ∨ ∃ text, part = some (.str text)) ∧ part.bind Json.string? = result := by
  refine optional?_eq_some_iff_of_kind rfl fun value => ?_
  cases value <;> simp [Json.string?]

/-- The part about the preview is a record of one part, its address. -/
theorem previewUrl?_eq_some_iff {preview : Json} {result : Option String} :
    previewUrl? preview = some result ↔
      IsRecord 1 preview ∧
        (LeftOut (part? "url" 0 preview) ∨ ∃ url, part? "url" 0 preview = some (.str url)) ∧
        (part? "url" 0 preview).bind Json.string? = result := by
  rw [← optional?_string?_eq_some_iff]
  rcases preview with _ | _ | _ | _ | ⟨_ | ⟨url, _ | ⟨other, items⟩⟩⟩ | members <;>
    simp [previewUrl?, part?, IsRecord, Json.optional?]

/-- What the part about the preview says, when it is understood. -/
theorem optional?_previewUrl?_eq_some_iff {value : Json} {result : Option (Option String)} :
    Json.optional? previewUrl? (previewPart value) = some result ↔
      (LeftOut (previewPart value) ∨
        ∃ preview, previewPart value = some preview ∧ IsRecord 1 preview) ∧
      (LeftOut (nestedUrlPart value) ∨ ∃ url, nestedUrlPart value = some (.str url)) ∧
      (previewPart value).bind previewUrl? = result := by
  rw [optional?_eq_some_iff rfl, nestedUrlPart]
  cases hpart : previewPart value with
  | none => simp [LeftOut]
  | some preview =>
    by_cases hnull : preview = .null
    · simp [hnull, LeftOut, part?]
    · have hread : (previewUrl? preview).isSome ↔ IsRecord 1 preview ∧
          (LeftOut (part? "url" 0 preview) ∨ ∃ url, part? "url" 0 preview = some (.str url)) := by
        simp [Option.isSome_iff_exists, previewUrl?_eq_some_iff]
      simp [LeftOut, hnull, hread, and_assoc]

/-- Options are read from their parts exactly if each part is read. -/
theorem ofParts?_eq_some_iff {suggestions preview flat : Option Json} {options : ClientOptions} :
    ofParts? suggestions preview flat = some options ↔
      ∃ enabled, Json.optional? Json.bool? suggestions = some enabled ∧
        ∃ nested, Json.optional? previewUrl? preview = some nested ∧
          ∃ url, Json.optional? Json.string? flat = some url ∧
            ⟨enabled, nested.join, url⟩ = options := by
  simp only [ofParts?, Option.bind_eq_bind, Option.bind_eq_some_iff, Option.pure_def,
    Option.some.injEq]

/-- Only records are decoded, and part by part. -/
theorem decode?_eq_some_iff_parts {value : Json} {options : ClientOptions} :
    decode? value = some options ↔
      IsRecord 3 value ∧
        ofParts? (suggestionsPart value) (previewPart value) (flatUrlPart value) =
          some options := by
  cases value <;> simp [decode?, IsRecord, suggestionsPart, previewPart, flatUrlPart, part?]

/-- The address in the part about the preview is what is read of it. -/
theorem join_eq_of_optional?_previewUrl? {value : Json} {read : Option (Option String)}
    (h : Json.optional? previewUrl? (previewPart value) = some read) :
    read.join = (nestedUrlPart value).bind Json.string? := by
  rw [optional?_eq_some_iff rfl] at h
  obtain ⟨hpart, rfl⟩ := h
  rw [nestedUrlPart]
  rcases hpart with (hpart | hpart) | ⟨preview, hpart, hread⟩
  · rw [hpart]
    rfl
  · rw [hpart]
    rfl
  · obtain ⟨result, hresult⟩ := Option.isSome_iff_exists.1 hread
    rw [hpart, Option.bind_some, Option.bind_some, hresult,
      (previewUrl?_eq_some_iff.1 hresult).2.2]
    rfl

/-- A value is understood exactly if it is well typed; then each option is what its part says. -/
theorem decode?_eq_some_iff {value : Json} {options : ClientOptions} :
    decode? value = some options ↔
      WellTyped value ∧
        ⟨givenSuggestions? value, (nestedUrlPart value).bind Json.string?,
          (flatUrlPart value).bind Json.string?⟩ = options := by
  rw [decode?_eq_some_iff_parts, ofParts?_eq_some_iff]
  constructor
  · rintro ⟨hrecord, enabled, henabled, nested, hnested, url, hurl, rfl⟩
    rw [join_eq_of_optional?_previewUrl? hnested]
    obtain ⟨hsuggestions, rfl⟩ := optional?_bool?_eq_some_iff.1 henabled
    obtain ⟨hpreview, hnestedUrl, -⟩ := optional?_previewUrl?_eq_some_iff.1 hnested
    obtain ⟨hflat, rfl⟩ := optional?_string?_eq_some_iff.1 hurl
    exact ⟨⟨hrecord, hsuggestions, hpreview, hnestedUrl, hflat⟩, rfl⟩
  · rintro ⟨htyped, rfl⟩
    have hnested : Json.optional? previewUrl? (previewPart value) =
        some ((previewPart value).bind previewUrl?) :=
      optional?_previewUrl?_eq_some_iff.2 ⟨htyped.preview, htyped.nestedUrl, rfl⟩
    refine ⟨htyped.record, _, optional?_bool?_eq_some_iff.2 ⟨htyped.suggestions, rfl⟩,
      _, hnested, _, optional?_string?_eq_some_iff.2 ⟨htyped.flatUrl, rfl⟩, ?_⟩
    rw [join_eq_of_optional?_previewUrl? hnested]
    rfl

/-- Options are read exactly if they are well-typed. -/
theorem isSome_decode?_iff {value : Json} : (decode? value).isSome ↔ WellTyped value := by
  rw [Option.isSome_iff_exists]
  constructor
  · rintro ⟨options, h⟩
    exact (decode?_eq_some_iff.1 h).1
  · intro htyped
    exact ⟨_, decode?_eq_some_iff.2 ⟨htyped, rfl⟩⟩

/-! ## What was given last -/

/-- `found` is what the last well-typed value gives that gives anything, or else `initial`. -/
inductive LastGiven {α : Type} (given? : Json → Option α) (initial : α) : List Json → α → Prop
  | never (values : List Json) (h : ∀ value ∈ values, WellTyped value → given? value = none) :
      LastGiven given? initial values initial
  | once (earlier : List Json) (value : Json) (later : List Json) (found : α)
      (htyped : WellTyped value) (hgiven : given? value = some found)
      (hlater : ∀ other ∈ later, WellTyped other → given? other = none) :
      LastGiven given? initial (earlier ++ value :: later) found

namespace LastGiven

variable {α : Type} {given? : Json → Option α} {initial found : α} {values : List Json}
  {value : Json}

/-- A value that gives nothing changes nothing. -/
theorem skip (h : LastGiven given? initial values found)
    (hnone : WellTyped value → given? value = none) :
    LastGiven given? initial (values ++ [value]) found := by
  cases h with
  | never values hvalues =>
    refine .never _ ?_
    rw [List.forall_mem_append, List.forall_mem_singleton]
    exact ⟨hvalues, hnone⟩
  | once earlier given later found htyped hgiven hlater =>
    rw [List.append_assoc, List.cons_append]
    refine .once earlier given _ found htyped hgiven ?_
    rw [List.forall_mem_append, List.forall_mem_singleton]
    exact ⟨hlater, hnone⟩

/-- One more well-typed value gives what it gives, or else leaves what there was. -/
theorem concat (h : LastGiven given? initial values found) (htyped : WellTyped value) :
    LastGiven given? initial (values ++ [value]) ((given? value).getD found) := by
  cases hgiven : given? value with
  | none => exact h.skip fun _ => hgiven
  | some newer => exact .once values value [] newer htyped hgiven (by simp)

end LastGiven

end ClientOptions

namespace Settings

open ClientOptions

/-- Options that are not well-typed change nothing. -/
theorem applyClient_of_not_wellTyped {value : Json} (h : ¬ WellTyped value) (settings : Settings) :
    settings.applyClient value = settings := by
  rw [← isSome_decode?_iff, Option.not_isSome_iff_eq_none] at h
  rw [applyClient, h]

/-- Well-typed options set what they give and nothing else. -/
theorem applyClient_of_wellTyped {value : Json} (h : WellTyped value) (settings : Settings) :
    settings.applyClient value =
      { settings with
        completion :=
          { settings.completion with
            stringSuggestions :=
              (givenSuggestions? value).getD settings.completion.stringSuggestions }
        previewUrl := (givenUrl? value).getD settings.previewUrl } := by
  rw [applyClient, decode?_eq_some_iff.2 ⟨h, rfl⟩]
  rfl

/-- Applying a value a second time changes nothing. -/
theorem applyClient_applyClient (settings : Settings) (value : Json) :
    (settings.applyClient value).applyClient value = settings.applyClient value := by
  by_cases htyped : WellTyped value
  · rw [applyClient_of_wellTyped htyped, applyClient_of_wellTyped htyped]
    cases givenSuggestions? value <;> cases givenUrl? value <;> rfl
  · rw [applyClient_of_not_wellTyped htyped, applyClient_of_not_wellTyped htyped]

/-- **Options of an editor are applied as a whole, and the last ones win.** For all settings and
every run of values: a value is understood exactly if it is well typed; any other value changes
nothing, and a well-typed one sets at most the two settings that it gives. After the run, each of
the two settings is what the last well-typed value gave that gave anything, or what it was if none
did, and nothing else has changed. A value that is applied twice in a row has the effect of one. -/
theorem client_options_apply_atomically (settings : Settings) (values : List Json) :
    (∀ value, (decode? value).isSome ↔ WellTyped value) ∧
    (∀ value, ¬ WellTyped value → settings.applyClient value = settings) ∧
    (∀ value, WellTyped value → settings.applyClient value =
      { settings with
        completion :=
          { settings.completion with
            stringSuggestions :=
              (givenSuggestions? value).getD settings.completion.stringSuggestions }
        previewUrl := (givenUrl? value).getD settings.previewUrl }) ∧
    (∃ enabled url,
      LastGiven givenSuggestions? settings.completion.stringSuggestions values enabled ∧
      LastGiven givenUrl? settings.previewUrl values url ∧
      values.foldl applyClient settings =
        { settings with
          completion := { settings.completion with stringSuggestions := enabled }
          previewUrl := url }) ∧
    ∀ value, (values ++ [value, value]).foldl applyClient settings =
      (values ++ [value]).foldl applyClient settings := by
  refine ⟨fun _ => isSome_decode?_iff, fun _ h => applyClient_of_not_wellTyped h settings,
    fun _ h => applyClient_of_wellTyped h settings, ?_, ?_⟩
  · induction values using List.reverseRecOn with
    | nil =>
      exact ⟨_, _, .never [] (by simp), .never [] (by simp), rfl⟩
    | append_singleton values value ih =>
      obtain ⟨enabled, url, henabled, hurl, hvalues⟩ := ih
      rw [List.foldl_append, List.foldl_cons, List.foldl_nil, hvalues]
      by_cases htyped : WellTyped value
      · exact ⟨_, _, henabled.concat htyped, hurl.concat htyped,
          applyClient_of_wellTyped htyped _⟩
      · exact ⟨enabled, url, henabled.skip fun h => absurd h htyped,
          hurl.skip fun h => absurd h htyped, applyClient_of_not_wellTyped htyped _⟩
  · intro value
    rw [List.foldl_append, List.foldl_append]
    exact applyClient_applyClient _ value

/-- The second value is not understood, so its first part does not count either. -/
example :
    (([.obj [("enableStringSuggestions", .bool false)],
        .obj [("enableStringSuggestions", .bool true), ("preview.url", .num (.int 7))],
        .arr [.null, .obj [("url", .str "a:")], .str "b:"]] : List Json).foldl applyClient {}) =
      { completion := { stringSuggestions := false }, previewUrl := "a:" } := by
  decide

end Settings

end FluentAssist
