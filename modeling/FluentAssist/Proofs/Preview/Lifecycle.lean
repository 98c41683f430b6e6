import FluentAssist.Preview
import Mathlib.Data.List.Induction

/-!
# The life of a preview

An editor opens the preview and closes it, in any order and with any address. A `Visit` is one such
call with its answer and the preview before and after it, and `history` has the visits of a whole
run. `Visit.Lawful` lists all that a call can do: an open preview is revealed whatever address is
configured, a closed one is created or refused, and closing tells whether there was one.

`panel_follows_history` is the main statement. What is shown at the end of a run, and what each
answer of the run says, can be read off the answers before. Creations and removals alternate because
the visits of any run keep a balance (`balance`): a preview that was created is still there or was
removed.
-/

set_option autoImplicit false

namespace FluentAssist

/-- The address that an action reports. -/
def PreviewAction.url : PreviewAction → Url
  | .reveal url => url
  | .create url => url

namespace Preview

/-- What an editor asks for. -/
inductive Call
  /-- To see the preview, with the address that is configured. -/
  | opening (configured : Text)
  /-- To close it. -/
  | disposing
  deriving DecidableEq

/-- What it is answered. -/
inductive Reply
  | opened (result : Except PreviewError PreviewAction)
  /-- Tells whether there was a preview. -/
  | disposed (existed : Bool)

/-- A call with its answer, and the preview before and after it. -/
structure Visit where
  before : Preview
  call : Call
  reply : Reply
  after : Preview

/-- The visit in which a call is answered. -/
def visit (preview : Preview) : Call → Visit
  | .opening configured =>
    let answered := preview.openPanel configured
    ⟨preview, .opening configured, .opened answered.2, answered.1⟩
  | .disposing => ⟨preview, .disposing, .disposed preview.dispose.2, preview.dispose.1⟩

/-- The visits of a run of calls. -/
def history : Preview → List Call → List Visit
  | _, [] => []
  | preview, call :: calls => visit preview call :: history (visit preview call).after calls

/-- The preview after a run of calls. -/
def afterCalls (preview : Preview) (calls : List Call) : Preview :=
  calls.foldl (fun preview call => (visit preview call).after) preview

/-- Whether a preview was created. -/
def Visit.isCreation (visit : Visit) : Bool :=
  match visit.reply with
  | .opened (.ok (.create _)) => true
  | _ => false

/-- Whether a preview was closed that was there. -/
def Visit.isRemoval (visit : Visit) : Bool :=
  match visit.reply with
  | .disposed existed => existed
  | _ => false

/-! ## One call -/

/-- An address that is accepted has one of the schemes. -/
theorem scheme_mem_of_validate {configured : Text} {url : Url} (h : validate configured = .ok url) :
    url.scheme ∈ schemes := by
  unfold validate at h
  split at h
  · split at h
    · next hscheme =>
      cases h
      simpa using hscheme
    · cases h
  · cases h

/-- An address that is refused is named. -/
theorem eq_invalidUrl_of_validate {configured : Text} {fault : PreviewError}
    (h : validate configured = .error fault) : fault = .invalidUrl configured := by
  unfold validate at h
  split at h
  · split at h <;> cases h
    rfl
  · cases h
    rfl

/-- All that can happen in a visit. -/
inductive Visit.Lawful : Visit → Prop
  | reveals (url : Url) (configured : Text) :
      Lawful ⟨⟨some url⟩, .opening configured, .opened (.ok (.reveal url)), ⟨some url⟩⟩
  | creates (url : Url) (configured : Text) (h : validate configured = .ok url) :
      Lawful ⟨⟨none⟩, .opening configured, .opened (.ok (.create url)), ⟨some url⟩⟩
  | refuses (fault : PreviewError) (configured : Text) (h : validate configured = .error fault) :
      Lawful ⟨⟨none⟩, .opening configured, .opened (.error fault), ⟨none⟩⟩
  | disposes (panel : Option Url) :
      Lawful ⟨⟨panel⟩, .disposing, .disposed panel.isSome, ⟨none⟩⟩

/-- Every call does what a call may do. -/
theorem lawful_visit (preview : Preview) (call : Call) : (visit preview call).Lawful := by
  obtain ⟨panel⟩ := preview
  cases call with
  | disposing => exact .disposes panel
  | opening configured =>
    cases panel with
    | some url => exact .reveals url configured
    | none =>
      cases hvalid : validate configured with
      | ok url =>
        have hopen : openPanel ⟨none⟩ configured = (⟨some url⟩, .ok (.create url)) := by
          simp only [openPanel, hvalid]
        rw [visit, hopen]
        exact .creates url configured hvalid
      | error fault =>
        have hopen : openPanel ⟨none⟩ configured = (⟨none⟩, .error fault) := by
          simp only [openPanel, hvalid]
        rw [visit, hopen]
        exact .refuses fault configured hvalid

/-- A visit begins with the preview as it is. -/
@[simp] theorem visit_before (preview : Preview) (call : Call) :
    (visit preview call).before = preview := by
  cases call <;> rfl

/-- A visit is made by its call. -/
@[simp] theorem visit_call (preview : Preview) (call : Call) :
    (visit preview call).call = call := by
  cases call <;> rfl

namespace Visit.Lawful

variable {visit : Visit} {url : Url}

/-- A panel is created only if there is none, and then there is one for the address. -/
theorem of_created (h : visit.Lawful) (hreply : visit.reply = .opened (.ok (.create url))) :
    visit.before.panel = none ∧ visit.after.panel = some url := by
  cases h with
  | creates =>
    cases hreply
    exact ⟨rfl, rfl⟩
  | reveals | refuses | disposes => cases hreply

/-- A panel is revealed only if there is one for the address. -/
theorem of_revealed (h : visit.Lawful) (hreply : visit.reply = .opened (.ok (.reveal url))) :
    visit.before.panel = some url := by
  cases h with
  | reveals =>
    cases hreply
    rfl
  | creates | refuses | disposes => cases hreply

/-- A call is refused only while no panel is open, with the address that it was called with, and
then changes nothing. -/
theorem of_refused {fault : PreviewError} (h : visit.Lawful)
    (hreply : visit.reply = .opened (.error fault)) :
    (∃ configured, visit.call = .opening configured ∧ fault = .invalidUrl configured) ∧
      visit.before.isOpen = false ∧ visit.after = visit.before := by
  cases h with
  | refuses fault' configured hinvalid =>
    cases hreply
    exact ⟨⟨configured, rfl, eq_invalidUrl_of_validate hinvalid⟩, rfl, rfl⟩
  | reveals | creates | disposes => cases hreply

/-- An opening while nothing is shown creates a preview exactly if the address is in order. -/
theorem created_iff {configured : Text} (h : visit.Lawful)
    (hcall : visit.call = .opening configured) (hclosed : visit.before.isOpen = false) :
    visit.reply = .opened (.ok (.create url)) ↔ validate configured = .ok url := by
  cases h with
  | reveals => cases hclosed
  | creates created configured' hvalid =>
    cases hcall
    rw [hvalid]
    simp
  | refuses fault configured' hinvalid =>
    cases hcall
    rw [hinvalid]
    simp
  | disposes => cases hcall

/-- A preview that is shown stays as it is until it is closed, and is revealed at every opening. -/
theorem stays (h : visit.Lawful) (hshown : visit.before.panel = some url)
    (hcall : visit.call ≠ .disposing) :
    visit.after.panel = some url ∧ visit.reply = .opened (.ok (.reveal url)) := by
  cases h with
  | reveals =>
    cases hshown
    exact ⟨rfl, rfl⟩
  | creates | refuses => cases hshown
  | disposes => exact absurd rfl hcall

/-- What is shown after a visit was created in it, or was shown before and not closed. -/
theorem shown_cases (h : visit.Lawful) (hshown : visit.after.panel = some url) :
    visit.reply = .opened (.ok (.create url)) ∨
      visit.before.panel = some url ∧ visit.call ≠ .disposing := by
  cases h with
  | reveals => exact .inr ⟨hshown, by simp⟩
  | creates =>
    cases hshown
    exact .inl rfl
  | refuses | disposes => cases hshown

/-- A visit changes whether there is a preview exactly by a creation or a removal. -/
theorem balance (h : visit.Lawful) :
    visit.isCreation.toNat + visit.before.isOpen.toNat =
      visit.isRemoval.toNat + visit.after.isOpen.toNat := by
  cases h with
  | reveals | creates | refuses => rfl
  | disposes panel => cases panel <;> rfl

end Visit.Lawful

/-- A creation replies with the address of the new panel. -/
theorem exists_of_isCreation {visit : Visit} (h : visit.isCreation = true) :
    ∃ url, visit.reply = .opened (.ok (.create url)) := by
  unfold Visit.isCreation at h
  split at h
  · next url hreply => exact ⟨url, hreply⟩
  · cases h

/-! ## A run of calls -/

variable {preview : Preview} {calls : List Call} {url : Url}

/-- Calls one after another have one history after the other. -/
theorem history_append (preview : Preview) (first second : List Call) :
    history preview (first ++ second) =
      history preview first ++ history (afterCalls preview first) second := by
  induction first generalizing preview with
  | nil => rfl
  | cons call first ih => rw [List.cons_append, history, history, ih, List.cons_append]; rfl

/-- The last call has its visit behind the history of the others. -/
theorem history_concat (preview : Preview) (calls : List Call) (call : Call) :
    history preview (calls ++ [call]) =
      history preview calls ++ [visit (afterCalls preview calls) call] := by
  rw [history_append]
  rfl

/-- The last call acts on what the others have left. -/
theorem afterCalls_concat (preview : Preview) (calls : List Call) (call : Call) :
    afterCalls preview (calls ++ [call]) = (visit (afterCalls preview calls) call).after := by
  rw [afterCalls, List.foldl_append]
  rfl

/-- Every call has its visit, in their order. -/
theorem map_call_history (preview : Preview) (calls : List Call) :
    (history preview calls).map Visit.call = calls := by
  induction calls generalizing preview with
  | nil => rfl
  | cons call calls ih => rw [history, List.map_cons, visit_call, ih]

/-- Every visit of a run belongs to a call, and the visits around it to the calls around that. -/
theorem exists_of_history_eq {earlier later : List Visit} {found : Visit}
    (h : history preview calls = earlier ++ found :: later) :
    ∃ before call after, calls = before ++ call :: after ∧ earlier = history preview before ∧
      found = visit (afterCalls preview before) call ∧ later = history found.after after := by
  induction earlier generalizing preview calls with
  | nil =>
    cases calls with
    | nil => cases h
    | cons call calls =>
      rw [history, List.nil_append, List.cons.injEq] at h
      obtain ⟨rfl, rfl⟩ := h
      exact ⟨[], call, calls, rfl, rfl, rfl, rfl⟩
  | cons first earlier ih =>
    cases calls with
    | nil => cases h
    | cons call calls =>
      rw [history, List.cons_append, List.cons.injEq] at h
      obtain ⟨rfl, hrest⟩ := h
      obtain ⟨before, call', after, rfl, rfl, hfound, hlater⟩ := ih hrest
      exact ⟨call :: before, call', after, rfl, rfl, hfound, hlater⟩

/-- All visits of a history do what calls may do. -/
theorem lawful_of_mem {found : Visit} (h : found ∈ history preview calls) : found.Lawful := by
  obtain ⟨earlier, later, hsplit⟩ := List.append_of_mem h
  obtain ⟨before, call, -, -, -, rfl, -⟩ := exists_of_history_eq hsplit
  exact lawful_visit _ call

/-- Previews that were there or were created are still there or were removed. -/
theorem balance (preview : Preview) (calls : List Call) :
    (history preview calls).countP Visit.isCreation + preview.isOpen.toNat =
      (history preview calls).countP Visit.isRemoval + (afterCalls preview calls).isOpen.toNat := by
  induction calls generalizing preview with
  | nil => rfl
  | cons call calls ih =>
    have hvisit := (lawful_visit preview call).balance
    have hrest := ih (visit preview call).after
    rw [visit_before] at hvisit
    have hcount : ∀ counts : Bool, (if counts = true then 1 else 0) = counts.toNat := by decide
    rw [history, List.countP_cons, List.countP_cons, hcount, hcount, afterCalls, List.foldl_cons,
      ← afterCalls]
    omega

/-- Until it is closed, a preview that is shown stays and is revealed at every opening. -/
theorem stays_shown (hshown : preview.panel = some url)
    (hcalls : ∀ found ∈ history preview calls, found.call ≠ .disposing) :
    (afterCalls preview calls).panel = some url ∧
      ∀ found ∈ history preview calls, found.reply = .opened (.ok (.reveal url)) := by
  induction calls generalizing preview with
  | nil => exact ⟨hshown, by simp [history]⟩
  | cons call calls ih =>
    rw [history, List.forall_mem_cons] at hcalls
    obtain ⟨hafter, hreply⟩ :=
      (lawful_visit preview call).stays (by rwa [visit_before]) hcalls.1
    obtain ⟨hend, hreplies⟩ := ih hafter hcalls.2
    refine ⟨hend, ?_⟩
    rw [history, List.forall_mem_cons]
    exact ⟨hreply, hreplies⟩

/-- A preview that was created and not closed since is shown. -/
theorem panel_of_created {earlier later : List Visit} {found : Visit}
    (h : history preview calls = earlier ++ found :: later)
    (hcreated : found.reply = .opened (.ok (.create url)))
    (hkept : ∀ other ∈ later, other.call ≠ .disposing) :
    (afterCalls preview calls).panel = some url := by
  obtain ⟨before, call, after, rfl, -, rfl, rfl⟩ := exists_of_history_eq h
  have hshown := ((lawful_visit _ call).of_created hcreated).2
  have hend := (stays_shown hshown hkept).1
  rwa [afterCalls, List.foldl_append, List.foldl_cons, ← afterCalls, ← afterCalls]

/-- The last creation of some visits was for an address, and `later` are the visits since then. -/
def LastCreated (visits : List Visit) (url : Url) (later : List Visit) : Prop :=
  ∃ earlier found, visits = earlier ++ found :: later ∧
    found.reply = .opened (.ok (.create url)) ∧ ∀ other ∈ later, other.isCreation = false

/-- A preview is shown exactly if one was created and not closed since. -/
theorem panel_afterCalls_eq_some_iff :
    (afterCalls {} calls).panel = some url ↔
      ∃ later, LastCreated (history {} calls) url later ∧
        ∀ found ∈ later, found.call ≠ .disposing := by
  constructor
  · intro hshown
    induction calls using List.reverseRecOn with
    | nil => cases hshown
    | append_singleton calls call ih =>
      rw [afterCalls_concat] at hshown
      rw [history_concat]
      rcases (lawful_visit _ call).shown_cases hshown with hcreated | ⟨hbefore, hcall⟩
      · exact ⟨[], ⟨_, _, rfl, hcreated, by simp⟩, by simp⟩
      · have hrevealed := ((lawful_visit _ call).stays hbefore hcall).2
        rw [visit_before] at hbefore
        obtain ⟨later, ⟨earlier, found, hsplit, hcreated, hlast⟩, hopen⟩ := ih hbefore
        refine ⟨later ++ [visit (afterCalls {} calls) call],
          ⟨earlier, found, by rw [hsplit, List.append_assoc, List.cons_append], hcreated, ?_⟩, ?_⟩
        · rw [List.forall_mem_append, List.forall_mem_singleton]
          exact ⟨hlast, by rw [Visit.isCreation, hrevealed]⟩
        · rw [List.forall_mem_append, List.forall_mem_singleton]
          exact ⟨hopen, hcall⟩
  · rintro ⟨later, ⟨earlier, found, hsplit, hcreated, -⟩, hopen⟩
    exact panel_of_created hsplit hcreated hopen

/-- A preview is open exactly if it has a panel. -/
theorem isOpen_iff_exists : preview.isOpen = true ↔ ∃ url, preview.panel = some url :=
  Option.isSome_iff_exists

/-- What is shown has an address of the web. -/
theorem scheme_mem_of_shown (hshown : (afterCalls {} calls).panel = some url) :
    url.scheme ∈ schemes := by
  obtain ⟨later, ⟨earlier, found, hsplit, hcreated, -⟩, -⟩ := panel_afterCalls_eq_some_iff.1 hshown
  have hlawful : found.Lawful := lawful_of_mem (by rw [hsplit]; simp)
  cases hlawful with
  | creates url' configured hvalid =>
    cases hcreated
    exact scheme_mem_of_validate hvalid
  | reveals | refuses | disposes => cases hcreated

/-- What an action reports in a run is an address of the web. -/
theorem scheme_mem_of_reported {found : Visit} {action : PreviewAction}
    (hfound : found ∈ history {} calls) (hreply : found.reply = .opened (.ok action)) :
    action.url.scheme ∈ schemes := by
  obtain ⟨earlier, later, hsplit⟩ := List.append_of_mem hfound
  obtain ⟨before, call, after, -, -, rfl, -⟩ := exists_of_history_eq hsplit
  cases action with
  | reveal url =>
    have hbefore := (lawful_visit _ call).of_revealed hreply
    rw [visit_before] at hbefore
    exact scheme_mem_of_shown hbefore
  | create url =>
    have hafter := ((lawful_visit _ call).of_created hreply).2
    rw [← afterCalls_concat] at hafter
    exact scheme_mem_of_shown hafter

/-- The text of an address starts with its scheme. -/
theorem scheme_prefix_href (url : Url) : url.scheme ++ [':'] <+: url.href := by
  unfold Url.href
  simp only [List.append_assoc]
  exact ⟨_, List.append_assoc _ _ _⟩

/-- Between a creation and the next one there is exactly one removal. -/
theorem countP_isRemoval_between {earlier between later : List Visit} {first second : Visit}
    (h : history preview calls = earlier ++ first :: (between ++ second :: later))
    (hfirst : first.isCreation = true) (hsecond : second.isCreation = true)
    (hbetween : ∀ other ∈ between, other.isCreation = false) :
    between.countP Visit.isRemoval = 1 := by
  obtain ⟨url, hcreated⟩ := exists_of_isCreation hfirst
  obtain ⟨url', hcreated'⟩ := exists_of_isCreation hsecond
  obtain ⟨-, -, after, -, -, -, hrest⟩ := exists_of_history_eq h
  obtain ⟨middle, call, -, -, rfl, rfl, -⟩ := exists_of_history_eq hrest.symm
  -- The stretch starts with a preview and ends without one, and nothing is created in it.
  have hlawful : first.Lawful := lawful_of_mem (by rw [h]; simp)
  have hstart := (hlawful.of_created hcreated).2
  have hend := ((lawful_visit _ call).of_created hcreated').1
  rw [visit_before] at hend
  have hnone : (history first.after middle).countP Visit.isCreation = 0 := by
    rw [List.countP_eq_zero]
    simpa using hbetween
  have hbalance := balance first.after middle
  simpa [hnone, isOpen, hstart, hend] using hbalance.symm

/-- **What a preview shows follows from its history.** For every run of calls on a preview that is
closed at first, there is one visit for each call, in their order, and:

* it is open at the end exactly if it was created and no call has closed it since;
* an answer that reveals a preview reports the address of the last creation before it, and every
  opening of an open preview is answered so, whatever address is configured;
* an opening while no preview is there creates one exactly if the configured address is in order;
* between a creation and the next one exactly one call has closed a preview that was there;
* a refusal names the configured address, is given only while no preview is there, and leaves all as
  it is;
* every address that is reported is one of the web, and its text starts with its scheme. -/
theorem panel_follows_history (calls : List Call) :
    (history {} calls).map Visit.call = calls ∧
    ((afterCalls {} calls).isOpen = true ↔ ∃ earlier found later,
      history {} calls = earlier ++ found :: later ∧ found.isCreation = true ∧
        ∀ other ∈ later, other.call ≠ .disposing) ∧
    (∀ earlier found later url, history {} calls = earlier ++ found :: later →
      found.reply = .opened (.ok (.reveal url)) → ∃ since, LastCreated earlier url since) ∧
    (∀ found ∈ history {} calls, ∀ configured, found.call = .opening configured →
      found.before.isOpen = true → ∃ url, found.reply = .opened (.ok (.reveal url))) ∧
    (∀ found ∈ history {} calls, ∀ configured, found.call = .opening configured →
      found.before.isOpen = false → ∀ url,
      found.reply = .opened (.ok (.create url)) ↔ validate configured = .ok url) ∧
    (∀ earlier first between second later,
      history {} calls = earlier ++ first :: (between ++ second :: later) →
      first.isCreation = true → second.isCreation = true →
      (∀ other ∈ between, other.isCreation = false) →
      between.countP Visit.isRemoval = 1) ∧
    (∀ found ∈ history {} calls, ∀ fault, found.reply = .opened (.error fault) →
      (∃ configured, found.call = .opening configured ∧ fault = .invalidUrl configured) ∧
        found.before.isOpen = false ∧ found.after = found.before) ∧
    ∀ found ∈ history {} calls, ∀ action, found.reply = .opened (.ok action) →
      action.url.scheme ∈ schemes ∧ action.url.scheme ++ [':'] <+: action.url.href := by
  refine ⟨map_call_history {} calls, ⟨?_, ?_⟩, ?_, ?_, ?_, ?_, ?_, ?_⟩
  · intro hopen
    obtain ⟨url, hshown⟩ := isOpen_iff_exists.1 hopen
    obtain ⟨later, ⟨earlier, found, hsplit, hcreated, -⟩, hkept⟩ :=
      panel_afterCalls_eq_some_iff.1 hshown
    exact ⟨earlier, found, later, hsplit, by rw [Visit.isCreation, hcreated], hkept⟩
  · rintro ⟨earlier, found, later, hsplit, hcreation, hkept⟩
    obtain ⟨url, hcreated⟩ := exists_of_isCreation hcreation
    exact isOpen_iff_exists.2 ⟨url, panel_of_created hsplit hcreated hkept⟩
  · intro earlier found later url hsplit hrevealed
    obtain ⟨before, call, -, -, rfl, rfl, -⟩ := exists_of_history_eq hsplit
    have hbefore := (lawful_visit _ call).of_revealed hrevealed
    rw [visit_before] at hbefore
    obtain ⟨since, hlast, -⟩ := panel_afterCalls_eq_some_iff.1 hbefore
    exact ⟨since, hlast⟩
  · intro found hfound configured hcall hopen
    obtain ⟨url, hshown⟩ := isOpen_iff_exists.1 hopen
    exact ⟨url, ((lawful_of_mem hfound).stays hshown (by rw [hcall]; simp)).2⟩
  · intro found hfound configured hcall hclosed url
    exact (lawful_of_mem hfound).created_iff hcall hclosed
  · intro earlier first between second later
    exact countP_isRemoval_between
  · intro found hfound fault hrefused
    exact (lawful_of_mem hfound).of_refused hrefused
  · intro found hfound action hreply
    exact ⟨scheme_mem_of_reported hfound hreply, scheme_prefix_href _⟩

end Preview

end FluentAssist
