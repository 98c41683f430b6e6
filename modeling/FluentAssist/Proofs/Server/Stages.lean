import FluentAssist.Proofs.Server.Replica

/-!
# How far the analysis is

From its start on, the analysis goes through stages: it has to answer the handshake, it is told of
the open scripts one after another, and then it is told of everything that happens to scripts. In
each stage it is known what the analysis holds: nothing, the open scripts but for those that are
still to be told, or the scripts as they will be when all waiting tasks have stored theirs
(`Stage`).

The stage speaks of no server. It is about what is held on both sides and about the tasks that wait,
and the lemmas say how telling, closing and storing a script keep it.
-/

set_option autoImplicit false

namespace FluentAssist

open Analyzer (Notice)

namespace Task

/-- What the analysis was told by a task that will store a document. -/
def notice? : Task → Option Notice
  | .opening document => some (.opened document)
  | .changing document => some (.changed document)
  | _ => none

/-- A task that will store a document has to do with documents. -/
theorem isDocumentary_of_notice? {task : Task} {notice : Notice}
    (hnotice : task.notice? = some notice) : task.isDocumentary = true := by
  cases task with
  | opening document => rfl
  | changing document => rfl
  | _ => cases hnotice

/-- The document that a task will store. -/
def subject? (task : Task) : Option Url := task.notice?.bind Notice.uri?

/-- Whether a task tells a new analysis of the open scripts. -/
def isReplay : Task → Bool
  | .replaying _ _ => true
  | _ => false

/-- Whether a task will open a document. -/
def opens (uri : Url) : Task → Bool
  | .opening document => document.uri = uri
  | _ => false

end Task

/-- How what the analysis holds relates to the open scripts of the server: by the connection of the
current session, the connections that are alive, and the tasks that have to do with documents. -/
inductive Stage (scripts held : Url → Option Snapshot) (analyzer : Option Nat) (alive : List Bool)
    (tasks : List Task) : Prop
  /-- No analysis was started. -/
  | absent (hanalyzer : analyzer = none) (halive : alive = []) (htasks : tasks = [])
      (hheld : held = fun _ => none)
  /-- The analysis has to answer the handshake. -/
  | greeting (id : Nat) (call : Analyzer.Call) (hanalyzer : analyzer = none)
      (halive : alive = [true]) (htasks : tasks = [.handshake 0 id call])
      (hheld : held = fun _ => none)
  /-- The handshake has failed. -/
  | refused (hanalyzer : analyzer = none) (halive : alive = [true]) (htasks : tasks = [])
  /-- The analysis still has to be told of some scripts. -/
  | replaying (left : List Snapshot) (hanalyzer : analyzer = none) (halive : alive = [true])
      (htasks : tasks = [.replaying 0 left])
      (hheld : (left.map Notice.opened).foldl (Notice.applied false) held = scripts)
  /-- The server still has to store some scripts. -/
  | installed (hanalyzer : analyzer = some 0) (halive : alive = [true])
      (htasks : ∀ task ∈ tasks, ∃ notice uri, task.notice? = some notice ∧
        notice.uri? = some uri ∧ uri.isScript = true)
      (hheld : held = (tasks.filterMap Task.notice?).foldl (Notice.applied false) scripts)

namespace Stage

variable {scripts held : Url → Option Snapshot} {analyzer : Option Nat} {alive : List Bool}
variable {tasks former later : List Task} {task : Task} {notice : Notice} {uri : Url} {place : Nat}

/-- A connection that is alive may be replaced by one that is. -/
theorem alive_set (hstage : Stage scripts held analyzer alive tasks) (place : Nat) :
    Stage scripts held analyzer (alive.set place true) tasks := by
  have hset : alive = [] ∨ alive = [true] → alive.set place true = alive := by
    rintro (rfl | rfl)
    · rfl
    · cases place <;> rfl
  rw [hset]
  · exact hstage
  · cases hstage with
    | absent _ halive => exact Or.inl halive
    | _ => exact Or.inr ‹_›

/-- As long as the analysis does not know the scripts, they may change. -/
theorem rescript (hstage : Stage scripts held analyzer alive tasks) (hanalyzer : analyzer = none)
    (hreplay : tasks.any Task.isReplay = false) (scripts' : Url → Option Snapshot) :
    Stage scripts' held analyzer alive tasks := by
  cases hstage with
  | absent h halive htasks hheld => exact .absent h halive htasks hheld
  | greeting id call h halive htasks hheld => exact .greeting id call h halive htasks hheld
  | refused h halive htasks => exact .refused h halive htasks
  | replaying left h halive htasks hheld =>
    rw [htasks] at hreplay
    cases hreplay
  | installed h halive htasks hheld =>
    rw [hanalyzer] at h
    cases h

/-- With an analysis the server has the one connection, and only has documents to store that the
analysis was told of. -/
theorem eq_of_some (hstage : Stage scripts held analyzer alive tasks)
    (hanalyzer : analyzer = some place) :
    place = 0 ∧ alive = [true] ∧
      (∀ task ∈ tasks, ∃ notice uri, task.notice? = some notice ∧ notice.uri? = some uri ∧
        uri.isScript = true) ∧
      held = (tasks.filterMap Task.notice?).foldl (Notice.applied false) scripts := by
  cases hstage with
  | installed h halive htasks hheld =>
    rw [h] at hanalyzer
    cases hanalyzer
    exact ⟨rfl, halive, htasks, hheld⟩
  | absent h => cases h.symm.trans hanalyzer
  | greeting _ _ h => cases h.symm.trans hanalyzer
  | refused h => cases h.symm.trans hanalyzer
  | replaying _ h => cases h.symm.trans hanalyzer

/-- The analysis is told of a script that is to be stored. -/
theorem told (hstage : Stage scripts held analyzer alive tasks) (hanalyzer : analyzer = some place)
    (hnotice : task.notice? = some notice) (huri : notice.uri? = some uri)
    (hscript : uri.isScript = true) :
    Stage scripts (Notice.applied false held notice) analyzer alive (tasks ++ [task]) := by
  obtain ⟨rfl, halive, htasks, hheld⟩ := hstage.eq_of_some hanalyzer
  refine .installed hanalyzer halive ?_ ?_
  · intro other hmem
    rcases List.mem_append.mp hmem with hold | hnew
    · exact htasks other hold
    · rw [List.mem_singleton.mp hnew]
      exact ⟨notice, uri, hnotice, huri, hscript⟩
  · rw [List.filterMap_append, List.foldl_append, ← hheld]
    simp [hnotice]

/-- A script is closed, and the analysis is told. -/
theorem closed (hstage : Stage scripts held analyzer alive tasks)
    (hanalyzer : analyzer = some place) (hopening : tasks.any (Task.opens uri) = false) :
    Stage (Notice.applied false scripts (.closed uri)) (Notice.applied false held (.closed uri))
      analyzer alive tasks := by
  obtain ⟨rfl, halive, htasks, hheld⟩ := hstage.eq_of_some hanalyzer
  refine .installed hanalyzer halive htasks ?_
  rw [hheld, Notice.foldl_applied_comm]
  intro notice hmem held
  obtain ⟨task, htask, hnotice⟩ := List.mem_filterMap.mp hmem
  cases task with
  | opening document =>
    cases hnotice
    have hne : uri ≠ document.uri := by
      rintro rfl
      rw [List.any_eq_false] at hopening
      exact hopening _ htask (by simp [Task.opens])
    exact Notice.applied_comm_of_ne rfl rfl hne
  | changing document =>
    cases hnotice
    by_cases huri : uri = document.uri
    · rw [huri]
      exact Notice.applied_closed_comm
    · exact Notice.applied_comm_of_ne rfl rfl huri
  | _ => cases hnotice

/-- A task that has to do with documents tells the stage. -/
theorem cases_of_task (hstage : Stage scripts held analyzer alive (former ++ task :: later)) :
    (∃ id call, task = .handshake 0 id call ∧ former = [] ∧ later = [] ∧ analyzer = none ∧
      alive = [true] ∧ held = fun _ => none) ∨
    (∃ left, task = .replaying 0 left ∧ former = [] ∧ later = [] ∧ analyzer = none ∧
      alive = [true] ∧ (left.map Notice.opened).foldl (Notice.applied false) held = scripts) ∨
    analyzer = some 0 := by
  have hsingle : ∀ {only : Task}, former ++ task :: later = [only] →
      task = only ∧ former = [] ∧ later = [] := by
    intro only htasks
    obtain ⟨hformer, hrest⟩ | ⟨-, hrest⟩ := List.append_eq_singleton_iff.mp htasks
    · cases hrest
      exact ⟨rfl, hformer, rfl⟩
    · cases hrest
  cases hstage with
  | absent _ _ htasks => simp at htasks
  | greeting id call hanalyzer halive htasks hheld =>
    obtain ⟨htask, hformer, hlater⟩ := hsingle htasks
    exact Or.inl ⟨id, call, htask, hformer, hlater, hanalyzer, halive, hheld⟩
  | refused _ _ htasks => simp at htasks
  | replaying left hanalyzer halive htasks hheld =>
    obtain ⟨htask, hformer, hlater⟩ := hsingle htasks
    exact Or.inr (Or.inl ⟨left, htask, hformer, hlater, hanalyzer, halive, hheld⟩)
  | installed hanalyzer => exact Or.inr (Or.inr hanalyzer)

/-- The first task for a script stores it. -/
theorem stored (hstage : Stage scripts held analyzer alive (former ++ task :: later))
    (hnotice : task.notice? = some notice) (huri : notice.uri? = some uri)
    (hfirst : ∀ other ∈ former, other.subject? ≠ some uri) :
    uri.isScript = true ∧
      Stage (Notice.applied false scripts notice) held analyzer alive (former ++ later) := by
  obtain ⟨id, call, rfl, -⟩ | ⟨left, rfl, -⟩ | hanalyzer := hstage.cases_of_task
  · cases hnotice
  · cases hnotice
  obtain ⟨-, halive, htasks, hheld⟩ := hstage.eq_of_some hanalyzer
  obtain ⟨notice', uri', hnotice', huri', hscript⟩ := htasks task (by simp)
  cases hnotice.symm.trans hnotice'
  cases huri.symm.trans huri'
  refine ⟨hscript, .installed hanalyzer halive ?_ ?_⟩
  · intro other hmem
    apply htasks other
    rcases List.mem_append.mp hmem with hold | hnew
    · exact List.mem_append_left _ hold
    · exact List.mem_append_right _ (List.mem_cons_of_mem _ hnew)
  · -- The notice moves past the tasks before it, which are for other documents.
    have hmoved : (former.filterMap Task.notice?).foldl (Notice.applied false)
        (Notice.applied false scripts notice) =
          Notice.applied false
            ((former.filterMap Task.notice?).foldl (Notice.applied false) scripts) notice := by
      apply Notice.foldl_applied_comm
      intro other hmem held
      obtain ⟨earlier, hearlier, hother⟩ := List.mem_filterMap.mp hmem
      obtain ⟨other', uri', hother', huri', -⟩ := htasks earlier (List.mem_append_left _ hearlier)
      cases hother.symm.trans hother'
      refine Notice.applied_comm_of_ne huri huri' ?_
      rintro rfl
      apply hfirst earlier hearlier
      unfold Task.subject?
      rw [hother, Option.bind_some, huri']
    rw [hheld, List.filterMap_append, List.filterMap_cons_some hnotice, List.foldl_append,
      List.foldl_cons, List.filterMap_append, List.foldl_append, hmoved]

end Stage

end FluentAssist
