import Mathlib.Data.Finset.Sort
import McpSql.Foundations.Journal
import McpSql.Profiles.CohortAlerts

/-!
# Histories of cohort changes

The receiver of `CohortAlerts` under the calls of the related managers `user.groups` and
`group.user_set`.  A call makes one or more changes to the rows of `User.groups.through`, and every
change sends its signals; between two changes lies a moment, also inside of a `set`, which removes
before it adds.  How a manager carries a call out is left open, up to what it leaves and what
`post_add` delivers.
-/

namespace McpSql

open Python PyStr Effect GuardedRun

/-! ## Changes of the rows -/

/-- The manager of one side of the relation: `user.groups` or `group.user_set`. -/
inductive ManagerSide where
  | groups (uid : ℕ)
  | userSet (gid : ℕ)
  deriving DecidableEq, Repr

namespace ManagerSide

/-- The primary key of the instance the manager belongs to. -/
def instancePk : ManagerSide → ℕ
  | groups uid => uid
  | userSet gid => gid

/-- `reverse`, as the signals carry it. -/
def reverse : ManagerSide → Bool
  | groups _ => false
  | userSet _ => true

/-- The row that relates the instance to the object of a primary key. -/
def row : ManagerSide → ℕ → ℕ × ℕ
  | groups uid, gid => (uid, gid)
  | userSet gid, uid => (uid, gid)

/-- The row is one of the instance. -/
def owns : ManagerSide → ℕ × ℕ → Bool
  | groups uid, r => r.1 = uid
  | userSet gid, r => r.2 = gid

/-- The object a row relates the instance to. -/
def target : ManagerSide → ℕ × ℕ → ℕ
  | groups _, r => r.2
  | userSet _, r => r.1

/-- The rows that relate the instance to the given objects. -/
def rows (side : ManagerSide) (pks : List ℕ) : Through := (pks.map side.row).toFinset

@[simp] theorem owns_row (side : ManagerSide) (pk : ℕ) : side.owns (side.row pk) = true := by
  cases side with
  | groups uid => exact decide_eq_true rfl
  | userSet gid => exact decide_eq_true rfl

@[simp] theorem target_row (side : ManagerSide) (pk : ℕ) : side.target (side.row pk) = pk := by
  cases side <;> rfl

/-- A row of the instance is the one that relates it to the object of the row. -/
theorem row_target {side : ManagerSide} {r : ℕ × ℕ} (h : side.owns r = true) :
    side.row (side.target r) = r := by
  obtain ⟨uid, gid⟩ := r
  cases side with
  | groups u =>
    obtain rfl : uid = u := of_decide_eq_true h
    rfl
  | userSet g =>
    obtain rfl : gid = g := of_decide_eq_true h
    rfl

theorem mem_rows {side : ManagerSide} {pks : List ℕ} {r : ℕ × ℕ} :
    r ∈ side.rows pks ↔ side.owns r = true ∧ side.target r ∈ pks := by
  rw [rows, List.mem_toFinset, List.mem_map]
  constructor
  · rintro ⟨pk, hpk, rfl⟩
    rw [target_row]
    exact ⟨owns_row side pk, hpk⟩
  · rintro ⟨howns, hpk⟩
    exact ⟨side.target r, hpk, row_target howns⟩

end ManagerSide

/-- One change of the rows: an addition of objects with the keys its `post_add` delivers, a removal,
or the removal of everything. -/
inductive RowChange where
  | add (side : ManagerSide) (objs : List ℕ) (pkSet : PkSet)
  | remove (side : ManagerSide) (pkSet : PkSet)
  | clear (side : ManagerSide)

/-- The rows after a change. -/
def RowChange.apply (through : Through) : RowChange → Through
  | add side objs _ => through ∪ side.rows objs
  | remove side pkSet => through \ side.rows pkSet.elems
  | clear side => through.filter fun r => !side.owns r

/-- The signal before a change. -/
def RowChange.pre : RowChange → M2mChanged
  | add side _ pkSet => ⟨side.instancePk, .preAdd, some pkSet, side.reverse⟩
  | remove side pkSet => ⟨side.instancePk, .preRemove, some pkSet, side.reverse⟩
  | clear side => ⟨side.instancePk, .preClear, none, side.reverse⟩

/-- The signal after a change. -/
def RowChange.post : RowChange → M2mChanged
  | add side _ pkSet => ⟨side.instancePk, .postAdd, some pkSet, side.reverse⟩
  | remove side pkSet => ⟨side.instancePk, .postRemove, some pkSet, side.reverse⟩
  | clear side => ⟨side.instancePk, .postClear, none, side.reverse⟩

/-- `post_add` delivers exactly the newly added ids. -/
def RowChange.Exact (through : Through) : RowChange → Prop
  | add side objs pkSet => ∀ pk, pk ∈ pkSet.elems ↔ pk ∈ objs ∧ side.row pk ∉ through
  | remove _ _ => True
  | clear _ => True

/-- Each of the changes, made one after the other, is exact when it is made. -/
def Delivers : Through → List RowChange → Prop
  | _, [] => True
  | through, change :: rest => change.Exact through ∧ Delivers (change.apply through) rest

/-! ## Calls of the managers -/

/-- A call of a manager. -/
inductive ManagerCall where
  | add (objs : List ℕ)
  | remove (objs : List ℕ)
  | set (objs : List ℕ) (clear : Bool)
  | clear

/-- A call of one of the two managers. -/
structure Operation where
  side : ManagerSide
  call : ManagerCall

/-- The rows a call is documented to leave. -/
def Operation.leaves (op : Operation) (through : Through) : Through :=
  match op.call with
  | .add objs => through ∪ op.side.rows objs
  | .remove objs => through \ op.side.rows objs
  | .set objs _ => (through.filter fun r => !op.side.owns r) ∪ op.side.rows objs
  | .clear => through.filter fun r => !op.side.owns r

/-- The related managers: the changes by which a call can be carried out. -/
structure RelatedManager where
  changes : Operation → Through → List RowChange → Prop
  leaves : ∀ {op through cs}, changes op through cs →
    cs.foldl RowChange.apply through = op.leaves through
  delivers : ∀ {op through cs}, changes op through cs → Delivers through cs

/-! ## Histories -/

/-- What the calls work on. -/
structure Cohort where
  world : World
  through : Through

/-- A moment between two changes, with the changes the call that is under way still makes. -/
structure Moment extends Cohort where
  pending : List RowChange
  delivers : Delivers through pending

/-- The receiver gets a signal. -/
def notify (settings : Settings) (tables : CohortTables) (failure : CohortQuery → Option PyExc)
    (signal : M2mChanged) : EStateM PyExc Cohort Unit := fun s =>
  match (alertOnMcpGroupGrant ⟨settings, tables, s.through, failure⟩ signal).run s.world with
  | .ok () w => .ok () { s with world := w }
  | .error e w => .error e { s with world := w }

/-- A change with its signals, in a transaction: an exception of the receiver undoes it. -/
def RowChange.perform (settings : Settings) (tables : CohortTables)
    (failure : CohortQuery → Option PyExc) (change : RowChange) : EStateM PyExc Cohort Unit :=
  transaction (fun before after => { after with through := before.through }) (.ok ()) do
    notify settings tables failure change.pre
    modify fun s => { s with through := change.apply s.through }
    notify settings tables failure change.post

/-- What happens next: a call begins, or the call under way makes its next change. -/
inductive HistoryStep where
  | call (op : Operation)
  | change (change : RowChange)

/-- One step, without database errors. -/
def cohortStep (settings : Settings) (tables : CohortTables) (manager : RelatedManager)
    (s : Moment) : HistoryStep → Moment → Prop
  | .call op, t => s.pending = [] ∧ manager.changes op s.through t.pending ∧ t.toCohort = s.toCohort
  | .change change, t => s.pending = change :: t.pending ∧
      (change.perform settings tables fun _ => none).run s.toCohort = .ok () t.toCohort

/-- The later moment is reached from the earlier one by calls of the managers. -/
def History (settings : Settings) (tables : CohortTables) (manager : RelatedManager) :
    Moment → Moment → Prop := FreeRun (cohortStep settings tables manager)

/-- The log of a moment. -/
def Moment.log (s : Moment) : List LogRecord := s.world.log

/-- The user has come into a profile group. -/
def Gained (settings : Settings) (tables : CohortTables) (before after : Through) (uid : ℕ) :
    Prop :=
  ∃ pk ∈ profileGroups settings tables, (uid, pk) ∉ before ∧ (uid, pk) ∈ after

/-! ## One change -/

section Change

variable (settings : Settings) (tables : CohortTables)

/-- The receiver runs on the world and reads the rows. -/
theorem run_notify_eq (failure : CohortQuery → Option PyExc) (signal : M2mChanged) (s : Cohort) :
    (notify settings tables failure signal).run s =
      match (alertOnMcpGroupGrant ⟨settings, tables, s.through, failure⟩ signal).run s.world with
      | .ok () w => .ok () { s with world := w }
      | .error e w => .error e { s with world := w } := rfl

/-- The receiver leaves the rows alone and pages the users its signal is about. -/
theorem run_notify (signal : M2mChanged) (s : Cohort) :
    (notify settings tables (fun _ => none) signal).run s = .ok () { s with
      world := { s.world with log := s.world.log ++
        (pagedUsers settings tables signal).flatMap (pages settings tables s.through) } } := by
  have hrun := run_alertOnMcpGroupGrant settings tables s.through signal s.world
  rw [run_notify_eq]
  unfold healthyCohort at hrun
  rw [hrun]

/-- A signal that is received without an exception. -/
theorem notify_eq_ok {failure : CohortQuery → Option PyExc} {signal : M2mChanged} {s t : Cohort}
    {u : Unit} (h : (notify settings tables failure signal).run s = .ok u t) :
    ∃ w, (alertOnMcpGroupGrant ⟨settings, tables, s.through, failure⟩ signal).run s.world =
      .ok () w ∧ t = { s with world := w } := by
  rw [run_notify_eq] at h
  cases hrun : (alertOnMcpGroupGrant ⟨settings, tables, s.through, failure⟩ signal).run
      s.world with
  | ok v w =>
    rw [hrun] at h
    exact ⟨w, rfl, (EStateM.Result.ok.inj h).2.symm⟩
  | error e w => simp [hrun] at h

theorem pagedUsers_pre (change : RowChange) : pagedUsers settings tables change.pre = [] := by
  cases change <;> rfl

/-- The users a change is paged for. -/
def RowChange.paged (change : RowChange) : List ℕ := pagedUsers settings tables change.post

/-- What a change leaves: its rows, and the pages on them. -/
def RowChange.result (change : RowChange) (s : Cohort) : Cohort where
  world := { s.world with log := s.world.log ++
    (change.paged settings tables).flatMap (pages settings tables (change.apply s.through)) }
  through := change.apply s.through

/-- Without database errors a change is made, and paged on the rows it leaves. -/
theorem run_performChange (change : RowChange) (s : Cohort) :
    (change.perform settings tables fun _ => none).run s =
      .ok () (change.result settings tables s) := by
  have hbefore : (notify settings tables (fun _ => none) change.pre).run s = .ok () s := by
    rw [run_notify, pagedUsers_pre, List.flatMap_nil, List.append_nil]
  apply run_transaction_ok _ rfl
  refine run_bind_eq_ok.mpr ⟨(), s, hbefore, ?_⟩
  refine run_bind_eq_ok.mpr ⟨(), { s with through := change.apply s.through }, rfl, ?_⟩
  exact run_notify settings tables change.post _

theorem nodup_paged (change : RowChange) : (change.paged settings tables).Nodup := by
  unfold RowChange.paged pagedUsers
  split_ifs
  · exact List.nodup_nil
  · exact List.nodup_singleton _
  · exact List.nodup_nil
  · exact change.post.pks.nodup
  · exact List.nodup_nil

/-- The rows an exact addition brings are those of the delivered keys. -/
theorem mem_added_iff {side : ManagerSide} {objs : List ℕ} {pkSet : PkSet} {through : Through}
    (h : (RowChange.add side objs pkSet).Exact through) {r : ℕ × ℕ} :
    r ∉ through ∧ r ∈ (RowChange.add side objs pkSet).apply through ↔
      side.owns r = true ∧ side.target r ∈ pkSet.elems := by
  have hadded : r ∈ (RowChange.add side objs pkSet).apply through ↔
      r ∈ through ∨ side.owns r = true ∧ side.target r ∈ objs := by
    rw [← ManagerSide.mem_rows]
    exact Finset.mem_union
  rw [hadded]
  constructor
  · rintro ⟨hnew, hold | ⟨howns, hobj⟩⟩
    · exact absurd hold hnew
    · exact ⟨howns, (h _).mpr ⟨hobj, by rwa [ManagerSide.row_target howns]⟩⟩
  · rintro ⟨howns, hdelivered⟩
    obtain ⟨hobj, hnew⟩ := (h _).mp hdelivered
    rw [ManagerSide.row_target howns] at hnew
    exact ⟨hnew, Or.inr ⟨howns, hobj⟩⟩

/-- An exact addition is paged for the users who come into a profile group by it. -/
theorem mem_paged_add {side : ManagerSide} {objs : List ℕ} {pkSet : PkSet} {through : Through}
    (h : (RowChange.add side objs pkSet).Exact through) {uid : ℕ} :
    uid ∈ (RowChange.add side objs pkSet).paged settings tables ↔
      Gained settings tables through ((RowChange.add side objs pkSet).apply through) uid := by
  unfold Gained
  simp only [mem_added_iff h]
  cases side with
  | groups u =>
    have hpaged : (RowChange.add (.groups u) objs pkSet).paged settings tables =
        if pkSet.elems.any (· ∈ profileGroups settings tables) then [u] else [] := rfl
    rw [hpaged]
    constructor
    · intro huid
      split_ifs at huid with hmeets
      · obtain ⟨pk, hdelivered, hprofile⟩ := List.any_eq_true.mp hmeets
        obtain rfl := List.mem_singleton.mp huid
        exact ⟨pk, of_decide_eq_true hprofile, decide_eq_true rfl, hdelivered⟩
      · exact absurd huid List.not_mem_nil
    · rintro ⟨pk, hprofile, howns, hdelivered⟩
      obtain rfl : uid = u := of_decide_eq_true howns
      rw [if_pos (List.any_eq_true.mpr ⟨pk, hdelivered, decide_eq_true hprofile⟩)]
      exact List.mem_singleton_self uid
  | userSet g =>
    have hpaged : (RowChange.add (.userSet g) objs pkSet).paged settings tables =
        if g ∈ profileGroups settings tables then pkSet.elems else [] := rfl
    rw [hpaged]
    constructor
    · intro huid
      split_ifs at huid with hprofile
      · exact ⟨g, hprofile, decide_eq_true rfl, huid⟩
      · exact absurd huid List.not_mem_nil
    · rintro ⟨pk, hprofile, howns, hdelivered⟩
      obtain rfl : pk = g := of_decide_eq_true howns
      rw [if_pos hprofile]
      exact hdelivered

/-- Whatever the database fails, nobody comes into a profile group unpaged: the addition is undone,
or the page for every gain has been written. -/
theorem no_silent_gain (failure : CohortQuery → Option PyExc) {side : ManagerSide} {objs : List ℕ}
    {pkSet : PkSet} {s : Cohort} (h : (RowChange.add side objs pkSet).Exact s.through) {uid : ℕ}
    (hgained : Gained settings tables s.through (finalState
      (((RowChange.add side objs pkSet).perform settings tables failure).run s)).through uid) :
    ∃ new label profiles,
      (finalState (((RowChange.add side objs pkSet).perform settings tables failure).run
        s)).world.log = s.world.log ++ new ∧ ⟨.error, gainedMessage label uid profiles⟩ ∈ new := by
  cases hrun : ((RowChange.add side objs pkSet).perform settings tables failure).run s with
  | error e t =>
    rw [hrun, finalState_error, restored_of_run_transaction hrun] at hgained
    obtain ⟨pk, -, hbefore, hafter⟩ := hgained
    exact absurd hafter hbefore
  | ok u t =>
    rw [hrun, finalState_ok] at hgained
    obtain ⟨⟨⟩, s₁, hpre, hbody⟩ := run_bind_eq_ok.mp (run_of_run_transaction hrun)
    obtain ⟨⟨⟩, s₂, hrows, hpost⟩ := run_bind_eq_ok.mp hbody
    obtain rfl : s = s₁ := (EStateM.Result.ok.inj hpre).2
    obtain rfl : { s with through := (RowChange.add side objs pkSet).apply s.through } = s₂ :=
      (EStateM.Result.ok.inj hrows).2
    obtain ⟨w, halert, rfl⟩ := notify_eq_ok settings tables hpost
    have hpaged : uid ∈ pagedUsers settings tables (RowChange.add side objs pkSet).post :=
      (mem_paged_add settings tables h).mpr hgained
    exact gained_of_alertOnMcpGroupGrant halert hpaged

end Change

/-! ## One step -/

section Step

variable {settings : Settings} {tables : CohortTables} {manager : RelatedManager} {s t : Moment}

/-- The beginning of a call changes neither the rows nor the log. -/
theorem cohortStep_call {op : Operation} (h : cohortStep settings tables manager s (.call op) t) :
    t.through = s.through ∧ t.log = s.log := by
  obtain ⟨-, -, hsame⟩ := h
  exact ⟨congrArg Cohort.through hsame, congrArg (fun c : Cohort => c.world.log) hsame⟩

/-- A change is applied to the rows and paged on the rows it leaves. -/
theorem cohortStep_change {change : RowChange}
    (h : cohortStep settings tables manager s (.change change) t) :
    t.through = change.apply s.through ∧
      t.log = s.log ++
        (change.paged settings tables).flatMap (pages settings tables t.through) := by
  obtain ⟨-, hrun⟩ := h
  rw [run_performChange] at hrun
  have hcohort := (EStateM.Result.ok.inj hrun).2
  have hthrough : t.through = change.apply s.through := congrArg Cohort.through hcohort.symm
  refine ⟨hthrough, ?_⟩
  rw [hthrough]
  exact congrArg (fun c : Cohort => c.world.log) hcohort.symm

/-- The change that is made is exact. -/
theorem exact_of_cohortStep {change : RowChange}
    (h : cohortStep settings tables manager s (.change change) t) : change.Exact s.through := by
  have hdelivers := s.delivers
  rw [h.1] at hdelivers
  exact hdelivers.1

theorem appends_cohortStep (settings : Settings) (tables : CohortTables)
    (manager : RelatedManager) : Appends (cohortStep settings tables manager) Moment.log := by
  intro s a t h
  cases a with
  | call op => exact ⟨[], by rw [List.append_nil, (cohortStep_call h).2]⟩
  | change change =>
    rw [(cohortStep_change h).2]
    exact List.prefix_append _ _

/-- What a change writes to the log. -/
theorem written_change {change : RowChange}
    (h : cohortStep settings tables manager s (.change change) t) :
    written Moment.log s t =
      (change.paged settings tables).flatMap (pages settings tables t.through) :=
  written_eq (cohortStep_change h).2

theorem written_call {op : Operation} (h : cohortStep settings tables manager s (.call op) t) :
    written Moment.log s t = [] :=
  written_eq (by rw [(cohortStep_call h).2, List.append_nil])

/-- A user whose profile groups grow in number has come into one. -/
theorem gained_of_card_lt {before after : Through} {uid : ℕ}
    (h : (profileGroupsOf settings tables before uid).card <
      (profileGroupsOf settings tables after uid).card) :
    Gained settings tables before after uid := by
  by_contra hnone
  have hsubset : profileGroupsOf settings tables after uid ⊆
      profileGroupsOf settings tables before uid := by
    intro pk hpk
    obtain ⟨hprofile, hafter⟩ := Finset.mem_filter.mp hpk
    refine Finset.mem_filter.mpr ⟨hprofile, ?_⟩
    by_contra hbefore
    exact hnone ⟨pk, hprofile, hbefore, hafter⟩
  exact absurd h (Nat.not_lt.mpr (Finset.card_le_card hsubset))

/-- The users who come into a profile group by a change are paged. -/
theorem mem_paged_of_gained {change : RowChange}
    (h : cohortStep settings tables manager s (.change change) t) {uid : ℕ}
    (hgained : Gained settings tables s.through t.through uid) :
    uid ∈ change.paged settings tables := by
  rw [(cohortStep_change h).1] at hgained
  cases change with
  | add side objs pkSet => exact (mem_paged_add settings tables (exact_of_cohortStep h)).mpr hgained
  | remove side pkSet =>
    obtain ⟨pk, -, hbefore, hafter⟩ := hgained
    exact absurd (Finset.sdiff_subset hafter) hbefore
  | clear side =>
    obtain ⟨pk, -, hbefore, hafter⟩ := hgained
    exact absurd (Finset.filter_subset _ _ hafter) hbefore

/-- A step by which a user comes into a second profile group pages the ambiguity. -/
theorem exists_alert_of_step {a : HistoryStep} (h : cohortStep settings tables manager s a t)
    {uid : ℕ} (hbefore : ¬2 ≤ (profileGroupsOf settings tables s.through uid).card)
    (hafter : 2 ≤ (profileGroupsOf settings tables t.through uid).card) :
    ∃ record ∈ written Moment.log s t, record.namesAmbiguous uid = true := by
  cases a with
  | call op =>
    rw [(cohortStep_call h).1] at hafter
    exact absurd hafter hbefore
  | change change =>
    have hgained : Gained settings tables s.through t.through uid :=
      gained_of_card_lt (by omega)
    have hpaged := mem_paged_of_gained h hgained
    obtain ⟨record, hrecord, hnames⟩ := exists_namesAmbiguous settings tables t.through hafter
    rw [written_change h]
    exact ⟨record, List.mem_flatMap.mpr ⟨uid, hpaged, hrecord⟩, hnames⟩

end Step

/-! ## Calls that are carried out -/

section Calls

variable {settings : Settings} {tables : CohortTables} {manager : RelatedManager}

/-- The step makes a change of the call under way. -/
def MakesChange (_ : Moment) (a : HistoryStep) : Prop := ∃ change, a = .change change

/-- A call is begun and its changes are made, one after the other. -/
def CarriesOut (settings : Settings) (tables : CohortTables) (manager : RelatedManager)
    (op : Operation) (s t : Moment) : Prop :=
  ∃ begun, cohortStep settings tables manager s (.call op) begun ∧
    Run (cohortStep settings tables manager) MakesChange begun t ∧
    t.pending = []

/-- Making the pending changes goes on towards the same rows. -/
theorem foldl_pending {s t : Moment}
    (h : Run (cohortStep settings tables manager) MakesChange s t) :
    t.pending.foldl RowChange.apply t.through = s.pending.foldl RowChange.apply s.through := by
  refine invariant (P := fun t => t.pending.foldl RowChange.apply t.through =
    s.pending.foldl RowChange.apply s.through) h rfl ?_
  rintro u a v hfold ⟨change, rfl⟩ hstep
  rw [← hfold, hstep.1, List.foldl_cons, (cohortStep_change hstep).1]

theorem CarriesOut.history {op : Operation} {s t : Moment}
    (h : CarriesOut settings tables manager op s t) : History settings tables manager s t := by
  obtain ⟨begun, hcall, hrun, -⟩ := h
  exact .head ⟨.call op, trivial, hcall⟩ hrun.free

/-- A call leaves the rows it is documented to leave. -/
theorem CarriesOut.leaves {op : Operation} {s t : Moment}
    (h : CarriesOut settings tables manager op s t) : t.through = op.leaves s.through := by
  obtain ⟨begun, hcall, hrun, hdone⟩ := h
  have hfold := foldl_pending hrun
  rw [hdone, List.foldl_nil, (cohortStep_call hcall).1] at hfold
  rw [hfold]
  exact manager.leaves hcall.2.1

/-- The pending changes can be made. -/
theorem exists_run_pending (settings : Settings) (tables : CohortTables) (manager : RelatedManager)
    (s : Moment) :
    ∃ t, Run (cohortStep settings tables manager) MakesChange s t ∧ t.pending = [] := by
  obtain ⟨cohort, pending, hdelivers⟩ := s
  induction pending generalizing cohort with
  | nil => exact ⟨_, .refl, rfl⟩
  | cons change rest ih =>
    obtain ⟨t, hrun, hdone⟩ := ih (change.result settings tables cohort) hdelivers.2
    refine ⟨t, .head ⟨.change change, ⟨change, rfl⟩, rfl, ?_⟩ hrun, hdone⟩
    exact run_performChange settings tables change cohort

/-- Every call that a manager has changes for is carried out: no alert stands in its way. -/
theorem exists_carriesOut {op : Operation} {s : Moment} {changes : List RowChange}
    (hidle : s.pending = []) (h : manager.changes op s.through changes) :
    ∃ t, CarriesOut settings tables manager op s t := by
  obtain ⟨t, hrun, hdone⟩ := exists_run_pending settings tables manager
    ⟨s.toCohort, changes, manager.delivers h⟩
  exact ⟨t, ⟨s.toCohort, changes, manager.delivers h⟩, ⟨hidle, h, rfl⟩, hrun, hdone⟩

end Calls

/-! ## The documented managers -/

/-- The keys `post_add` delivers, in the order of the objects. -/
def addedPks (side : ManagerSide) (through : Through) (objs : List ℕ) : PkSet :=
  ⟨(objs.filter fun pk => side.row pk ∉ through).dedup, List.nodup_dedup _⟩

/-- The related objects that are not among the given ones. -/
def stalePks (side : ManagerSide) (through : Through) (objs : List ℕ) : PkSet :=
  ⟨((through.filter fun r => side.owns r && side.target r ∉ objs).image side.target).sort,
    Finset.sort_nodup _ _⟩

/-- The changes of a call, as documented: a `set` removes before it adds, or clears when it is told
to. -/
def documentedChanges (op : Operation) (through : Through) : List RowChange :=
  match op.call with
  | .add objs => [.add op.side objs (addedPks op.side through objs)]
  | .remove objs => [.remove op.side ⟨objs.dedup, List.nodup_dedup objs⟩]
  | .clear => [.clear op.side]
  | .set objs clear =>
    let first : RowChange :=
      if clear then .clear op.side else .remove op.side (stalePks op.side through objs)
    [first, .add op.side objs (addedPks op.side (first.apply through) objs)]

theorem exact_addedPks (side : ManagerSide) (through : Through) (objs : List ℕ) :
    (RowChange.add side objs (addedPks side through objs)).Exact through := by
  intro pk
  simp [addedPks]

theorem mem_stalePks {side : ManagerSide} {through : Through} {objs : List ℕ} {pk : ℕ} :
    pk ∈ (stalePks side through objs).elems ↔ side.row pk ∈ through ∧ pk ∉ objs := by
  unfold stalePks
  rw [Finset.mem_sort, Finset.mem_image]
  constructor
  · rintro ⟨r, hr, rfl⟩
    obtain ⟨hmem, hkept⟩ := Finset.mem_filter.mp hr
    obtain ⟨howns, hother⟩ := Bool.and_eq_true_iff.mp hkept
    rw [ManagerSide.row_target howns]
    exact ⟨hmem, of_decide_eq_true hother⟩
  · rintro ⟨hrow, hother⟩
    exact ⟨side.row pk, Finset.mem_filter.mpr ⟨hrow, by simp [hother]⟩, side.target_row pk⟩

/-- Removing what is stale before the objects are added leaves the objects. -/
theorem sdiff_stalePks_union (side : ManagerSide) (through : Through) (objs : List ℕ) :
    through \ side.rows (stalePks side through objs).elems ∪ side.rows objs =
      (through.filter fun r => !side.owns r) ∪ side.rows objs := by
  ext r
  rw [Finset.mem_union, Finset.mem_union, Finset.mem_sdiff, Finset.mem_filter,
    ManagerSide.mem_rows, ManagerSide.mem_rows, mem_stalePks]
  by_cases howns : side.owns r = true
  · rw [ManagerSide.row_target howns]
    by_cases hobj : side.target r ∈ objs
    · simp [howns, hobj]
    · simp [howns, hobj]
  · simp [howns]

/-- The managers of Django. -/
def documentedManager : RelatedManager where
  changes op through cs := cs = documentedChanges op through
  leaves := by
    rintro ⟨side, call⟩ through cs rfl
    cases call with
    | add objs => rfl
    | remove objs =>
      have hrows : side.rows objs.dedup = side.rows objs := by
        ext r
        rw [ManagerSide.mem_rows, ManagerSide.mem_rows, List.mem_dedup]
      exact congrArg (through \ ·) hrows
    | clear => rfl
    | set objs clear =>
      cases clear with
      | true => rfl
      | false => exact sdiff_stalePks_union side through objs
  delivers := by
    rintro ⟨side, call⟩ through cs rfl
    cases call with
    | add objs => exact ⟨exact_addedPks side through objs, trivial⟩
    | remove objs => exact ⟨trivial, trivial⟩
    | clear => exact ⟨trivial, trivial⟩
    | set objs clear =>
      cases clear with
      | true => exact ⟨trivial, exact_addedPks side _ objs, trivial⟩
      | false => exact ⟨trivial, exact_addedPks side _ objs, trivial⟩

/-! ## An example -/

/-- A second profile beside the default one. -/
def twoProfiles : Settings where
  profiles := exampleSettings.profiles ++ [⟨lit "support", lit "mcp_support_role",
    lit "use_mcp_support", lit "mcp_support_users", [lit "notes.Note"], none⟩]
  limits := exampleSettings.limits
  banSelectStar := true
  badTokenIpThreshold := 100
  badTokenIpWindowSeconds := 3600
  volumeAlertThresholds := exampleSettings.volumeAlertThresholds

theorem nodup_exampleGroups : [1, 2, 3].Nodup := by decide

/-- A user, the groups of both profiles and one more group. -/
def exampleCohort : CohortTables where
  users := [⟨7, .ok (lit "ann"), Raising.confined_ok _ _⟩]
  groups := [⟨1, lit "mcp_sql_users"⟩, ⟨2, lit "mcp_support_users"⟩, ⟨3, lit "staff"⟩]
  groupPks := nodup_exampleGroups

/-- No memberships, and nothing under way. -/
def emptyMoment : Moment := ⟨⟨emptyWorld, ∅⟩, [], trivial⟩

/-! ## Whole histories -/

section Histories

variable {settings : Settings} {tables : CohortTables} {manager : RelatedManager}

/-- A user that was in at most one profile group at a moment and is in several at a later one has
been paged for the ambiguity in between. -/
theorem exists_alert_of_history {s t : Moment} (h : History settings tables manager s t) {uid : ℕ}
    (hone : (profileGroupsOf settings tables s.through uid).card ≤ 1)
    (hseveral : 2 ≤ (profileGroupsOf settings tables t.through uid).card) :
    ∃ record ∈ written Moment.log s t, record.namesAmbiguous uid = true := by
  have henter : ∀ s a t, True → cohortStep settings tables manager s a t →
      ¬2 ≤ (profileGroupsOf settings tables s.through uid).card →
      2 ≤ (profileGroupsOf settings tables t.through uid).card →
      ∃ record ∈ written Moment.log s t, record.namesAmbiguous uid = true :=
    fun _ _ _ _ hstep hbefore hafter => exists_alert_of_step hstep hbefore hafter
  exact exists_entry_of_entered (appends_cohortStep settings tables manager) henter h (by omega)
    hseveral

/-- A call pages the ambiguity of every user it takes from at most one profile group into
several. -/
theorem CarriesOut.alerts {op : Operation} {s t : Moment}
    (h : CarriesOut settings tables manager op s t) {uid : ℕ}
    (hone : (profileGroupsOf settings tables s.through uid).card ≤ 1)
    (hseveral : 2 ≤ (profileGroupsOf settings tables (op.leaves s.through) uid).card) :
    ∃ record ∈ written Moment.log s t, record.namesAmbiguous uid = true := by
  rw [← h.leaves] at hseveral
  exact exists_alert_of_history h.history hone hseveral

/-- Over every history: a user that was in at most one profile group at a moment and is in several
at a later one has been paged for the ambiguity in between; every page for an ambiguity was written
by a change that left the user it names in several profile groups; and every addition pages the gain
of exactly the users who come into a profile group by it, once each. -/
theorem membershipAlerts_complete_and_justified {s t : Moment}
    (h : History settings tables manager s t) :
    (∀ uid, (profileGroupsOf settings tables s.through uid).card ≤ 1 →
      2 ≤ (profileGroupsOf settings tables t.through uid).card →
      ∃ record ∈ written Moment.log s t, record.namesAmbiguous uid = true) ∧
    (∀ record ∈ written Moment.log s t, record.isAmbiguity = true →
      ∃ u change v, History settings tables manager s u ∧
        cohortStep settings tables manager u (.change change) v ∧
        History settings tables manager v t ∧ record ∈ written Moment.log u v ∧
        (∃ uid, record.namesAmbiguous uid = true) ∧
        ∀ uid, record.namesAmbiguous uid = true →
          2 ≤ (profileGroupsOf settings tables v.through uid).card) ∧
    ∀ u side objs pkSet v, History settings tables manager s u →
      cohortStep settings tables manager u (.change (.add side objs pkSet)) v →
      History settings tables manager v t →
      ∃ uids : List ℕ, uids.Nodup ∧
        (∀ uid, uid ∈ uids ↔ Gained settings tables u.through v.through uid) ∧
        (written Moment.log u v).filter LogRecord.isGained =
          uids.map (gainedRecord settings tables v.through) := by
  refine ⟨fun uid hone hseveral => exists_alert_of_history h hone hseveral, ?_, ?_⟩
  · intro record hrecord hambiguity
    obtain ⟨u, a, v, hbefore, -, hstep, hafter, hwritten⟩ :=
      exists_step_of_entry (appends_cohortStep settings tables manager) h hrecord
    cases a with
    | call op =>
      rw [written_call hstep] at hwritten
      exact absurd hwritten List.not_mem_nil
    | change change =>
      refine ⟨u, change, v, hbefore, hstep, hafter, hwritten, ?_⟩
      rw [written_change hstep] at hwritten
      obtain ⟨uid, -, hpage⟩ := List.mem_flatMap.mp hwritten
      obtain ⟨hnames, hseveral⟩ :=
        several_of_isAmbiguity settings tables v.through hpage hambiguity
      refine ⟨⟨uid, hnames⟩, ?_⟩
      intro uid' hnames'
      rw [uid_eq_of_namesAmbiguous hnames' hnames]
      exact hseveral
  · intro u side objs pkSet v _ hstep _
    refine ⟨(RowChange.add side objs pkSet).paged settings tables,
      nodup_paged settings tables _, ?_, ?_⟩
    · intro uid
      rw [(cohortStep_change hstep).1]
      exact mem_paged_add settings tables (exact_of_cohortStep hstep)
    · rw [written_change hstep, filter_isGained_pages]

/-- `user.groups.set(...)` with the groups of both profiles pages the ambiguity. -/
theorem membershipAlerts_of_set :
    ∃ t, History twoProfiles exampleCohort documentedManager emptyMoment t ∧
      t.through = {(7, 1), (7, 2), (7, 3)} ∧
      ∃ record ∈ written Moment.log emptyMoment t, record.namesAmbiguous 7 = true := by
  have hchanges : documentedManager.changes ⟨.groups 7, .set [1, 2, 3] false⟩ emptyMoment.through
      (documentedChanges ⟨.groups 7, .set [1, 2, 3] false⟩ emptyMoment.through) := rfl
  obtain ⟨t, hcarried⟩ : ∃ t, CarriesOut twoProfiles exampleCohort documentedManager
      ⟨.groups 7, .set [1, 2, 3] false⟩ emptyMoment t := exists_carriesOut rfl hchanges
  have hthrough : t.through = {(7, 1), (7, 2), (7, 3)} := hcarried.leaves.trans (by decide)
  refine ⟨t, hcarried.history, hthrough, ?_⟩
  refine (membershipAlerts_complete_and_justified hcarried.history).1 7 (by decide) ?_
  rw [hthrough]
  decide

end Histories

end McpSql
