import McpSql.Foundations.Raising
import McpSql.Foundations.Tally
import McpSql.Models
import McpSql.Python.Sorted

/-!
# The usage summary

`_usage_rows` and `usage_summary_view` (`admin.py`): six grouped counts over the two audit tables,
filled into a table with one row a user and one cell a window.  The rows that come out are the true
counts of what each query saw, whatever order the database lists its groups in.
-/

namespace McpSql

open Python PyStr Raising Tally

/-! ## The queries -/

/-- `_USAGE_WINDOWS`. -/
def usageWindows : List (PyStr × ℕ) :=
  [(lit "1h", 3600), (lit "24h", 86400), (lit "7d", 604800)]

/-- What a query of the summary sees: the audit tables, and the name of each user. -/
structure UsageDb where
  queryLog : List QueryLogRow
  rejectionLog : List AuthRejectionRow
  username : PyStr → Option PyStr
  deriving Inhabited

/-- `MCPQueryLog.objects.filter(started_at__gte=since)`. -/
def UsageDb.queriesSince (db : UsageDb) (since : ℤ) : List QueryLogRow :=
  db.queryLog.filter fun row => since ≤ row.startedAt

/-- `MCPAuthRejectionLog.objects.filter(started_at__gte=since)`. -/
def UsageDb.rejectionsSince (db : UsageDb) (since : ℤ) : List AuthRejectionRow :=
  db.rejectionLog.filter fun row => since ≤ row.startedAt

/-- The answer to the count of queries by user, name and decision. -/
structure QueryCounts (since : ℤ) where
  db : UsageDb
  counts : Grouped (db.queriesSince since) fun row =>
    (row.user, db.username row.user, row.decision.value)

/-- The answer to the count of rejections by user and name. -/
structure RejectionCounts (since : ℤ) where
  db : UsageDb
  counts : Grouped (db.rejectionsSince since) fun row => (row.user, db.username row.user)

/-- The clock, and the answers of the database. -/
structure UsageEnv where
  now : ℕ
  queries : (since : ℤ) → Except PyExc (QueryCounts since)
  rejections : (since : ℤ) → Except PyExc (RejectionCounts since)

/-! ## The table -/

/-- A cell of the summary: a count for each kind of event. -/
abbrev UsageCell := List (PyStr × ℕ)

/-- The kinds of events that are counted. -/
def usageKinds : List PyStr := [lit "allowed", lit "rejected", lit "auth"]

/-- `cell[kind] += n`, when the cell has the kind. -/
def bumpCell (kind : PyStr) (n : ℕ) (cell : UsageCell) : UsageCell :=
  adjust kind (· + n) cell

/-- An entry of `table`. -/
structure UsageEntry where
  label : Option PyStr
  cells : List (PyStr × UsageCell)

/-- The entry of a user who is seen for the first time. -/
def newUsageEntry (label : Option PyStr) : UsageEntry where
  label := label
  cells := usageWindows.map fun window => (window.1, usageKinds.map (·, 0))

/-- Count some events of a kind in a window. -/
def UsageEntry.bump (window kind : PyStr) (n : ℕ) (e : UsageEntry) : UsageEntry :=
  { e with cells := adjust window (bumpCell kind n) e.cells }

/-- `_row(user_id, label)["cells"][window][kind] += n`. -/
def countInto (window : PyStr) (table : List (PyStr × UsageEntry)) (user : PyStr)
    (label : Option PyStr) (kind : PyStr) (n : ℕ) : List (PyStr × UsageEntry) :=
  upsert user (newUsageEntry label) (·.bump window kind n) table

/-- The two loops of a window. -/
def countUsage (env : UsageEnv) (table : List (PyStr × UsageEntry)) (window : PyStr × ℕ) :
    Except PyExc (List (PyStr × UsageEntry)) := do
  let since : ℤ := env.now - window.2
  let queries ← env.queries since
  let table := queries.counts.groups.foldl
    (fun table group => countInto window.1 table group.1.1 group.1.2.1 group.1.2.2 group.2) table
  let rejections ← env.rejections since
  return rejections.counts.groups.foldl
    (fun table group => countInto window.1 table group.1.1 group.1.2 (lit "auth") group.2) table

/-- A row of the summary. -/
structure UsageRow where
  label : Option PyStr
  cells : List UsageCell
  deriving DecidableEq, Repr

/-- The key the rows are sorted by. -/
def UsageRow.key (row : UsageRow) : PyStr := row.label.getD []

/-- The row of an entry. -/
def UsageEntry.row (e : UsageEntry) : UsageRow where
  label := e.label
  cells := usageWindows.map fun window => (entry e.cells window.1).getD []

/-- `_usage_rows`. -/
def usageRows (env : UsageEnv) : Except PyExc (List UsageRow) := do
  let table ← usageWindows.foldlM (countUsage env) []
  return (table.map fun e => e.2.row).mergeSort fun row row' => le row.key row'.key

/-- `usage_summary_view`, which shows the rows to who may view the query log. -/
def usageSummaryView (hasViewPermission : Bool) (env : UsageEnv) : Except PyExc (List UsageRow) := do
  raiseIf (¬hasViewPermission) (.permissionDenied [])
  usageRows env

/-! ## One event at a time -/

/-- Some events that are counted together. -/
structure UsageEvent where
  window : PyStr
  user : PyStr
  label : Option PyStr
  kind : PyStr
  n : ℕ

/-- Count the events into the table. -/
def UsageEvent.record (table : List (PyStr × UsageEntry)) (event : UsageEvent) :
    List (PyStr × UsageEntry) :=
  countInto event.window table event.user event.label event.kind event.n

/-- The events of a kind that are counted for a user in a window. -/
def eventTotal (events : List UsageEvent) (user window kind : PyStr) : ℕ :=
  ((events.filter fun e => e.user = user ∧ e.window = window ∧ e.kind = kind).map
    UsageEvent.n).sum

theorem eventTotal_append (events events' : List UsageEvent) (user window kind : PyStr) :
    eventTotal (events ++ events') user window kind =
      eventTotal events user window kind + eventTotal events' user window kind := by
  simp [eventTotal]

theorem eventTotal_cons (event : UsageEvent) (events : List UsageEvent) (user window kind : PyStr) :
    eventTotal (event :: events) user window kind =
      (if event.user = user ∧ event.window = window ∧ event.kind = kind then event.n else 0) +
        eventTotal events user window kind := by
  unfold eventTotal
  rw [List.filter_cons]
  split
  · next h => simp [of_decide_eq_true h]
  · next h => rw [if_neg (by simpa using h), Nat.zero_add]

/-- An entry has a cell for each window and a count for each kind. -/
structure UsageEntry.Shaped (e : UsageEntry) : Prop where
  windows : e.cells.map Prod.fst = usageWindows.map Prod.fst
  kinds : ∀ cell ∈ e.cells, cell.2.map Prod.fst = usageKinds

/-- The count of a kind in a window. -/
def UsageEntry.count (e : UsageEntry) (window kind : PyStr) : ℕ :=
  ((entry e.cells window).bind (entry · kind)).getD 0

theorem shaped_newUsageEntry (label : Option PyStr) : (newUsageEntry label).Shaped where
  windows := rfl
  kinds := by
    rintro cell hcell
    obtain ⟨window, -, rfl⟩ := List.mem_map.mp hcell
    rfl

theorem UsageEntry.Shaped.bump {e : UsageEntry} (h : e.Shaped) (window kind : PyStr) (n : ℕ) :
    (e.bump window kind n).Shaped where
  windows := (keys_adjust _ _ _).trans h.windows
  kinds := by
    rintro cell hcell
    obtain ⟨old, hold, rfl⟩ := List.mem_map.mp hcell
    have hkinds := h.kinds old hold
    by_cases hwindow : old.1 = window
    · rw [if_pos hwindow]
      change (adjust kind (· + n) old.2).map Prod.fst = usageKinds
      rw [keys_adjust, hkinds]
    · rw [if_neg hwindow]
      exact hkinds

theorem count_newUsageEntry (label : Option PyStr) (window kind : PyStr) :
    (newUsageEntry label).count window kind = 0 := by
  have hzero : ∀ cell : UsageCell, (∀ e ∈ cell, e.2 = 0) → (entry cell kind).getD 0 = 0 := by
    intro cell hcell
    unfold entry
    cases hfind : cell.find? (·.1 = kind) with
    | none => rfl
    | some e => exact hcell e (List.mem_of_find?_eq_some hfind)
  unfold UsageEntry.count
  cases hcell : entry (newUsageEntry label).cells window with
  | none => rfl
  | some cell =>
    refine hzero cell fun e he => ?_
    unfold entry at hcell
    obtain ⟨c, hc, rfl⟩ := Option.map_eq_some_iff.mp hcell
    obtain ⟨w, -, rfl⟩ := List.mem_map.mp (List.mem_of_find?_eq_some hc)
    obtain ⟨k, -, rfl⟩ := List.mem_map.mp he
    rfl

/-- Counting changes one count. -/
theorem count_bump {e : UsageEntry} (h : e.Shaped) {window kind : PyStr}
    (hwindow : window ∈ usageWindows.map Prod.fst) (hkind : kind ∈ usageKinds)
    (window' kind' : PyStr) (n : ℕ) : (e.bump window' kind' n).count window kind =
      e.count window kind + if window' = window ∧ kind' = kind then n else 0 := by
  obtain ⟨cell, hcell, hmem⟩ := exists_entry (h.windows ▸ hwindow)
  obtain ⟨m, hm, -⟩ := exists_entry (k := kind) ((h.kinds _ hmem).symm ▸ hkind)
  unfold UsageEntry.count UsageEntry.bump bumpCell
  simp only [entry_adjust, hcell]
  by_cases hw : window' = window
  · by_cases hk : kind' = kind
    · simp [hw, hk, entry_adjust, hm]
    · simp [hw, hk, entry_adjust]
  · simp [hw]

/-! ## The table of a run -/

/-- An entry counts the events of a user. -/
structure EntryOf (events : List UsageEvent) (user : PyStr) (e : UsageEntry) : Prop where
  shaped : e.Shaped
  label : ∃ event ∈ events, event.user = user ∧ event.label = e.label
  counts : ∀ window ∈ usageWindows.map Prod.fst, ∀ kind ∈ usageKinds,
    e.count window kind = eventTotal events user window kind

/-- The table has one entry for each user of whom there are events. -/
structure TableOf (events : List UsageEvent) (table : List (PyStr × UsageEntry)) : Prop where
  nodup : (table.map Prod.fst).Nodup
  users : ∀ user, entry table user = none ↔ ∀ event ∈ events, event.user ≠ user
  entries : ∀ user e, entry table user = some e → EntryOf events user e

theorem tableOf_nil : TableOf [] [] :=
  ⟨List.nodup_nil, by simp, by simp⟩

/-- A user of whom there is no event has no events to count. -/
theorem eventTotal_eq_zero {events : List UsageEvent} {user : PyStr}
    (h : ∀ event ∈ events, event.user ≠ user) (window kind : PyStr) :
    eventTotal events user window kind = 0 := by
  unfold eventTotal
  rw [List.filter_eq_nil_iff.mpr]
  · rfl
  · intro event hevent hmatch
    exact h event hevent (of_decide_eq_true hmatch).1

theorem eventTotal_snoc (events : List UsageEvent) (event : UsageEvent) (user window kind : PyStr) :
    eventTotal (events ++ [event]) user window kind = eventTotal events user window kind +
      if event.user = user ∧ event.window = window ∧ event.kind = kind then event.n else 0 := by
  rw [eventTotal_append, eventTotal_cons]
  rfl

/-- The entry an event is counted into, which may be new. -/
theorem TableOf.base {events : List UsageEvent} {table : List (PyStr × UsageEntry)}
    (h : TableOf events table) (event : UsageEvent) :
    let base := (entry table event.user).getD (newUsageEntry event.label)
    base.Shaped ∧ (∃ e ∈ events ++ [event], e.user = event.user ∧ e.label = base.label) ∧
      ∀ window ∈ usageWindows.map Prod.fst, ∀ kind ∈ usageKinds,
        base.count window kind = eventTotal events event.user window kind := by
  cases hentry : entry table event.user with
  | none =>
    refine ⟨shaped_newUsageEntry _, ⟨event, by simp, rfl, rfl⟩, fun window _ kind _ => ?_⟩
    rw [eventTotal_eq_zero ((h.users _).mp hentry)]
    exact count_newUsageEntry event.label window kind
  | some e =>
    have hold := h.entries _ e hentry
    obtain ⟨event', hevent', huser, hlabel⟩ := hold.label
    exact ⟨hold.shaped, ⟨event', List.mem_append_left _ hevent', huser, hlabel⟩, hold.counts⟩

/-- One more event. -/
theorem TableOf.record {events : List UsageEvent} {table : List (PyStr × UsageEntry)}
    (h : TableOf events table) (event : UsageEvent) :
    TableOf (events ++ [event]) (event.record table) := by
  obtain ⟨hshaped, hlabel, hcounts⟩ := h.base event
  refine ⟨nodup_upsert h.nodup _ _ _, fun user => ?_, fun user e he => ?_⟩
  · unfold UsageEvent.record countInto
    rw [entry_upsert]
    by_cases huser : event.user = user
    · simp [huser]
    · rw [if_neg huser, h.users]
      simp [or_imp, forall_and, huser]
  · unfold UsageEvent.record countInto at he
    rw [entry_upsert] at he
    by_cases huser : event.user = user
    · subst huser
      rw [if_pos rfl] at he
      obtain rfl := Option.some.inj he
      refine ⟨hshaped.bump _ _ _, hlabel, fun window hwindow kind hkind => ?_⟩
      rw [count_bump hshaped hwindow hkind, hcounts window hwindow kind hkind, eventTotal_snoc]
      simp
    · rw [if_neg huser] at he
      have hold := h.entries user e he
      obtain ⟨event', hevent', huser', hlabel'⟩ := hold.label
      refine ⟨hold.shaped, ⟨event', List.mem_append_left _ hevent', huser', hlabel'⟩,
        fun window hwindow kind hkind => ?_⟩
      rw [hold.counts window hwindow kind hkind, eventTotal_snoc]
      simp [huser]

/-- After any events, in any order. -/
theorem tableOf_foldl (events : List UsageEvent) :
    TableOf events (events.foldl UsageEvent.record []) := by
  induction events using List.reverseRecOn with
  | nil => exact tableOf_nil
  | append_singleton events event ih =>
    rw [List.foldl_concat]
    exact ih.record event

/-! ## The events of a window -/

/-- The events of the groups of a window. -/
def groupEvents (window : PyStr) (queries : List ((PyStr × Option PyStr × PyStr) × ℕ))
    (rejections : List ((PyStr × Option PyStr) × ℕ)) : List UsageEvent :=
  queries.map (fun group => ⟨window, group.1.1, group.1.2.1, group.1.2.2, group.2⟩) ++
    rejections.map fun group => ⟨window, group.1.1, group.1.2, lit "auth", group.2⟩

/-- The events a window asks the database for. -/
def windowEvents (env : UsageEnv) (window : PyStr × ℕ) : Except PyExc (List UsageEvent) := do
  let queries ← env.queries (env.now - window.2)
  let rejections ← env.rejections (env.now - window.2)
  return groupEvents window.1 queries.counts.groups rejections.counts.groups

theorem countUsage_eq (env : UsageEnv) (table : List (PyStr × UsageEntry)) (window : PyStr × ℕ) :
    countUsage env table window =
      (windowEvents env window).map fun events => events.foldl UsageEvent.record table := by
  unfold countUsage windowEvents
  dsimp only
  cases env.queries (env.now - window.2) with
  | error e => rfl
  | ok queries =>
    cases env.rejections (env.now - window.2) with
    | error e => rfl
    | ok rejections =>
      change Except.ok _ = Except.ok (List.foldl _ _ (groupEvents _ _ _))
      unfold groupEvents
      rw [List.foldl_append, List.foldl_map, List.foldl_map]
      rfl

/-- The loops over the windows ask for all events and count them. -/
theorem foldlM_countUsage (env : UsageEnv) (windows : List (PyStr × ℕ))
    (table : List (PyStr × UsageEntry)) : windows.foldlM (countUsage env) table =
      (windows.mapM (windowEvents env)).map fun events =>
        events.flatten.foldl UsageEvent.record table := by
  induction windows generalizing table with
  | nil => rfl
  | cons window rest ih =>
    rw [List.foldlM_cons, List.mapM_cons, countUsage_eq]
    cases windowEvents env window with
    | error e => rfl
    | ok events =>
      change rest.foldlM (countUsage env) (events.foldl UsageEvent.record table) = _
      rw [ih]
      cases hrest : rest.mapM (windowEvents env) with
      | error e => rfl
      | ok more =>
        change Except.ok _ = Except.ok (List.foldl _ _ (events :: more).flatten)
        rw [List.flatten_cons, List.foldl_append]

/-- What the two queries of a window see. -/
structure WindowDbs where
  queries : UsageDb
  rejections : UsageDb
  deriving Inhabited

/-- The number of events of a kind. -/
def WindowDbs.total (dbs : WindowDbs) (since : ℤ) (user kind : PyStr) : ℕ :=
  (dbs.queries.queriesSince since).countP
      (fun row => row.user = user ∧ row.decision.value = kind) +
    if kind = lit "auth" then (dbs.rejections.rejectionsSince since).countP (·.user = user) else 0

/-- A query of the window sees an event of the user, who has that name there. -/
def WindowDbs.Lists (dbs : WindowDbs) (since : ℤ) (user : PyStr) (label : Option PyStr) : Prop :=
  (∃ row ∈ dbs.queries.queriesSince since, row.user = user ∧ dbs.queries.username user = label) ∨
    ∃ row ∈ dbs.rejections.rejectionsSince since, row.user = user ∧
      dbs.rejections.username user = label

/-- The answers of a window were given by these databases. -/
structure Saw (env : UsageEnv) (window : PyStr × ℕ) (dbs : WindowDbs) : Prop where
  queries : ∃ answer, env.queries (env.now - window.2) = .ok answer ∧ answer.db = dbs.queries
  rejections : ∃ answer, env.rejections (env.now - window.2) = .ok answer ∧
    answer.db = dbs.rejections

/-- The events of a window are those in the databases of its queries. -/
structure EventsOf (env : UsageEnv) (window : PyStr × ℕ) (events : List UsageEvent)
    (dbs : WindowDbs) : Prop where
  saw : Saw env window dbs
  windows : ∀ event ∈ events, event.window = window.1
  totals : ∀ user kind, eventTotal events user window.1 kind =
    dbs.total (env.now - window.2) user kind
  lists : ∀ user label, (∃ event ∈ events, event.user = user ∧ event.label = label) ↔
    dbs.Lists (env.now - window.2) user label

theorem eventTotal_queries {since : ℤ} (answer : QueryCounts since) (window user kind : PyStr) :
    eventTotal (answer.counts.groups.map fun group =>
      ⟨window, group.1.1, group.1.2.1, group.1.2.2, group.2⟩) user window kind =
      (answer.db.queriesSince since).countP
        (fun row => row.user = user ∧ row.decision.value = kind) := by
  have hsum := answer.counts.sum_filter fun key => key.1 = user ∧ key.2.2 = kind
  unfold eventTotal
  rw [List.filter_map, List.map_map]
  simpa [Function.comp_def] using hsum

theorem eventTotal_rejections {since : ℤ} (answer : RejectionCounts since)
    (window user kind : PyStr) : eventTotal (answer.counts.groups.map fun group =>
      ⟨window, group.1.1, group.1.2, lit "auth", group.2⟩) user window kind =
      if kind = lit "auth" then (answer.db.rejectionsSince since).countP (·.user = user) else 0 := by
  have hsum := answer.counts.sum_filter fun key => key.1 = user
  unfold eventTotal
  rw [List.filter_map, List.map_map]
  by_cases hkind : kind = lit "auth"
  · simpa [Function.comp_def, hkind] using hsum
  · simp [Function.comp_def, hkind, Ne.symm hkind]

/-- The users and names in the groups are those of the rows. -/
theorem groupEvents_lists {since : ℤ} (queries : QueryCounts since)
    (rejections : RejectionCounts since) (window user : PyStr) (label : Option PyStr) :
    (∃ event ∈ groupEvents window queries.counts.groups rejections.counts.groups,
      event.user = user ∧ event.label = label) ↔
      WindowDbs.Lists ⟨queries.db, rejections.db⟩ since user label := by
  have hquery := queries.counts.exists_group_iff fun key => key.1 = user ∧ key.2.1 = label
  have hrejection := rejections.counts.exists_group_iff fun key => key.1 = user ∧ key.2 = label
  simp only [decide_eq_true_eq] at hquery hrejection
  have hqueries : (∃ row ∈ queries.db.queriesSince since, row.user = user ∧
      queries.db.username row.user = label) ↔ ∃ row ∈ queries.db.queriesSince since,
      row.user = user ∧ queries.db.username user = label :=
    exists_congr fun row => and_congr_right fun _ => and_congr_right fun h => by rw [h]
  have hrejections : (∃ row ∈ rejections.db.rejectionsSince since, row.user = user ∧
      rejections.db.username row.user = label) ↔ ∃ row ∈ rejections.db.rejectionsSince since,
      row.user = user ∧ rejections.db.username user = label :=
    exists_congr fun row => and_congr_right fun _ => and_congr_right fun h => by rw [h]
  unfold groupEvents WindowDbs.Lists
  rw [← hqueries, ← hrejections, ← hquery, ← hrejection]
  simp only [List.mem_append, List.mem_map, or_and_right, exists_or]
  refine or_congr ?_ ?_
  · constructor
    · rintro ⟨event, ⟨group, hgroup, rfl⟩, hmatch⟩
      exact ⟨group, hgroup, hmatch⟩
    · rintro ⟨group, hgroup, hmatch⟩
      exact ⟨_, ⟨group, hgroup, rfl⟩, hmatch⟩
  · constructor
    · rintro ⟨event, ⟨group, hgroup, rfl⟩, hmatch⟩
      exact ⟨group, hgroup, hmatch⟩
    · rintro ⟨group, hgroup, hmatch⟩
      exact ⟨_, ⟨group, hgroup, rfl⟩, hmatch⟩

/-- A window whose queries are answered has the events of their databases. -/
theorem eventsOf_windowEvents {env : UsageEnv} {window : PyStr × ℕ} {dbs : WindowDbs}
    (h : Saw env window dbs) :
    ∃ events, windowEvents env window = .ok events ∧ EventsOf env window events dbs := by
  have hsaw := h
  obtain ⟨db, db'⟩ := dbs
  obtain ⟨⟨queries, hqueries, rfl⟩, rejections, hrejections, rfl⟩ := h
  refine ⟨_, bind_eq_ok.mpr ⟨queries, hqueries, bind_eq_ok.mpr ⟨rejections, hrejections, rfl⟩⟩,
    hsaw, fun event hevent => ?_, fun user kind => ?_, fun user label => ?_⟩
  · unfold groupEvents at hevent
    rcases List.mem_append.mp hevent with hevent | hevent
    · obtain ⟨group, -, rfl⟩ := List.mem_map.mp hevent
      rfl
    · obtain ⟨group, -, rfl⟩ := List.mem_map.mp hevent
      rfl
  · unfold groupEvents
    rw [eventTotal_append, eventTotal_queries, eventTotal_rejections]
    rfl
  · exact groupEvents_lists queries rejections window.1 user label

theorem saw_of_windowEvents {env : UsageEnv} {window : PyStr × ℕ} {events : List UsageEvent}
    (h : windowEvents env window = .ok events) : ∃ dbs, Saw env window dbs := by
  unfold windowEvents at h
  rw [bind_eq_ok] at h
  obtain ⟨queries, hqueries, h⟩ := h
  rw [bind_eq_ok] at h
  obtain ⟨rejections, hrejections, -⟩ := h
  exact ⟨⟨queries.db, rejections.db⟩, ⟨queries, hqueries, rfl⟩, rejections, hrejections, rfl⟩

/-- The loops over the windows count the events of all of them. -/
theorem eventTotal_flatMap {events : PyStr × ℕ → List UsageEvent} {windows : List (PyStr × ℕ)}
    (hdistinct : (windows.map Prod.fst).Nodup)
    (hevents : ∀ window ∈ windows, ∀ event ∈ events window, event.window = window.1)
    {window : PyStr × ℕ} (hwindow : window ∈ windows) (user kind : PyStr) :
    eventTotal (windows.flatMap events) user window.1 kind =
      eventTotal (events window) user window.1 kind := by
  have hother : ∀ windows' ⊆ windows, window.1 ∉ windows'.map Prod.fst →
      eventTotal (windows'.flatMap events) user window.1 kind = 0 := by
    intro windows' hsub hnot
    unfold eventTotal
    rw [List.filter_eq_nil_iff.mpr]
    · rfl
    · intro event hevent hmatch
      obtain ⟨w, hw, hmem⟩ := List.mem_flatMap.mp hevent
      have hlabel := hevents w (hsub hw) event hmem
      rw [(of_decide_eq_true hmatch).2.1] at hlabel
      exact hnot (List.mem_map.mpr ⟨w, hw, hlabel.symm⟩)
  induction windows with
  | nil => simp at hwindow
  | cons first rest ih =>
    obtain ⟨hfirst, hrest⟩ := List.nodup_cons.mp hdistinct
    rw [List.flatMap_cons, eventTotal_append]
    rcases List.mem_cons.mp hwindow with rfl | hmem
    · rw [hother rest (List.subset_cons_self _ _) hfirst, Nat.add_zero]
    · have hne : window.1 ≠ first.1 := by
        intro heq
        exact hfirst (heq ▸ List.mem_map_of_mem hmem)
      have hhead := hother [first] (by simp) (by simpa using hne)
      rw [List.flatMap_singleton] at hhead
      rw [hhead, Nat.zero_add]
      exact ih hrest (fun w hw => hevents w (List.mem_cons_of_mem _ hw)) hmem
        fun windows' hsub => hother windows' fun w hw => List.mem_cons_of_mem _ (hsub hw)

/-! ## The rows -/

/-- The row of a user, when the queries of each window see these databases. -/
def trueRow (dbs : PyStr × ℕ → WindowDbs) (now : ℕ) (user : PyStr) (label : Option PyStr) :
    UsageRow where
  label := label
  cells := usageWindows.map fun window => usageKinds.map fun kind =>
    (kind, (dbs window).total (now - window.2) user kind)

theorem usageKinds_nodup : usageKinds.Nodup := by decide

theorem usageWindows_nodup : (usageWindows.map Prod.fst).Nodup := by decide

/-- The cells of a row are the counts of its entry. -/
theorem cells_row {e : UsageEntry} (h : e.Shaped) : e.row.cells = usageWindows.map fun window =>
    usageKinds.map fun kind => (kind, e.count window.1 kind) := by
  refine List.map_congr_left fun window hwindow => ?_
  have hlabel : window.1 ∈ e.cells.map Prod.fst := h.windows ▸ List.mem_map_of_mem hwindow
  obtain ⟨cell, hcell, hmem⟩ := exists_entry hlabel
  have hkinds := h.kinds _ hmem
  have hread := eq_map_entry (hkinds ▸ usageKinds_nodup) 0
  unfold UsageEntry.count
  rw [hcell, Option.getD_some]
  rw [hkinds] at hread
  exact hread

/-- The summary of the databases that the queries see: the rows are sorted, and there is exactly one
for each user of whom some window sees an event, with a name the user has there and the true counts. -/
structure Summarises (env : UsageEnv) (dbs : PyStr × ℕ → WindowDbs) (rows : List UsageRow) :
    Prop where
  saw : ∀ window ∈ usageWindows, Saw env window (dbs window)
  sorted : rows.Pairwise fun row row' => le row.key row'.key = true
  listed : ∃ (users : List PyStr) (label : PyStr → Option PyStr), users.Nodup ∧
    (∀ user, user ∈ users ↔ ∃ window ∈ usageWindows, ∃ name,
      (dbs window).Lists (env.now - window.2) user name) ∧
    (∀ user ∈ users, ∃ window ∈ usageWindows,
      (dbs window).Lists (env.now - window.2) user (label user)) ∧
    rows.Perm (users.map fun user => trueRow dbs env.now user (label user))

/-- The rows of the table of some events, sorted. -/
def sortedRows (events : List UsageEvent) : List UsageRow :=
  ((events.foldl UsageEvent.record []).map fun e => e.2.row).mergeSort
    fun row row' => le row.key row'.key

theorem usageRows_eq (env : UsageEnv) : usageRows env =
    (usageWindows.mapM (windowEvents env)).map fun events => sortedRows events.flatten := by
  unfold usageRows
  rw [foldlM_countUsage]
  cases usageWindows.mapM (windowEvents env) with
  | error e => rfl
  | ok events => rfl

theorem sorted_sortedRows (events : List UsageEvent) :
    (sortedRows events).Pairwise fun row row' => le row.key row'.key = true := by
  have htotal : ∀ row row' : UsageRow, (le row.key row'.key || le row'.key row.key) = true := by
    intro row row'
    rw [Bool.or_eq_true]
    exact PyStr.le_total row.key row'.key
  exact @List.pairwise_mergeSort UsageRow (fun row row' => le row.key row'.key)
    (fun _ _ _ => PyStr.le_trans) htotal _

/-- The name of a user in the table. -/
def labelIn (table : List (PyStr × UsageEntry)) (user : PyStr) : Option PyStr :=
  ((entry table user).map UsageEntry.label).join

theorem labelIn_eq {table : List (PyStr × UsageEntry)} {user : PyStr} {e : UsageEntry}
    (h : entry table user = some e) : labelIn table user = e.label := by
  unfold labelIn
  rw [h]
  rfl

/-- The rows are the true rows of the users in the table. -/
theorem summarises_sortedRows {env : UsageEnv} {events : PyStr × ℕ → List UsageEvent}
    {dbs : PyStr × ℕ → WindowDbs}
    (h : ∀ window ∈ usageWindows, EventsOf env window (events window) (dbs window)) :
    Summarises env dbs (sortedRows (usageWindows.flatMap events)) := by
  have htable := tableOf_foldl (usageWindows.flatMap events)
  have hperm : (sortedRows (usageWindows.flatMap events)).Perm
      (((usageWindows.flatMap events).foldl UsageEvent.record []).map fun e => e.2.row) :=
    List.mergeSort_perm _ _
  generalize (usageWindows.flatMap events).foldl UsageEvent.record [] = table at htable hperm
  have hentry : ∀ e ∈ table, EntryOf (usageWindows.flatMap events) e.1 e.2 := fun e he =>
    htable.entries e.1 e.2 ((mem_iff_entry htable.nodup e.1 e.2).mp he)
  have hlists : ∀ user label, (∃ event ∈ usageWindows.flatMap events,
      event.user = user ∧ event.label = label) ↔
      ∃ window ∈ usageWindows, (dbs window).Lists (env.now - window.2) user label := by
    intro user label
    constructor
    · rintro ⟨event, hevent, hmatch⟩
      obtain ⟨window, hwindow, hmem⟩ := List.mem_flatMap.mp hevent
      exact ⟨window, hwindow, ((h window hwindow).lists user label).mp ⟨event, hmem, hmatch⟩⟩
    · rintro ⟨window, hwindow, hlists⟩
      obtain ⟨event, hevent, hmatch⟩ := ((h window hwindow).lists user label).mpr hlists
      exact ⟨event, List.mem_flatMap.mpr ⟨window, hwindow, hevent⟩, hmatch⟩
  have hrow : ∀ e ∈ table, e.2.row = trueRow dbs env.now e.1 e.2.label := by
    intro e he
    have hcells := cells_row (hentry e he).shaped
    unfold trueRow
    rw [UsageRow.mk.injEq]
    refine ⟨rfl, hcells.trans (List.map_congr_left fun window hwindow => ?_)⟩
    refine List.map_congr_left fun kind hkind => ?_
    rw [(hentry e he).counts _ (List.mem_map_of_mem hwindow) kind hkind,
      eventTotal_flatMap usageWindows_nodup (fun w hw => (h w hw).windows) hwindow,
      (h window hwindow).totals]
  have hread : ∀ e ∈ table, labelIn table e.1 = e.2.label := fun e he =>
    labelIn_eq ((mem_iff_entry htable.nodup e.1 e.2).mp he)
  refine ⟨fun window hwindow => (h window hwindow).saw, sorted_sortedRows _, table.map Prod.fst,
    labelIn table, htable.nodup, fun user => ?_,
    fun user huser => ?_, hperm.trans (List.Perm.of_eq ?_)⟩
  · constructor
    · intro huser
      obtain ⟨e, he, rfl⟩ := List.mem_map.mp huser
      obtain ⟨window, hwindow, hseen⟩ := (hlists e.1 e.2.label).mp (hentry e he).label
      exact ⟨window, hwindow, _, hseen⟩
    · rintro ⟨window, hwindow, name, hseen⟩
      obtain ⟨event, hevent, huser, -⟩ := (hlists user name).mpr ⟨window, hwindow, hseen⟩
      cases hmissing : entry table user with
      | none => exact absurd huser ((htable.users user).mp hmissing event hevent)
      | some e => exact List.mem_map_of_mem ((mem_iff_entry htable.nodup user e).mpr hmissing)
  · obtain ⟨e, he, rfl⟩ := List.mem_map.mp huser
    rw [hread e he]
    exact (hlists e.1 e.2.label).mp (hentry e he).label
  · rw [List.map_map]
    refine List.map_congr_left fun e he => ?_
    rw [hrow e he, Function.comp_apply, hread e he]

/-! ## A quiet database -/

/-- All queries see the same database. -/
def Quiet (env : UsageEnv) (db : UsageDb) : Prop :=
  ∀ window ∈ usageWindows, Saw env window ⟨db, db⟩

/-- The user has an entry in one of the audit tables. -/
def UsageDb.Active (db : UsageDb) (since : ℤ) (user : PyStr) : Prop :=
  (∃ row ∈ db.queryLog, since ≤ row.startedAt ∧ row.user = user) ∨
    ∃ row ∈ db.rejectionLog, since ≤ row.startedAt ∧ row.user = user

/-- The counts of a cell are at most those of another. -/
def CellLe (cell cell' : UsageCell) : Prop :=
  List.Forall₂ (fun e e' => e.1 = e'.1 ∧ e.2 ≤ e'.2) cell cell'

theorem lists_same_iff (db : UsageDb) (since : ℤ) (user : PyStr) (label : Option PyStr) :
    WindowDbs.Lists ⟨db, db⟩ since user label ↔
      db.Active since user ∧ db.username user = label := by
  unfold WindowDbs.Lists UsageDb.Active UsageDb.queriesSince UsageDb.rejectionsSince
  simp only [List.mem_filter, decide_eq_true_eq]
  constructor
  · rintro (⟨row, ⟨hmem, hsince⟩, huser, hlabel⟩ | ⟨row, ⟨hmem, hsince⟩, huser, hlabel⟩)
    · exact ⟨Or.inl ⟨row, hmem, hsince, huser⟩, hlabel⟩
    · exact ⟨Or.inr ⟨row, hmem, hsince, huser⟩, hlabel⟩
  · rintro ⟨⟨row, hmem, hsince, huser⟩ | ⟨row, hmem, hsince, huser⟩, hlabel⟩
    · exact Or.inl ⟨row, ⟨hmem, hsince⟩, huser, hlabel⟩
    · exact Or.inr ⟨row, ⟨hmem, hsince⟩, huser, hlabel⟩

/-- A longer window counts at least as much. -/
theorem total_mono (dbs : WindowDbs) {since since' : ℤ} (h : since' ≤ since) (user kind : PyStr) :
    dbs.total since user kind ≤ dbs.total since' user kind := by
  have hqueries : (dbs.queries.queriesSince since).Sublist (dbs.queries.queriesSince since') :=
    List.monotone_filter_right _ fun row hrow => by
      simp only [decide_eq_true_eq] at hrow ⊢
      exact h.trans hrow
  have hrejections : (dbs.rejections.rejectionsSince since).Sublist
      (dbs.rejections.rejectionsSince since') :=
    List.monotone_filter_right _ fun row hrow => by
      simp only [decide_eq_true_eq] at hrow ⊢
      exact h.trans hrow
  unfold WindowDbs.total
  refine Nat.add_le_add hqueries.countP_le ?_
  split
  · exact hrejections.countP_le
  · exact Nat.le_refl _

/-- A row of a quiet database grows from window to window. -/
theorem cells_trueRow_mono (db : UsageDb) (now : ℕ) (user : PyStr) (label : Option PyStr) :
    (trueRow (fun _ => ⟨db, db⟩) now user label).cells.Pairwise CellLe := by
  have hwindows : usageWindows.Pairwise fun window window' => window.2 ≤ window'.2 := by decide
  refine List.Pairwise.map _ (fun window window' hle => ?_) hwindows
  refine List.forall₂_map_left_iff.mpr (List.forall₂_map_right_iff.mpr ?_)
  refine List.forall₂_same.mpr fun kind _ => ⟨rfl, total_mono _ (by omega) user kind⟩

/-- The run returns when all queries are answered, and then with their summary. -/
theorem usageRows_of_saw {env : UsageEnv} {dbs : PyStr × ℕ → WindowDbs}
    (h : ∀ window ∈ usageWindows, Saw env window (dbs window)) :
    ∃ rows, usageRows env = .ok rows ∧ Summarises env dbs rows := by
  choose! events hanswered hevents using fun window hwindow =>
    eventsOf_windowEvents (h window hwindow)
  have hasked : usageWindows.mapM (windowEvents env) = .ok (usageWindows.map events) :=
    mapM_eq_ok_iff.mpr (List.forall₂_map_right_iff.mpr (List.forall₂_same.mpr hanswered))
  refine ⟨sortedRows (usageWindows.flatMap events), ?_, summarises_sortedRows hevents⟩
  rw [usageRows_eq, hasked, List.flatMap_def]
  rfl

/-- A run that returns has had all its queries answered. -/
theorem saw_of_usageRows {env : UsageEnv} {rows : List UsageRow} (h : usageRows env = .ok rows) :
    ∃ dbs : PyStr × ℕ → WindowDbs, ∀ window ∈ usageWindows, Saw env window (dbs window) := by
  rw [usageRows_eq] at h
  cases hask : usageWindows.mapM (windowEvents env) with
  | error e =>
    rw [hask] at h
    exact absurd h (by simp [Except.map])
  | ok asked =>
    have hanswered : ∀ window ∈ usageWindows, ∃ dbs, Saw env window dbs := by
      intro window hwindow
      obtain ⟨events, -, hevents⟩ := exists_of_forall₂_left (mapM_eq_ok_iff.mp hask) hwindow
      exact saw_of_windowEvents hevents
    choose! dbs hdbs using hanswered
    exact ⟨dbs, hdbs⟩

/-! ## The summary -/

/-- The rows of a quiet database: one for each user who was active in the last seven days, under the
user's name, and no window with fewer events than a shorter one. -/
structure TrueSummary (env : UsageEnv) (db : UsageDb) (rows : List UsageRow) : Prop where
  listed : ∃ users : List PyStr, users.Nodup ∧
    (∀ user, user ∈ users ↔ db.Active (env.now - 604800) user) ∧
    rows.Perm (users.map fun user => trueRow (fun _ => ⟨db, db⟩) env.now user (db.username user))
  grows : ∀ row ∈ rows, row.cells.Pairwise CellLe

theorem Summarises.trueSummary {env : UsageEnv} {db : UsageDb} {rows : List UsageRow}
    (h : Summarises env (fun _ => ⟨db, db⟩) rows) : TrueSummary env db rows := by
  obtain ⟨users, label, hnodup, husers, hlabel, hperm⟩ := h.listed
  have hlongest : ∀ window ∈ usageWindows, window.2 ≤ 604800 := by decide
  refine ⟨⟨users, hnodup, fun user => ?_, ?_⟩, fun row hrow => ?_⟩
  · rw [husers]
    constructor
    · rintro ⟨window, hwindow, name, hlists⟩
      have hle := hlongest window hwindow
      obtain ⟨⟨row, hmem, hsince, huser⟩ | ⟨row, hmem, hsince, huser⟩, -⟩ :=
        (lists_same_iff db _ user name).mp hlists
      · exact Or.inl ⟨row, hmem, by omega, huser⟩
      · exact Or.inr ⟨row, hmem, by omega, huser⟩
    · intro hactive
      exact ⟨(lit "7d", 604800), by simp [usageWindows], db.username user,
        (lists_same_iff db _ user _).mpr ⟨hactive, rfl⟩⟩
  · refine hperm.trans (List.Perm.of_eq (List.map_congr_left fun user huser => ?_))
    obtain ⟨window, -, hlists⟩ := hlabel user huser
    rw [((lists_same_iff db _ user _).mp hlists).2]
  · obtain ⟨user, -, rfl⟩ := List.mem_map.mp (hperm.mem_iff.mp hrow)
    exact cells_trueRow_mono db env.now user (label user)

/-- The summary shows the true counts of what its queries see, to who may view the log. -/
theorem usage_summarised (env : UsageEnv) (hasViewPermission : Bool) :
    (∀ rows, usageSummaryView hasViewPermission env = .ok rows → hasViewPermission = true ∧
      ∃ dbs, Summarises env dbs rows) ∧
    (∀ dbs : PyStr × ℕ → WindowDbs, hasViewPermission = true →
      (∀ window ∈ usageWindows, Saw env window (dbs window)) →
      ∃ rows, usageSummaryView hasViewPermission env = .ok rows ∧ Summarises env dbs rows) ∧
    ∀ db, hasViewPermission = true → Quiet env db →
      ∃ rows, usageSummaryView hasViewPermission env = .ok rows ∧ TrueSummary env db rows := by
  have hview : ∀ rows, usageSummaryView hasViewPermission env = .ok rows ↔
      hasViewPermission = true ∧ usageRows env = .ok rows := by
    intro rows
    unfold usageSummaryView
    rw [bind_eq_ok]
    simp
  refine ⟨fun rows h => ?_, fun dbs hpermitted h => ?_, fun db hpermitted h => ?_⟩
  · obtain ⟨hpermitted, hrows⟩ := (hview rows).mp h
    obtain ⟨dbs, hdbs⟩ := saw_of_usageRows hrows
    obtain ⟨rows', hrows', hsummary⟩ := usageRows_of_saw hdbs
    obtain rfl : rows = rows' := Except.ok.inj (hrows.symm.trans hrows')
    exact ⟨hpermitted, dbs, hsummary⟩
  · obtain ⟨rows, hrows, hsummary⟩ := usageRows_of_saw h
    exact ⟨rows, (hview rows).mpr ⟨hpermitted, hrows⟩, hsummary⟩
  · obtain ⟨rows, hrows, hsummary⟩ := usageRows_of_saw h
    exact ⟨rows, (hview rows).mpr ⟨hpermitted, hrows⟩, hsummary.trueSummary⟩

/-- A user with a query an hour ago and a rejection a day ago. -/
def exampleUsageDb : UsageDb where
  queryLog := [{ user := lit "7", decision := .allowed, rawSql := [], startedAt := 999000 }]
  rejectionLog := [⟨lit "7", lit "1", lit "mcp-sql", [], .noMfa, [], none, 950000⟩]
  username _ := some (lit "alice")

/-- The summary of that database. -/
def exampleUsageEnv : UsageEnv where
  now := 1000000
  queries _ := .ok ⟨exampleUsageDb, .ofRows _ _⟩
  rejections _ := .ok ⟨exampleUsageDb, .ofRows _ _⟩

theorem usage_summarised_example : ∃ rows, usageSummaryView true exampleUsageEnv = .ok rows ∧
    TrueSummary exampleUsageEnv exampleUsageDb rows :=
  (usage_summarised exampleUsageEnv true).2.2 exampleUsageDb rfl fun _ _ =>
    ⟨⟨_, rfl, rfl⟩, _, rfl, rfl⟩

end McpSql
