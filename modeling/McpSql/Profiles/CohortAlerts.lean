import Mathlib.Data.Finset.Card
import Mathlib.Data.List.Sort
import McpSql.Conf
import McpSql.Foundations.KeyedLoop
import McpSql.Foundations.Raising

/-!
# Alerts on cohort changes

The receiver of `m2m_changed` on `User.groups.through` (`signals.py`): an addition to a profile
group is paged for every user it reaches, and once more for a user it leaves in several profile
groups.  The memberships are read again after the addition, one query for each user.
-/

namespace McpSql

open Python PyStr Effect

/-! ## Tables and queries -/

/-- A row of `auth_group`. -/
structure GroupRow where
  pk : ℕ
  name : PyStr
  deriving DecidableEq, Repr

/-- A user, and what its `get_username()` returns or raises: an `Exception` at most. -/
structure UserRow where
  pk : ℕ
  getUsername : Except PyExc PyStr
  confined : Raising.Confined PyExc.isException getUsername

/-- The users and the groups. -/
structure CohortTables where
  users : List UserRow
  groups : List GroupRow
  groupPks : (groups.map GroupRow.pk).Nodup

/-- The rows of `User.groups.through`: the primary keys of a user and of one of its groups. -/
abbrev Through := Finset (ℕ × ℕ)

/-- A set of primary keys, in the order Python iterates it. -/
structure PkSet where
  elems : List ℕ
  nodup : elems.Nodup

/-- `{pk}`. -/
def PkSet.singleton (pk : ℕ) : PkSet := ⟨[pk], List.nodup_singleton pk⟩

/-- The queries of the receiver. -/
inductive CohortQuery where
  | groups
  | memberships (uid : ℕ)
  | users
  deriving DecidableEq, Repr

/-- What the receiver reads: the settings, the tables as they are when it runs, and the queries that
fail. -/
structure CohortEnv where
  settings : Settings
  tables : CohortTables
  through : Through
  failure : CohortQuery → Option PyExc

/-- The answer to a query. -/
def CohortEnv.answer {α : Type} (env : CohortEnv) (query : CohortQuery) (rows : α) :
    Except PyExc α :=
  match env.failure query with
  | none => .ok rows
  | some e => .error e

/-- A query that is answered returns its rows. -/
theorem CohortEnv.answer_eq_ok {α : Type} (env : CohortEnv) {query : CohortQuery} {rows found : α}
    (h : env.answer query rows = .ok found) : rows = found := by
  unfold CohortEnv.answer at h
  cases hfailure : env.failure query with
  | none => simpa [hfailure] using h
  | some e => simp [hfailure] at h

/-! ## The receiver -/

/-- The values of `action`. -/
inductive M2mAction where
  | preAdd
  | postAdd
  | preRemove
  | postRemove
  | preClear
  | postClear
  deriving DecidableEq, Repr

/-- The arguments of `m2m_changed` the receiver takes; `instance` is named by its primary key. -/
structure M2mChanged where
  instancePk : ℕ
  action : M2mAction
  pkSet : Option PkSet
  reverse : Bool

/-- `pk_set or set()`. -/
def M2mChanged.pks (signal : M2mChanged) : PkSet := signal.pkSet.getD ⟨[], List.nodup_nil⟩

/-- `name_to_profile` at a group name; of two profiles with the group the later one counts. -/
def nameToProfile (settings : Settings) (name : PyStr) : Option PyStr :=
  (settings.profiles.reverse.find? (·.groupName = name)).map Profile.name

/-- The rows of the profile groups, each with the name of its profile. -/
def mcpGroupNames (settings : Settings) (tables : CohortTables) : List (ℕ × PyStr) :=
  tables.groups.filterMap fun group =>
    (nameToProfile settings group.name).map fun profile => (group.pk, profile)

/-- `_mcp_group_pks`. -/
def mcpGroupPks (env : CohortEnv) : Except PyExc (List (ℕ × PyStr)) :=
  env.answer .groups (mcpGroupNames env.settings env.tables)

/-- `_user_label`. -/
def userLabel (user : UserRow) : Py PyStr :=
  catching PyExc.isException (call user.getUsername) fun _ => pure (lit "?")

/-- The groups of a user among the given ones. -/
def groupPksOf (tables : CohortTables) (through : Through) (uid : ℕ)
    (mcpGroupPks : List (ℕ × PyStr)) : List ℕ :=
  (tables.groups.map GroupRow.pk).filter fun pk =>
    (uid, pk) ∈ through && pk ∈ mcpGroupPks.map Prod.fst

/-- `sorted(mcp_group_pks[pk] for pk in pks)`. -/
def profileNames (mcpGroupPks : List (ℕ × PyStr)) (pks : List ℕ) : List PyStr :=
  (pks.filterMap fun pk => mcpGroupPks.lookup pk).insertionSort fun s t => le s t = true

/-- `_mcp_memberships`. -/
def mcpMemberships (env : CohortEnv) (userIds : PkSet) (mcpGroupPks : List (ℕ × PyStr)) :
    Py (List (ℕ × List PyStr)) :=
  userIds.elems.mapM fun uid =>
    catching PyExc.isDatabaseError
      (do
        let pks ← call (env.answer (.memberships uid)
          (groupPksOf env.tables env.through uid mcpGroupPks))
        return (uid, profileNames mcpGroupPks pks))
      fun _ => do
        emit .exception (lit "MCP membership query failed for user pk=" ++ ofNat uid)
        return (uid, [])

/-- The text of the page for a gain. -/
def gainedMessage (label : PyStr) (uid : ℕ) (profiles : List PyStr) : PyStr :=
  let joined := (lit ", ").intercalate profiles
  lit "MCP cohort change: " ++ label ++ lit " (pk=" ++ ofNat uid ++
    lit ") GAINED MCP access via profile group(s) [" ++ (if joined = [] then lit "?" else joined) ++
    lit "] — confirm this grant was authorized."

/-- The text of the page for an ambiguity. -/
def ambiguityMessage (uid : ℕ) (profiles : List PyStr) : PyStr :=
  lit "MCP profile AMBIGUITY: user pk=" ++ ofNat uid ++ lit " is in " ++ ofNat profiles.length ++
    lit " MCP profile groups (" ++ (lit ", ").intercalate profiles ++
    lit ") — MCP access will be DENIED until exactly one remains."

/-- The body of the loop of `_alert_mcp_group_grant`; a user that was not found is labelled "?". -/
def alertUser (memberships : List (ℕ × List PyStr)) (users : List UserRow) (uid : ℕ) : Py Unit := do
  let label ← (users.find? (·.pk = uid)).elim (pure (lit "?")) userLabel
  let profiles := (memberships.lookup uid).getD []
  emit .error (gainedMessage label uid profiles)
  if 1 < profiles.length then emit .error (ambiguityMessage uid profiles) else return ()

/-- `User.objects.filter(pk__in=user_ids)`. -/
def usersIn (tables : CohortTables) (userIds : PkSet) : List UserRow :=
  tables.users.filter fun user => user.pk ∈ userIds.elems

/-- `_alert_mcp_group_grant`. -/
def alertMcpGroupGrant (env : CohortEnv) (userIds : PkSet) (mcpGroupPks : List (ℕ × PyStr)) :
    Py Unit :=
  if userIds.elems = [] then return ()
  else do
    let memberships ← mcpMemberships env userIds mcpGroupPks
    let users ← catching PyExc.isDatabaseError
      (call (env.answer .users (usersIn env.tables userIds))) fun _ => pure []
    forM userIds.elems (alertUser memberships users)

/-- `alert_on_mcp_group_grant`. -/
def alertOnMcpGroupGrant (env : CohortEnv) (signal : M2mChanged) : Py Unit :=
  if signal.action ≠ .postAdd then return ()
  else do
    let mcpGroupPks ← call (mcpGroupPks env)
    if mcpGroupPks = [] then return ()
    else if !signal.reverse then
      if mcpGroupPks.any fun group => group.1 ∈ signal.pks.elems then
        alertMcpGroupGrant env (.singleton signal.instancePk) mcpGroupPks
      else return ()
    else if signal.instancePk ∈ mcpGroupPks.map Prod.fst then
      alertMcpGroupGrant env signal.pks mcpGroupPks
    else return ()

/-! ## What is paged -/

/-- What `_user_label` makes of a user. -/
def UserRow.label (user : UserRow) : PyStr :=
  match user.getUsername with
  | .ok username => username
  | .error _ => lit "?"

/-- The label of a primary key among the users that were found. -/
def labelOf (users : List UserRow) (uid : ℕ) : PyStr :=
  (users.find? (·.pk = uid)).elim (lit "?") UserRow.label

/-- The pages for a user and its profiles. -/
def alertRecords (label : PyStr) (uid : ℕ) (profiles : List PyStr) : List LogRecord :=
  ⟨.error, gainedMessage label uid profiles⟩ ::
    if 1 < profiles.length then [⟨.error, ambiguityMessage uid profiles⟩] else []

theorem run_userLabel (user : UserRow) (w : World) : (userLabel user).run w = .ok user.label w := by
  unfold userLabel UserRow.label
  rw [run_catching]
  cases h : user.getUsername with
  | ok username => rfl
  | error e =>
    have hcaught : e.isException = true := user.confined e h
    simp [hcaught]

/-- The body of the loop never raises, whatever the queries have answered. -/
theorem run_alertUser (memberships : List (ℕ × List PyStr)) (users : List UserRow) (uid : ℕ)
    (w : World) :
    (alertUser memberships users uid).run w = .ok () { w with
      log := w.log ++
        alertRecords (labelOf users uid) uid ((memberships.lookup uid).getD []) } := by
  have hlabel : ((users.find? (·.pk = uid)).elim (pure (lit "?")) userLabel : Py PyStr).run w =
      .ok (labelOf users uid) w := by
    unfold labelOf
    cases users.find? (·.pk = uid) with
    | some user => exact run_userLabel user w
    | none => rfl
  unfold alertUser alertRecords
  rw [EStateM.run_bind, hlabel]
  by_cases hseveral : 1 < ((memberships.lookup uid).getD []).length
  · simp [hseveral, EStateM.run_bind]
  · simp [hseveral]

theorem run_forM_alertUser (memberships : List (ℕ × List PyStr)) (users : List UserRow)
    (uids : List ℕ) (w : World) :
    (forM uids (alertUser memberships users)).run w = .ok () { w with
      log := w.log ++ uids.flatMap fun uid =>
        alertRecords (labelOf users uid) uid ((memberships.lookup uid).getD []) } := by
  induction uids generalizing w with
  | nil => simp
  | cons uid rest ih =>
    rw [List.forM_cons, EStateM.run_bind, run_alertUser]
    simp only [ih, List.flatMap_cons, List.append_assoc]

/-! ## Profile groups -/

/-- The group belongs to a profile. -/
def isProfileGroup (settings : Settings) (group : GroupRow) : Bool :=
  settings.profiles.any (·.groupName = group.name)

/-- The profile groups that exist. -/
def profileGroups (settings : Settings) (tables : CohortTables) : Finset ℕ :=
  ((tables.groups.filter (isProfileGroup settings)).map GroupRow.pk).toFinset

/-- The profile groups of a user. -/
def profileGroupsOf (settings : Settings) (tables : CohortTables) (through : Through) (uid : ℕ) :
    Finset ℕ :=
  (profileGroups settings tables).filter fun pk => (uid, pk) ∈ through

/-- The profile names a page lists for a user. -/
def currentProfiles (settings : Settings) (tables : CohortTables) (through : Through) (uid : ℕ) :
    List PyStr :=
  profileNames (mcpGroupNames settings tables)
    (groupPksOf tables through uid (mcpGroupNames settings tables))

theorem nameToProfile_isSome (settings : Settings) (group : GroupRow) :
    (nameToProfile settings group.name).isSome = isProfileGroup settings group := by
  unfold nameToProfile isProfileGroup
  rw [Option.isSome_map, Bool.eq_iff_iff, List.find?_isSome, List.any_eq_true]
  simp only [List.mem_reverse]

section ProfileGroups

variable (settings : Settings) (tables : CohortTables) (through : Through)

theorem mem_profileGroups {pk : ℕ} :
    pk ∈ profileGroups settings tables ↔
      ∃ group ∈ tables.groups, isProfileGroup settings group = true ∧ group.pk = pk := by
  simp [profileGroups, and_assoc]

/-- The keys of `_mcp_group_pks` are the profile groups. -/
theorem mem_map_mcpGroupNames {pk : ℕ} :
    pk ∈ (mcpGroupNames settings tables).map Prod.fst ↔ pk ∈ profileGroups settings tables := by
  rw [mem_profileGroups, List.mem_map]
  unfold mcpGroupNames
  constructor
  · rintro ⟨⟨pk', profile⟩, hmem, rfl⟩
    obtain ⟨group, hgroup, hname⟩ := List.mem_filterMap.mp hmem
    obtain ⟨profile', hprofile, heq⟩ := Option.map_eq_some_iff.mp hname
    refine ⟨group, hgroup, ?_, congrArg Prod.fst heq⟩
    rw [← nameToProfile_isSome, hprofile]
    rfl
  · rintro ⟨group, hgroup, hprofile, rfl⟩
    rw [← nameToProfile_isSome] at hprofile
    obtain ⟨profile, hname⟩ := Option.isSome_iff_exists.mp hprofile
    exact ⟨(group.pk, profile), List.mem_filterMap.mpr ⟨group, hgroup, by rw [hname]; rfl⟩, rfl⟩

theorem mem_groupPksOf {uid pk : ℕ} :
    pk ∈ groupPksOf tables through uid (mcpGroupNames settings tables) ↔
      pk ∈ profileGroupsOf settings tables through uid := by
  unfold groupPksOf profileGroupsOf
  rw [List.mem_filter, Finset.mem_filter, Bool.and_eq_true, decide_eq_true_eq, decide_eq_true_eq,
    mem_map_mcpGroupNames]
  constructor
  · rintro ⟨-, hrow, hprofile⟩
    exact ⟨hprofile, hrow⟩
  · rintro ⟨hprofile, hrow⟩
    obtain ⟨group, hgroup, -, rfl⟩ := (mem_profileGroups settings tables).mp hprofile
    exact ⟨List.mem_map_of_mem hgroup, hrow, hprofile⟩

/-- A page lists one profile for each profile group of the user. -/
theorem length_currentProfiles (uid : ℕ) :
    (currentProfiles settings tables through uid).length =
      (profileGroupsOf settings tables through uid).card := by
  set pks := groupPksOf tables through uid (mcpGroupNames settings tables) with hpks
  have hnodup : pks.Nodup := tables.groupPks.filter _
  have hset : pks.toFinset = profileGroupsOf settings tables through uid := by
    ext pk
    rw [List.mem_toFinset, hpks, mem_groupPksOf]
  have hlookup : ∀ pk ∈ pks, ((mcpGroupNames settings tables).lookup pk).isSome = true := by
    intro pk hpk
    have hprofile := (Finset.mem_filter.mp ((mem_groupPksOf settings tables through).mp hpk)).1
    obtain ⟨entry, hentry, hkey⟩ :=
      List.mem_map.mp ((mem_map_mcpGroupNames settings tables).mpr hprofile)
    exact List.lookup_isSome_iff.mpr ⟨entry, hentry, by simp [hkey]⟩
  calc (currentProfiles settings tables through uid).length
      = (pks.filterMap fun pk => (mcpGroupNames settings tables).lookup pk).length :=
        List.length_insertionSort _ _
    _ = pks.length := List.filterMap_length_eq_length.mpr hlookup
    _ = (profileGroupsOf settings tables through uid).card := by
      rw [← hset, List.toFinset_card_of_nodup hnodup]

end ProfileGroups

/-! ## A database without errors -/

/-- An environment in which every query is answered. -/
def healthyCohort (settings : Settings) (tables : CohortTables) (through : Through) : CohortEnv :=
  ⟨settings, tables, through, fun _ => none⟩

/-- The page for the gain of a user. -/
def gainedRecord (settings : Settings) (tables : CohortTables) (through : Through) (uid : ℕ) :
    LogRecord :=
  ⟨.error, gainedMessage (labelOf tables.users uid) uid
    (currentProfiles settings tables through uid)⟩

/-- The pages for a user: one for the gain, and one more for several profile groups. -/
def pages (settings : Settings) (tables : CohortTables) (through : Through) (uid : ℕ) :
    List LogRecord :=
  alertRecords (labelOf tables.users uid) uid (currentProfiles settings tables through uid)

/-- The users a signal is paged for. -/
def pagedUsers (settings : Settings) (tables : CohortTables) (signal : M2mChanged) : List ℕ :=
  if signal.action ≠ .postAdd then []
  else if !signal.reverse then
    if signal.pks.elems.any (· ∈ profileGroups settings tables) then [signal.instancePk] else []
  else if signal.instancePk ∈ profileGroups settings tables then signal.pks.elems
  else []

section Healthy

variable (settings : Settings) (tables : CohortTables) (through : Through)

theorem run_mcpMemberships (userIds : PkSet) (w : World) :
    (mcpMemberships (healthyCohort settings tables through) userIds
      (mcpGroupNames settings tables)).run w =
      .ok (userIds.elems.map fun uid => (uid, currentProfiles settings tables through uid)) w := by
  apply KeyedLoop.run_mapM_of_stays
  rw [List.forall₂_map_right_iff, List.forall₂_same]
  exact fun uid _ => rfl

/-- A user among those a query asks for is found as in the whole table. -/
theorem labelOf_usersIn {userIds : PkSet} {uid : ℕ} (h : uid ∈ userIds.elems) :
    labelOf (usersIn tables userIds) uid = labelOf tables.users uid := by
  have hsame : (fun user : UserRow => decide (decide (user.pk ∈ userIds.elems) = true ∧
      decide (user.pk = uid) = true)) = fun user => decide (user.pk = uid) := by
    funext user
    by_cases huser : user.pk = uid
    · simp [huser, h]
    · simp [huser]
  unfold labelOf usersIn
  rw [List.find?_filter, hsame]

theorem lookup_map_of_mem {uids : List ℕ} {uid : ℕ} (h : uid ∈ uids) (f : ℕ → List PyStr) :
    (uids.map fun u => (u, f u)).lookup uid = some (f uid) := by
  induction uids with
  | nil => exact absurd h List.not_mem_nil
  | cons u rest ih =>
    by_cases hu : uid = u
    · simp [hu]
    · have hother : (uid == u) = false := beq_false_of_ne hu
      rw [List.map_cons, List.lookup_cons, hother]
      exact ih ((List.mem_cons.mp h).resolve_left hu)

/-- `_alert_mcp_group_grant` pages every user it is given. -/
theorem run_alertMcpGroupGrant (userIds : PkSet) (w : World) :
    (alertMcpGroupGrant (healthyCohort settings tables through) userIds
      (mcpGroupNames settings tables)).run w =
      .ok () { w with log := w.log ++ userIds.elems.flatMap (pages settings tables through) } := by
  unfold alertMcpGroupGrant
  by_cases hempty : userIds.elems = []
  · simp [hempty]
  · have hpages : ∀ uid ∈ userIds.elems,
        alertRecords (labelOf (usersIn tables userIds) uid) uid
          (((userIds.elems.map fun uid => (uid, currentProfiles settings tables through uid)).lookup
            uid).getD []) = pages settings tables through uid := by
      intro uid huid
      rw [labelOf_usersIn tables huid, lookup_map_of_mem huid]
      rfl
    have husers : (catching PyExc.isDatabaseError
        (call ((healthyCohort settings tables through).answer .users
          (usersIn (healthyCohort settings tables through).tables userIds)))
        fun _ => pure [] : Py (List UserRow)).run w = .ok (usersIn tables userIds) w := rfl
    rw [if_neg hempty, EStateM.run_bind, run_mcpMemberships]
    simp only
    rw [EStateM.run_bind, husers]
    simp only
    rw [run_forM_alertUser, List.flatMap_congr hpages]

/-- An addition reaches a profile group when one of the delivered keys is a key of
`_mcp_group_pks`. -/
theorem any_mcpGroupNames (pks : List ℕ) :
    ((mcpGroupNames settings tables).any fun group => group.1 ∈ pks) =
      pks.any (· ∈ profileGroups settings tables) := by
  rw [Bool.eq_iff_iff, List.any_eq_true, List.any_eq_true]
  constructor
  · rintro ⟨group, hgroup, hdelivered⟩
    have hprofile := (mem_map_mcpGroupNames settings tables).mp (List.mem_map_of_mem hgroup)
    exact ⟨group.1, by simpa using hdelivered, by simpa using hprofile⟩
  · rintro ⟨pk, hdelivered, hprofile⟩
    obtain ⟨group, hgroup, rfl⟩ :=
      List.mem_map.mp ((mem_map_mcpGroupNames settings tables).mpr (by simpa using hprofile))
    exact ⟨group, hgroup, by simpa using hdelivered⟩

/-- Without profile groups nobody is paged. -/
theorem pagedUsers_of_none {signal : M2mChanged} (h : mcpGroupNames settings tables = []) :
    pagedUsers settings tables signal = [] := by
  have hnone : ∀ pk, pk ∉ profileGroups settings tables := by
    intro pk hpk
    have hkey := (mem_map_mcpGroupNames settings tables).mpr hpk
    simp [h] at hkey
  simp [pagedUsers, hnone]

/-- `alert_on_mcp_group_grant` pages the users its signal is about. -/
theorem run_alertOnMcpGroupGrant (signal : M2mChanged) (w : World) :
    (alertOnMcpGroupGrant (healthyCohort settings tables through) signal).run w =
      .ok () { w with log := w.log ++
        (pagedUsers settings tables signal).flatMap (pages settings tables through) } := by
  unfold alertOnMcpGroupGrant
  by_cases haction : signal.action ≠ .postAdd
  · simp [haction, pagedUsers]
  · have hgroups : (call (mcpGroupPks (healthyCohort settings tables through)) : Py _).run w =
        .ok (mcpGroupNames settings tables) w := rfl
    rw [if_neg haction, EStateM.run_bind, hgroups]
    simp only
    by_cases hnone : mcpGroupNames settings tables = []
    · simp [hnone, pagedUsers_of_none settings tables hnone]
    · rw [if_neg hnone, any_mcpGroupNames, pagedUsers, if_neg haction]
      simp only [mem_map_mcpGroupNames]
      split_ifs
      · exact run_alertMcpGroupGrant settings tables through _ w
      · simp
      · exact run_alertMcpGroupGrant settings tables through _ w
      · simp

end Healthy

/-! ## The texts of the pages -/

/-- The record is a page for a gain. -/
def LogRecord.isGained (record : LogRecord) : Bool :=
  record.level = .error && startsWith (lit "MCP cohort change: ") record.message

/-- The record is a page for an ambiguity. -/
def LogRecord.isAmbiguity (record : LogRecord) : Bool :=
  record.level = .error && startsWith (lit "MCP profile AMBIGUITY: ") record.message

/-- The record is a page for an ambiguity and names the user. -/
def LogRecord.namesAmbiguous (uid : ℕ) (record : LogRecord) : Bool :=
  record.level = .error &&
    startsWith (lit "MCP profile AMBIGUITY: user pk=" ++ ofNat uid ++ lit " is in ") record.message

theorem isGained_gained (label : PyStr) (uid : ℕ) (profiles : List PyStr) :
    LogRecord.isGained ⟨.error, gainedMessage label uid profiles⟩ = true := by
  unfold LogRecord.isGained gainedMessage
  simp only [List.append_assoc, startsWith_append, decide_true, Bool.and_self]

theorem isGained_ambiguity (uid : ℕ) (profiles : List PyStr) :
    LogRecord.isGained ⟨.error, ambiguityMessage uid profiles⟩ = false := by
  unfold LogRecord.isGained ambiguityMessage
  simp only [List.append_assoc]
  rfl

theorem isAmbiguity_gained (label : PyStr) (uid : ℕ) (profiles : List PyStr) :
    LogRecord.isAmbiguity ⟨.error, gainedMessage label uid profiles⟩ = false := by
  unfold LogRecord.isAmbiguity gainedMessage
  simp only [List.append_assoc]
  rfl

theorem namesAmbiguous_ambiguity (uid : ℕ) (profiles : List PyStr) :
    LogRecord.namesAmbiguous uid ⟨.error, ambiguityMessage uid profiles⟩ = true := by
  have hsplit : ambiguityMessage uid profiles =
      (lit "MCP profile AMBIGUITY: user pk=" ++ ofNat uid ++ lit " is in ") ++
        (ofNat profiles.length ++ lit " MCP profile groups (" ++ (lit ", ").intercalate profiles ++
          lit ") — MCP access will be DENIED until exactly one remains.") := by
    simp only [ambiguityMessage, List.append_assoc]
  unfold LogRecord.namesAmbiguous
  rw [hsplit, startsWith_append]
  rfl

/-- A page for an ambiguity names one user. -/
theorem uid_eq_of_namesAmbiguous {record : LogRecord} {uid uid' : ℕ}
    (h : record.namesAmbiguous uid = true) (h' : record.namesAmbiguous uid' = true) :
    uid = uid' := by
  unfold LogRecord.namesAmbiguous at h h'
  obtain ⟨t, ht⟩ := List.isPrefixOf_iff_prefix.mp (Bool.and_eq_true_iff.mp h).2
  obtain ⟨t', ht'⟩ := List.isPrefixOf_iff_prefix.mp (Bool.and_eq_true_iff.mp h').2
  have hspace : ∀ n, ofChar ' ' ∉ ofNat n := fun n =>
    ofChar_notMem_ofNat (fun k => Nat.digitChar_ne ' ' (by decide)) n
  have hcut : ofNat uid ++ ofChar ' ' :: (lit "is in " ++ t) =
      ofNat uid' ++ ofChar ' ' :: (lit "is in " ++ t') := by
    have heq := ht.trans ht'.symm
    simp only [List.append_assoc] at heq
    exact List.append_cancel_left heq
  exact ofNat_injective (append_cons_inj (hspace uid) (hspace uid') hcut).1

section Pages

variable (settings : Settings) (tables : CohortTables) (through : Through)

/-- The gains among the pages: one for each user. -/
theorem filter_isGained_pages (uids : List ℕ) :
    (uids.flatMap (pages settings tables through)).filter LogRecord.isGained =
      uids.map (gainedRecord settings tables through) := by
  have hone : ∀ uid, (pages settings tables through uid).filter LogRecord.isGained =
      [gainedRecord settings tables through uid] := by
    intro uid
    unfold pages alertRecords
    rw [List.filter_cons_of_pos (isGained_gained _ _ _)]
    split_ifs
    · rw [List.filter_cons_of_neg (by simp [isGained_ambiguity]), List.filter_nil]
      rfl
    · rfl
  rw [List.filter_flatMap, List.map_eq_flatMap]
  exact List.flatMap_congr fun uid _ => hone uid

/-- A page for an ambiguity is about a user in several profile groups. -/
theorem several_of_isAmbiguity {uid : ℕ} {record : LogRecord}
    (hrecord : record ∈ pages settings tables through uid) (h : record.isAmbiguity = true) :
    record.namesAmbiguous uid = true ∧ 2 ≤ (profileGroupsOf settings tables through uid).card := by
  unfold pages alertRecords at hrecord
  rcases List.mem_cons.mp hrecord with rfl | hrecord
  · rw [isAmbiguity_gained] at h
    exact absurd h (by decide)
  · rw [← length_currentProfiles]
    split_ifs at hrecord with hseveral
    · rw [List.mem_singleton.mp hrecord]
      exact ⟨namesAmbiguous_ambiguity _ _, hseveral⟩
    · exact absurd hrecord List.not_mem_nil

/-- A user in several profile groups that is paged is paged for the ambiguity. -/
theorem exists_namesAmbiguous {uid : ℕ}
    (h : 2 ≤ (profileGroupsOf settings tables through uid).card) :
    ∃ record ∈ pages settings tables through uid, record.namesAmbiguous uid = true := by
  have hseveral : 1 < (currentProfiles settings tables through uid).length := by
    rw [length_currentProfiles]
    exact h
  refine ⟨_, ?_, namesAmbiguous_ambiguity uid (currentProfiles settings tables through uid)⟩
  unfold pages alertRecords
  rw [if_pos hseveral]
  exact List.mem_cons_of_mem _ List.mem_cons_self

end Pages

/-! ## A failing database -/

/-- The log of the second state goes on from the log of the first. -/
def LogGrows (w w' : World) : Prop := w.log <+: w'.log

theorem LogGrows.refl (w : World) : LogGrows w w := List.prefix_refl _

theorem LogGrows.trans (w w' w'' : World) (h : LogGrows w w') (h' : LogGrows w' w'') :
    LogGrows w w'' := List.IsPrefix.trans h h'

/-- Reading the memberships only adds to the log. -/
theorem logGrows_mcpMemberships (env : CohortEnv) (userIds : PkSet)
    (mcpGroupPks : List (ℕ × PyStr)) : Keeps LogGrows (mcpMemberships env userIds mcpGroupPks) := by
  refine .mapM LogGrows.refl LogGrows.trans fun uid _ => ?_
  refine .catching LogGrows.trans (.bind LogGrows.trans (.call LogGrows.refl _) fun _ => ?_)
    fun _ => .bind LogGrows.trans (.modify fun w => List.prefix_append _ _) fun _ => ?_
  · exact .pure LogGrows.refl _
  · exact .pure LogGrows.refl _

/-- When the alerts of an addition are made at all, every user they are for is paged, whatever the
queries for its memberships and its name have answered. -/
theorem gained_of_alertMcpGroupGrant {env : CohortEnv} {userIds : PkSet}
    {mcpGroupPks : List (ℕ × PyStr)} {w w' : World}
    (h : (alertMcpGroupGrant env userIds mcpGroupPks).run w = .ok () w') {uid : ℕ}
    (huid : uid ∈ userIds.elems) :
    ∃ new label profiles, w'.log = w.log ++ new ∧
      ⟨.error, gainedMessage label uid profiles⟩ ∈ new := by
  have hne : userIds.elems ≠ [] := List.ne_nil_of_mem huid
  let findUsers : Py (List UserRow) := catching PyExc.isDatabaseError
    (call (env.answer .users (usersIn env.tables userIds))) fun _ => pure []
  have hgrows : Keeps LogGrows (mcpMemberships env userIds mcpGroupPks) :=
    logGrows_mcpMemberships env userIds mcpGroupPks
  have hsame : Keeps Eq findUsers := Keeps.catching (R := Eq) (fun _ _ _ => Eq.trans)
    (.call (fun _ => rfl) _) fun _ => .pure (fun _ => rfl) _
  have hrun : (do
      let memberships ← mcpMemberships env userIds mcpGroupPks
      let users ← findUsers
      forM userIds.elems (alertUser memberships users) : Py Unit).run w = .ok () w' := by
    rwa [alertMcpGroupGrant, if_neg hne] at h
  obtain ⟨memberships, w₁, hread, hrun⟩ := run_bind_eq_ok.mp hrun
  obtain ⟨users, w₂, hfound, hrun⟩ := run_bind_eq_ok.mp hrun
  obtain ⟨before, hbefore⟩ : LogGrows w w₁ := by simpa [hread] using hgrows w
  obtain rfl : w₁ = w₂ := by simpa [hfound] using hsame w₁
  rw [run_forM_alertUser] at hrun
  obtain rfl := (EStateM.Result.ok.inj hrun).2
  refine ⟨before ++ userIds.elems.flatMap fun uid =>
    alertRecords (labelOf users uid) uid ((memberships.lookup uid).getD []),
    labelOf users uid, (memberships.lookup uid).getD [], ?_, ?_⟩
  · rw [← List.append_assoc, hbefore]
  · exact List.mem_append_right _ (List.mem_flatMap.mpr ⟨uid, huid, List.mem_cons_self⟩)

/-- When the receiver returns, every user its signal is about is paged. -/
theorem gained_of_alertOnMcpGroupGrant {env : CohortEnv} {signal : M2mChanged} {w w' : World}
    (h : (alertOnMcpGroupGrant env signal).run w = .ok () w') {uid : ℕ}
    (huid : uid ∈ pagedUsers env.settings env.tables signal) :
    ∃ new label profiles, w'.log = w.log ++ new ∧
      ⟨.error, gainedMessage label uid profiles⟩ ∈ new := by
  have haction : ¬signal.action ≠ .postAdd := by
    intro haction
    rw [pagedUsers, if_pos haction] at huid
    exact absurd huid List.not_mem_nil
  have hsome : mcpGroupNames env.settings env.tables ≠ [] := by
    intro hnone
    rw [pagedUsers_of_none env.settings env.tables hnone] at huid
    exact absurd huid List.not_mem_nil
  rw [alertOnMcpGroupGrant, if_neg haction] at h
  obtain ⟨mcpGroupPks', w₁, hread, h⟩ := run_bind_eq_ok.mp h
  obtain ⟨hgroups, rfl⟩ := run_call_eq_ok.mp hread
  obtain rfl : mcpGroupNames env.settings env.tables = mcpGroupPks' := env.answer_eq_ok hgroups
  rw [if_neg hsome, any_mcpGroupNames] at h
  simp only [mem_map_mcpGroupNames] at h
  rw [pagedUsers, if_neg haction] at huid
  split_ifs at h huid
  · exact gained_of_alertMcpGroupGrant h huid
  · exact absurd huid List.not_mem_nil
  · exact gained_of_alertMcpGroupGrant h huid
  · exact absurd huid List.not_mem_nil

end McpSql
