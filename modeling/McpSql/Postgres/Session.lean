import McpSql.Python.Str

/-!
# Names and settings of a Postgres session

How Postgres reads a role name that stands in a statement without quotes, and what the commands that
set the role or a setting for the rest of the transaction do to a session.  Names are ASCII here, so
that a character is a byte.
-/

namespace Postgres

open Python PyStr

/-! ## Unquoted names -/

/-- The most bytes of a name. -/
def nameLimit : ℕ := 63

/-- A name in lower case: in a multi-byte encoding only ASCII letters fold. -/
def downcase (s : PyStr) : PyStr := s.map asciiLower

/-- The words that stand for a role, or for none or for all of them, without being its name. -/
def roleWords : List PyStr :=
  [lit "none", lit "public", lit "current_role", lit "current_user", lit "session_user"]

/-- The words of the grammar. -/
structure NameRules where
  /-- The words that are no name when they stand without quotes, in lower case. -/
  keyword : PyStr → Bool
  keyword_roleWords : ∀ word ∈ roleWords, keyword word = true

/-- The name an unquoted word denotes: lower case, and cut to the limit. -/
def NameRules.unquoted (rules : NameRules) (s : PyStr) : Option PyStr :=
  if rules.keyword (downcase s) then none else some ((downcase s).take nameLimit)

/-- A name that needs no quotes. -/
structure NameRules.IsPlain (rules : NameRules) (s : PyStr) : Prop where
  lowercase : ∀ c ∈ s, isAsciiUpper c = false
  short : s.length ≤ nameLimit
  notKeyword : rules.keyword s = false

theorem downcase_eq_self_iff (s : PyStr) :
    downcase s = s ↔ ∀ c ∈ s, isAsciiUpper c = false := by
  unfold downcase
  induction s with
  | nil => simp
  | cons c s ih => simp [asciiLower_eq_self_iff, ih]

section Rules

variable {rules : NameRules}

theorem unquoted_eq_some_iff {s name : PyStr} : rules.unquoted s = some name ↔
    rules.keyword (downcase s) = false ∧ (downcase s).take nameLimit = name := by
  unfold NameRules.unquoted
  cases rules.keyword (downcase s) with
  | true => simp
  | false => simp

/-- The word `none` is no name of a role. -/
theorem ne_none_of_unquoted {s name : PyStr} (h : rules.unquoted s = some name) :
    downcase s ≠ lit "none" := by
  intro hword
  have hkeyword := rules.keyword_roleWords (lit "none") (by simp [roleWords])
  obtain ⟨hname, -⟩ := unquoted_eq_some_iff.mp h
  simp [hword, hkeyword] at hname

/-- A word without quotes denotes the name it spells exactly when it is plain. -/
theorem unquoted_eq_self_iff {s : PyStr} : rules.unquoted s = some s ↔ rules.IsPlain s := by
  rw [unquoted_eq_some_iff]
  constructor
  · rintro ⟨hkeyword, hcut⟩
    have hshort : s.length ≤ nameLimit := by
      rw [← hcut]
      exact List.length_take_le _ _
    have hlength : (downcase s).length = s.length := List.length_map _
    have hlower : downcase s = s := by
      rwa [List.take_of_length_le (hlength ▸ hshort)] at hcut
    rw [hlower] at hkeyword
    exact ⟨(downcase_eq_self_iff s).mp hlower, hshort, hkeyword⟩
  · intro h
    rw [(downcase_eq_self_iff s).mpr h.lowercase]
    exact ⟨h.notKeyword, List.take_of_length_le h.short⟩

end Rules

/-! ## A session -/

/-- Who logged in, whose rights apply, and what is shown for each setting. -/
structure SessionState where
  sessionUser : PyStr
  currentUser : PyStr
  setting : PyStr → PyStr

/-- A command for the rest of the transaction. -/
inductive Command where
  /-- `SET LOCAL ROLE name`, the name without quotes. -/
  | setRole (name : PyStr)
  /-- `SET LOCAL name = 'value'`, or `set_config(name, value, true)`. -/
  | set (name value : PyStr)
  deriving DecidableEq, Repr

/-- Take a role, by its exact name; the word `none` gives up the role taken before. -/
def SessionState.takeRole (s : SessionState) (role : PyStr) : SessionState :=
  { s with currentUser := if role = lit "none" then s.sessionUser else role }

/-- What a command does.  Names of settings are not case-sensitive; two of them are the user and the
role of the session. -/
def SessionState.apply (rules : NameRules) (s : SessionState) : Command → SessionState
  | .setRole name =>
    if downcase name = lit "none" then s.takeRole (lit "none")
    else
      match rules.unquoted name with
      | some role => s.takeRole role
      | none => s
  | .set name value =>
    if downcase name = lit "role" then s.takeRole value
    else if downcase name = lit "session_authorization" then
      { s with sessionUser := value, currentUser := value }
    else { s with setting := Function.update s.setting (downcase name) value }

/-- What commands do, one after another. -/
def SessionState.run (rules : NameRules) (s : SessionState) (commands : List Command) :
    SessionState :=
  commands.foldl (SessionState.apply rules) s

/-- The name of a setting other than the two that change whose rights apply. -/
def OrdinarySetting (name : PyStr) : Prop :=
  downcase name ≠ lit "role" ∧ downcase name ≠ lit "session_authorization"

instance decidableOrdinarySetting (name : PyStr) : Decidable (OrdinarySetting name) :=
  inferInstanceAs (Decidable (_ ∧ _))

section Commands

variable {rules : NameRules} (s : SessionState)

theorem SessionState.run_cons (command : Command) (commands : List Command) :
    s.run rules (command :: commands) = (s.apply rules command).run rules commands := rfl

/-- A role taken by a word that denotes it. -/
theorem currentUser_apply_setRole {name role : PyStr} (h : rules.unquoted name = some role) :
    (s.apply rules (.setRole name)).currentUser = role := by
  have hword : downcase name ≠ lit "none" := ne_none_of_unquoted h
  have hrole : role ≠ lit "none" := by
    rintro rfl
    obtain ⟨-, hcut⟩ := unquoted_eq_some_iff.mp h
    -- a word that was cut is longer than this one
    have hlength := congrArg List.length hcut
    have hshort : (downcase name).length ≤ nameLimit := by
      simp [nameLimit, lit] at hlength ⊢
      omega
    rw [List.take_of_length_le hshort] at hcut
    exact hword hcut
  simp [SessionState.apply, hword, h, SessionState.takeRole, hrole]

/-- An ordinary setting leaves the role alone. -/
theorem currentUser_apply_set {name : PyStr} (h : OrdinarySetting name) (value : PyStr) :
    (s.apply rules (.set name value)).currentUser = s.currentUser := by
  simp [SessionState.apply, h.1, h.2]

/-- So do ordinary settings one after another. -/
theorem currentUser_run_set {entries : List (PyStr × PyStr)}
    (h : ∀ entry ∈ entries, OrdinarySetting entry.1) :
    (s.run rules (entries.map fun entry => .set entry.1 entry.2)).currentUser = s.currentUser := by
  induction entries generalizing s with
  | nil => rfl
  | cons entry rest ih =>
    have hrest := ih (s.apply rules (.set entry.1 entry.2)) fun e he =>
      h e (List.mem_cons_of_mem _ he)
    have hfirst : (s.apply rules (.set entry.1 entry.2)).currentUser = s.currentUser :=
      currentUser_apply_set s (h entry List.mem_cons_self) entry.2
    exact hrest.trans hfirst

/-- A role command changes the current user only. -/
theorem apply_setRole (name : PyStr) :
    ∃ user, s.apply rules (.setRole name) = { s with currentUser := user } := by
  unfold SessionState.apply
  by_cases hword : downcase name = lit "none"
  · simp only [hword, if_true]
    exact ⟨_, rfl⟩
  · simp only [hword, if_false]
    rcases rules.unquoted name with _ | role
    · exact ⟨s.currentUser, rfl⟩
    · exact ⟨_, rfl⟩

/-- An ordinary setting changes under its own name only. -/
theorem setting_apply_set {name : PyStr} (h : OrdinarySetting name) (value : PyStr) :
    (s.apply rules (.set name value)).setting =
      Function.update s.setting (downcase name) value := by
  simp [SessionState.apply, h.1, h.2]

theorem sessionUser_apply_set {name : PyStr} (h : OrdinarySetting name) (value : PyStr) :
    (s.apply rules (.set name value)).sessionUser = s.sessionUser := by
  simp [SessionState.apply, h.1, h.2]

theorem sessionUser_run_set {entries : List (PyStr × PyStr)}
    (h : ∀ entry ∈ entries, OrdinarySetting entry.1) :
    (s.run rules (entries.map fun entry => .set entry.1 entry.2)).sessionUser = s.sessionUser := by
  induction entries generalizing s with
  | nil => rfl
  | cons entry rest ih =>
    have hrest := ih (s.apply rules (.set entry.1 entry.2)) fun e he =>
      h e (List.mem_cons_of_mem _ he)
    exact hrest.trans (sessionUser_apply_set s (h entry List.mem_cons_self) entry.2)

/-- A setting that is not set keeps its value. -/
theorem setting_run_set_of_ne {entries : List (PyStr × PyStr)}
    (h : ∀ entry ∈ entries, OrdinarySetting entry.1) {name : PyStr}
    (hne : ∀ entry ∈ entries, downcase entry.1 ≠ name) :
    (s.run rules (entries.map fun entry => .set entry.1 entry.2)).setting name =
      s.setting name := by
  induction entries generalizing s with
  | nil => rfl
  | cons entry rest ih =>
    have hrest := ih (s.apply rules (.set entry.1 entry.2))
      (fun e he => h e (List.mem_cons_of_mem _ he)) fun e he => hne e (List.mem_cons_of_mem _ he)
    refine hrest.trans ?_
    rw [setting_apply_set s (h entry List.mem_cons_self),
      Function.update_of_ne (hne entry List.mem_cons_self).symm]

/-- Settings of different names hold the values they are set to. -/
theorem setting_run_set_of_mem {entries : List (PyStr × PyStr)}
    (h : ∀ entry ∈ entries, OrdinarySetting entry.1)
    (hnodup : (entries.map fun entry => downcase entry.1).Nodup) {entry : PyStr × PyStr}
    (hentry : entry ∈ entries) :
    (s.run rules (entries.map fun entry => .set entry.1 entry.2)).setting (downcase entry.1) =
      entry.2 := by
  induction entries generalizing s with
  | nil => exact absurd hentry List.not_mem_nil
  | cons first rest ih =>
    rw [List.map_cons, List.nodup_cons] at hnodup
    have hrest : ∀ e ∈ rest, OrdinarySetting e.1 := fun e he => h e (List.mem_cons_of_mem _ he)
    rw [List.map_cons, SessionState.run_cons]
    rcases List.mem_cons.mp hentry with rfl | hlater
    · -- no later one has its name
      have hne : ∀ e ∈ rest, downcase e.1 ≠ downcase entry.1 := fun e he heq =>
        hnodup.1 (List.mem_map.mpr ⟨e, he, heq⟩)
      rw [setting_run_set_of_ne _ hrest hne, setting_apply_set s (h entry List.mem_cons_self),
        Function.update_self]
    · exact ih _ hrest hnodup.2 hlater

end Commands

end Postgres
