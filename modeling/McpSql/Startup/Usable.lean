import McpSql.Executor.RunQuery
import McpSql.Startup.Validate

/-!
# What the startup check promises

An accepted mapping is meant to be one the runtime can use: the check raises only
`ImproperlyConfigured`, and what it lets through are positive integers, on which no arithmetic,
comparison or slice of `run_query` and the throttles can raise.  But the check compares and prints raw
values, so it raises other exceptions on operands its operators do not take; and it compares numbers
of every type, so a float passes that a slice does not take.  Both halves together hold exactly when
neither happens.
-/

namespace McpSql

open Python PyStr Raising

/-! ## Reading the limits -/

section Reading

variable (o : ObjectModel)

/-- `min(x, y)`. -/
def pyMin (x y : PyObject) : Except PyExc PyObject := do
  let smaller ← richCompare o .lt y x
  return if smaller then y else x

/-- `max(x, y)`. -/
def pyMax (x y : PyObject) : Except PyExc PyObject := do
  let larger ← richCompare o .gt y x
  return if larger then y else x

/-- `min_explicit_limit`, from the limits the caller gave. -/
def rawMinExplicitLimit (limits : RawLimits) : List ℤ → PyObject
  | [] => limits.defaultLimit
  | n :: rest => .int (rest.foldl min n)

/-- `effective_limit`. -/
def rawEffectiveLimit (limits : RawLimits) (explicit : List ℤ) : Except PyExc PyObject := do
  let within ← pyMin o (rawMinExplicitLimit limits explicit) limits.hardLimit
  pyMax o (.int 0) within

/-- `user_constrained`. -/
def rawUserConstrained (limits : RawLimits) (explicit : List ℤ) : Except PyExc Bool :=
  if explicit = [] then .ok false
  else richCompare o .le (rawMinExplicitLimit limits explicit) limits.hardLimit

/-- What `run_query` computes with the limits. -/
structure LimitReading where
  effective : PyObject
  /-- The number in the injected `LIMIT`. -/
  probe : PyObject
  truncatedByCount : Bool
  /-- How many rows the slice keeps; `none` is all of them. -/
  kept : Option ℤ
  deriving DecidableEq

/-- The expressions of `run_query` that read the limits, for a query that returned `rows` rows; `none`
stands for the short-circuit at zero. -/
def readLimits (limits : RawLimits) (explicit : List ℤ) (rows : ℕ) :
    Except PyExc (Option LimitReading) := do
  let effective ← rawEffectiveLimit o limits explicit
  let zero ← equalTo o effective (.int 0)
  if zero then return none
  else do
    let probe ← addOne o effective
    let userConstrained ← rawUserConstrained o limits explicit
    let truncatedByCount ← if userConstrained then .ok false
      else richCompare o .gt (.int rows) effective
    let kept ← sliceStop o effective
    return some ⟨effective, probe, truncatedByCount, kept⟩

/-- `total + row_bytes > total_cap`. -/
def overByteCap (limits : RawLimits) (total : ℕ) : Except PyExc Bool :=
  richCompare o .gt (.int total) limits.bytesLimit

/-- `count >= threshold` of `is_ip_blocked`. -/
def atThreshold (threshold : PyObject) (count : ℕ) : Except PyExc Bool :=
  richCompare o .ge (.int count) threshold

/-- `count == threshold` of the counters. -/
def meetsThreshold (threshold : PyObject) (count : ℕ) : Except PyExc Bool :=
  equalTo o threshold (.int count)

end Reading

/-! ## Integers -/

/-- A comparison of integers. -/
def Comparison.onInts (m n : ℤ) : Comparison → Bool
  | .lt => m < n
  | .le => m ≤ n
  | .gt => n < m
  | .ge => n ≤ m

theorem number_of_asInt {x : PyObject} {n : ℤ} (h : x.asInt = some n) :
    x.number = some (.finite n 0) := by
  cases x with
  | bool b => exact congrArg (fun n => some (PyFloat.finite n 0)) (Option.some.inj h)
  | int m => exact congrArg (fun n => some (PyFloat.finite n 0)) (Option.some.inj h)
  | none | float | str | other => simp [PyObject.asInt] at h

theorem le_finite_iff (m n : ℤ) : (PyFloat.finite m 0).le (.finite n 0) = decide (m ≤ n) := by
  simp [PyFloat.le]

theorem onNumbers_finite (m n : ℤ) (op : Comparison) :
    op.onNumbers (.finite m 0) (.finite n 0) = op.onInts m n := by
  cases op with
  | lt =>
    simp only [Comparison.onNumbers, Comparison.onInts, le_finite_iff]
    rw [Bool.eq_iff_iff]
    simp only [Bool.and_eq_true, Bool.not_eq_true', decide_eq_true_eq, decide_eq_false_iff_not]
    omega
  | le => exact le_finite_iff m n
  | gt =>
    simp only [Comparison.onNumbers, Comparison.onInts, le_finite_iff]
    rw [Bool.eq_iff_iff]
    simp only [Bool.and_eq_true, Bool.not_eq_true', decide_eq_true_eq, decide_eq_false_iff_not]
    omega
  | ge => exact le_finite_iff n m

section Integers

variable {o : ObjectModel} {x y : PyObject} {m n : ℤ}

theorem richCompare_of_asInt (op : Comparison) (hx : x.asInt = some m) (hy : y.asInt = some n) :
    richCompare o op x y = .ok (op.onInts m n) := by
  unfold richCompare builtinOrder
  rw [number_of_asInt hx, number_of_asInt hy]
  simp only [onNumbers_finite]

theorem equalTo_of_asInt (hx : x.asInt = some m) : equalTo o x (.int n) = .ok (decide (m = n)) := by
  have hnumber := number_of_asInt hx
  have hequal : builtinEqual x (.int n) = decide (m = n) := by
    have hn : (PyObject.int n).number = some (.finite n 0) := rfl
    unfold builtinEqual
    rw [hnumber, hn]
    simp only [le_finite_iff]
    rw [Bool.eq_iff_iff]
    simp only [Bool.and_eq_true, decide_eq_true_eq]
    omega
  cases x with
  | other id => simp [PyObject.number] at hnumber
  | none | bool | int | float | str => exact congrArg Except.ok hequal

theorem pyMin_of_asInt (hx : x.asInt = some m) (hy : y.asInt = some n) :
    ∃ z, pyMin o x y = .ok z ∧ z.asInt = some (min m n) := by
  refine ⟨if Comparison.onInts n m .lt then y else x, ?_, ?_⟩
  · unfold pyMin
    rw [richCompare_of_asInt .lt hy hx]
    rfl
  · by_cases hless : n < m
    · have hmin : min m n = n := min_eq_right hless.le
      simp [Comparison.onInts, hless, hy, hmin]
    · have hmin : min m n = m := min_eq_left (not_lt.mp hless)
      simp [Comparison.onInts, hless, hx, hmin]

theorem pyMax_of_asInt (hx : x.asInt = some m) (hy : y.asInt = some n) :
    ∃ z, pyMax o x y = .ok z ∧ z.asInt = some (max m n) := by
  refine ⟨if Comparison.onInts n m .gt then y else x, ?_, ?_⟩
  · unfold pyMax
    rw [richCompare_of_asInt .gt hy hx]
    rfl
  · by_cases hless : m < n
    · have hmax : max m n = n := max_eq_right hless.le
      simp [Comparison.onInts, hless, hy, hmax]
    · have hmax : max m n = m := max_eq_left (not_lt.mp hless)
      simp [Comparison.onInts, hless, hx, hmax]

end Integers

/-! ## Integers are enough -/

section Typed

variable {o : ObjectModel} {limits : RawLimits} {m n b : ℤ}

/-- On integers `effective_limit` is the one of `RunQuery`. -/
theorem rawEffectiveLimit_of_asInt (hdefault : limits.defaultLimit.asInt = some m)
    (hhard : limits.hardLimit.asInt = some n) (explicit : List ℤ) :
    ∃ x, rawEffectiveLimit o limits explicit = .ok x ∧
      x.asInt = some (effectiveLimit ⟨m, n, b⟩ explicit) := by
  have hexplicit : (rawMinExplicitLimit limits explicit).asInt =
      some (minExplicitLimit ⟨m, n, b⟩ explicit) := by
    cases explicit with
    | nil => exact hdefault
    | cons k rest => rfl
  obtain ⟨within, hwithin, hvalue⟩ := pyMin_of_asInt (o := o) hexplicit hhard
  have hzero : (PyObject.int 0).asInt = some 0 := rfl
  obtain ⟨x, hx, hmax⟩ := pyMax_of_asInt (o := o) hzero hvalue
  refine ⟨x, ?_, hmax⟩
  unfold rawEffectiveLimit
  rw [hwithin, ok_bind, hx]

/-- On integers `user_constrained` is the one of `RunQuery`. -/
theorem rawUserConstrained_of_asInt (hhard : limits.hardLimit.asInt = some n) (explicit : List ℤ) :
    rawUserConstrained o limits explicit = .ok (userConstrained ⟨m, n, b⟩ explicit) := by
  unfold rawUserConstrained userConstrained
  cases explicit with
  | nil => rfl
  | cons k rest =>
    have hexplicit : (rawMinExplicitLimit limits (k :: rest)).asInt = some (rest.foldl min k) := rfl
    rw [if_neg (List.cons_ne_nil k rest), richCompare_of_asInt .le hexplicit hhard]
    rfl

theorem addOne_of_asInt {x : PyObject} (hx : x.asInt = some m) : addOne o x = .ok (.int (m + 1)) := by
  cases x with
  | bool b => exact congrArg (fun n => Except.ok (PyObject.int (n + 1))) (Option.some.inj hx)
  | int k => exact congrArg (fun n => Except.ok (PyObject.int (n + 1))) (Option.some.inj hx)
  | none | float | str | other => simp [PyObject.asInt] at hx

theorem sliceStop_of_asInt {x : PyObject} (hx : x.asInt = some m) : sliceStop o x = .ok (some m) := by
  cases x with
  | bool b => exact congrArg Except.ok hx
  | int k => exact congrArg Except.ok hx
  | none | float | str | other => simp [PyObject.asInt] at hx

/-- On integers `run_query` computes what `RunQuery` does with its limits. -/
theorem readLimits_of_asInt (hdefault : limits.defaultLimit.asInt = some m)
    (hhard : limits.hardLimit.asInt = some n) (explicit : List ℤ) (rows : ℕ) :
    let effective := effectiveLimit ⟨m, n, b⟩ explicit
    ∃ x, readLimits o limits explicit rows = .ok (if effective = 0 then none else
      some ⟨x, .int (effective + 1),
        !userConstrained ⟨m, n, b⟩ explicit && effective < rows, some effective⟩) := by
  intro effective
  obtain ⟨x, hread, hx⟩ := rawEffectiveLimit_of_asInt (o := o) (b := b) hdefault hhard explicit
  refine ⟨x, ?_⟩
  unfold readLimits
  rw [hread, ok_bind, equalTo_of_asInt hx, ok_bind]
  by_cases hzero : effective = 0
  · have hzero' : effectiveLimit ⟨m, n, b⟩ explicit = 0 := hzero
    simp only [hzero, hzero', decide_true, if_true]
    rfl
  · have hzero' : effectiveLimit ⟨m, n, b⟩ explicit ≠ 0 := hzero
    have hrows : (PyObject.int rows).asInt = some (rows : ℤ) := rfl
    simp only [hzero, hzero', decide_false, Bool.false_eq_true, if_false]
    rw [addOne_of_asInt hx, ok_bind, rawUserConstrained_of_asInt (m := m) (b := b) hhard, ok_bind,
      richCompare_of_asInt .gt hrows hx, sliceStop_of_asInt hx]
    cases userConstrained ⟨m, n, b⟩ explicit with
    | true => rfl
    | false => rfl

end Typed

/-! ## The two promises -/

/-- A positive integer. -/
def IsPositiveInt (x : PyObject) : Prop := ∃ n, x.asInt = some n ∧ 0 < n

/-- The numbers that are read are positive integers, and `DEFAULT_LIMIT` is at most `HARD_LIMIT`. -/
structure Genuine (raw : RawSettings) : Prop where
  defaultLimit : IsPositiveInt raw.limits.defaultLimit
  hardLimit : IsPositiveInt raw.limits.hardLimit
  bytesLimit : IsPositiveInt raw.limits.bytesLimit
  ordered : ∀ m n, raw.limits.defaultLimit.asInt = some m → raw.limits.hardLimit.asInt = some n →
    m ≤ n
  ipThreshold : IsPositiveInt raw.badTokenIpThreshold
  ipWindow : IsPositiveInt raw.badTokenIpWindowSeconds
  volume : ∀ entry ∈ raw.volumeAlertThresholds, ∀ window ∈ entry.2,
    IsPositiveInt window.1 ∧ IsPositiveInt window.2

/-- The numbers are genuine, and no expression of the runtime that computes with them raises. -/
structure Usable (o : ObjectModel) (raw : RawSettings) : Prop where
  genuine : Genuine raw
  limits : ∀ explicit rows, ∃ reading, readLimits o raw.limits explicit rows = .ok reading
  bytes : ∀ total, ∃ more, overByteCap o raw.limits total = .ok more
  blocked : ∀ count, ∃ reached, atThreshold o raw.badTokenIpThreshold count = .ok reached
  counted : ∀ count, ∃ reached, meetsThreshold o raw.badTokenIpThreshold count = .ok reached
  volume : ∀ entry ∈ raw.volumeAlertThresholds, ∀ window ∈ entry.2,
    ∀ count, ∃ reached, meetsThreshold o window.2 count = .ok reached

theorem Genuine.usable {raw : RawSettings} (h : Genuine raw) (o : ObjectModel) : Usable o raw := by
  have hint : ∀ k : ℕ, (PyObject.int k).asInt = some (k : ℤ) := fun _ => rfl
  constructor
  · exact h
  · intro explicit rows
    obtain ⟨m, hm, -⟩ := h.defaultLimit
    obtain ⟨n, hn, -⟩ := h.hardLimit
    obtain ⟨x, hread⟩ := readLimits_of_asInt (o := o) (b := 0) hm hn explicit rows
    exact ⟨_, hread⟩
  · intro total
    obtain ⟨n, hn, -⟩ := h.bytesLimit
    exact ⟨_, richCompare_of_asInt .gt (hint total) hn⟩
  · intro count
    obtain ⟨n, hn, -⟩ := h.ipThreshold
    exact ⟨_, richCompare_of_asInt .ge (hint count) hn⟩
  · intro count
    obtain ⟨n, hn, -⟩ := h.ipThreshold
    exact ⟨_, equalTo_of_asInt hn⟩
  · intro entry hentry window hwindow count
    obtain ⟨n, hn, -⟩ := (h.volume entry hentry window hwindow).2
    exact ⟨_, equalTo_of_asInt hn⟩

/-! ## When they are kept -/

/-- The numbers that are read are integers. -/
structure AllIntegers (raw : RawSettings) : Prop where
  defaultLimit : raw.limits.defaultLimit.asInt.isSome
  hardLimit : raw.limits.hardLimit.asInt.isSome
  bytesLimit : raw.limits.bytesLimit.asInt.isSome
  ipThreshold : raw.badTokenIpThreshold.asInt.isSome
  ipWindow : raw.badTokenIpWindowSeconds.asInt.isSome
  volume : ∀ entry ∈ raw.volumeAlertThresholds, ∀ window ∈ entry.2,
    window.1.asInt.isSome ∧ window.2.asInt.isSome

theorem IsPositiveInt.isSome {x : PyObject} (h : IsPositiveInt x) : x.asInt.isSome := by
  obtain ⟨n, hn, -⟩ := h
  rw [hn]
  rfl

theorem Genuine.allIntegers {raw : RawSettings} (h : Genuine raw) : AllIntegers raw where
  defaultLimit := h.defaultLimit.isSome
  hardLimit := h.hardLimit.isSome
  bytesLimit := h.bytesLimit.isSome
  ipThreshold := h.ipThreshold.isSome
  ipWindow := h.ipWindow.isSome
  volume entry hentry window hwindow :=
    ⟨(h.volume entry hentry window hwindow).1.isSome, (h.volume entry hentry window hwindow).2.isSome⟩

section Kept

variable [UnicodeDatabase] {env : StartupEnv} {raw : RawSettings}

/-- An integer that a check of positivity lets through is positive. -/
theorem isPositiveInt_of_passes {x : PyObject} {c : Check} (hx : x.asInt.isSome)
    (hcheck : c.condition = .compares .le x (.int 0)) (h : c.Passes env) : IsPositiveInt x := by
  obtain ⟨n, hn⟩ := Option.isSome_iff_exists.mp hx
  have hzero : (PyObject.int 0).asInt = some 0 := rfl
  have hpass : richCompare env.objects .le x (.int 0) = .ok false := by
    unfold Check.Passes at h
    rwa [hcheck] at h
  rw [richCompare_of_asInt .le hn hzero] at hpass
  have hless : ¬n ≤ 0 := by simpa [Comparison.onInts] using hpass
  exact ⟨n, hn, by omega⟩

/-- What passes every check is genuine when it consists of integers. -/
theorem AllIntegers.genuine (hints : AllIntegers raw)
    (hpasses : ∀ c ∈ startupChecks env raw, c.Passes env) : Genuine raw := by
  have hlimit : ∀ key val, (key, val) ∈ raw.limits.items → val.asInt.isSome → IsPositiveInt val := by
    intro key val hmem hval
    have hcheck : positiveLimit key val ∈ startupChecks env raw := by
      have hlimits : positiveLimit key val ∈ limitsChecks raw.limits :=
        List.mem_append_left _ (List.mem_map.mpr ⟨(key, val), hmem, rfl⟩)
      simp only [startupChecks, List.mem_append, hlimits, true_or]
    exact isPositiveInt_of_passes hval rfl (hpasses _ hcheck)
  have hsetting : ∀ name val, positiveSetting name val ∈ startupChecks env raw →
      val.asInt.isSome → IsPositiveInt val := fun name val hmem hval =>
    isPositiveInt_of_passes hval rfl (hpasses _ hmem)
  have hvolume : ∀ c ∈ thresholdsChecks raw.volumeAlertThresholds, c.Passes env := by
    intro c hc
    apply hpasses
    simp only [startupChecks, List.mem_append, hc, true_or, or_true]
  constructor
  · exact hlimit _ _ raw.limits.default_mem hints.defaultLimit
  · exact hlimit _ _ raw.limits.hard_mem hints.hardLimit
  · exact hlimit _ _ raw.limits.bytes_mem hints.bytesLimit
  · intro m n hm hn
    have hcheck : defaultWithinHard raw.limits ∈ startupChecks env raw := by
      simp [startupChecks, limitsChecks]
    have hpass : richCompare env.objects .gt raw.limits.defaultLimit raw.limits.hardLimit =
        .ok false := hpasses _ hcheck
    rw [richCompare_of_asInt .gt hm hn] at hpass
    have hmore : ¬n < m := by simpa [Comparison.onInts] using hpass
    omega
  · exact hsetting (lit "BAD_TOKEN_IP_THRESHOLD") _ (by simp [startupChecks]) hints.ipThreshold
  · exact hsetting (lit "BAD_TOKEN_IP_WINDOW_SECONDS") _ (by simp [startupChecks]) hints.ipWindow
  · rintro ⟨decision, windows⟩ hentry ⟨window, threshold⟩ hwindow
    have hchecks : ∀ c ∈ [positiveWindow decision window,
        positiveThreshold decision window threshold], c.Passes env := by
      intro c hc
      apply hvolume
      refine List.mem_flatMap.mpr ⟨(decision, windows), hentry, List.mem_cons_of_mem _ ?_⟩
      exact List.mem_flatMap.mpr ⟨(window, threshold), hwindow, hc⟩
    obtain ⟨hfirst, hsecond⟩ := hints.volume _ hentry _ hwindow
    have hwindowPasses := hchecks (positiveWindow decision window) (by simp)
    have hthresholdPasses := hchecks (positiveThreshold decision window threshold) (by simp)
    exact ⟨isPositiveInt_of_passes hfirst rfl hwindowPasses,
      isPositiveInt_of_passes hsecond rfl hthresholdPasses⟩

/-- What the check promises for a mapping: it returns or raises an `ImproperlyConfigured`, and when it
returns the runtime can use the mapping. -/
def StartupContract {μ : Type} (env : StartupEnv) (typeAdapter : μ → Except PyExc RawSettings)
    (cfg : μ) : Prop :=
  Focused (validateMcpSqlSettings env typeAdapter cfg) ∧
    ∀ raw, typeAdapter cfg = .ok raw → validateMcpSqlSettings env typeAdapter cfg = .ok () →
      Usable env.objects raw

/-- When the promise is kept: what `TypeAdapter` raises for it is an `Exception`; or each
check that is come to has operands it can compare and print, and numbers that pass every check are
integers. -/
def StartupSound (env : StartupEnv) : Except PyExc RawSettings → Prop
  | .error e => e.isException = true
  | .ok raw => (∀ c, ComesTo (Check.Passes env) (startupChecks env raw) c → c.Sound env) ∧
      ((∀ c ∈ startupChecks env raw, c.Passes env) → AllIntegers raw)

theorem validateRaw_eq_ok_iff :
    validateRaw env raw = .ok () ↔ ∀ c ∈ startupChecks env raw, c.Passes env := by
  rw [validateRaw_eq, forM_eq_ok]
  exact forall_congr' fun c => forall_congr' fun _ => Check.run_eq_ok_iff

/-- The promise is kept for a mapping exactly when its operands are sound. -/
theorem startup_contract_iff {μ : Type} (typeAdapter : μ → Except PyExc RawSettings) (cfg : μ) :
    StartupContract env typeAdapter cfg ↔ StartupSound env (typeAdapter cfg) := by
  unfold StartupContract validateMcpSqlSettings
  cases typeAdapter cfg with
  | error e =>
    show Focused _ ∧ _ ↔ e.isException = true
    by_cases hclass : e.isException = true
    · simp [hclass, PyExc.isImproperlyConfigured]
    · have hforeign : e.isImproperlyConfigured = false := by
        cases e with
        | baseException cls text => rfl
        | _ => exact absurd rfl hclass
      simp [hclass, hforeign]
  | ok raw =>
    show Focused (validateRaw env raw) ∧ _ ↔ _ ∧ _
    have hfocused : Focused (validateRaw env raw) ↔
        ∀ c, ComesTo (Check.Passes env) (startupChecks env raw) c → c.Sound env := by
      rw [validateRaw_eq]
      exact focused_forM_run_iff
    rw [hfocused]
    refine and_congr_right fun _ => ?_
    constructor
    · intro h hpasses
      exact (h raw rfl (validateRaw_eq_ok_iff.mpr hpasses)).genuine.allIntegers
    · rintro h raw' hraw haccepted
      obtain rfl := Except.ok.inj hraw
      have hpasses := validateRaw_eq_ok_iff.mp haccepted
      exact ((h hpasses).genuine hpasses).usable env.objects

/-- Where every check has passed on integers, its operands were sound. -/
theorem startupSound_of_accepted (h : validateRaw env raw = .ok ()) (hints : AllIntegers raw) :
    StartupSound env (.ok raw) := by
  have hpasses := validateRaw_eq_ok_iff.mp h
  refine ⟨fun c hc => ?_, fun _ => hints⟩
  have hrun : c.run env = .ok () := Check.run_eq_ok_iff.mpr (hpasses c hc.mem)
  rw [← Check.focused_run_iff, hrun]
  exact confined_ok _ ()

end Kept

/-! ## Examples -/

/-- Objects of other types that support no operation. -/
def inertObjects : ObjectModel where
  typeName _ := lit "object"
  floatText _ := lit "10.0"
  floatAddOne
    | .finite num exp => .finite (num + 2 ^ exp) exp
    | x => x
  str _ := .ok (lit "<object>")
  repr _ := .ok (lit "<object>")
  truthy _ := .ok true
  compare _ _ _ := .error (.typeError (lit "not supported"))
  equals _ _ := .ok false
  position _ _ := .error (.typeError (lit "unhashable type"))
  addOne _ := .error (.typeError (lit "unsupported operand type(s) for +"))
  index _ := .error (.typeError (lit "slice indices must be integers or None or have an __index__ method"))
  notText _ := lit "expected string or bytes-like object"

/-- An environment in which every import succeeds and the provider has its default schemes. -/
def plainEnv : StartupEnv where
  objects := inertObjects
  importString _ := .ok ()
  urlError _ := lit "Invalid IPv6 URL"
  problemsOfOther _ _ := .error (.typeError (lit "a bytes-like object is required, not 'str'"))
  redirectSchemes := none

/-- The documented settings, with one profile, one cloud client and a value for `DEFAULT_LIMIT`. -/
def documentedSettings (defaultLimit : PyObject) : RawSettings where
  limits :=
    { items := [(.str (lit "DEFAULT_LIMIT"), defaultLimit), (.str (lit "HARD_LIMIT"), .int 100),
        (.str (lit "BYTES_LIMIT"), .int 262144)]
      defaultLimit := defaultLimit
      hardLimit := .int 100
      bytesLimit := .int 262144
      default_mem := by simp
      hard_mem := by simp
      bytes_mem := by simp }
  volumeAlertThresholds := [(.str (lit "allowed"), [(.int 3600, .int 100)])]
  badTokenIpThreshold := .int 100
  badTokenIpWindowSeconds := .int 21600
  profiles := [(.str (lit "default"),
    { role := .str (lit "mcp_readonly_role"), codename := .str (lit "use_mcp_session"),
      groupName := .str (lit "mcp_sql_users"), allowedModels := [.str (lit "notes.Note")] })]
  cloudClients := [⟨.str (lit "chatgpt"), .str (lit "prefix"),
    .str (lit "https://chatgpt.com/connector/oauth/")⟩]

/-- The documented settings are accepted and usable. -/
theorem startup_contract_documented : letI := asciiDatabase
    StartupContract plainEnv Except.ok (documentedSettings (.int 10)) := by
  let _ := asciiDatabase
  apply (startup_contract_iff Except.ok (documentedSettings (.int 10))).mpr
  apply startupSound_of_accepted
  · decide
  · constructor
    · rfl
    · rfl
    · rfl
    · rfl
    · rfl
    · simp [documentedSettings, PyObject.asInt]

/-- A `DEFAULT_LIMIT` of `10.0` is accepted, and the slice of a query raises on it.  On a
`DEFAULT_LIMIT` of `"10"` the check itself raises a `TypeError`. -/
theorem startup_contract_broken : letI := asciiDatabase
    (validateMcpSqlSettings plainEnv Except.ok (documentedSettings (.float (.finite 10 0))) = .ok () ∧
      readLimits inertObjects (documentedSettings (.float (.finite 10 0))).limits [] 3 =
        .error (.typeError
          (lit "slice indices must be integers or None or have an __index__ method")) ∧
      ¬StartupContract plainEnv Except.ok (documentedSettings (.float (.finite 10 0)))) ∧
    (validateMcpSqlSettings plainEnv Except.ok (documentedSettings (.str (lit "10"))) =
        .error (.typeError (lit "'<=' not supported between instances of 'str' and 'int'")) ∧
      ¬StartupContract plainEnv Except.ok (documentedSettings (.str (lit "10")))) := by
  let _ := asciiDatabase
  have haccepted : validateMcpSqlSettings plainEnv Except.ok
      (documentedSettings (.float (.finite 10 0))) = .ok () := by decide
  have hraised : validateMcpSqlSettings plainEnv Except.ok (documentedSettings (.str (lit "10"))) =
      .error (.typeError (lit "'<=' not supported between instances of 'str' and 'int'")) := by decide
  refine ⟨⟨haccepted, by decide, ?_⟩, hraised, ?_⟩
  · rintro ⟨-, husable⟩
    obtain ⟨n, hn, -⟩ := (husable _ rfl haccepted).genuine.defaultLimit
    simp [documentedSettings, PyObject.asInt] at hn
  · rintro ⟨hfocused, -⟩
    have hclass := hfocused _ hraised
    simp [PyExc.isImproperlyConfigured] at hclass

end McpSql
