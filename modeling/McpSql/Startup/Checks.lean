import McpSql.Python.Unquote
import McpSql.Python.UrlParse
import McpSql.Startup.Objects

/-!
# The checks of the startup

Each `raise ImproperlyConfigured` of `validation.py` is a condition on objects and an f-string that is
printed when the condition holds.  A check is sound on its operands exactly when evaluating it raises
no other exception; a sequence of checks raises no other exception exactly when each check it comes to
is sound.
-/

namespace McpSql

open Python PyStr Raising

/-- What the startup check asks of the rest of the program. -/
structure StartupEnv where
  objects : ObjectModel
  /-- `import_string`. -/
  importString : PyObject → Except PyExc Unit
  /-- The text of the `ValueError` `urlparse` raises. -/
  urlError : PyStr → PyStr
  /-- The problems `_validate_cloud_redirect_uri` finds when the URI is no `str`. -/
  problemsOfOther : PyObject → PyObject → Except PyExc (List PyStr)
  /-- `OAUTH2_PROVIDER["ALLOWED_REDIRECT_URI_SCHEMES"]`, when it is set. -/
  redirectSchemes : Option (List PyObject)

/-- What a check asks. -/
inductive Condition where
  /-- `a < b` and the like. -/
  | compares (op : Comparison) (a b : PyObject)
  /-- `not x`. -/
  | falsy (x : PyObject)
  /-- `key in keys`. -/
  | present (key : PyObject) (keys : List PyObject)
  /-- `key not in keys`. -/
  | absent (key : PyObject) (keys : List PyObject)
  /-- `not pattern.fullmatch(x)`. -/
  | unmatched (pattern : PyStr → Bool) (x : PyObject)
  /-- `path` is truthy and `import_string(path)` raises an `ImportError`. -/
  | unimportable (path : PyObject)
  /-- The redirect URI has problems. -/
  | badRedirect (matching uri : PyObject)
  /-- `text not in items`, for a list. -/
  | missing (text : PyStr) (items : List PyObject)
  /-- A list or a mapping is empty. -/
  | empty (size : ℕ)

/-- A piece of an f-string. -/
inductive Piece where
  | text (s : PyStr)
  /-- An object as `str` prints it. -/
  | shown (x : PyObject)
  /-- An object as `repr` prints it. -/
  | quoted (x : PyObject)
  /-- `registry[value]`, as `repr` prints it. -/
  | holder (value : PyObject) (registry : List (PyObject × PyObject))
  /-- The `ImportError` of `import_string(path)`. -/
  | importError (path : PyObject)
  /-- The problems of a redirect URI, joined. -/
  | problems (matching uri : PyObject)

/-- A check: refuse with the message when the condition holds. -/
structure Check where
  condition : Condition
  message : List Piece

/-! ## Evaluation -/

/-- The problems of a redirect URI that is a `str`, in order. -/
def uriProblems [UnicodeDatabase] (byPrefix : Bool) (uri : PyStr) (parsed : ParseResult) :
    List PyStr :=
  let found : List (Bool × PyStr) :=
    [(parsed.scheme ≠ lit "https", lit "use the https scheme"),
      (parsed.username.getD [] ≠ [] || parsed.password.getD [] ≠ [],
        lit "carry no userinfo component"),
      (parsed.hostname.getD [] = [], lit "include a host"),
      (0x2a ∈ uri, lit "contain no '*' wildcard"),
      ((splitOn 0x2f (unquote parsed.path)).contains (lit ".."),
        lit "contain no '..' path segment (literal or encoded)"),
      (byPrefix && parsed.path.all (· = 0x2f), lit "include a non-root path for prefix matching"),
      (byPrefix && parsed.path.getLast? ≠ some 0x2f,
        lit "end with '/' for prefix matching (segment-anchored)")]
  (found.filter Prod.fst).map Prod.snd

section Evaluation

variable [UnicodeDatabase] (env : StartupEnv)

/-- `_validate_cloud_redirect_uri`, up to the list of problems. -/
def redirectProblems (matching uri : PyObject) : Except PyExc (List PyStr) :=
  match uri.asStr with
  | none => env.problemsOfOther matching uri
  | some text =>
    match urlparse text with
    | none => .error (.valueError (env.urlError text))
    | some parsed => do
      let byPrefix ← equalTo env.objects matching (.str (lit "prefix"))
      return uriProblems byPrefix text parsed

/-- `text in items`, for a list. -/
def isAmong (text : PyStr) : List PyObject → Except PyExc Bool
  | [] => .ok false
  | x :: rest => do
    let equal ← equalTo env.objects x (.str text)
    if equal then .ok true else isAmong text rest

/-- `import_string(path)` raises an `ImportError`; another exception is not caught. -/
def importFails (path : PyObject) : Except PyExc Bool :=
  match env.importString path with
  | .ok _ => .ok false
  | .error e => if e.isImportError then .ok true else .error e

/-- The condition of a check. -/
def Condition.eval : Condition → Except PyExc Bool
  | compares op a b => richCompare env.objects op a b
  | falsy x => not <$> truthOf env.objects x
  | present key keys => Option.isSome <$> positionOf env.objects key keys
  | absent key keys => Option.isNone <$> positionOf env.objects key keys
  | unmatched pattern x => not <$> fullmatch env.objects pattern x
  | unimportable path => do
    let given ← truthOf env.objects path
    if given then importFails env path else .ok false
  | badRedirect matching uri => (fun found => decide (found ≠ [])) <$> redirectProblems env matching uri
  | missing text items => not <$> isAmong env text items
  | empty size => .ok (size = 0)

/-- A piece of a message. -/
def Piece.print : Piece → Except PyExc PyStr
  | text s => .ok s
  | shown x => strOf env.objects x
  | quoted x => reprOf env.objects x
  | holder value registry => do
    let position ← positionOf env.objects value (registry.map Prod.fst)
    match position.bind fun i => registry[i]? with
    | some (_, name) => reprOf env.objects name
    | none => .error (.lookupError (lit "KeyError"))
  | importError path =>
    match env.importString path with
    | .ok _ => .ok []
    | .error e => e.str
  | problems matching uri => (lit "; ").intercalate <$> redirectProblems env matching uri

@[simp] theorem Piece.print_text (s : PyStr) : (text s).print env = .ok s := rfl

@[simp] theorem Piece.print_quoted_str (s : PyStr) :
    (quoted (.str s)).print env = .ok (PyStr.repr s) := rfl

/-- A message. -/
def printMessage : List Piece → Except PyExc PyStr
  | [] => .ok []
  | piece :: rest => do
    let front ← piece.print env
    let back ← printMessage rest
    return front ++ back

/-- A check. -/
def Check.run (c : Check) : Except PyExc Unit := do
  let refused ← c.condition.eval env
  if refused then do
    let text ← printMessage env c.message
    .error (.improperlyConfigured text)
  else .ok ()

end Evaluation

/-! ## When a check raises nothing else -/

section Sound

variable [UnicodeDatabase] (env : StartupEnv)

/-- The problems of a redirect URI can be found: a `str` that `urlparse` takes apart, or a value of
another type that allows it. -/
def RedirectReadable (matching uri : PyObject) : Prop :=
  match uri.asStr with
  | none => Focused (env.problemsOfOther matching uri)
  | some text => (urlparse text).isSome ∧
      HasEquality env.objects matching (.str (lit "prefix"))

/-- Every exception of an import is an `ImportError` or an `ImproperlyConfigured`. -/
def ImportReports (path : PyObject) : Prop :=
  ∀ e, env.importString path = .error e → e.isImportError = true ∨ e.isImproperlyConfigured = true

/-- The operands of a condition are of types it is defined for. -/
def Condition.Sound : Condition → Prop
  | compares op a b => Comparable env.objects op a b
  | falsy x => HasTruth env.objects x
  | present key keys => LooksUp env.objects key keys
  | absent key keys => LooksUp env.objects key keys
  | unmatched _ x => x.asStr.isSome
  | unimportable path => HasTruth env.objects path ∧
      (truthOf env.objects path = .ok true → ImportReports env path)
  | badRedirect matching uri => RedirectReadable env matching uri
  | missing text items =>
    ∀ x, ComesTo (fun y => equalTo env.objects y (.str text) = .ok false) items x →
      HasEquality env.objects x (.str text)
  | empty _ => True

/-- The objects a piece prints can be printed. -/
def Piece.Sound : Piece → Prop
  | text _ => True
  | shown x => Printable env.objects x
  | quoted x => Representable env.objects x
  | holder value registry => LooksUp env.objects value (registry.map Prod.fst) ∧
      ∀ position, positionOf env.objects value (registry.map Prod.fst) = .ok position →
        ∃ entry, position.bind (fun i => registry[i]?) = some entry ∧
          Representable env.objects entry.2
  | importError path => ∀ e, env.importString path = .error e → Focused e.str
  | problems matching uri => RedirectReadable env matching uri

/-- A message prints up to the first object whose text is refused. -/
def MessageSound (message : List Piece) : Prop :=
  ∀ piece, ComesTo (fun q => ∃ text, q.print env = .ok text) message piece → piece.Sound env

/-- A check that does not refuse. -/
def Check.Passes (c : Check) : Prop := c.condition.eval env = .ok false

/-- The operands of a check are of types its condition is defined for; when it refuses, its message
can be printed. -/
def Check.Sound (c : Check) : Prop :=
  c.condition.Sound env ∧ (c.condition.eval env = .ok true → MessageSound env c.message)

variable {env}

theorem focused_redirectProblems_iff {matching uri : PyObject} :
    Focused (redirectProblems env matching uri) ↔ RedirectReadable env matching uri := by
  unfold redirectProblems RedirectReadable
  cases uri.asStr with
  | none => exact Iff.rfl
  | some text =>
    cases hparsed : urlparse text with
    | none => simp [hparsed, PyExc.isImproperlyConfigured]
    | some parsed =>
      simp only [hparsed, Option.isSome_some, true_and]
      rw [focused_bind, focused_equalTo_iff]
      exact and_iff_left fun _ _ => confined_ok _ _

omit [UnicodeDatabase] in
theorem focused_isAmong_iff {text : PyStr} {items : List PyObject} :
    Focused (isAmong env text items) ↔
      ∀ x, ComesTo (fun y => equalTo env.objects y (.str text) = .ok false) items x →
        HasEquality env.objects x (.str text) := by
  induction items with
  | nil => exact iff_of_true (confined_ok _ _) fun x hx => absurd hx not_comesTo_nil
  | cons x rest ih =>
    rw [forall_comesTo_cons_iff, ← ih, isAmong, focused_bind, focused_equalTo_iff]
    refine and_congr_right fun _ => ?_
    constructor
    · intro h hdifferent
      exact h false hdifferent
    · intro h equal hequal
      cases equal with
      | true => exact confined_ok _ _
      | false => exact h hequal

omit [UnicodeDatabase] in
theorem focused_importFails_iff {path : PyObject} :
    Focused (importFails env path) ↔ ImportReports env path := by
  unfold importFails ImportReports
  cases env.importString path with
  | ok u => simp
  | error e =>
    by_cases himport : e.isImportError = true
    · simp [himport]
    · simp [himport]

/-- A condition raises nothing else exactly when its operands are of the right types. -/
theorem Condition.focused_eval_iff {condition : Condition} :
    Focused (condition.eval env) ↔ condition.Sound env := by
  cases condition with
  | compares op a b => exact focused_richCompare_iff
  | falsy x => exact confined_map.trans focused_truthOf_iff
  | present key keys => exact confined_map.trans focused_positionOf_iff
  | absent key keys => exact confined_map.trans focused_positionOf_iff
  | unmatched pattern x => exact confined_map.trans focused_fullmatch_iff
  | badRedirect matching uri => exact confined_map.trans focused_redirectProblems_iff
  | missing text items => exact confined_map.trans focused_isAmong_iff
  | empty size => exact iff_of_true (confined_ok _ _) trivial
  | unimportable path =>
    show Focused (truthOf env.objects path >>= _) ↔ _ ∧ _
    rw [focused_bind, focused_truthOf_iff]
    refine and_congr_right fun _ => ?_
    rw [← focused_importFails_iff]
    constructor
    · intro h hgiven
      exact h true hgiven
    · intro h given hgiven
      cases given with
      | true => exact h hgiven
      | false => exact confined_ok _ _

theorem Piece.focused_print_iff {piece : Piece} :
    Focused (piece.print env) ↔ piece.Sound env := by
  cases piece with
  | text s => exact iff_of_true (confined_ok _ _) trivial
  | shown x => exact focused_strOf_iff
  | quoted x => exact focused_reprOf_iff
  | problems matching uri => exact confined_map.trans focused_redirectProblems_iff
  | importError path =>
    unfold print Piece.Sound
    cases himport : env.importString path with
    | ok u => simp [himport]
    | error e => simp [himport]
  | holder value registry =>
    show Focused (positionOf env.objects value _ >>= _) ↔ _ ∧ _
    rw [focused_bind, focused_positionOf_iff]
    refine and_congr_right fun _ => forall_congr' fun position => forall_congr' fun _ => ?_
    cases position.bind fun i => registry[i]? with
    | none => simp [PyExc.isImproperlyConfigured]
    | some entry => simp [focused_reprOf_iff]

theorem focused_printMessage_iff {message : List Piece} :
    Focused (printMessage env message) ↔ MessageSound env message := by
  unfold MessageSound
  induction message with
  | nil => exact iff_of_true (confined_ok _ _) fun x hx => absurd hx not_comesTo_nil
  | cons piece rest ih =>
    rw [forall_comesTo_cons_iff, ← ih, printMessage, focused_bind, Piece.focused_print_iff]
    refine and_congr_right fun _ => ?_
    have hrest : ∀ front, Focused (do
        let back ← printMessage env rest
        return front ++ back) ↔ Focused (printMessage env rest) := by
      intro front
      rw [focused_bind]
      exact and_iff_left fun _ _ => confined_ok _ _
    constructor
    · rintro h ⟨front, hfront⟩
      exact (hrest front).mp (h front hfront)
    · intro h front hfront
      exact (hrest front).mpr (h ⟨front, hfront⟩)

/-- A check raises nothing but an `ImproperlyConfigured` exactly when it is sound. -/
theorem Check.focused_run_iff {c : Check} : Focused (c.run env) ↔ c.Sound env := by
  unfold run Check.Sound
  rw [focused_bind, Condition.focused_eval_iff]
  refine and_congr_right fun _ => ?_
  have hrefuse : Focused (do
      let text ← printMessage env c.message
      (.error (.improperlyConfigured text) : Except PyExc Unit)) ↔ MessageSound env c.message := by
    rw [focused_bind, focused_printMessage_iff]
    exact and_iff_left fun text _ => confined_error.mpr rfl
  constructor
  · intro h htrue
    exact hrefuse.mp (h true htrue)
  · intro h refused hrefused
    cases refused with
    | true => exact hrefuse.mpr (h hrefused)
    | false => exact confined_ok _ _

/-- A check whose condition is known. -/
theorem Check.run_eq {c : Check} {refused : Bool} (heval : c.condition.eval env = .ok refused) :
    c.run env = if refused then
      printMessage env c.message >>= fun text => .error (.improperlyConfigured text) else .ok () := by
  unfold run
  rw [heval]
  rfl

theorem Check.run_eq_ok_iff {c : Check} : c.run env = .ok () ↔ c.Passes env := by
  unfold run Passes
  rw [bind_eq_ok]
  constructor
  · rintro ⟨refused, heval, hrun⟩
    cases refused with
    | false => exact heval
    | true =>
      obtain ⟨text, -, hraise⟩ := bind_eq_ok.mp hrun
      simp at hraise
  · intro h
    exact ⟨false, h, rfl⟩

/-- A sequence of checks raises nothing but an `ImproperlyConfigured` exactly when each check it comes
to is sound. -/
theorem focused_forM_run_iff {checks : List Check} :
    Focused (forM checks (Check.run env)) ↔
      ∀ c, ComesTo (Check.Passes env) checks c → c.Sound env := by
  have hchecks : Focused (forM checks (Check.run env)) ↔
      ∀ c, ComesTo (Check.Passes env) checks c → Focused (c.run env) :=
    confined_forM fun c => Check.run_eq_ok_iff
  rw [hchecks]
  exact forall_congr' fun c => forall_congr' fun _ => Check.focused_run_iff

end Sound

end McpSql
