import McpSql.Exceptions
import McpSql.Foundations.Effect
import McpSql.Foundations.FixedWindow
import McpSql.Foundations.Raising

/-!
# Tables, cache and log

The rows the package writes, with the column constraints Postgres and its driver enforce on them,
and the state its functions run on.
-/

namespace McpSql

open Python PyStr

/-! ## Rows -/

/-- `oauth2_provider.Application`: the fields `register_client` writes. -/
structure Application where
  name : PyStr
  clientId : PyStr
  clientSecret : PyStr
  clientType : PyStr
  authorizationGrantType : PyStr
  skipAuthorization : Bool
  redirectUris : PyStr
  algorithm : PyStr
  deriving DecidableEq, Repr

/-- The fields of a user that are read here. -/
structure User where
  pk : PyStr
  username : PyStr
  isActive : Bool
  isStaff : Bool
  deriving DecidableEq, Repr

/-- `oauth2_provider.AccessToken`, as a request carries it. -/
structure AccessToken where
  pk : PyStr
  application : Application
  scope : Option PyStr
  deriving DecidableEq, Repr

/-- A stored `AccessToken`.  `consent` numbers the consent of the user it derives from; the database
does not keep it. -/
structure TokenRow where
  bearer : PyStr
  user : User
  token : AccessToken
  expires : ℕ
  consent : ℕ
  deriving DecidableEq, Repr

/-- The values of `MCPQueryLog.decision`. -/
inductive Decision where
  | allowed
  | rejected
  deriving DecidableEq, Repr

/-- The stored value of a decision. -/
def Decision.value : Decision → PyStr
  | allowed => lit "allowed"
  | rejected => lit "rejected"

/-- `MCPQueryLog`, with the defaults of the model. -/
structure QueryLogRow where
  user : PyStr
  tokenId : PyStr := []
  decision : Decision
  tool : PyStr := lit "run_query"
  profile : PyStr := []
  rejectionReason : PyStr := []
  rawSql : PyStr
  normalizedSql : PyStr := []
  wrappedSql : PyStr := []
  startedAt : ℕ
  durationMs : Option ℕ := none
  rowCount : Option ℕ := none
  truncated : Bool := false
  resultBytes : Option ℕ := none
  clientIp : Option PyStr := none
  clientRedirect : PyStr := []
  error : PyStr := []
  deriving DecidableEq, Repr

/-- `MCPAuthRejectionLog`. -/
structure AuthRejectionRow where
  user : PyStr
  tokenPk : PyStr
  applicationName : PyStr
  clientRedirect : PyStr := []
  reason : AuthRejectionReason
  error : PyStr
  clientIp : Option PyStr
  startedAt : ℕ
  deriving DecidableEq, Repr

/-! ## Column constraints -/

/-- A text the driver sends to Postgres: no U+0000 and no lone surrogate. -/
def isClean (s : PyStr) : Bool := s.all fun c => c ≠ 0 && !isSurrogate c

theorem isClean_append (s t : PyStr) : isClean (s ++ t) = (isClean s && isClean t) :=
  List.all_append

/-- Text made of characters other than the null character is clean. -/
theorem isClean_of_chars {s : PyStr} (h : ∀ c ∈ s, ∃ d, d ≠ Char.ofNat 0 ∧ c = ofChar d) :
    isClean s = true := by
  refine List.all_eq_true.mpr fun c hc => ?_
  obtain ⟨d, hd, rfl⟩ := h c hc
  have hzero : ofChar d ≠ 0 := fun heq => hd (ofChar_injective heq)
  simp [hzero, isSurrogate_ofChar]

/-- An escape of `repr` is clean. -/
theorem isClean_escape {start : PyStr} (h : isClean start = true) (width n : ℕ) :
    isClean (start ++ hexPadded width n) = true := by
  rw [isClean_append, h, Bool.true_and]
  exact isClean_of_chars fun c hc => mem_hexPadded hc

/-- A code point above the control characters is clean unless it is a surrogate. -/
theorem isClean_singleton {c : CodePoint} (hlow : 0x20 ≤ c.val) (h : isSurrogate c = false) :
    isClean [c] = true := by
  have hzero : c ≠ 0 := by
    rintro rfl
    exact absurd hlow (by decide)
  simp [isClean, hzero, h]

/-- The quotes of `repr`. -/
theorem isClean_quote {quote : CodePoint} (h : quote = 0x22 ∨ quote = 0x27) :
    isClean [quote] = true := by
  rcases h with rfl | rfl
  · decide
  · decide

theorem isClean_reprChar [UnicodeDatabase] {quote : CodePoint} (h : quote = 0x22 ∨ quote = 0x27)
    (c : CodePoint) : isClean (reprChar quote c) = true := by
  unfold reprChar
  by_cases hquoted : (c = 0x5c || c = quote) = true
  · rw [if_pos hquoted]
    have hc : c = 0x5c ∨ c = quote := by simpa using hquoted
    rcases hc with rfl | rfl
    · decide
    · exact isClean_append [0x5c] [c] ▸ isClean_quote h
  · rw [if_neg hquoted]
    split_ifs with htab hnewline hreturn hcontrol hascii hprintable hlatin hbmp
    · decide
    · decide
    · decide
    · exact isClean_escape (by decide) 2 _
    · have hlow : 0x20 ≤ c.val := Nat.not_lt.mp fun hlt => hcontrol (by simp; omega)
      have hsmall : c.val < 0x80 := by simpa [isAscii] using hascii
      exact isClean_singleton hlow (by simp [isSurrogate]; omega)
    · have hlow : 0x20 ≤ c.val := Nat.not_lt.mp fun hlt => hcontrol (by simp; omega)
      have hparts : isSurrogate c = false ∧ UnicodeDatabase.printable c = true := by
        simpa using hprintable
      exact isClean_singleton hlow hparts.1
    · exact isClean_escape (by decide) 2 _
    · exact isClean_escape (by decide) 4 _
    · exact isClean_escape (by decide) 8 _

/-- `repr` escapes what the driver cannot send. -/
theorem isClean_repr [UnicodeDatabase] (s : PyStr) : isClean (PyStr.repr s) = true := by
  have hquoted : ∀ quote : CodePoint, quote = 0x22 ∨ quote = 0x27 →
      isClean (quote :: s.flatMap (reprChar quote) ++ [quote]) = true := by
    intro quote hquote
    have hbody : isClean (s.flatMap (reprChar quote)) = true := by
      refine List.all_eq_true.mpr fun c hc => ?_
      obtain ⟨d, -, hmem⟩ := List.mem_flatMap.mp hc
      exact List.all_eq_true.mp (isClean_reprChar hquote d) c hmem
    rw [← List.singleton_append, isClean_append, isClean_append, isClean_quote hquote, hbody]
    rfl
  unfold PyStr.repr
  split_ifs
  · exact hquoted 0x22 (Or.inl rfl)
  · exact hquoted 0x27 (Or.inr rfl)

/-- What Postgres and its driver answer to the text of an address. -/
abbrev InetInput := PyStr → Except PyExc Unit

/-- A row as its columns see it: the `CharField` values with their `max_length`, the `TextField`
values, and those of the nullable `PositiveIntegerField` and `GenericIPAddressField` columns. -/
structure Columns where
  chars : List (ℕ × PyStr)
  texts : List PyStr
  numbers : List (Option ℕ)
  addresses : List (Option PyStr)

/-- Every text of the row is clean. -/
def Columns.clean (c : Columns) : Bool := c.chars.all (isClean ·.2) && c.texts.all isClean

/-- Every `CharField` value is within its length. -/
def Columns.fits (c : Columns) : Bool := c.chars.all fun field => field.2.length ≤ field.1

/-- The largest value of a Postgres `integer`. -/
def maxInteger : ℕ := 2147483647

/-- A number an `integer` column holds; an absent one is stored as NULL. -/
def integerFits (number : Option ℕ) : Bool := number.all (· ≤ maxInteger)

/-- The answer to an address; an empty one is stored as NULL. -/
def insertAddress (inet : InetInput) : Option PyStr → Except PyExc Unit
  | none => .ok ()
  | some address => if address = [] then .ok () else inet address

/-- The answer to the texts and numbers of a row: the driver raises `ValueError` for text it cannot
send, and Postgres refuses an over-long text and a number out of range with a `DatabaseError`. -/
def Columns.accept (c : Columns) : Except PyExc Unit :=
  if ¬c.clean then .error (.valueError (lit "A string literal cannot contain NUL (0x00) characters."))
  else if ¬c.fits then
    .error (.databaseError (lit "value too long for type character varying") (lit "22001"))
  else if ¬c.numbers.all integerFits then
    .error (.databaseError (lit "integer out of range") (lit "22003"))
  else .ok ()

/-- What a healthy database answers to an insert. -/
def Columns.insert (inet : InetInput) (c : Columns) : Except PyExc Unit := do
  c.addresses.forM (insertAddress inet)
  c.accept

/-- A row a healthy database stores. -/
def Columns.Storable (inet : InetInput) (c : Columns) : Prop :=
  (∀ address ∈ c.addresses, insertAddress inet address = .ok ()) ∧ c.clean = true ∧
    c.fits = true ∧ c.numbers.all integerFits = true

theorem Columns.accept_eq_ok {c : Columns} :
    c.accept = .ok () ↔ c.clean = true ∧ c.fits = true ∧ c.numbers.all integerFits = true := by
  unfold Columns.accept
  cases c.clean with
  | false => simp
  | true =>
    cases c.fits with
    | false => simp
    | true => cases c.numbers.all integerFits <;> simp

theorem Columns.insert_eq_ok {inet : InetInput} {c : Columns} :
    c.insert inet = .ok () ↔ c.Storable inet := by
  unfold Columns.insert Columns.Storable
  rw [Raising.bind_eq_ok, ← Columns.accept_eq_ok]
  constructor
  · rintro ⟨⟨⟩, haddresses, htexts⟩
    exact ⟨Raising.forM_eq_ok.mp haddresses, htexts⟩
  · rintro ⟨haddresses, htexts⟩
    exact ⟨(), Raising.forM_eq_ok.mpr haddresses, htexts⟩

/-- The columns of `MCPQueryLog`. -/
def QueryLogRow.columns (r : QueryLogRow) : Columns where
  chars := [(64, r.tokenId), (16, r.decision.value), (32, r.tool), (64, r.profile),
    (64, r.rejectionReason), (1024, r.clientRedirect)]
  texts := [r.rawSql, r.normalizedSql, r.wrappedSql, r.error]
  numbers := [r.durationMs, r.rowCount, r.resultBytes]
  addresses := [r.clientIp]

/-- The columns of `MCPAuthRejectionLog`. -/
def AuthRejectionRow.columns (r : AuthRejectionRow) : Columns where
  chars := [(64, r.tokenPk), (255, r.applicationName), (1024, r.clientRedirect),
    (64, r.reason.value)]
  texts := [r.error]
  numbers := []
  addresses := [r.clientIp]

/-- A number of at most three digits that fits a byte. -/
def isOctet (s : PyStr) : Bool :=
  s ≠ [] && s.length ≤ 3 && s.all isAsciiDigit &&
    s.foldl (fun n c => 10 * n + (c.val - 0x30)) 0 ≤ 255

/-- The answer to an address of four octets, such as an IPv4 peer has; no other is read. -/
def dottedQuad : InetInput := fun address =>
  let octets := splitOn 0x2e address
  if octets.length = 4 && octets.all isOctet then .ok ()
  else .error (.databaseError (lit "invalid input syntax for type inet") (lit "22P02"))

/-! ## State -/

/-- The levels the package logs at. -/
inductive LogLevel where
  | info
  | warning
  | error
  | exception
  deriving DecidableEq, Repr

/-- An emitted log record. -/
structure LogRecord where
  level : LogLevel
  message : PyStr
  deriving DecidableEq, Repr

/-- The state the package's functions run on. -/
structure World where
  cache : FixedWindow.Cache PyStr
  log : List LogRecord := []
  applications : List Application := []
  accessTokens : List TokenRow := []
  authRejectionAttempts : List AuthRejectionRow := []
  authRejectionLog : List AuthRejectionRow := []
  queryLogAttempts : List QueryLogRow := []
  queryLog : List QueryLogRow := []
  executed : List PyStr := []

/-- A Python computation of the package. -/
abbrev Py := EStateM PyExc World

/-- Emit a log record. -/
def emit (level : LogLevel) (message : PyStr) : Py Unit :=
  modify fun w => { w with log := w.log ++ [⟨level, message⟩] }

@[simp] theorem run_emit (level : LogLevel) (message : PyStr) (w : World) :
    (emit level message).run w = .ok () { w with log := w.log ++ [⟨level, message⟩] } := rfl

/-- An empty cache and empty tables. -/
def emptyWorld : World where
  cache := .empty 0

end McpSql
