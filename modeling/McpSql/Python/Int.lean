import McpSql.Python.Str

/-!
# Reading integers

`int(s)` on a string, as CPython 3.11 and later do it: surrounding whitespace, an optional sign,
decimal digits with single underscores between them, and at most 4300 digits.
-/

namespace Python

open PyStr

variable [UnicodeDatabase]

/-- Whitespace that `int` skips: the ASCII kind of the C library, and all other Unicode kinds. -/
def isIntSpace (c : CodePoint) : Bool :=
  (0x09 ≤ c.val && c.val ≤ 0x0d) || c.val == 0x20 || (0x80 ≤ c.val && isSpace c)

/-- The value of a decimal digit. -/
def digitValue (c : CodePoint) : Option ℕ :=
  if isAsciiDigit c then some (c.val - 0x30)
  else if isAscii c then none
  else (UnicodeDatabase.decimal c).map Fin.val

/-- The digits of a numeral, most significant first. -/
def readDigits (s : PyStr) : Option (List ℕ) :=
  let groups := splitOn 0x5f s
  if groups.any List.isEmpty then none else (groups.flatten).mapM digitValue

/-- `sys.get_int_max_str_digits()`. -/
def intMaxStrDigits : ℕ := 4300

/-- An optional sign, and the digits behind it, without the surrounding whitespace. -/
def readSigned (s : PyStr) : Option (Bool × List ℕ) :=
  let stripped := ((s.dropWhile isIntSpace).reverse.dropWhile isIntSpace).reverse
  let (negative, body) :=
    match stripped with
    | c :: rest => if c = 0x2d then (true, rest) else if c = 0x2b then (false, rest)
      else (false, stripped)
    | [] => (false, [])
  (readDigits body).map fun digits => (negative, digits)

/-- The integer with a sign and digits. -/
def signedValue (negative : Bool) (digits : List ℕ) : ℤ :=
  let n : ℤ := (digits.foldl (fun n d => 10 * n + d) 0 : ℕ)
  if negative then -n else n

/-- The integer a text denotes, however many digits it has. -/
def integerText (s : PyStr) : Option ℤ := (readSigned s).map fun p => signedValue p.1 p.2

/-- `int(s)`; `none` stands for the `ValueError`. -/
def pyInt (s : PyStr) : Option ℤ := do
  let (negative, digits) ← readSigned s
  if digits.length ≤ intMaxStrDigits then return signedValue negative digits else none

/-- What `int` reads is the integer the text denotes. -/
theorem integerText_of_pyInt {s : PyStr} {n : ℤ} (h : pyInt s = some n) :
    integerText s = some n := by
  unfold pyInt at h
  unfold integerText
  cases hread : readSigned s with
  | none => simp [hread] at h
  | some p =>
    rw [hread] at h
    by_cases hshort : p.2.length ≤ intMaxStrDigits
    · simpa [hshort] using h
    · simp [hshort] at h

/-! ## Plain numerals -/

/-- The digits of a nonempty string of ASCII digits. -/
theorem readDigits_of_digits {s : PyStr} (hne : s ≠ []) (h : ∀ c ∈ s, isAsciiDigit c = true) :
    readDigits s = some (s.map fun c => c.val - 0x30) := by
  have hseparator : ∀ c ∈ s, ((c == 0x5f) = false) := by
    intro c hc
    have hdigit := h c hc
    by_contra heq
    obtain rfl : c = 0x5f := by simpa using heq
    exact absurd hdigit (by decide)
  have hgroups : splitOn 0x5f s = [s] := List.splitOnP_eq_singleton hseparator
  have hdigits : s.mapM digitValue = some (s.map fun c => c.val - 0x30) := by
    clear hne hseparator hgroups
    induction s with
    | nil => rfl
    | cons c s ih =>
      have hc : digitValue c = some (c.val - 0x30) := by
        unfold digitValue
        rw [if_pos (h c (by simp))]
      rw [List.mapM_cons, hc, ih fun d hd => h d (List.mem_cons_of_mem _ hd)]
      rfl
  have hnonempty : s.isEmpty = false := by simpa using hne
  unfold readDigits
  simp only [hgroups]
  simp [hnonempty, hdigits]

omit [UnicodeDatabase] in
/-- A digit is no whitespace. -/
theorem isIntSpace_of_digit {c : CodePoint} (h : isAsciiDigit c = true) : isIntSpace c = false := by
  simp only [isAsciiDigit, Bool.and_eq_true, decide_eq_true_eq] at h
  have hcontrol : ¬c.val ≤ 0x0d := by omega
  have hblank : ¬c.val = 0x20 := by omega
  have hwide : ¬0x80 ≤ c.val := by omega
  simp [isIntSpace, hcontrol, hblank, hwide]

omit [UnicodeDatabase] in
theorem dropWhile_isIntSpace_of_digits {s : PyStr} (h : ∀ c ∈ s, isAsciiDigit c = true) :
    s.dropWhile isIntSpace = s := by
  cases s with
  | nil => rfl
  | cons c s =>
    have hc := isIntSpace_of_digit (h c (by simp))
    rw [List.dropWhile_cons_of_neg]
    rw [hc]
    exact Bool.false_ne_true

/-- A nonempty string of ASCII digits has no sign. -/
theorem readSigned_of_digits {s : PyStr} (hne : s ≠ []) (h : ∀ c ∈ s, isAsciiDigit c = true) :
    readSigned s = some (false, s.map fun c => c.val - 0x30) := by
  have hreverse : ∀ c ∈ s.reverse, isAsciiDigit c = true := by
    intro c hc
    exact h c (List.mem_reverse.mp hc)
  have hstripped : ((s.dropWhile isIntSpace).reverse.dropWhile isIntSpace).reverse = s := by
    rw [dropWhile_isIntSpace_of_digits h, dropWhile_isIntSpace_of_digits hreverse,
      List.reverse_reverse]
  unfold readSigned
  simp only [hstripped]
  cases s with
  | nil => exact absurd rfl hne
  | cons c rest =>
    have hc := h c (by simp)
    have hminus : c ≠ 0x2d := by
      rintro rfl
      exact absurd hc (by decide)
    have hplus : c ≠ 0x2b := by
      rintro rfl
      exact absurd hc (by decide)
    simp only [hminus, hplus, if_false, readDigits_of_digits hne h]
    rfl

end Python
