import Mathlib.Data.List.Chain
import McpSql.Python.JsonScan

/-!
# Reading numbers and strings that were written

The scanners give back the numbers and strings whose texts `json.dumps` wrote, up to a text that goes
on with nothing the scanner would take.  In ASCII mode a character outside ASCII is written by its code
units, and a high surrogate that is followed by a low one is read back as one character, so that the
strings must not hold such a pair.
-/

namespace Python

open PyStr

/-! ## Numerals -/

/-- The digits of an integer, without a leading zero. -/
structure IntegerDigits (digits : PyStr) : Prop where
  nonempty : digits ≠ []
  digit : ∀ c ∈ digits, isAsciiDigit c = true
  leading : digits.head? = some 0x30 → digits = [0x30]

/-- A point and digits. -/
def IsFraction (s : PyStr) : Prop :=
  ∃ d ds, s = 0x2e :: d :: ds ∧ ∀ c ∈ d :: ds, isAsciiDigit c = true

/-- An `e`, a sign and digits. -/
def IsExponent (s : PyStr) : Prop :=
  ∃ sign d ds, s = 0x65 :: sign :: d :: ds ∧ (sign = 0x2b ∨ sign = 0x2d) ∧
    ∀ c ∈ d :: ds, isAsciiDigit c = true

/-- The texts `float.__repr__` writes for finite floats: digits with a fraction or an exponent. -/
inductive FiniteRepr : PyStr → Prop
  | numeral {sign digits fraction exponent : PyStr} : (sign = [] ∨ sign = lit "-") →
      IntegerDigits digits → (fraction = [] ∨ IsFraction fraction) →
      (exponent = [] ∨ IsExponent exponent) → ¬(fraction = [] ∧ exponent = []) →
      FiniteRepr (sign ++ digits ++ fraction ++ exponent)

/-- The texts `float.__repr__` writes. -/
inductive FloatRepr : PyStr → Prop
  | nan : FloatRepr (lit "nan")
  | inf : FloatRepr (lit "inf")
  | negInf : FloatRepr (lit "-inf")
  | finite {text : PyStr} : FiniteRepr text → FloatRepr text

namespace PyStr

/-- The decimal digits of a natural number, as characters. -/
theorem isAsciiDigit_of_mem_ofNat {n : ℕ} {c : CodePoint} (h : c ∈ ofNat n) :
    isAsciiDigit c = true := by
  obtain ⟨d, hd, rfl⟩ := List.mem_map.mp h
  have hdigit : d.isDigit = true := Nat.isDigit_of_mem_toDigits (by decide) (by decide) hd
  have hrange : 48 ≤ d.toNat ∧ d.toNat ≤ 57 := Char.isDigit_iff_toNat.mp hdigit
  unfold isAsciiDigit
  rw [val_ofChar]
  simpa using hrange

/-- Behind its last digit a number is a number again. -/
theorem toDigits_of_ten_le {n : ℕ} (h : 10 ≤ n) :
    Nat.toDigits 10 n = Nat.toDigits 10 (n / 10) ++ [Nat.digitChar (n % 10)] := by
  have hdiv : 10 * (n / 10) + n % 10 = n := Nat.div_add_mod n 10
  have hmod : n % 10 < 10 := Nat.mod_lt n (by decide)
  rw [← Nat.toDigits_of_lt_base hmod,
    Nat.toDigits_append_toDigits (by decide) (Nat.div_pos h (by decide)) hmod, hdiv]

/-- A number other than zero does not start with a zero. -/
theorem head_toDigits {n : ℕ} (h : 0 < n) : (Nat.toDigits 10 n).head? ≠ some '0' := by
  induction n using Nat.strongRecOn with
  | _ n ih =>
    rcases Nat.lt_or_ge n 10 with hlt | hge
    · rw [Nat.toDigits_of_lt_base hlt, List.head?_cons]
      intro hzero
      have hn := Nat.digitChar_eq_zero.mp (Option.some.inj hzero)
      omega
    · have hdiv := Nat.div_pos hge (by decide)
      have hlt := Nat.div_lt_self h (by decide : 1 < 10)
      have hhead := ih (n / 10) hlt hdiv
      rw [toDigits_of_ten_le hge]
      rcases hdigits : Nat.toDigits 10 (n / 10) with _ | ⟨d, ds⟩
      · exact absurd hdigits (by simp)
      · rw [hdigits] at hhead
        exact hhead

theorem integerDigits_ofNat (n : ℕ) : IntegerDigits (ofNat n) := by
  refine ⟨?_, fun c hc => isAsciiDigit_of_mem_ofNat hc, ?_⟩
  · simp [ofNat]
  · intro hzero
    rcases Nat.eq_zero_or_pos n with rfl | hpos
    · rfl
    · have hhead := head_toDigits hpos
      unfold ofNat at hzero
      rw [List.head?_map, Option.map_eq_some_iff] at hzero
      obtain ⟨d, hd, hchar⟩ := hzero
      obtain rfl : d = '0' := ofChar_injective hchar
      exact absurd hd hhead

/-- A hexadecimal digit. -/
def hexDigit (k : ℕ) : CodePoint := ofChar (Nat.digitChar k)

/-- A code unit is written with four digits. -/
theorem hexPadded_four {n : ℕ} (h : n < 0x10000) : hexPadded 4 n =
    [hexDigit (n / 0x1000), hexDigit (n / 0x100 % 0x10), hexDigit (n / 0x10 % 0x10),
      hexDigit (n % 0x10)] := by
  have hstep : ∀ m, 0x10 ≤ m →
      Nat.toDigits 16 m = Nat.toDigits 16 (m / 0x10) ++ [Nat.digitChar (m % 0x10)] :=
    fun m hm => Nat.toDigits_of_base_le (by decide) hm
  have hlast : ∀ m, m < 0x10 → Nat.toDigits 16 m = [Nat.digitChar m] :=
    fun m hm => Nat.toDigits_of_lt_base hm
  have hzero : (0x30 : CodePoint) = hexDigit 0 := by decide
  unfold hexPadded
  rcases Nat.lt_or_ge n 0x10 with h1 | h1
  · have hq : n / 0x1000 = 0 ∧ n / 0x100 % 0x10 = 0 ∧ n / 0x10 % 0x10 = 0 ∧ n % 0x10 = n := by omega
    rw [hlast n h1, hq.1, hq.2.1, hq.2.2.1, hq.2.2.2, hzero]
    rfl
  · rcases Nat.lt_or_ge n 0x100 with h2 | h2
    · have hq : n / 0x1000 = 0 ∧ n / 0x100 % 0x10 = 0 ∧ n / 0x10 % 0x10 = n / 0x10 := by omega
      rw [hstep n h1, hlast (n / 0x10) (by omega), hq.1, hq.2.1, hq.2.2, hzero]
      rfl
    · rcases Nat.lt_or_ge n 0x1000 with h3 | h3
      · have hq : n / 0x1000 = 0 ∧ n / 0x100 % 0x10 = n / 0x10 / 0x10 := by omega
        rw [hstep n h1, hstep (n / 0x10) (by omega), hlast (n / 0x10 / 0x10) (by omega), hq.1, hq.2,
          hzero]
        rfl
      · have hq : n / 0x1000 = n / 0x10 / 0x10 / 0x10 ∧
            n / 0x100 % 0x10 = n / 0x10 / 0x10 % 0x10 := by omega
        rw [hstep n h1, hstep (n / 0x10) (by omega), hstep (n / 0x10 / 0x10) (by omega),
          hlast (n / 0x10 / 0x10 / 0x10) (by omega), hq.1, hq.2]
        rfl

end PyStr

namespace Json

theorem digitsValue_ofNat (n : ℕ) : digitsValue (ofNat n) = n := by
  have hfold : ∀ (cs : List Char) (m : ℕ),
      (cs.map ofChar).foldl (fun n c => 10 * n + (c.val - 0x30)) m = Nat.ofDigitChars 10 cs m := by
    intro cs
    induction cs with
    | nil => intro m; rfl
    | cons c cs ih =>
      intro m
      rw [List.map_cons, List.foldl_cons, ih, Nat.ofDigitChars_cons, val_ofChar]
      rfl
  unfold digitsValue ofNat
  rw [hfold, Nat.ofDigitChars_ten_toDigits]

/-! ## Scanning a number -/

/-- The text does not begin with a digit. -/
def NoDigitAhead (s : PyStr) : Prop := ∀ c, s.head? = some c → isAsciiDigit c = false

/-- The text does not begin with what could go on a number. -/
def EndsNumber (s : PyStr) : Prop :=
  ∀ c, s.head? = some c → isAsciiDigit c = false ∧ c ≠ 0x2e ∧ c ≠ 0x65 ∧ c ≠ 0x45

theorem EndsNumber.noDigitAhead {s : PyStr} (h : EndsNumber s) : NoDigitAhead s :=
  fun c hc => (h c hc).1

theorem noDigitAhead_cons {c : CodePoint} {s : PyStr} (h : isAsciiDigit c = false) :
    NoDigitAhead (c :: s) := by
  intro d hd
  obtain rfl := Option.some.inj hd
  exact h

/-- The digits of a text end where the digits written end. -/
theorem span_digits {digits tail : PyStr} (h : ∀ c ∈ digits, isAsciiDigit c = true)
    (htail : NoDigitAhead tail) :
    (digits ++ tail).takeWhile isAsciiDigit = digits ∧
      (digits ++ tail).dropWhile isAsciiDigit = tail := by
  rw [List.takeWhile_append_of_pos h, List.dropWhile_append_of_pos h]
  rcases tail with _ | ⟨c, tail⟩
  · simp
  · have hc := htail c rfl
    simp [hc]

theorem integerPart_append {digits tail : PyStr} (h : IntegerDigits digits)
    (htail : NoDigitAhead tail) : integerPart (digits ++ tail) = some (digits, tail) := by
  obtain ⟨c, ds, rfl⟩ := List.exists_cons_of_ne_nil h.nonempty
  have hdigit := h.digit c List.mem_cons_self
  unfold integerPart
  by_cases hzero : c = 0x30
  · obtain ⟨-, rfl⟩ := List.cons.inj (h.leading (congrArg some hzero))
    simp [hzero]
  · obtain ⟨htake, hdrop⟩ := span_digits (fun d hd => h.digit d (List.mem_cons_of_mem _ hd)) htail
    simp [hzero, hdigit, htake, hdrop]

theorem fractionPart_append {fraction tail : PyStr} (h : fraction = [] ∨ IsFraction fraction)
    (hdigit : NoDigitAhead tail) (hpoint : tail.head? ≠ some 0x2e) :
    fractionPart (fraction ++ tail) = (fraction, tail) := by
  rcases h with rfl | ⟨d, ds, rfl, hdigits⟩
  · rcases tail with _ | ⟨c, _ | ⟨d, tail⟩⟩
    · rfl
    · rfl
    · have hc : c ≠ 0x2e := fun hc => hpoint (congrArg some hc)
      simp [fractionPart, hc]
  · obtain ⟨hd, hds⟩ := List.forall_mem_cons.mp hdigits
    obtain ⟨htake, hdrop⟩ := span_digits hds hdigit
    simp [fractionPart, hd, htake, hdrop]

theorem exponentPart_append {exponent tail : PyStr} (h : exponent = [] ∨ IsExponent exponent)
    (htail : EndsNumber tail) : exponentPart (exponent ++ tail) = (exponent, tail) := by
  rcases h with rfl | ⟨sign, d, ds, rfl, hsign, hdigits⟩
  · rcases tail with _ | ⟨c, tail⟩
    · rfl
    · obtain ⟨-, -, he, hE⟩ := htail c rfl
      simp [exponentPart, he, hE]
  · obtain ⟨htake, hdrop⟩ := span_digits hdigits htail.noDigitAhead
    have hd : isAsciiDigit d = true := hdigits d List.mem_cons_self
    have hsplit : exponentSign (sign :: d :: ds ++ tail) = ([sign], d :: ds ++ tail) := by
      rcases hsign with rfl | rfl <;> rfl
    unfold exponentPart
    simp only [List.cons_append] at htake hdrop hsplit ⊢
    rw [hsplit]
    simp [htake, hdrop, hd]

/-- What follows the integer digits is no digit and, without a fraction, no point. -/
theorem ahead_exponent {exponent tail : PyStr} (h : exponent = [] ∨ IsExponent exponent)
    (htail : EndsNumber tail) :
    NoDigitAhead (exponent ++ tail) ∧ (exponent ++ tail).head? ≠ some 0x2e := by
  rcases h with rfl | ⟨sign, d, ds, rfl, -, -⟩
  · exact ⟨htail.noDigitAhead, fun hc => (htail _ hc).2.1 rfl⟩
  · refine ⟨noDigitAhead_cons (by decide), ?_⟩
    simp

theorem ahead_fraction {fraction rest : PyStr} (h : fraction = [] ∨ IsFraction fraction)
    (hrest : NoDigitAhead rest) : NoDigitAhead (fraction ++ rest) := by
  rcases h with rfl | ⟨d, ds, rfl, -⟩
  · exact hrest
  · exact noDigitAhead_cons (by decide)

theorem minusSign_append {sign digits tail : PyStr} (hsign : sign = [] ∨ sign = lit "-")
    (h : IntegerDigits digits) :
    minusSign (sign ++ (digits ++ tail)) = (decide (sign ≠ []), digits ++ tail) := by
  obtain ⟨c, ds, rfl⟩ := List.exists_cons_of_ne_nil h.nonempty
  rcases hsign with rfl | rfl
  · have hc : c ≠ 0x2d := by
      rintro rfl
      exact absurd (h.digit _ List.mem_cons_self) (by decide)
    simp [minusSign, hc]
  · rfl

/-- The number scanner takes a numeral apart as it was put together. -/
theorem scanNumber_append {floatRepr : PyStr → PyStr} {sign digits fraction exponent tail : PyStr}
    (hsign : sign = [] ∨ sign = lit "-") (hdigits : IntegerDigits digits)
    (hfraction : fraction = [] ∨ IsFraction fraction)
    (hexponent : exponent = [] ∨ IsExponent exponent) (htail : EndsNumber tail) :
    scanNumber floatRepr (sign ++ digits ++ fraction ++ exponent ++ tail) =
      if fraction = [] ∧ exponent = [] then
        if digits.length ≤ intMaxStrDigits then
          .ok (.int (if sign ≠ [] then -(digitsValue digits : ℤ) else digitsValue digits), tail)
        else .error .tooLong
      else .ok (.float (floatRepr (sign ++ digits ++ fraction ++ exponent)), tail) := by
  obtain ⟨hdigit, hpoint⟩ := ahead_exponent hexponent htail
  have hassoc : sign ++ digits ++ fraction ++ exponent ++ tail =
      sign ++ (digits ++ (fraction ++ (exponent ++ tail))) := by simp
  have hback : (if sign ≠ [] then lit "-" else []) = sign := by
    rcases hsign with rfl | rfl <;> rfl
  unfold scanNumber
  rw [hassoc, minusSign_append hsign hdigits]
  simp only [integerPart_append hdigits (ahead_fraction hfraction hdigit),
    fractionPart_append hfraction hdigit hpoint, exponentPart_append hexponent htail, hback,
    Bool.and_eq_true, decide_eq_true_eq]

/-! ## Code units -/

/-- Four digits are read as the code unit they were written for. -/
theorem hexUnit_hexDigit {n : ℕ} (h : n < 0x10000) :
    hexUnit (hexDigit (n / 0x1000)) (hexDigit (n / 0x100 % 0x10)) (hexDigit (n / 0x10 % 0x10))
      (hexDigit (n % 0x10)) = some n := by
  have hdigit : ∀ k < 0x10, isHexDigit (hexDigit k) = true ∧ hexValue (hexDigit k) = k := by decide
  have h1 := hdigit (n / 0x1000) (by omega)
  have h2 := hdigit (n / 0x100 % 0x10) (by omega)
  have h3 := hdigit (n / 0x10 % 0x10) (by omega)
  have h4 := hdigit (n % 0x10) (by omega)
  unfold hexUnit
  rw [h1.1, h2.1, h3.1, h4.1, h1.2, h2.2, h3.2, h4.2]
  have hsum : 0x1000 * (n / 0x1000) + 0x100 * (n / 0x100 % 0x10) + 0x10 * (n / 0x10 % 0x10) +
      n % 0x10 = n := by omega
  simp [hsum]

/-- An escape of four digits that is no surrogate is read whatever follows. -/
theorem readEscape_unit {a b c d : CodePoint} {n : ℕ} (h : hexUnit a b c d = some n)
    (hn : isHighSurrogate n = false) (tail : PyStr) :
    readEscape (0x75 :: a :: b :: c :: d :: tail) = .ok (Fin.ofNat 0x110000 n, tail) := by
  unfold readEscape
  simp only [ne_eq, not_true_eq_false, if_false, h]
  split
  · rw [hn]
    rfl
  · rfl

/-- What follows is no escape of a low surrogate, nor a broken escape. -/
def NoLowAhead (tail : PyStr) : Prop := ∀ a b c d rest, tail = 0x5c :: 0x75 :: a :: b :: c :: d :: rest →
  ∃ unit, hexUnit a b c d = some unit ∧ isLowSurrogate unit = false

/-- An escape of four digits is read as its code unit, when no low surrogate follows a high one. -/
theorem readEscape_unit_alone {a b c d : CodePoint} {n : ℕ} (h : hexUnit a b c d = some n)
    {tail : PyStr} (htail : isHighSurrogate n = true → NoLowAhead tail) :
    readEscape (0x75 :: a :: b :: c :: d :: tail) = .ok (Fin.ofNat 0x110000 n, tail) := by
  cases hhigh : isHighSurrogate n with
  | false => exact readEscape_unit h hhigh tail
  | true =>
    unfold readEscape
    simp only [ne_eq, not_true_eq_false, if_false, h]
    split
    · next l₁ l₂ l₃ l₄ rest =>
      obtain ⟨unit, hunit, hlow⟩ := htail hhigh l₁ l₂ l₃ l₄ rest rfl
      simp only [hhigh, if_true, hunit, hlow, Bool.false_eq_true, if_false]
    · rfl

/-- A pair of escapes is read as the character beyond the code units. -/
theorem readEscape_pair {a b c d a' b' c' d' : CodePoint} {high low : ℕ}
    (h : hexUnit a b c d = some high) (h' : hexUnit a' b' c' d' = some low)
    (hhigh : isHighSurrogate high = true) (hlow : isLowSurrogate low = true) (tail : PyStr) :
    readEscape (0x75 :: a :: b :: c :: d :: 0x5c :: 0x75 :: a' :: b' :: c' :: d' :: tail) =
      .ok (joinSurrogates high low, tail) := by
  unfold readEscape
  simp only [ne_eq, not_true_eq_false, if_false, h, h', hhigh, hlow, if_true]

/-! ## Strings -/

/-- A high surrogate before a low one. -/
def IsPair (c d : CodePoint) : Prop := isHighSurrogate c.val = true ∧ isLowSurrogate d.val = true

/-- No high surrogate stands directly before a low one. -/
def NoPair (s : PyStr) : Prop := s.IsChain fun c d => ¬IsPair c d

/-- The strings that are read back: outside ASCII mode all of them are. -/
def KeepsText (ascii : Bool) (s : PyStr) : Prop := ascii = true → NoPair s

/-- A character with an escape of its own is written by it, which does not look like a code unit. -/
theorem dumpsChar_of_mem (ascii : Bool) {c : CodePoint} (h : c ∈ shortEscaped) :
    ∃ e, dumpsChar ascii c = [0x5c, e] ∧ e ≠ 0x75 ∧ escaped e = some c := by
  simp only [shortEscaped, List.mem_cons, List.not_mem_nil, or_false] at h
  rcases h with rfl | rfl | rfl | rfl | rfl | rfl | rfl
  all_goals exact ⟨_, by cases ascii <;> rfl, by decide, by decide⟩

/-- In ASCII mode the other characters are written as they are, by their code unit, or by a pair of
code units. -/
theorem dumpsChar_true_of_notMem {c : CodePoint} (h : c ∉ shortEscaped) :
    dumpsChar true c = if 0x20 ≤ c.val ∧ c.val ≤ 0x7e then [c]
      else if c.val < 0x10000 then 0x5c :: 0x75 :: hexPadded 4 c.val
      else 0x5c :: 0x75 :: (hexPadded 4 (0xd800 + (c.val - 0x10000) / 0x400) ++
        0x5c :: 0x75 :: hexPadded 4 (0xdc00 + (c.val - 0x10000) % 0x400)) := by
  simp only [shortEscaped, List.mem_cons, List.not_mem_nil, or_false, not_or] at h
  obtain ⟨hquote, hslash, hn, hr, ht, hf, hb⟩ := h
  have hu : ∀ s, lit "\\u" ++ s = 0x5c :: 0x75 :: s := fun s => rfl
  unfold dumpsChar
  simp only [hquote, hslash, hn, hr, ht, hf, hb, decide_false, Bool.or_self, Bool.false_eq_true,
    if_false, Bool.not_true, Bool.false_and, Bool.and_eq_true, decide_eq_true_eq]
  rw [List.append_assoc, List.append_assoc, hu, hu, hu]

/-- The escape of a code unit that is no low surrogate does not continue a pair. -/
theorem noLowAhead_unit {n : ℕ} (hn : n < 0x10000) (h : isLowSurrogate n = false) (rest : PyStr) :
    NoLowAhead (0x5c :: 0x75 :: (hexPadded 4 n ++ rest)) := by
  intro a b c d rest' heq
  rw [hexPadded_four hn] at heq
  simp only [List.cons_append, List.nil_append, List.cons.injEq, true_and] at heq
  obtain ⟨rfl, rfl, rfl, rfl, -⟩ := heq
  exact ⟨n, hexUnit_hexDigit hn, h⟩

/-- The text of a character that is no low surrogate does not continue a pair. -/
theorem noLowAhead_dumpsChar {c : CodePoint} (h : isLowSurrogate c.val = false) (tail : PyStr) :
    NoLowAhead (dumpsChar true c ++ tail) := by
  by_cases hshort : c ∈ shortEscaped
  · obtain ⟨e, htext, hne, -⟩ := dumpsChar_of_mem true hshort
    intro a b a' b' rest heq
    rw [htext] at heq
    exact absurd (List.cons.inj (List.cons.inj heq).2).1 hne
  · have hslash : c ≠ 0x5c := fun hc => hshort (hc ▸ by decide)
    rw [dumpsChar_true_of_notMem hshort]
    by_cases hplain : 0x20 ≤ c.val ∧ c.val ≤ 0x7e
    · intro a b a' b' rest heq
      rw [if_pos hplain] at heq
      exact absurd (List.cons.inj heq).1 hslash
    · rw [if_neg hplain]
      by_cases hunit : c.val < 0x10000
      · rw [if_pos hunit, List.cons_append, List.cons_append]
        exact noLowAhead_unit hunit h tail
      · have hlt := c.isLt
        have hhigh : 0xd800 + (c.val - 0x10000) / 0x400 < 0xdc00 := by omega
        have hlow : isLowSurrogate (0xd800 + (c.val - 0x10000) / 0x400) = false := by
          unfold isLowSurrogate
          rw [decide_eq_false (Nat.not_le.mpr hhigh), Bool.false_and]
        rw [if_neg hunit, List.cons_append, List.cons_append, List.append_assoc]
        exact noLowAhead_unit (by omega) hlow _

/-- A backslash begins an escape. -/
theorem readChar_slash (rest : PyStr) : readChar 0x5c rest = readEscape rest := by
  have hcontrol : ¬(0x5c : CodePoint).val < 0x20 := by decide
  unfold readChar
  rw [if_neg hcontrol, if_pos rfl]

/-- The first half of a pair. -/
theorem isHighSurrogate_add {k : ℕ} (h : 0xd800 + k < 0xdc00) :
    isHighSurrogate (0xd800 + k) = true := by
  unfold isHighSurrogate
  rw [decide_eq_true (Nat.le_add_right _ _), decide_eq_true (by omega), Bool.and_self]

/-- The second half of a pair. -/
theorem isLowSurrogate_add {k : ℕ} (h : 0xdc00 + k < 0xe000) :
    isLowSurrogate (0xdc00 + k) = true := by
  unfold isLowSurrogate
  rw [decide_eq_true (Nat.le_add_right _ _), decide_eq_true (by omega), Bool.and_self]

/-- A pair gives back the character it was made of. -/
theorem joinSurrogates_add {c : CodePoint} (h : ¬c.val < 0x10000) :
    joinSurrogates (0xd800 + (c.val - 0x10000) / 0x400) (0xdc00 + (c.val - 0x10000) % 0x400) = c := by
  have hsum : 0x10000 + (0xd800 + (c.val - 0x10000) / 0x400 - 0xd800) * 0x400 +
      (0xdc00 + (c.val - 0x10000) % 0x400 - 0xdc00) = c.val := by omega
  unfold joinSurrogates
  rw [hsum, Fin.ofNat_val_eq_self c]

/-- A character without an escape of its own, which is no control character, is read as it is. -/
theorem readChar_self {c : CodePoint} (hshort : c ∉ shortEscaped) (hlow : 0x20 ≤ c.val)
    (tail : PyStr) : c ≠ 0x22 ∧ readChar c tail = .ok (c, tail) := by
  simp only [shortEscaped, List.mem_cons, not_or] at hshort
  refine ⟨hshort.1, ?_⟩
  unfold readChar
  rw [if_neg (Nat.not_lt.mpr hlow), if_neg hshort.2.1]

/-- A character that is written by its code unit is read, when it does not begin a pair. -/
theorem readChar_unit {c : CodePoint} (hunit : c.val < 0x10000) {tail : PyStr}
    (htail : isHighSurrogate c.val = true → NoLowAhead tail) :
    readChar 0x5c (0x75 :: (hexPadded 4 c.val ++ tail)) = .ok (c, tail) := by
  have hescape := readEscape_unit_alone (hexUnit_hexDigit hunit) htail
  rw [Fin.ofNat_val_eq_self c] at hescape
  rw [hexPadded_four hunit, readChar_slash]
  exact hescape

/-- A character beyond the code units is written by two of them and read. -/
theorem readChar_pair {c : CodePoint} (hunit : ¬c.val < 0x10000) (tail : PyStr) :
    readChar 0x5c (0x75 :: (hexPadded 4 (0xd800 + (c.val - 0x10000) / 0x400) ++
      0x5c :: 0x75 :: hexPadded 4 (0xdc00 + (c.val - 0x10000) % 0x400)) ++ tail) =
        .ok (c, tail) := by
  have hlt := c.isLt
  have hhigh : 0xd800 + (c.val - 0x10000) / 0x400 < 0xdc00 := by omega
  have hlow : 0xdc00 + (c.val - 0x10000) % 0x400 < 0xe000 := by omega
  have hpair := readEscape_pair (hexUnit_hexDigit (by omega)) (hexUnit_hexDigit (by omega))
    (isHighSurrogate_add hhigh) (isLowSurrogate_add hlow) tail
  rw [joinSurrogates_add hunit] at hpair
  rw [hexPadded_four (by omega), hexPadded_four (by omega), readChar_slash]
  exact hpair

/-- What is written for a character is read as that character, when in ASCII mode it does not begin a
pair, and does not begin with a quote. -/
theorem readChar_dumpsChar {ascii : Bool} (c : CodePoint) {tail : PyStr}
    (htail : ascii = true → isHighSurrogate c.val = true → NoLowAhead tail) :
    ∃ d rest, dumpsChar ascii c = d :: rest ∧ d ≠ 0x22 ∧
      readChar d (rest ++ tail) = .ok (c, tail) := by
  by_cases hshort : c ∈ shortEscaped
  · obtain ⟨e, htext, hne, hescaped⟩ := dumpsChar_of_mem ascii hshort
    refine ⟨0x5c, [e], htext, by decide, ?_⟩
    rw [readChar_slash, List.singleton_append]
    unfold readEscape
    simp only [ne_eq, hne, not_false_eq_true, if_true, hescaped]
  · cases ascii with
    | false =>
      rw [dumpsChar_of_notMem hshort]
      rcases Nat.lt_or_ge c.val 0x20 with hcontrol | hlow
      · have hhigh : isHighSurrogate c.val = false := by
          unfold isHighSurrogate
          rw [decide_eq_false (by omega), Bool.false_and]
        rw [if_pos hcontrol]
        exact ⟨0x5c, _, rfl, by decide, readChar_unit (by omega) (by simp [hhigh])⟩
      · obtain ⟨hquote, hread⟩ := readChar_self hshort hlow tail
        rw [if_neg (Nat.not_lt.mpr hlow)]
        exact ⟨c, [], rfl, hquote, hread⟩
    | true =>
      rw [dumpsChar_true_of_notMem hshort]
      by_cases hplain : 0x20 ≤ c.val ∧ c.val ≤ 0x7e
      · obtain ⟨hquote, hread⟩ := readChar_self hshort hplain.1 tail
        rw [if_pos hplain]
        exact ⟨c, [], rfl, hquote, hread⟩
      · rw [if_neg hplain]
        by_cases hunit : c.val < 0x10000
        · rw [if_pos hunit]
          exact ⟨0x5c, _, rfl, by decide, readChar_unit hunit (htail rfl)⟩
        · rw [if_neg hunit]
          exact ⟨0x5c, _, rfl, by decide, readChar_pair hunit tail⟩

/-- The text of a string whose first character is no low surrogate does not continue a pair. -/
theorem noLowAhead_text {s : PyStr} (h : ∀ d, s.head? = some d → isLowSurrogate d.val = false)
    (tail : PyStr) : NoLowAhead (s.flatMap (dumpsChar true) ++ 0x22 :: tail) := by
  rcases s with _ | ⟨d, s⟩
  · intro a b a' b' rest heq
    exact absurd (List.cons.inj heq).1 (by decide)
  · rw [List.flatMap_cons, List.append_assoc]
    exact noLowAhead_dumpsChar (h d rfl) _

/-- A written string is read up to its closing quote. -/
theorem scanString_dumps {ascii : Bool} {fuel : ℕ} {s : PyStr} (hs : KeepsText ascii s)
    (tail : PyStr) (h : s.length < fuel) :
    scanString fuel (s.flatMap (dumpsChar ascii) ++ 0x22 :: tail) = .ok (s, tail) := by
  induction s generalizing fuel with
  | nil =>
    obtain ⟨n, rfl⟩ : ∃ n, fuel = n + 1 := ⟨fuel - 1, by omega⟩
    simp [scanString]
  | cons c s ih =>
    rw [List.length_cons] at h
    obtain ⟨n, rfl⟩ : ∃ n, fuel = n + 1 := ⟨fuel - 1, by omega⟩
    have hrest : scanString n (s.flatMap (dumpsChar ascii) ++ 0x22 :: tail) = .ok (s, tail) :=
      ih (fun hascii => (hs hascii).of_cons) (by omega)
    have hahead : ascii = true → isHighSurrogate c.val = true →
        NoLowAhead (s.flatMap (dumpsChar ascii) ++ 0x22 :: tail) := by
      rintro rfl hhigh
      refine noLowAhead_text (fun d hd => ?_) tail
      have hpair : ¬IsPair c d := (hs rfl).rel_head? hd
      exact Bool.eq_false_iff.mpr fun hlow => hpair ⟨hhigh, hlow⟩
    obtain ⟨d, rest, hd, hquote, hread⟩ := readChar_dumpsChar c hahead
    rw [List.flatMap_cons, List.append_assoc, hd, List.cons_append, scanString, if_neg hquote, hread]
    simp only [bind, Except.bind, hrest, pure, Except.pure]

/-- Every character takes room. -/
theorem length_le_dumpsStr (ascii : Bool) (s : PyStr) :
    s.length ≤ (s.flatMap (dumpsChar ascii)).length := by
  have hnil : NoLowAhead [] := fun _ _ _ _ _ heq => absurd heq (List.cons_ne_nil _ _).symm
  induction s with
  | nil => exact Nat.le_refl 0
  | cons c s ih =>
    obtain ⟨d, rest, hd, -, -⟩ := @readChar_dumpsChar ascii c [] fun _ _ => hnil
    rw [List.flatMap_cons, hd, List.length_append, List.length_cons, List.length_cons]
    omega

/-- The text behind the opening quote of a string is read as the string. -/
theorem scanString_text {ascii : Bool} {s : PyStr} (hs : KeepsText ascii s) (tail : PyStr) :
    scanString (s.flatMap (dumpsChar ascii) ++ 0x22 :: tail).length
      (s.flatMap (dumpsChar ascii) ++ 0x22 :: tail) = .ok (s, tail) := by
  refine scanString_dumps hs tail ?_
  have hlength := length_le_dumpsStr ascii s
  rw [List.length_append, List.length_cons]
  omega

/-- A string begins with a quote and ends with one. -/
theorem dumpsStr_append (ascii : Bool) (s tail : PyStr) :
    dumpsStr ascii s ++ tail = 0x22 :: (s.flatMap (dumpsChar ascii) ++ 0x22 :: tail) := by
  unfold dumpsStr
  rw [List.append_assoc]
  rfl

/-! ## Scanning a scalar -/

/-- The text begins with a digit, or with a minus sign and a digit. -/
def startsNumeral : PyStr → Bool
  | [] => false
  | [c] => isAsciiDigit c
  | c :: d :: _ => isAsciiDigit c || (c = 0x2d && isAsciiDigit d)

theorem startsNumeral_append {sign digits : PyStr} (hsign : sign = [] ∨ sign = lit "-")
    (h : IntegerDigits digits) (tail : PyStr) :
    startsNumeral (sign ++ (digits ++ tail)) = true := by
  obtain ⟨d, ds, rfl⟩ := List.exists_cons_of_ne_nil h.nonempty
  have hd := h.digit d List.mem_cons_self
  rcases hsign with rfl | rfl
  · rcases hrest : ds ++ tail with _ | ⟨e, rest⟩
    · simp [startsNumeral, hrest, hd]
    · simp [startsNumeral, hrest, hd]
  · have hminus : isAsciiDigit 0x2d = false := by decide
    simp [startsNumeral, lit, ofChar, hd]

theorem ne_of_startsNumeral {c d : CodePoint} {s : PyStr} (h : startsNumeral (c :: s) = true)
    (hdigit : isAsciiDigit d = false) (hminus : d ≠ 0x2d) : c ≠ d := by
  rintro rfl
  rcases s with _ | ⟨e, s⟩
  · simp [startsNumeral, hdigit] at h
  · simp [startsNumeral, hdigit, hminus] at h

/-- No name begins like a number. -/
theorem scanConstant_of_startsNumeral {s : PyStr} (h : startsNumeral s = true) :
    scanConstant s = none := by
  rcases hfound : scanConstant s with _ | ⟨x, rest⟩
  · rfl
  · obtain ⟨name, hmem, rfl⟩ := scanConstant_eq_some hfound
    simp only [constants, List.mem_cons, Prod.mk.injEq, List.not_mem_nil, or_false] at hmem
    have hstart : startsNumeral (name ++ rest) = false := by
      rcases hmem with ⟨rfl, -⟩ | ⟨rfl, -⟩ | ⟨rfl, -⟩ | ⟨rfl, -⟩ | ⟨rfl, -⟩ | ⟨rfl, -⟩
      all_goals rfl
    rw [hstart] at h
    exact absurd h Bool.false_ne_true

/-- An integer is written as its sign and the digits of its absolute value. -/
theorem ofInt_eq_sign (n : ℤ) : ∃ sign, (sign = [] ∨ sign = lit "-") ∧
    ofInt n = sign ++ ofNat n.natAbs ∧ (if sign ≠ [] then -(n.natAbs : ℤ) else n.natAbs) = n := by
  unfold ofInt
  by_cases hneg : n < 0
  · refine ⟨lit "-", Or.inr rfl, if_pos hneg, ?_⟩
    have hsign : lit "-" ≠ [] := List.cons_ne_nil _ _
    rw [if_pos hsign]
    omega
  · refine ⟨[], Or.inl rfl, if_neg hneg, ?_⟩
    rw [if_neg (not_not_intro rfl)]
    omega

/-- The text of a number begins with neither a blank nor a character that closes a container. -/
theorem cons_of_startsNumeral {s : PyStr} (h : startsNumeral s = true) :
    ∃ c rest, s = c :: rest ∧ isBlank c = false ∧ c ≠ 0x5d ∧ c ≠ 0x7d := by
  rcases s with _ | ⟨c, s⟩
  · exact absurd h Bool.false_ne_true
  · refine ⟨c, s, rfl, ?_⟩
    have hc := fun d => ne_of_startsNumeral (d := d) h
    have hspace := hc 0x20 (by decide) (by decide)
    have htab := hc 0x09 (by decide) (by decide)
    have hline := hc 0x0a (by decide) (by decide)
    have hreturn := hc 0x0d (by decide) (by decide)
    exact ⟨by simp [isBlank, hspace, htab, hline, hreturn], hc 0x5d (by decide) (by decide),
      hc 0x7d (by decide) (by decide)⟩

theorem startsNumeral_of_finite {text : PyStr} (h : FiniteRepr text) (tail : PyStr) :
    startsNumeral (text ++ tail) = true := by
  obtain @⟨sign, digits, fraction, exponent, hsign, hdigits, -, -, -⟩ := h
  have hassoc : sign ++ digits ++ fraction ++ exponent ++ tail =
      sign ++ (digits ++ (fraction ++ (exponent ++ tail))) := by simp
  rw [hassoc]
  exact startsNumeral_append hsign hdigits _

/-- A finite float is written as it is: the special ones do not begin like a number. -/
theorem dumpsFloat_of_finite {text : PyStr} (h : FiniteRepr text) : dumpsFloat text = text := by
  have hstart := startsNumeral_of_finite h []
  rw [List.append_nil] at hstart
  have hspecial : ∀ name, startsNumeral name = false → text ≠ name := by
    rintro name hname rfl
    rw [hname] at hstart
    exact Bool.false_ne_true hstart
  unfold dumpsFloat
  rw [if_neg (hspecial _ rfl), if_neg (hspecial _ rfl), if_neg (hspecial _ rfl)]

theorem scanNumber_of_finite {floatRepr : PyStr → PyStr} {text tail : PyStr} (h : FiniteRepr text)
    (hread : floatRepr text = text) (htail : EndsNumber tail) :
    scanNumber floatRepr (text ++ tail) = .ok (.float text, tail) := by
  obtain ⟨hsign, hdigits, hfraction, hexponent, hfloat⟩ := h
  rw [scanNumber_append hsign hdigits hfraction hexponent htail, if_neg hfloat, hread]

section Scanners

variable {floatRepr : PyStr → PyStr} {array object : Scan Json}

theorem scanWith_of_startsNumeral {s : PyStr} (h : startsNumeral s = true) :
    scanWith floatRepr array object s = scanNumber floatRepr s := by
  have hconstant := scanConstant_of_startsNumeral h
  rcases s with _ | ⟨c, s⟩
  · exact absurd h Bool.false_ne_true
  · have hc := fun d => ne_of_startsNumeral (d := d) h
    rw [scanWith, if_neg (hc 0x22 (by decide) (by decide)), if_neg (hc 0x7b (by decide) (by decide)),
      if_neg (hc 0x5b (by decide) (by decide)), hconstant]

theorem scanWith_int {n : ℤ} {tail : PyStr} (h : (ofNat n.natAbs).length ≤ intMaxStrDigits)
    (htail : EndsNumber tail) :
    scanWith floatRepr array object (ofInt n ++ tail) = .ok (.int n, tail) := by
  have hdigits := integerDigits_ofNat n.natAbs
  obtain ⟨sign, hsign, hint, hvalue⟩ := ofInt_eq_sign n
  have hscan : scanNumber floatRepr (sign ++ ofNat n.natAbs ++ [] ++ [] ++ tail) = _ :=
    scanNumber_append hsign hdigits (Or.inl rfl) (Or.inl rfl) htail
  rw [List.append_nil, List.append_nil, digitsValue_ofNat, hvalue, if_pos ⟨rfl, rfl⟩, if_pos h]
    at hscan
  rw [hint, scanWith_of_startsNumeral, hscan]
  rw [List.append_assoc]
  exact startsNumeral_append hsign hdigits tail

theorem scanWith_str {ascii : Bool} {s : PyStr} (hs : KeepsText ascii s) (tail : PyStr) :
    scanWith floatRepr array object (dumpsStr ascii s ++ tail) = .ok (.str s, tail) := by
  rw [dumpsStr_append, scanWith, if_pos rfl, scanString_text hs]
  rfl

theorem scanWith_float {text tail : PyStr} (h : FloatRepr text) (hread : floatRepr text = text)
    (htail : EndsNumber tail) :
    scanWith floatRepr array object (dumpsFloat text ++ tail) = .ok (.float text, tail) := by
  rcases h with _ | _ | _ | hfinite
  · rfl
  · rfl
  · rfl
  · rw [dumpsFloat_of_finite hfinite, scanWith_of_startsNumeral (startsNumeral_of_finite hfinite tail)]
    exact scanNumber_of_finite hfinite hread htail

end Scanners

end Json

end Python
