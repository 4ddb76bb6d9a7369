import Mathlib.Algebra.GroupWithZero.Nat
import Mathlib.Data.List.Basic

/-!
# Python strings

A Python `str` is a sequence of Unicode code points, lone surrogates included, so it is modelled
as a list of numbers below `0x110000` and not as a Lean `String`.  The operations below follow the
Python documentation; what depends on the Unicode character database (case mapping, normalisation,
decimal digits, printability) is collected in the structure `UnicodeDatabase`.
-/

namespace Python

/-- A Unicode code point, surrogates included. -/
abbrev CodePoint := Fin 0x110000

/-- Numerals denote code points. -/
instance neZeroCodePoint : NeZero 0x110000 := ⟨Nat.succ_ne_zero _⟩

/-- A Python `str`. -/
abbrev PyStr := List CodePoint

instance lawfulBEqCodePoint : LawfulBEq CodePoint := inferInstance

instance lawfulBEqPyStr : LawfulBEq PyStr := inferInstance

namespace PyStr

/-- The code point of a Lean character. -/
def ofChar (c : Char) : CodePoint := Fin.ofNat 0x110000 c.toNat

/-- A string literal of the source. -/
def lit (s : String) : PyStr := s.toList.map ofChar

/-- The decimal text of a natural number, as `str(n)` prints it. -/
def ofNat (n : ℕ) : PyStr := (Nat.toDigits 10 n).map ofChar

/-- The decimal text of an integer, as `str(n)` prints it. -/
def ofInt (n : ℤ) : PyStr :=
  if n < 0 then lit "-" ++ ofNat n.natAbs else ofNat n.natAbs

/-- `s <= t`: code point by code point. -/
def le : PyStr → PyStr → Bool
  | [], _ => true
  | _ :: _, [] => false
  | c :: s, d :: t => c.val < d.val || (c.val = d.val && le s t)

theorem val_ofChar (c : Char) : (ofChar c).val = c.toNat := by
  have hc : c.toNat < 0x110000 := by
    rcases c.valid with h | ⟨-, h⟩ <;> simp only [Char.toNat] <;> omega
  exact Nat.mod_eq_of_lt hc

theorem ofChar_injective : Function.Injective ofChar := by
  intro c d h
  have hval : (ofChar c).val = (ofChar d).val := congrArg Fin.val h
  rw [val_ofChar, val_ofChar] at hval
  exact Char.toNat_inj.mp hval

/-- Decimal text determines the number. -/
theorem ofNat_injective : Function.Injective ofNat := by
  intro m n h
  have hdigits := List.map_injective_iff.mpr ofChar_injective h
  have hvalue := congrArg (fun digits => Nat.ofDigitChars 10 digits 0) hdigits
  simpa using hvalue

/-- Two texts that are cut at the same separator are equal part by part. -/
theorem append_cons_inj {c : CodePoint} {s s' t t' : PyStr} (hs : c ∉ s) (hs' : c ∉ s')
    (h : s ++ c :: t = s' ++ c :: t') : s = s' ∧ t = t' := by
  induction s generalizing s' with
  | nil =>
    cases s' with
    | nil => exact ⟨rfl, (List.cons.inj h).2⟩
    | cons d s' => exact absurd (by simp [(List.cons.inj h).1]) hs'
  | cons b s ih =>
    cases s' with
    | nil => exact absurd (by simp [(List.cons.inj h).1]) hs
    | cons d s' =>
      obtain ⟨rfl, hrest⟩ := List.cons.inj h
      obtain ⟨rfl, rfl⟩ := ih (List.not_mem_of_not_mem_cons hs) (List.not_mem_of_not_mem_cons hs')
        hrest
      exact ⟨rfl, rfl⟩

/-! ## Classes of code points -/

/-- `c.isascii()`. -/
def isAscii (c : CodePoint) : Bool := c.val < 0x80

/-- An ASCII letter. -/
def isAsciiAlpha (c : CodePoint) : Bool :=
  (0x41 ≤ c.val && c.val ≤ 0x5a) || (0x61 ≤ c.val && c.val ≤ 0x7a)

/-- An ASCII upper-case letter. -/
def isAsciiUpper (c : CodePoint) : Bool := 0x41 ≤ c.val && c.val ≤ 0x5a

/-- An ASCII lower-case letter. -/
def isAsciiLower (c : CodePoint) : Bool := 0x61 ≤ c.val && c.val ≤ 0x7a

/-- An ASCII decimal digit. -/
def isAsciiDigit (c : CodePoint) : Bool := 0x30 ≤ c.val && c.val ≤ 0x39

/-- An ASCII hexadecimal digit. -/
def isHexDigit (c : CodePoint) : Bool :=
  isAsciiDigit c || (0x41 ≤ c.val && c.val ≤ 0x46) || (0x61 ≤ c.val && c.val ≤ 0x66)

/-- A surrogate code point, which has no UTF-8 encoding. -/
def isSurrogate (c : CodePoint) : Bool := 0xd800 ≤ c.val && c.val ≤ 0xdfff

/-- A Lean character is no surrogate. -/
theorem isSurrogate_ofChar (c : Char) : isSurrogate (ofChar c) = false := by
  have hvalid : ¬(0xd800 ≤ c.toNat ∧ c.toNat ≤ 0xdfff) := by
    rcases c.valid with h | ⟨h, -⟩ <;> simp only [Char.toNat] <;> omega
  unfold isSurrogate
  rw [val_ofChar]
  simpa using hvalid

/-- The code points `str.split()` and `str.isspace()` take for whitespace. -/
def isSpace (c : CodePoint) : Bool :=
  (0x09 ≤ c.val && c.val ≤ 0x0d) || (0x1c ≤ c.val && c.val ≤ 0x20) || c.val == 0x85 ||
    c.val == 0xa0 || c.val == 0x1680 || (0x2000 ≤ c.val && c.val ≤ 0x200a) ||
    c.val == 0x2028 || c.val == 0x2029 || c.val == 0x202f || c.val == 0x205f || c.val == 0x3000

/-- Lower case of an ASCII letter; every other code point is left alone. -/
def asciiLower (c : CodePoint) : CodePoint :=
  if 0x41 ≤ c.val && c.val ≤ 0x5a then c + 0x20 else c

/-! ## Searching and cutting -/

/-- `s.partition(c)` for a one-character separator: the text before it, whether it was found, and
the text after it. -/
def partition (c : CodePoint) (s : PyStr) : PyStr × Bool × PyStr :=
  match s.dropWhile (· != c) with
  | [] => (s, false, [])
  | _ :: rest => (s.takeWhile (· != c), true, rest)

/-- `s.rpartition(c)` for a one-character separator. -/
def rpartition (c : CodePoint) (s : PyStr) : PyStr × Bool × PyStr :=
  match partition c s.reverse with
  | (_, false, _) => ([], false, s)
  | (last, true, front) => (front.reverse, true, last.reverse)

/-- `s.split(c)` for a one-character separator. -/
def splitOn (c : CodePoint) (s : PyStr) : List PyStr := s.splitOnP (· == c)

/-- `needle in haystack` on strings. -/
def contains (needle haystack : PyStr) : Bool := haystack.tails.any needle.isPrefixOf

/-- `s.startswith(prefix)`. -/
def startsWith (pre s : PyStr) : Bool := pre.isPrefixOf s

theorem startsWith_append (pre t : PyStr) : startsWith pre (pre ++ t) = true :=
  List.isPrefixOf_iff_prefix.mpr (List.prefix_append _ _)

/-- `" ".join(parts)`. -/
def joinSpace (parts : List PyStr) : PyStr := [0x20].intercalate parts

/-- `s.split()`: the maximal runs of non-whitespace, in order. -/
def split (s : PyStr) : List PyStr := (s.splitOnP isSpace).filter (· ≠ [])

/-- A property of texts without a separator that is kept when two texts are joined by one holds of
every text. -/
theorem cut_induction {P : PyStr → Prop} (c : CodePoint) (uncut : ∀ s, c ∉ s → P s)
    (cut : ∀ s t, P s → P t → P (s ++ c :: t)) (s : PyStr) : P s := by
  induction hlength : s.length using Nat.strongRecOn generalizing s with
  | _ n ih =>
    by_cases hc : c ∈ s
    · obtain ⟨a, b, rfl⟩ := List.append_of_mem hc
      have hsum : (a ++ c :: b).length = a.length + (b.length + 1) := by simp
      apply cut
      · exact ih a.length (by omega) a rfl
      · exact ih b.length (by omega) b rfl
    · exact uncut s hc

/-- Splitting distributes over a separator. -/
theorem splitOn_append_cons (c : CodePoint) (s t : PyStr) :
    splitOn c (s ++ c :: t) = splitOn c s ++ splitOn c t :=
  List.splitOnP_append_cons s t (by simp)

theorem splitOn_ne_nil (c : CodePoint) (s : PyStr) : splitOn c s ≠ [] :=
  List.splitOnP_ne_nil (· == c) s

/-- A text without the separator is one piece. -/
theorem splitOn_of_notMem {c : CodePoint} {s : PyStr} (h : c ∉ s) : splitOn c s = [s] := by
  apply List.splitOnP_eq_singleton
  intro d hd
  have hne : d ≠ c := fun heq => h (heq ▸ hd)
  simpa using hne

theorem splitOn_cons (c d : CodePoint) (s : PyStr) : splitOn c (d :: s) =
    if d = c then [] :: splitOn c s else (splitOn c s).modifyHead (d :: ·) := by
  unfold splitOn
  rw [List.splitOnP_cons_eq_if_modifyHead]
  by_cases hd : d = c
  · simp [hd]
  · simp [hd]

/-- Joining two texts joins the last piece of the one to the first piece of the other. -/
theorem splitOn_append {c : CodePoint} {s t last first : PyStr} {front rest : List PyStr}
    (hs : splitOn c s = front ++ [last]) (ht : splitOn c t = first :: rest) :
    splitOn c (s ++ t) = front ++ (last ++ first) :: rest := by
  induction s generalizing front last with
  | nil =>
    have hnil : front ++ [last] = [[]] := hs.symm
    obtain ⟨rfl, hlast⟩ := List.append_eq_singleton_iff.mp hnil |>.resolve_right (by simp)
    obtain rfl := List.singleton_inj.mp hlast
    exact ht
  | cons d s ih =>
    rw [splitOn_cons] at hs
    rw [List.cons_append, splitOn_cons]
    obtain ⟨front', last', hsplit⟩ :=
      (List.eq_nil_or_concat' (splitOn c s)).resolve_left (splitOn_ne_nil c s)
    rw [ih hsplit]
    rw [hsplit] at hs
    by_cases hd : d = c
    · rw [if_pos hd] at hs ⊢
      have hcut : ([] :: front') ++ [last'] = front ++ [last] := hs
      obtain ⟨rfl, hlast⟩ := List.append_inj' hcut rfl
      obtain rfl := List.singleton_inj.mp hlast
      rfl
    · rw [if_neg hd] at hs ⊢
      cases front' with
      | nil =>
        have hcut : [] ++ [d :: last'] = front ++ [last] := hs
        obtain ⟨rfl, hlast⟩ := List.append_inj' hcut rfl
        obtain rfl := List.singleton_inj.mp hlast
        rfl
      | cons piece front' =>
        have hcut : ((d :: piece) :: front') ++ [last'] = front ++ [last] := hs
        obtain ⟨rfl, hlast⟩ := List.append_inj' hcut rfl
        obtain rfl := List.singleton_inj.mp hlast
        rfl

/-! ## Partitioning -/

theorem bne_of_notMem {c : CodePoint} {s : PyStr} (h : c ∉ s) : ∀ d ∈ s, (d != c) = true := by
  intro d hd
  have hne : d ≠ c := fun heq => h (heq ▸ hd)
  simpa using hne

theorem partition_of_notMem {c : CodePoint} {s : PyStr} (h : c ∉ s) :
    partition c s = (s, false, []) := by
  have hdrop : (s ++ []).dropWhile (· != c) = [].dropWhile (· != c) :=
    List.dropWhile_append_of_pos (bne_of_notMem h)
  rw [List.append_nil, List.dropWhile_nil] at hdrop
  unfold partition
  rw [hdrop]

theorem partition_append_cons {c : CodePoint} {s : PyStr} (h : c ∉ s) (t : PyStr) :
    partition c (s ++ c :: t) = (s, true, t) := by
  have hs := bne_of_notMem h
  unfold partition
  rw [List.dropWhile_append_of_pos hs, List.takeWhile_append_of_pos hs]
  simp

/-- `partition` cuts at the first separator, if there is one. -/
theorem partition_cases (c : CodePoint) (s : PyStr) :
    (c ∉ s ∧ partition c s = (s, false, [])) ∨
      ∃ a b, s = a ++ c :: b ∧ c ∉ a ∧ partition c s = (a, true, b) := by
  by_cases h : c ∈ s
  · obtain ⟨a, b, rfl, ha⟩ := List.eq_append_cons_of_mem h
    exact Or.inr ⟨a, b, rfl, ha, partition_append_cons ha b⟩
  · exact Or.inl ⟨h, partition_of_notMem h⟩

/-- `rpartition` cuts at the last one. -/
theorem rpartition_cases (c : CodePoint) (s : PyStr) :
    (c ∉ s ∧ rpartition c s = ([], false, s)) ∨
      ∃ a b, s = a ++ c :: b ∧ c ∉ b ∧ rpartition c s = (a, true, b) := by
  unfold rpartition
  rcases partition_cases c s.reverse with ⟨hnone, hcut⟩ | ⟨a, b, hs, ha, hcut⟩
  · rw [hcut]
    exact Or.inl ⟨fun hmem => hnone (List.mem_reverse.mpr hmem), rfl⟩
  · rw [hcut]
    have hrev : s = b.reverse ++ c :: a.reverse := by
      rw [← List.reverse_reverse s, hs]
      simp
    exact Or.inr ⟨b.reverse, a.reverse, hrev, fun hmem => ha (List.mem_reverse.mp hmem), rfl⟩

theorem partition_fst (c : CodePoint) (s : PyStr) : (partition c s).1 = s.takeWhile (· != c) := by
  unfold partition
  cases hdrop : s.dropWhile (· != c) with
  | nil =>
    have hall := List.takeWhile_append_dropWhile (p := (· != c)) (l := s)
    rw [hdrop, List.append_nil] at hall
    exact hall.symm
  | cons d rest => rfl

/-! ## Splitting what was joined -/

/-- A string without whitespace. -/
def NoSpace (s : PyStr) : Prop := ∀ c ∈ s, isSpace c = false

instance (s : PyStr) : Decidable (NoSpace s) := by unfold NoSpace; infer_instance

@[simp] theorem split_nil : split [] = [] := rfl

/-- A nonempty string without whitespace is one word. -/
theorem split_of_noSpace {s : PyStr} (hs : NoSpace s) (hne : s ≠ []) : split s = [s] := by
  unfold split
  rw [List.splitOnP_eq_singleton hs]
  simp [hne]

/-- Splitting distributes over a separating space. -/
theorem split_append_space (s t : PyStr) : split (s ++ 0x20 :: t) = split s ++ split t := by
  unfold split
  rw [List.splitOnP_append_cons s t (by decide), List.filter_append]

/-- No piece of a `splitOnP` contains a separator. -/
theorem forall_mem_splitOnP (p : CodePoint → Bool) (s : PyStr) :
    ∀ w ∈ s.splitOnP p, ∀ c ∈ w, p c = false := by
  induction s with
  | nil => simp
  | cons d s ih =>
    rw [List.splitOnP_cons_eq_if_modifyHead]
    cases hd : p d with
    | true =>
      intro w hw
      rcases List.mem_cons.mp hw with rfl | hw
      · simp
      · exact ih w hw
    | false =>
      obtain ⟨first, rest, hsplit⟩ := List.exists_cons_of_ne_nil (List.splitOnP_ne_nil p s)
      rw [hsplit] at ih ⊢
      intro w hw c hc
      rcases List.mem_cons.mp hw with rfl | hw
      · rcases List.mem_cons.mp hc with rfl | hc
        · exact hd
        · exact ih first (by simp) c hc
      · exact ih w (by simp [hw]) c hc

/-- The words of a string contain no whitespace. -/
theorem noSpace_of_mem_split {s w : PyStr} (hw : w ∈ split s) : NoSpace w :=
  forall_mem_splitOnP isSpace s w (List.mem_of_mem_filter hw)

@[simp] theorem joinSpace_nil : joinSpace [] = [] := rfl

@[simp] theorem joinSpace_singleton (s : PyStr) : joinSpace [s] = s := by
  simp [joinSpace]

theorem joinSpace_cons_cons (s t : PyStr) (rest : List PyStr) :
    joinSpace (s :: t :: rest) = s ++ 0x20 :: joinSpace (t :: rest) := by
  simp [joinSpace, List.intercalate]

/-- The words of joined strings are the words of the strings, one after another. -/
theorem split_joinSpace (parts : List PyStr) : split (joinSpace parts) = parts.flatMap split := by
  induction parts with
  | nil => rfl
  | cons s rest ih =>
    cases rest with
    | nil => simp
    | cons t rest =>
      rw [joinSpace_cons_cons, split_append_space, ih]
      simp only [List.flatMap_cons]

/-- Joining nonempty strings by spaces is undone by `split` exactly when none of them contains
whitespace. -/
theorem split_joinSpace_eq_iff {parts : List PyStr} (hne : ∀ s ∈ parts, s ≠ []) :
    split (joinSpace parts) = parts ↔ ∀ s ∈ parts, NoSpace s := by
  constructor
  · intro h s hs
    rw [← h] at hs
    exact noSpace_of_mem_split hs
  · intro h
    rw [split_joinSpace]
    have hone : ∀ s ∈ parts, split s = [s] := fun s hs => split_of_noSpace (h s hs) (hne s hs)
    rw [List.flatMap_congr hone]
    simp

end PyStr

/-! ## The Unicode character database -/

/-- The parts of the interpreter's Unicode character database that `str.lower`,
`unicodedata.normalize`, `int` and `repr` read. -/
class UnicodeDatabase where
  /-- `str.lower`. -/
  lower : PyStr → PyStr
  /-- Lower-casing deletes nothing. -/
  lower_ne_nil : ∀ s, s ≠ [] → lower s ≠ []
  /-- On ASCII text `str.lower` maps letter by letter. -/
  lower_ascii : ∀ s : PyStr, (∀ c ∈ s, PyStr.isAscii c = true) → lower s = s.map PyStr.asciiLower
  /-- An ASCII letter counts the same in either case. -/
  lower_map_asciiLower : ∀ s : PyStr, lower (s.map PyStr.asciiLower) = lower s
  /-- `unicodedata.normalize("NFKC", s)`. -/
  nfkc : PyStr → PyStr
  /-- The value of a non-ASCII decimal digit. -/
  decimal : CodePoint → Option (Fin 10)
  /-- Whether a non-ASCII code point other than a surrogate is printable. -/
  printable : CodePoint → Bool

export UnicodeDatabase (lower)

namespace PyStr

/-- The lower-case letter of an upper-case one. -/
theorem val_add_of_isAsciiUpper {c : CodePoint} (h : 0x41 ≤ c.val ∧ c.val ≤ 0x5a) :
    (c + 0x20).val = c.val + 0x20 := by
  rw [Fin.val_add]
  have : ((0x20 : CodePoint) : ℕ) = 0x20 := rfl
  omega

theorem asciiLower_asciiLower (c : CodePoint) : asciiLower (asciiLower c) = asciiLower c := by
  by_cases h : 0x41 ≤ c.val ∧ c.val ≤ 0x5a
  · have hval := val_add_of_isAsciiUpper h
    simp [asciiLower, h, hval]
    omega
  · simp [asciiLower, h]

@[simp] theorem lower_nil [UnicodeDatabase] : lower ([] : PyStr) = [] :=
  UnicodeDatabase.lower_ascii [] (by simp)

/-- Lower-casing leaves exactly the code points alone that are no ASCII upper-case letter. -/
theorem asciiLower_eq_self_iff (c : CodePoint) : asciiLower c = c ↔ isAsciiUpper c = false := by
  have hupper : isAsciiUpper c = true ↔ 0x41 ≤ c.val ∧ c.val ≤ 0x5a := by simp [isAsciiUpper]
  by_cases h : 0x41 ≤ c.val ∧ c.val ≤ 0x5a
  · have hne : asciiLower c ≠ c := by
      intro heq
      have hval := val_add_of_isAsciiUpper h
      simp only [asciiLower, h, decide_true, Bool.and_self, if_true] at heq
      rw [heq] at hval
      omega
    exact iff_of_false hne (by simpa using hupper.mpr h)
  · have hlower : isAsciiUpper c = false := by simpa using fun hup => h (hupper.mp hup)
    exact iff_of_true (by simp [asciiLower, h]) hlower

/-! ## `repr` -/

/-- The number `n` in hexadecimal, padded to a width. -/
def hexPadded (width n : ℕ) : PyStr :=
  let digits := (Nat.toDigits 16 n).map ofChar
  List.replicate (width - digits.length) 0x30 ++ digits

theorem mem_toDigitsCore {base fuel n : ℕ} {acc : List Char} {c : Char}
    (h : c ∈ Nat.toDigitsCore base fuel n acc) : c ∈ acc ∨ ∃ k, c = Nat.digitChar k := by
  induction fuel generalizing n acc with
  | zero => exact Or.inl h
  | succ fuel ih =>
    rw [Nat.toDigitsCore] at h
    by_cases hlast : n / base = 0
    · simp only [hlast, if_true] at h
      rcases List.mem_cons.mp h with rfl | hacc
      · exact Or.inr ⟨_, rfl⟩
      · exact Or.inl hacc
    · simp only [hlast, if_false] at h
      rcases ih h with hacc | hdigit
      · rcases List.mem_cons.mp hacc with rfl | hacc
        · exact Or.inr ⟨_, rfl⟩
        · exact Or.inl hacc
      · exact Or.inr hdigit

/-- A character that is no digit does not occur in decimal text. -/
theorem ofChar_notMem_ofNat {c : Char} (hc : ∀ k, Nat.digitChar k ≠ c) (n : ℕ) :
    ofChar c ∉ ofNat n := by
  intro h
  obtain ⟨d, hd, hdc⟩ := List.mem_map.mp h
  obtain rfl := ofChar_injective hdc
  rcases mem_toDigitsCore hd with hnil | ⟨k, hk⟩
  · simp at hnil
  · exact hc k hk.symm

/-- A padded hexadecimal number consists of characters other than the null character. -/
theorem mem_hexPadded {width n : ℕ} {c : CodePoint} (h : c ∈ hexPadded width n) :
    ∃ d, d ≠ Char.ofNat 0 ∧ c = ofChar d := by
  unfold hexPadded at h
  rcases List.mem_append.mp h with hpad | hdigit
  · exact ⟨'0', by decide, List.eq_of_mem_replicate hpad⟩
  · obtain ⟨d, hd, rfl⟩ := List.mem_map.mp hdigit
    rcases mem_toDigitsCore hd with hnil | ⟨k, rfl⟩
    · simp at hnil
    · exact ⟨_, Nat.digitChar_ne _ (by decide), rfl⟩

/-- A code point inside `repr(s)` when the string is quoted by `quote`. -/
def reprChar [UnicodeDatabase] (quote c : CodePoint) : PyStr :=
  if c = 0x5c || c = quote then [0x5c, c]
  else if c = 0x09 then lit "\\t"
  else if c = 0x0a then lit "\\n"
  else if c = 0x0d then lit "\\r"
  else if c.val < 0x20 || c.val = 0x7f then lit "\\x" ++ hexPadded 2 c.val
  else if isAscii c then [c]
  else if !isSurrogate c && UnicodeDatabase.printable c then [c]
  else if c.val ≤ 0xff then lit "\\x" ++ hexPadded 2 c.val
  else if c.val ≤ 0xffff then lit "\\u" ++ hexPadded 4 c.val
  else lit "\\U" ++ hexPadded 8 c.val

/-- `repr(s)`. -/
def repr [UnicodeDatabase] (s : PyStr) : PyStr :=
  let quote : CodePoint := if 0x27 ∈ s ∧ 0x22 ∉ s then 0x22 else 0x27
  quote :: s.flatMap (reprChar quote) ++ [quote]

end PyStr

/-- A database that knows the ASCII characters only; on ASCII text it agrees with the real one. -/
@[reducible] def asciiDatabase : UnicodeDatabase where
  lower s := s.map PyStr.asciiLower
  lower_ne_nil s hs := by simpa using hs
  lower_ascii _ _ := rfl
  lower_map_asciiLower s := by simp [PyStr.asciiLower_asciiLower]
  nfkc s := s
  decimal _ := none
  printable _ := false

end Python
