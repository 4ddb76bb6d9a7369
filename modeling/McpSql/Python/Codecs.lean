import McpSql.Python.Base64
import McpSql.Python.Unquote

/-!
# Decoding bytes

`bytes.decode` for the Unicode encodings, and the encoding `json.loads` finds out from the first
bytes of a document.  `json.loads` decodes with the handler `surrogatepass`, so it also reads lone
surrogates, which no UTF-8 text has.
-/

namespace Python

open PyStr

/-! ## UTF-8 -/

theorem low_80 : 0x80 ≤ 0x80 := Nat.le_refl _

theorem low_90 : 0x80 ≤ 0x90 := by decide

theorem low_a0 : 0x80 ≤ 0xa0 := by decide

/-- What a byte between two characters begins: a character, or a longer sequence.  With `pass` the
sequences of surrogates are read as well. -/
def utf8Start (pass : Bool) (b : ℕ) : Option (CodePoint ⊕ Unfinished) :=
  if b < 0x80 then some (.inl (Fin.ofNat 0x110000 b))
  else if 0xc2 ≤ b && b ≤ 0xdf then some (.inr ⟨b - 0xc0, 0x80, 0xbf, 0, low_80⟩)
  else if b = 0xe0 then some (.inr ⟨0, 0xa0, 0xbf, 1, low_a0⟩)
  else if b = 0xed then some (.inr ⟨0xd, 0x80, if pass then 0xbf else 0x9f, 1, low_80⟩)
  else if 0xe1 ≤ b && b ≤ 0xef then some (.inr ⟨b - 0xe0, 0x80, 0xbf, 1, low_80⟩)
  else if b = 0xf0 then some (.inr ⟨0, 0x90, 0xbf, 2, low_90⟩)
  else if b = 0xf4 then some (.inr ⟨4, 0x80, 0x8f, 2, low_80⟩)
  else if 0xf1 ≤ b && b ≤ 0xf3 then some (.inr ⟨b - 0xf0, 0x80, 0xbf, 2, low_80⟩)
  else none

/-- The next byte of a sequence: the character it ends, or a longer beginning. -/
def Unfinished.step (u : Unfinished) (b : ℕ) : Option (CodePoint ⊕ Unfinished) :=
  if u.low ≤ b && b ≤ u.high then
    match u.more with
    | 0 => some (.inl (Fin.ofNat 0x110000 (u.bits * 0x40 + (b - 0x80))))
    | more + 1 => some (.inr ⟨u.bits * 0x40 + (b - 0x80), 0x80, 0xbf, more, low_80⟩)
  else none

/-- One more byte, between two characters or inside a sequence. -/
def utf8Step (pass : Bool) : Option Unfinished → ℕ → Option (CodePoint ⊕ Unfinished)
  | none, b => utf8Start pass b
  | some u, b => u.step b

/-- The text of the bytes after the beginning of a sequence; `none` is the `UnicodeDecodeError`. -/
def decodeUtf8From (pass : Bool) : Option Unfinished → List Byte → Option PyStr
  | none, [] => some []
  | some _, [] => none
  | state, b :: rest =>
    match utf8Step pass state b with
    | none => none
    | some (.inl c) => (c :: ·) <$> decodeUtf8From pass none rest
    | some (.inr u) => decodeUtf8From pass (some u) rest

/-- `bytes.decode("utf-8")`. -/
def decodeUtf8 (bytes : List Byte) : Option PyStr := decodeUtf8From false none bytes

section Step

variable {pass : Bool} {state : Option Unfinished} {b : Byte} {rest : List Byte}

theorem decodeUtf8From_of_none (h : utf8Step pass state b = none) :
    decodeUtf8From pass state (b :: rest) = none := by
  rw [decodeUtf8From, h]

theorem decodeUtf8From_of_char {c : CodePoint} (h : utf8Step pass state b = some (.inl c)) :
    decodeUtf8From pass state (b :: rest) = (c :: ·) <$> decodeUtf8From pass none rest := by
  rw [decodeUtf8From, h]

theorem decodeUtf8From_of_more {u : Unfinished} (h : utf8Step pass state b = some (.inr u)) :
    decodeUtf8From pass state (b :: rest) = decodeUtf8From pass (some u) rest := by
  rw [decodeUtf8From, h]

end Step

/-! ## UTF-16 and UTF-32 -/

/-- The character of a pair of surrogates. -/
def joinSurrogates (high low : ℕ) : CodePoint :=
  Fin.ofNat 0x110000 (0x10000 + (high - 0xd800) * 0x400 + (low - 0xdc00))

/-- A high surrogate. -/
def isHighSurrogate (unit : ℕ) : Bool := 0xd800 ≤ unit && unit ≤ 0xdbff

/-- A low surrogate. -/
def isLowSurrogate (unit : ℕ) : Bool := 0xdc00 ≤ unit && unit ≤ 0xdfff

/-- The characters of a sequence of 16-bit units; a surrogate without its partner is read as it is. -/
def joinUnits : List ℕ → PyStr
  | [] => []
  | [unit] => [Fin.ofNat 0x110000 unit]
  | high :: low :: rest =>
    if isHighSurrogate high && isLowSurrogate low then joinSurrogates high low :: joinUnits rest
    else Fin.ofNat 0x110000 high :: joinUnits (low :: rest)

/-- The 16-bit units of some bytes, the more significant byte first or last. -/
def units16 (big : Bool) : List Byte → Option (List ℕ)
  | [] => some []
  | [_] => none
  | a :: b :: rest => ((if big then 0x100 * a.val + b.val else 0x100 * b.val + a.val) :: ·) <$>
      units16 big rest

/-- `bytes.decode("utf-16-be", "surrogatepass")`, or the same for `"utf-16-le"`. -/
def decodeUtf16 (big : Bool) (bytes : List Byte) : Option PyStr := joinUnits <$> units16 big bytes

/-- `bytes.decode("utf-32-be", "surrogatepass")`, or the same for `"utf-32-le"`. -/
def decodeUtf32 (big : Bool) : List Byte → Option PyStr
  | [] => some []
  | a :: b :: c :: d :: rest =>
    let value := if big then 0x1000000 * a.val + 0x10000 * b.val + 0x100 * c.val + d.val
      else 0x1000000 * d.val + 0x10000 * c.val + 0x100 * b.val + a.val
    if value < 0x110000 then (Fin.ofNat 0x110000 value :: ·) <$> decodeUtf32 big rest else none
  | _ => none

/-! ## The encoding of a document -/

/-- The encodings `json.detect_encoding` tells apart. -/
inductive Encoding where
  | utf8
  /-- `utf-8-sig`: a byte order mark is dropped. -/
  | utf8Sig
  | utf16Be
  | utf16Le
  /-- `utf-16`: a byte order mark tells which of the two it is, and is dropped. -/
  | utf16
  | utf32Be
  | utf32Le
  /-- `utf-32`. -/
  | utf32
  deriving DecidableEq, Repr

/-- The part of `json.detect_encoding` after the byte order marks. -/
def detectByZeros : List Byte → Encoding
  | a :: b :: c :: d :: _ =>
    if a = 0 then (if b ≠ 0 then .utf16Be else .utf32Be)
    else if b = 0 then (if c ≠ 0 || d ≠ 0 then .utf16Le else .utf32Le)
    else .utf8
  | [a, b] => if a = 0 then .utf16Be else if b = 0 then .utf16Le else .utf8
  | _ => .utf8

/-- `json.detect_encoding`. -/
def detectEncoding (bytes : List Byte) : Encoding :=
  if [0x00, 0x00, 0xfe, 0xff].isPrefixOf bytes || [0xff, 0xfe, 0x00, 0x00].isPrefixOf bytes then
    .utf32
  else if [0xfe, 0xff].isPrefixOf bytes || [0xff, 0xfe].isPrefixOf bytes then .utf16
  else if [0xef, 0xbb, 0xbf].isPrefixOf bytes then .utf8Sig
  else detectByZeros bytes

/-- `bytes.decode(json.detect_encoding(bytes), "surrogatepass")`. -/
def decodeDetected (bytes : List Byte) : Option PyStr :=
  match detectEncoding bytes with
  | .utf8 => decodeUtf8From true none bytes
  | .utf8Sig => decodeUtf8From true none (bytes.drop 3)
  | .utf16Be => decodeUtf16 true bytes
  | .utf16Le => decodeUtf16 false bytes
  | .utf16 => decodeUtf16 ([0xfe, 0xff].isPrefixOf bytes) (bytes.drop 2)
  | .utf32Be => decodeUtf32 true bytes
  | .utf32Le => decodeUtf32 false bytes
  | .utf32 => decodeUtf32 ([0x00, 0x00, 0xfe, 0xff].isPrefixOf bytes) (bytes.drop 4)

/-! ## UTF-8 as `json.loads` reads it -/

/-- A sequence of which `surrogatepass` reads no less. -/
structure Unfinished.Within (u v : Unfinished) : Prop where
  bits : v.bits = u.bits
  low : v.low = u.low
  high : u.high ≤ v.high
  more : v.more = u.more

theorem Unfinished.Within.refl (u : Unfinished) : u.Within u := ⟨rfl, rfl, le_refl _, rfl⟩

/-- What a byte does without `pass`, it does with it. -/
inductive StepWithin : CodePoint ⊕ Unfinished → CodePoint ⊕ Unfinished → Prop where
  | char (c : CodePoint) : StepWithin (.inl c) (.inl c)
  | more {u v : Unfinished} (h : u.Within v) : StepWithin (.inr u) (.inr v)

theorem stepWithin_refl (x : CodePoint ⊕ Unfinished) : StepWithin x x := by
  cases x with
  | inl c => exact .char c
  | inr u => exact .more (.refl u)

theorem utf8Start_within {b : ℕ} {x : CodePoint ⊕ Unfinished} (h : utf8Start false b = some x) :
    ∃ y, utf8Start true b = some y ∧ StepWithin x y := by
  by_cases hed : b = 0xed
  · subst hed
    obtain rfl := Option.some.inj h
    exact ⟨_, rfl, .more ⟨rfl, rfl, by decide, rfl⟩⟩
  · have hsame : utf8Start true b = utf8Start false b := by
      unfold utf8Start
      simp only [if_neg hed]
    exact ⟨x, hsame.trans h, stepWithin_refl x⟩

theorem step_within {u v : Unfinished} (huv : u.Within v) {b : ℕ} {x : CodePoint ⊕ Unfinished}
    (h : u.step b = some x) : v.step b = some x := by
  unfold Unfinished.step at h ⊢
  by_cases hbyte : (u.low ≤ b && b ≤ u.high) = true
  · have hwide : (v.low ≤ b && b ≤ v.high) = true := by
      simp only [Bool.and_eq_true, decide_eq_true_eq] at hbyte ⊢
      have hhigh := huv.high
      rw [huv.low]
      omega
    rw [if_pos hbyte] at h
    rw [if_pos hwide, huv.more, huv.bits]
    exact h
  · rw [if_neg hbyte] at h
    simp at h

/-- What is UTF-8 is read in the same way with `surrogatepass`. -/
theorem decodeUtf8From_within {state state' : Option Unfinished}
    (hstate : Option.Rel Unfinished.Within state state') {bytes : List Byte} {text : PyStr}
    (h : decodeUtf8From false state bytes = some text) :
    decodeUtf8From true state' bytes = some text := by
  induction bytes generalizing state state' text with
  | nil =>
    cases hstate with
    | none => exact h
    | some huv => simp [decodeUtf8From] at h
  | cons b bytes ih =>
    have hstep : ∀ x, utf8Step false state b = some x →
        ∃ y, utf8Step true state' b = some y ∧ StepWithin x y := by
      intro x hx
      cases hstate with
      | none => exact utf8Start_within hx
      | some huv => exact ⟨x, step_within huv hx, stepWithin_refl x⟩
    cases hx : utf8Step false state b with
    | none => simp [decodeUtf8From_of_none hx] at h
    | some x =>
      obtain ⟨y, hy, hxy⟩ := hstep x hx
      cases hxy with
      | char c =>
        rw [decodeUtf8From_of_char hx] at h
        obtain ⟨rest, hrest, rfl⟩ := Option.map_eq_some_iff.mp h
        rw [decodeUtf8From_of_char hy, ih .none hrest]
        rfl
      | more huv =>
        rw [decodeUtf8From_of_more hx] at h
        rw [decodeUtf8From_of_more hy]
        exact ih (.some huv) h

/-- UTF-8 text that does not start with the null character does not start with a null byte. -/
theorem ne_null_of_decodeUtf8 {bytes : List Byte} {c : CodePoint} {text : PyStr}
    (h : decodeUtf8 bytes = some (c :: text)) (hc : c ≠ 0) (rest : List Byte) :
    bytes ≠ 0x00 :: rest := by
  rintro rfl
  have hstart : decodeUtf8 (0x00 :: rest) = (0 :: ·) <$> decodeUtf8From false none rest := rfl
  rw [hstart] at h
  obtain ⟨text', -, htext⟩ := Option.map_eq_some_iff.mp h
  exact hc (List.cons.inj htext).1.symm

/-- It does not start with the three bytes of a byte order mark that it does not decode to. -/
theorem ne_mark_of_decodeUtf8 {bytes : List Byte} {c : CodePoint} {text : PyStr}
    (h : decodeUtf8 bytes = some (c :: text)) (hmark : c ≠ 0xfeff) (rest : List Byte) :
    bytes ≠ 0xef :: 0xbb :: 0xbf :: rest := by
  rintro rfl
  have hstart : decodeUtf8 (0xef :: 0xbb :: 0xbf :: rest) =
      (0xfeff :: ·) <$> decodeUtf8From false none rest := rfl
  rw [hstart] at h
  obtain ⟨text', -, htext⟩ := Option.map_eq_some_iff.mp h
  exact hmark (List.cons.inj htext).1.symm

/-- It does not start with a byte that starts no character. -/
theorem ne_bad_of_decodeUtf8 {bytes : List Byte} {text : PyStr} (h : decodeUtf8 bytes = some text)
    {b : Byte} (hb : utf8Start false b.val = none) (rest : List Byte) : bytes ≠ b :: rest := by
  rintro rfl
  have hstop : decodeUtf8 (b :: rest) = none := decodeUtf8From_of_none hb
  rw [hstop] at h
  simp at h

/-- A null byte in the second place is the second character: no character continues with it. -/
theorem ne_second_null_of_decodeUtf8 {bytes : List Byte} {c d : CodePoint} {text : PyStr}
    (h : decodeUtf8 bytes = some (c :: d :: text)) (hd : d ≠ 0) (a : Byte) (rest : List Byte) :
    bytes ≠ a :: 0x00 :: rest := by
  rintro rfl
  unfold decodeUtf8 at h
  cases hstart : utf8Step false none a.val with
  | none => simp [decodeUtf8From_of_none hstart] at h
  | some x =>
    cases x with
    | inl first =>
      have hzero : decodeUtf8From false none (0x00 :: rest) =
        (0 :: ·) <$> decodeUtf8From false none rest := rfl
      rw [decodeUtf8From_of_char hstart, hzero] at h
      obtain ⟨text', htext', htext⟩ := Option.map_eq_some_iff.mp h
      obtain ⟨text'', -, rfl⟩ := Option.map_eq_some_iff.mp htext'
      exact hd (List.cons.inj (List.cons.inj htext).2).1.symm
    | inr u =>
      have hlow : ¬(u.low ≤ ((0x00 : Byte) : ℕ) && ((0x00 : Byte) : ℕ) ≤ u.high) = true := by
        have hge := u.low_ge
        have hzero : ((0x00 : Byte) : ℕ) = 0 := rfl
        simp only [Bool.and_eq_true, decide_eq_true_eq, not_and, hzero]
        omega
      have hstop : utf8Step false (some u) ((0x00 : Byte) : ℕ) = none := if_neg hlow
      rw [decodeUtf8From_of_more hstart, decodeUtf8From_of_none hstop] at h
      simp at h

/-- Bytes without a null in the first two places are taken for UTF-8. -/
theorem detectByZeros_eq_utf8 {bytes : List Byte} (hfirst : ∀ rest, bytes ≠ 0x00 :: rest)
    (hsecond : ∀ a rest, bytes ≠ a :: 0x00 :: rest) : detectByZeros bytes = .utf8 := by
  rcases bytes with _ | ⟨a, _ | ⟨b, _ | ⟨c, _ | ⟨d, rest⟩⟩⟩⟩
  · rfl
  · rfl
  · have ha : a ≠ 0 := fun hzero => hfirst [b] (hzero ▸ rfl)
    have hb : b ≠ 0 := fun hzero => hsecond a [] (hzero ▸ rfl)
    simp [detectByZeros, ha, hb]
  · rfl
  · have ha : a ≠ 0 := fun hzero => hfirst (b :: c :: d :: rest) (hzero ▸ rfl)
    have hb : b ≠ 0 := fun hzero => hsecond a (c :: d :: rest) (hzero ▸ rfl)
    simp [detectByZeros, ha, hb]

/-- UTF-8 text that starts with two characters other than null, and with no byte order mark, is found
to be UTF-8. -/
theorem detectEncoding_eq_utf8 {bytes : List Byte} {c d : CodePoint} {text : PyStr}
    (h : decodeUtf8 bytes = some (c :: d :: text)) (hc : c ≠ 0) (hd : d ≠ 0) (hmark : c ≠ 0xfeff) :
    detectEncoding bytes = .utf8 := by
  have hmarks : ∀ mark : List Byte, (∀ rest, bytes ≠ mark ++ rest) →
      mark.isPrefixOf bytes = false := by
    intro mark hmark
    rw [Bool.eq_false_iff]
    intro hpre
    obtain ⟨rest, hrest⟩ := List.isPrefixOf_iff_prefix.mp hpre
    exact hmark rest hrest.symm
  unfold detectEncoding
  rw [hmarks [0x00, 0x00, 0xfe, 0xff] fun rest => ne_null_of_decodeUtf8 h hc _,
    hmarks [0xff, 0xfe, 0x00, 0x00] fun rest => ne_bad_of_decodeUtf8 h (by decide) _,
    hmarks [0xfe, 0xff] fun rest => ne_bad_of_decodeUtf8 h (by decide) _,
    hmarks [0xff, 0xfe] fun rest => ne_bad_of_decodeUtf8 h (by decide) _,
    hmarks [0xef, 0xbb, 0xbf] fun rest => ne_mark_of_decodeUtf8 h hmark _]
  exact detectByZeros_eq_utf8 (ne_null_of_decodeUtf8 h hc) (ne_second_null_of_decodeUtf8 h hd)

end Python
