import Mathlib.Logic.Function.Iterate
import McpSql.Python.Str

/-!
# `urllib.parse.unquote`

Percent-decoding as in the standard library: the escapes of a run of ASCII text become bytes, the
bytes are decoded as UTF-8, and `U+FFFD` stands for each sequence that does not decode.  An ASCII
character that is no part of an escape ends every sequence before it, so decoding, any number of
times, distributes over it.
-/

namespace Python

open PyStr

/-! ## UTF-8 with replacement -/

/-- A byte to decode, or a code point outside ASCII, which stands for itself. -/
inductive Octet where
  | byte (b : ℕ)
  | char (c : CodePoint)
  deriving DecidableEq, Repr

/-- A sequence that has begun: its bits so far, the least and the greatest byte that may follow, and
how many bytes follow that one. -/
structure Unfinished where
  bits : ℕ
  low : ℕ
  high : ℕ
  more : ℕ
  low_ge : 0x80 ≤ low

/-- `U+FFFD`. -/
def replacement : CodePoint := 0xfffd

/-- A byte between two sequences: what it decodes to, or the sequence it begins. -/
def leadByte (b : ℕ) : PyStr × Option Unfinished :=
  if b < 0x80 then ([Fin.ofNat 0x110000 b], none)
  else if 0xc2 ≤ b && b ≤ 0xdf then ([], some ⟨b - 0xc0, 0x80, 0xbf, 0, by decide⟩)
  else if b = 0xe0 then ([], some ⟨0, 0xa0, 0xbf, 1, by decide⟩)
  else if 0xe1 ≤ b && b ≤ 0xef then
    -- the surrogates are left out
    ([], some ⟨b - 0xe0, 0x80, if b = 0xed then 0x9f else 0xbf, 1, by decide⟩)
  else if b = 0xf0 then ([], some ⟨0, 0x90, 0xbf, 2, by decide⟩)
  else if 0xf1 ≤ b && b ≤ 0xf4 then
    ([], some ⟨b - 0xf0, 0x80, if b = 0xf4 then 0x8f else 0xbf, 2, by decide⟩)
  else ([replacement], none)

/-- What is left of a sequence that breaks off. -/
def breakOff : Option Unfinished → PyStr
  | none => []
  | some _ => [replacement]

/-- A byte after the beginning of a sequence. -/
def Unfinished.next (u : Unfinished) (b : ℕ) : PyStr × Option Unfinished :=
  if u.low ≤ b && b ≤ u.high then
    match u.more with
    | 0 => ([Fin.ofNat 0x110000 (u.bits * 0x40 + (b - 0x80))], none)
    | more + 1 => ([], some ⟨u.bits * 0x40 + (b - 0x80), 0x80, 0xbf, more, by decide⟩)
  else (replacement :: (leadByte b).1, (leadByte b).2)

/-- One more octet. -/
def feed : Option Unfinished → Octet → PyStr × Option Unfinished
  | state, .char c => (breakOff state ++ [c], none)
  | none, .byte b => leadByte b
  | some u, .byte b => u.next b

/-- `bytes.decode("utf-8", "replace")`, after the beginning of a sequence. -/
def decodeFrom (state : Option Unfinished) : List Octet → PyStr
  | [] => breakOff state
  | x :: rest => (feed state x).1 ++ decodeFrom (feed state x).2 rest

/-- An ASCII byte ends the sequence before it. -/
theorem feed_ascii {c : CodePoint} (hc : isAscii c = true) (state : Option Unfinished) :
    feed state (.byte c.val) = (breakOff state ++ [c], none) := by
  have hlow : c.val < 0x80 := by simpa [isAscii] using hc
  have hlead : leadByte c.val = ([c], none) := by
    have hself : Fin.ofNat 0x110000 c.val = c := by simp
    unfold leadByte
    rw [if_pos hlow, hself]
  cases state with
  | none => exact hlead
  | some u =>
    have hnot : ¬(u.low ≤ c.val && c.val ≤ u.high) = true := by
      have hge := u.low_ge
      simp only [Bool.and_eq_true, decide_eq_true_eq, not_and]
      omega
    have hnext : u.next c.val = (replacement :: [c], none) := by
      unfold Unfinished.next
      rw [if_neg hnot, hlead]
    exact hnext

theorem decodeFrom_cons (state : Option Unfinished) (x : Octet) (rest : List Octet) :
    decodeFrom state (x :: rest) = (feed state x).1 ++ decodeFrom (feed state x).2 rest := rfl

theorem decodeFrom_append_ascii {c : CodePoint} (hc : isAscii c = true)
    (state : Option Unfinished) (xs ys : List Octet) :
    decodeFrom state (xs ++ .byte c.val :: ys) = decodeFrom state xs ++ c :: decodeFrom none ys := by
  induction xs generalizing state with
  | nil =>
    rw [List.nil_append, decodeFrom_cons, feed_ascii hc]
    simp [decodeFrom]
  | cons x xs ih =>
    rw [List.cons_append, decodeFrom_cons, ih, decodeFrom_cons, List.append_assoc]

/-! ## Escapes -/

/-- The value of a hexadecimal digit. -/
def hexValue (c : CodePoint) : ℕ :=
  if isAsciiDigit c then c.val - 0x30
  else if c.val < 0x60 then c.val - 0x41 + 10
  else c.val - 0x61 + 10

/-- A character that is not escaped. -/
def plainOctet (c : CodePoint) : Octet := if isAscii c then .byte c.val else .char c

/-- `unquote_to_bytes`: a `%` with two hexadecimal digits is a byte. -/
def unquoteToBytes : PyStr → List Octet
  | [] => []
  | [c] => [plainOctet c]
  | [c, d] => [plainOctet c, plainOctet d]
  | c :: a :: b :: rest =>
    if c = 0x25 && isHexDigit a && isHexDigit b then
      .byte (0x10 * hexValue a + hexValue b) :: unquoteToBytes rest
    else plainOctet c :: unquoteToBytes (a :: b :: rest)

/-- `urllib.parse.unquote(s)`. -/
def unquote (s : PyStr) : PyStr := decodeFrom none (unquoteToBytes s)

example : unquote (lit "%41%2e%2E%C3%A9%C3%2fx%zz%") = lit "A..é\ufffd/x%zz%" := by decide

/-- An ASCII character that is no part of an escape. -/
structure Separates (c : CodePoint) : Prop where
  ascii : isAscii c = true
  notPercent : c ≠ 0x25
  notHex : isHexDigit c = false

instance decidableSeparates (c : CodePoint) : Decidable (Separates c) :=
  decidable_of_iff (isAscii c = true ∧ c ≠ 0x25 ∧ isHexDigit c = false)
    ⟨fun h => ⟨h.1, h.2.1, h.2.2⟩, fun h => ⟨h.ascii, h.notPercent, h.notHex⟩⟩

theorem unquoteToBytes_cons_of_ne {c : CodePoint} (hc : c ≠ 0x25) (s : PyStr) :
    unquoteToBytes (c :: s) = plainOctet c :: unquoteToBytes s := by
  rcases s with _ | ⟨a, _ | ⟨b, rest⟩⟩
  · rfl
  · rfl
  · simp [unquoteToBytes, hc]

/-- ASCII text without `%` decodes to itself. -/
theorem unquote_eq_self {s : PyStr} (h : ∀ c ∈ s, isAscii c = true ∧ c ≠ 0x25) : unquote s = s := by
  induction s with
  | nil => rfl
  | cons c s ih =>
    obtain ⟨hascii, hpercent⟩ := h c List.mem_cons_self
    have hplain : plainOctet c = .byte c.val := by simp [plainOctet, hascii]
    have hrest : unquote s = s := ih fun d hd => h d (List.mem_cons_of_mem c hd)
    unfold unquote at hrest ⊢
    rw [unquoteToBytes_cons_of_ne hpercent, hplain, decodeFrom_cons, feed_ascii hascii, hrest]
    rfl

section Separator

variable {c : CodePoint} (hc : Separates c)

include hc

theorem unquoteToBytes_append_cons (s t : PyStr) :
    unquoteToBytes (s ++ c :: t) = unquoteToBytes s ++ .byte c.val :: unquoteToBytes t := by
  have hplain : plainOctet c = .byte c.val := by simp [plainOctet, hc.ascii]
  have hend : unquoteToBytes (c :: t) = .byte c.val :: unquoteToBytes t := by
    rw [unquoteToBytes_cons_of_ne hc.notPercent, hplain]
  -- a `%` right before the separator begins no escape
  have hlast : ∀ d, unquoteToBytes (d :: c :: t) = plainOctet d :: unquoteToBytes (c :: t) := by
    intro d
    cases t with
    | nil => rfl
    | cons b t => simp [unquoteToBytes, hc.notHex]
  induction s using unquoteToBytes.induct with
  | case1 => exact hend
  | case2 d =>
    rw [List.singleton_append, hlast, hend]
    rfl
  | case3 d e =>
    have hfirst : unquoteToBytes (d :: e :: c :: t) =
        plainOctet d :: unquoteToBytes (e :: c :: t) := by
      simp [unquoteToBytes, hc.notHex]
    rw [List.cons_append, List.singleton_append, hfirst, hlast, hend]
    rfl
  | case4 d a b rest hescape ih =>
    simp only [List.cons_append, unquoteToBytes, hescape, if_true, ih]
  | case5 d a b rest hescape ih =>
    simp only [List.cons_append, unquoteToBytes, hescape] at ih ⊢
    simp [ih]

/-- Decoding distributes over a separator. -/
theorem unquote_append_cons (s t : PyStr) :
    unquote (s ++ c :: t) = unquote s ++ c :: unquote t := by
  unfold unquote
  rw [unquoteToBytes_append_cons hc, decodeFrom_append_ascii hc.ascii]

/-- So does decoding any number of times. -/
theorem iterate_unquote_append_cons (k : ℕ) (s t : PyStr) :
    unquote^[k] (s ++ c :: t) = unquote^[k] s ++ c :: unquote^[k] t := by
  induction k generalizing s t with
  | zero => rfl
  | succ k ih => rw [Function.iterate_succ_apply, unquote_append_cons hc, ih,
      Function.iterate_succ_apply, Function.iterate_succ_apply]

/-- The pieces of a decoded text are those of its decoded pieces. -/
theorem splitOn_unquote (s : PyStr) :
    splitOn c (unquote s) = (splitOn c s).flatMap fun w => splitOn c (unquote w) := by
  induction s using cut_induction c with
  | uncut s h => rw [splitOn_of_notMem h, List.flatMap_singleton]
  | cut s t hs ht =>
    rw [unquote_append_cons hc, splitOn_append_cons, splitOn_append_cons, List.flatMap_append, hs, ht]

/-- A piece that is no escape stays a piece under decoding. -/
theorem mem_splitOn_iterate_unquote {w s : PyStr} (hw : splitOn c (unquote w) = [w])
    (h : w ∈ splitOn c s) (k : ℕ) : w ∈ splitOn c (unquote^[k] s) := by
  induction k generalizing s with
  | zero => exact h
  | succ k ih =>
    rw [Function.iterate_succ_apply]
    apply ih
    rw [splitOn_unquote hc]
    exact List.mem_flatMap.mpr ⟨w, h, by rw [hw]; exact List.mem_singleton_self w⟩

end Separator

end Python
