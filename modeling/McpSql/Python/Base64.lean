import Mathlib.Data.List.DropRight
import McpSql.Python.Str

/-!
# URL-safe base64

`base64.urlsafe_b64encode`, and `secrets.token_urlsafe`, which drops its padding.
-/

namespace Python

open PyStr

/-- A byte. -/
abbrev Byte := Fin 256

/-- Numerals denote bytes. -/
instance neZeroByte : NeZero 256 := ⟨Nat.succ_ne_zero _⟩

namespace Base64

/-- The URL-safe alphabet. -/
def alphabet : PyStr := lit "ABCDEFGHIJKLMNOPQRSTUVWXYZabcdefghijklmnopqrstuvwxyz0123456789-_"

/-- The digit of a number below 64. -/
def digit (n : ℕ) : CodePoint := alphabet.getD n 0

/-- The padding character. -/
def padding : CodePoint := 0x3d

/-- `base64.urlsafe_b64encode`: three bytes are four digits, and a rest is padded. -/
def urlsafeEncode : List Byte → PyStr
  | [] => []
  | [a] => [digit (a / 4), digit (a % 4 * 16), padding, padding]
  | [a, b] => [digit (a / 4), digit (a % 4 * 16 + b / 16), digit (b % 16 * 4), padding]
  | a :: b :: c :: rest =>
    digit (a / 4) :: digit (a % 4 * 16 + b / 16) :: digit (b % 16 * 4 + c / 64) ::
      digit (c % 64) :: urlsafeEncode rest

end Base64

/-- `secrets.token_urlsafe` on the bytes it draws. -/
def tokenUrlsafe (bytes : List Byte) : PyStr :=
  (Base64.urlsafeEncode bytes).rdropWhile (· = Base64.padding)

namespace Base64

/-- A character of the alphabet. -/
def IsDigit (c : CodePoint) : Prop := ∃ n, n < 64 ∧ c = digit n

theorem isDigit_digit {n : ℕ} (h : n < 64) : IsDigit (digit n) := ⟨n, h, rfl⟩

/-- No digit is the padding character. -/
theorem ne_padding_of_isDigit {c : CodePoint} (h : IsDigit c) : c ≠ padding := by
  obtain ⟨n, hn, rfl⟩ := h
  revert n
  decide

/-- An encoding is its digits, four for each three bytes and one more than the bytes of a rest, and
the padding. -/
theorem urlsafeEncode_eq (bytes : List Byte) :
    ∃ digits pad, urlsafeEncode bytes = digits ++ List.replicate pad padding ∧
      digits.length = (4 * bytes.length + 2) / 3 ∧ ∀ c ∈ digits, IsDigit c := by
  induction bytes using urlsafeEncode.induct with
  | case1 => exact ⟨[], 0, rfl, rfl, by simp⟩
  | case2 a =>
    refine ⟨[digit (a / 4), digit (a % 4 * 16)], 2, rfl, by simp, ?_⟩
    rw [List.forall_mem_cons, List.forall_mem_singleton]
    exact ⟨isDigit_digit (by omega), isDigit_digit (by omega)⟩
  | case3 a b =>
    refine ⟨[digit (a / 4), digit (a % 4 * 16 + b / 16), digit (b % 16 * 4)], 1, rfl, by simp, ?_⟩
    rw [List.forall_mem_cons, List.forall_mem_cons, List.forall_mem_singleton]
    exact ⟨isDigit_digit (by omega), isDigit_digit (by omega), isDigit_digit (by omega)⟩
  | case4 a b c rest ih =>
    obtain ⟨digits, pad, hencode, hlength, hdigits⟩ := ih
    refine ⟨digit (a / 4) :: digit (a % 4 * 16 + b / 16) :: digit (b % 16 * 4 + c / 64) ::
      digit (c % 64) :: digits, pad, ?_, ?_, ?_⟩
    · rw [urlsafeEncode, hencode]
      rfl
    · simp only [List.length_cons, hlength]
      omega
    · simp only [List.forall_mem_cons]
      exact ⟨isDigit_digit (by omega), isDigit_digit (by omega), isDigit_digit (by omega),
        isDigit_digit (by omega), hdigits⟩

/-- Stripping the padding leaves the digits. -/
theorem rdropWhile_padding {digits : PyStr} (h : ∀ c ∈ digits, IsDigit c) (pad : ℕ) :
    (digits ++ List.replicate pad padding).rdropWhile (· = padding) = digits := by
  induction pad with
  | zero =>
    rw [List.replicate_zero, List.append_nil, List.rdropWhile_eq_self_iff]
    intro hne
    simpa using ne_padding_of_isDigit (h _ (List.getLast_mem hne))
  | succ pad ih =>
    rw [List.replicate_succ', ← List.append_assoc, List.rdropWhile_concat_pos _ _ _ (by simp)]
    exact ih

/-- Without its padding an encoding is its digits. -/
theorem tokenUrlsafe_spec (bytes : List Byte) :
    (tokenUrlsafe bytes).length = (4 * bytes.length + 2) / 3 ∧
      ∀ c ∈ tokenUrlsafe bytes, IsDigit c := by
  obtain ⟨digits, pad, hencode, hlength, hdigits⟩ := urlsafeEncode_eq bytes
  have htoken : tokenUrlsafe bytes = digits := by
    unfold tokenUrlsafe
    rw [hencode]
    exact rdropWhile_padding hdigits pad
  rw [htoken]
  exact ⟨hlength, hdigits⟩

end Base64

end Python
