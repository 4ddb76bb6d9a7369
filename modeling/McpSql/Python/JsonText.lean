import McpSql.Python.Json

/-!
# Writing JSON and UTF-8

The text `json.dumps` writes with its default separators, and the length of a string in UTF-8.
-/

namespace Python

open PyStr

namespace PyStr

/-- The number of bytes of a code point in UTF-8. -/
def utf8Width (c : CodePoint) : ℕ :=
  if c.val < 0x80 then 1
  else if c.val < 0x800 then 2
  else if c.val < 0x10000 then 3
  else 4

/-- `len(s.encode("utf-8"))`; `none` is the `UnicodeEncodeError` of a lone surrogate. -/
def utf8Length (s : PyStr) : Option ℕ :=
  if s.any isSurrogate then none else some (s.map utf8Width).sum

theorem utf8Width_pos (c : CodePoint) : 1 ≤ utf8Width c := by
  unfold utf8Width
  split_ifs <;> omega

/-- The characters of one byte are the ASCII ones. -/
theorem utf8Width_le_one_iff (c : CodePoint) : utf8Width c ≤ 1 ↔ isAscii c = true := by
  unfold utf8Width isAscii
  split_ifs with hascii <;> simp [hascii]

theorem utf8Length_eq_some {s : PyStr} {n : ℕ} :
    utf8Length s = some n ↔ s.any isSurrogate = false ∧ (s.map utf8Width).sum = n := by
  unfold utf8Length
  cases s.any isSurrogate <;> simp

/-- Every character has a byte. -/
theorem length_le_sum_utf8Width (s : PyStr) : s.length ≤ (s.map utf8Width).sum := by
  induction s with
  | nil => simp
  | cons c s ih =>
    have hwidth := utf8Width_pos c
    rw [List.map_cons, List.sum_cons, List.length_cons]
    omega

/-- A string has no more bytes than characters exactly when it is ASCII. -/
theorem sum_utf8Width_le_length_iff (s : PyStr) :
    (s.map utf8Width).sum ≤ s.length ↔ ∀ c ∈ s, isAscii c = true := by
  induction s with
  | nil => simp
  | cons c s ih =>
    rw [List.map_cons, List.sum_cons, List.length_cons, List.forall_mem_cons, ← ih,
      ← utf8Width_le_one_iff]
    have hwidth := utf8Width_pos c
    have hlength := length_le_sum_utf8Width s
    omega

end PyStr

namespace Json

/-- A code point inside a JSON string. -/
def dumpsChar (ensureAscii : Bool) (c : CodePoint) : PyStr :=
  if c = 0x22 || c = 0x5c then [0x5c, c]
  else if c = 0x0a then lit "\\n"
  else if c = 0x0d then lit "\\r"
  else if c = 0x09 then lit "\\t"
  else if c = 0x0c then lit "\\f"
  else if c = 0x08 then lit "\\b"
  else if 0x20 ≤ c.val && c.val ≤ 0x7e then [c]
  else if !ensureAscii && 0x20 ≤ c.val then [c]
  else if c.val < 0x10000 then lit "\\u" ++ hexPadded 4 c.val
  else
    -- a pair of surrogates
    lit "\\u" ++ hexPadded 4 (0xd800 + (c.val - 0x10000) / 0x400) ++
      lit "\\u" ++ hexPadded 4 (0xdc00 + (c.val - 0x10000) % 0x400)

/-- The characters with an escape of their own. -/
def shortEscaped : List CodePoint := [0x22, 0x5c, 0x0a, 0x0d, 0x09, 0x0c, 0x08]

/-- Outside ASCII mode the other characters are written as they are, unless they are control
characters. -/
theorem dumpsChar_of_notMem {c : CodePoint} (h : c ∉ shortEscaped) :
    dumpsChar false c = if c.val < 0x20 then lit "\\u" ++ hexPadded 4 c.val else [c] := by
  simp only [shortEscaped, List.mem_cons, List.not_mem_nil, or_false, not_or] at h
  obtain ⟨hquote, hslash, hn, hr, ht, hf, hb⟩ := h
  unfold dumpsChar
  simp only [hquote, hslash, hn, hr, ht, hf, hb, decide_false, Bool.or_self, Bool.false_eq_true,
    if_false, Bool.not_false, Bool.true_and]
  rcases Nat.lt_or_ge c.val 0x20 with hcontrol | hlow
  · have hwide : c.val < 0x10000 := by omega
    simp [Nat.not_le.mpr hcontrol, hwide, hcontrol]
  · simp [hlow, Nat.not_lt.mpr hlow]

/-- A JSON string. -/
def dumpsStr (ensureAscii : Bool) (s : PyStr) : PyStr :=
  lit "\"" ++ s.flatMap (dumpsChar ensureAscii) ++ lit "\""

/-- A float by its `repr`, with the names JSON has for the special values. -/
def dumpsFloat (text : PyStr) : PyStr :=
  if text = lit "nan" then lit "NaN"
  else if text = lit "inf" then lit "Infinity"
  else if text = lit "-inf" then lit "-Infinity"
  else text

mutual

/-- `json.dumps(value, ensure_ascii=...)`. -/
def dumps (ensureAscii : Bool) : Json → PyStr
  | null => lit "null"
  | bool true => lit "true"
  | bool false => lit "false"
  | int n => ofInt n
  | float text => dumpsFloat text
  | str s => dumpsStr ensureAscii s
  | arr items => lit "[" ++ dumpsItems ensureAscii items ++ lit "]"
  | obj fields => lit "\x7b" ++ dumpsFields ensureAscii fields ++ lit "\x7d"

/-- The elements of an array. -/
def dumpsItems (ensureAscii : Bool) : List Json → PyStr
  | [] => []
  | [x] => dumps ensureAscii x
  | x :: y :: rest => dumps ensureAscii x ++ lit ", " ++ dumpsItems ensureAscii (y :: rest)

/-- The members of an object. -/
def dumpsFields (ensureAscii : Bool) : List (PyStr × Json) → PyStr
  | [] => []
  | [(k, x)] => dumpsStr ensureAscii k ++ lit ": " ++ dumps ensureAscii x
  | (k, x) :: y :: rest => dumpsStr ensureAscii k ++ lit ": " ++ dumps ensureAscii x ++
      lit ", " ++ dumpsFields ensureAscii (y :: rest)

end

end Json

end Python
