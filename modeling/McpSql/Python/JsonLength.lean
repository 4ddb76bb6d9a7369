import McpSql.Python.JsonText

/-!
# The length of JSON text

With `ensure_ascii=False` a character of a string is written as it is, or escaped.  Either way its
UTF-8 form has at most as many bytes as its escape under `ensure_ascii=True` has characters, so the
first text of a value has at most as many bytes as the second has characters.
-/

namespace Python

open PyStr

namespace PyStr

/-! ## Texts within a number of bytes -/

/-- The text has a UTF-8 form, of at most so many bytes. -/
def Utf8Within (n : ℕ) (s : PyStr) : Prop := ∃ bytes, utf8Length s = some bytes ∧ bytes ≤ n

theorem utf8Within_nil : Utf8Within 0 [] := ⟨0, rfl, Nat.le_refl 0⟩

theorem Utf8Within.mono {m n : ℕ} {s : PyStr} (h : Utf8Within m s) (hmn : m ≤ n) :
    Utf8Within n s := by
  obtain ⟨bytes, hlength, hle⟩ := h
  exact ⟨bytes, hlength, Nat.le_trans hle hmn⟩

theorem Utf8Within.append {m n : ℕ} {s t : PyStr} (hs : Utf8Within m s) (ht : Utf8Within n t) :
    Utf8Within (m + n) (s ++ t) := by
  obtain ⟨a, ha, ham⟩ := hs
  obtain ⟨b, hb, hbn⟩ := ht
  obtain ⟨hplain, rfl⟩ := utf8Length_eq_some.mp ha
  obtain ⟨hplain', rfl⟩ := utf8Length_eq_some.mp hb
  refine ⟨_, utf8Length_eq_some.mpr ⟨?_, rfl⟩, ?_⟩
  · rw [List.any_append, hplain, hplain']
    rfl
  · rw [List.map_append, List.sum_append]
    omega

theorem utf8Within_singleton {c : CodePoint} (h : isSurrogate c = false) :
    Utf8Within (utf8Width c) [c] := by
  refine ⟨_, utf8Length_eq_some.mpr ⟨?_, rfl⟩, ?_⟩
  · rw [List.any_cons, h]
    rfl
  · simp

theorem isSurrogate_of_ascii {c : CodePoint} (h : isAscii c = true) : isSurrogate c = false := by
  unfold isAscii at h
  unfold isSurrogate
  simp only [decide_eq_true_eq] at h
  simp only [Bool.and_eq_false_iff, decide_eq_false_iff_not]
  omega

/-- ASCII text has a byte for each character. -/
theorem utf8Within_of_ascii {s : PyStr} (h : ∀ c ∈ s, isAscii c = true) :
    Utf8Within s.length s := by
  refine ⟨_, utf8Length_eq_some.mpr ⟨?_, rfl⟩, (sum_utf8Width_le_length_iff s).mpr h⟩
  rw [List.any_eq_false]
  intro c hc
  rw [isSurrogate_of_ascii (h c hc)]
  exact Bool.false_ne_true

theorem utf8Within_of_all {s : PyStr} (h : s.all isAscii = true) : Utf8Within s.length s :=
  utf8Within_of_ascii (List.all_eq_true.mp h)

/-- A text that is written piece by piece. -/
theorem utf8Within_flatMap {s : PyStr} {f g : CodePoint → PyStr}
    (h : ∀ c ∈ s, Utf8Within (g c).length (f c)) :
    Utf8Within (s.flatMap g).length (s.flatMap f) := by
  induction s with
  | nil => exact utf8Within_nil
  | cons c s ih =>
    rw [List.flatMap_cons, List.flatMap_cons, List.length_append]
    exact (h c List.mem_cons_self).append (ih fun d hd => h d (List.mem_cons_of_mem _ hd))

theorem utf8Width_le (c : CodePoint) : utf8Width c ≤ 4 := by
  unfold utf8Width
  split_ifs <;> omega

/-! ## Numerals -/

theorem isAscii_digitChar (k : ℕ) : isAscii (ofChar (Nat.digitChar k)) = true := by
  have hdigits : ∀ k < 16, isAscii (ofChar (Nat.digitChar k)) = true := by decide
  rcases Nat.lt_or_ge k 16 with hlt | hge
  · exact hdigits k hlt
  · rw [Nat.digitChar_eq_star.mpr hge]
    decide

theorem isAscii_of_mem_toDigits {base n : ℕ} {c : CodePoint}
    (h : c ∈ (Nat.toDigits base n).map ofChar) : isAscii c = true := by
  obtain ⟨d, hd, rfl⟩ := List.mem_map.mp h
  rcases mem_toDigitsCore hd with hnil | ⟨k, rfl⟩
  · simp at hnil
  · exact isAscii_digitChar k

theorem isAscii_of_mem_hexPadded {width n : ℕ} {c : CodePoint} (h : c ∈ hexPadded width n) :
    isAscii c = true := by
  rcases List.mem_append.mp h with hpad | hdigit
  · rw [List.eq_of_mem_replicate hpad]
    decide
  · exact isAscii_of_mem_toDigits hdigit

theorem length_hexPadded (width n : ℕ) : width ≤ (hexPadded width n).length := by
  unfold hexPadded
  rw [List.length_append, List.length_replicate]
  omega

theorem isAscii_of_mem_ofInt {n : ℤ} {c : CodePoint} (h : c ∈ ofInt n) : isAscii c = true := by
  unfold ofInt at h
  by_cases hneg : n < 0
  · rw [if_pos hneg] at h
    rcases List.mem_append.mp h with hsign | hdigit
    · rw [List.mem_singleton.mp hsign]
      decide
    · exact isAscii_of_mem_toDigits hdigit
  · rw [if_neg hneg] at h
    exact isAscii_of_mem_toDigits h

end PyStr

namespace Json

/-! ## Characters and strings -/

/-- The characters an escape of four digits consists of. -/
theorem isAscii_of_mem_escape {n : ℕ} {c : CodePoint} (h : c ∈ lit "\\u" ++ hexPadded 4 n) :
    isAscii c = true := by
  rcases List.mem_append.mp h with hmark | hdigit
  · have hall : (lit "\\u").all isAscii = true := by decide
    exact List.all_eq_true.mp hall c hmark
  · exact isAscii_of_mem_hexPadded hdigit

theorem length_escape (n : ℕ) : 6 ≤ (lit "\\u" ++ hexPadded 4 n).length := by
  have hwidth := length_hexPadded 4 n
  have hmark : (lit "\\u").length = 2 := rfl
  rw [List.length_append, hmark]
  omega

/-- A character is written the same in both settings, in ASCII, or it is written as it is in the one
and with a long escape in the other. -/
theorem dumpsChar_cases (c : CodePoint) :
    (dumpsChar false c = dumpsChar true c ∧ ∀ d ∈ dumpsChar true c, isAscii d = true) ∨
      (dumpsChar false c = [c] ∧ 6 ≤ (dumpsChar true c).length) := by
  by_cases hshort : c ∈ shortEscaped
  · have hall : (shortEscaped.all fun c => dumpsChar false c = dumpsChar true c &&
        (dumpsChar true c).all isAscii) = true := by decide
    have hc := List.all_eq_true.mp hall c hshort
    rw [Bool.and_eq_true, decide_eq_true_eq] at hc
    exact Or.inl (hc.imp_right List.all_eq_true.mp)
  · have hplain := dumpsChar_of_notMem hshort
    simp only [shortEscaped, List.mem_cons, List.not_mem_nil, or_false, not_or] at hshort
    obtain ⟨hquote, hslash, hn, hr, ht, hf, hb⟩ := hshort
    rw [hplain]
    unfold dumpsChar
    simp only [hquote, hslash, hn, hr, ht, hf, hb, decide_false, Bool.or_self, Bool.false_eq_true,
      if_false, Bool.not_true, Bool.false_and]
    rcases Nat.lt_or_ge c.val 0x20 with hcontrol | hlow
    · have hwide : c.val < 0x10000 := by omega
      simp only [hcontrol, Nat.not_le.mpr hcontrol, hwide, decide_false, Bool.false_and,
        Bool.false_eq_true, if_false, if_true]
      exact Or.inl ⟨trivial, fun d hd => isAscii_of_mem_escape hd⟩
    · simp only [hlow, Nat.not_lt.mpr hlow, decide_true, Bool.true_and, decide_eq_true_eq, if_false]
      by_cases hprintable : c.val ≤ 0x7e
      · simp only [hprintable, if_true, List.mem_singleton]
        refine Or.inl ⟨trivial, ?_⟩
        rintro d rfl
        unfold isAscii
        simp only [decide_eq_true_eq]
        omega
      · simp only [hprintable, if_false]
        refine Or.inr ⟨trivial, ?_⟩
        by_cases hwide : c.val < 0x10000
        · rw [if_pos hwide]
          exact length_escape c.val
        · rw [if_neg hwide, List.append_assoc, List.length_append]
          exact Nat.le_trans (length_escape _) (Nat.le_add_right _ _)

/-- A character other than a surrogate has at most as many bytes unescaped as it has characters
escaped. -/
theorem utf8Within_dumpsChar {c : CodePoint} (h : isSurrogate c = false) :
    Utf8Within (dumpsChar true c).length (dumpsChar false c) := by
  rcases dumpsChar_cases c with ⟨hsame, hascii⟩ | ⟨hplain, hlong⟩
  · rw [hsame]
    exact utf8Within_of_ascii hascii
  · rw [hplain]
    have hwidth := utf8Width_le c
    exact (utf8Within_singleton h).mono (by omega)

/-- A string without surrogates. -/
theorem utf8Within_dumpsStr {s : PyStr} (h : s.any isSurrogate = false) :
    Utf8Within (dumpsStr true s).length (dumpsStr false s) := by
  have hquote : Utf8Within 1 (lit "\"") := utf8Within_of_all (by decide)
  have hchars : Utf8Within (s.flatMap (dumpsChar true)).length (s.flatMap (dumpsChar false)) := by
    apply utf8Within_flatMap
    intro c hc
    exact utf8Within_dumpsChar (Bool.eq_false_iff.mpr (List.any_eq_false.mp h c hc))
  have hlength : (dumpsStr true s).length = 1 + (s.flatMap (dumpsChar true)).length + 1 := by
    unfold dumpsStr
    rw [List.length_append, List.length_append]
    rfl
  rw [hlength]
  exact (hquote.append hchars).append hquote

/-! ## Arrays -/

/-- The elements of an array, with what separates them: as many pairs of characters as there are
elements, less one. -/
theorem utf8Within_dumpsItems {items : List Json} (size : Json → ℕ)
    (h : ∀ x ∈ items, Utf8Within (size x) (dumps false x)) :
    ∃ n, Utf8Within n (dumpsItems false items) ∧
      n + 2 = (items.map size).sum + 2 * max 1 items.length := by
  induction items with
  | nil => exact ⟨0, utf8Within_nil, rfl⟩
  | cons x rest ih =>
    have hx := h x List.mem_cons_self
    obtain ⟨n, hn, hsum⟩ := ih fun y hy => h y (List.mem_cons_of_mem _ hy)
    rcases rest with _ | ⟨y, rest⟩
    · exact ⟨size x, hx, by simp⟩
    · have hcomma : Utf8Within 2 (lit ", ") := utf8Within_of_all (by decide)
      refine ⟨size x + 2 + n, (hx.append hcomma).append hn, ?_⟩
      rw [List.map_cons, List.sum_cons, List.length_cons]
      rw [List.length_cons] at hsum ⊢
      omega

/-- An array whose elements are within their sizes. -/
theorem utf8Within_dumps_arr {items : List Json} (size : Json → ℕ)
    (h : ∀ x ∈ items, Utf8Within (size x) (dumps false x)) :
    Utf8Within ((items.map size).sum + 2 * max 1 items.length) (dumps false (.arr items)) := by
  obtain ⟨n, hn, hsum⟩ := utf8Within_dumpsItems size h
  have hopen : Utf8Within 1 (lit "[") := utf8Within_of_all (by decide)
  have hclose : Utf8Within 1 (lit "]") := utf8Within_of_all (by decide)
  have hsize : 1 + n + 1 = (items.map size).sum + 2 * max 1 items.length := by omega
  rw [← hsize]
  exact (hopen.append hn).append hclose

/-- The length of the text of an array is the sum of those of its elements, and the separators. -/
theorem length_dumps_arr (ensureAscii : Bool) (items : List Json) :
    (dumps ensureAscii (.arr items)).length =
      (items.map fun x => (dumps ensureAscii x).length).sum + 2 * max 1 items.length := by
  have hitems : (dumpsItems ensureAscii items).length + 2 =
      (items.map fun x => (dumps ensureAscii x).length).sum + 2 * max 1 items.length := by
    induction items with
    | nil => rfl
    | cons x rest ih =>
      rcases rest with _ | ⟨y, rest⟩
      · simp [dumpsItems]
      · have hcomma : (lit ", ").length = 2 := rfl
        rw [dumpsItems, List.length_append, List.length_append, hcomma, List.map_cons,
          List.sum_cons]
        simp only [List.length_cons] at ih ⊢
        omega
  have hbracket : (lit "[").length = 1 ∧ (lit "]").length = 1 := ⟨rfl, rfl⟩
  rw [dumps, List.length_append, List.length_append, hbracket.1, hbracket.2]
  omega

end Json

end Python
