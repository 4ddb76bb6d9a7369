import McpSql.Foundations.Raising
import McpSql.Python.JsonParse

/-!
# What the JSON scanner reads

The scanners taken apart by what they come to first.  An object begins with a brace, so a document that
holds one is never taken for an encoding other than its own.
-/

namespace Python

open PyStr Raising

namespace Json

/-! ## Rounds of the scanner -/

theorem scanConstant_eq_some {s rest : PyStr} {x : Json} (h : scanConstant s = some (x, rest)) :
    ∃ name, (name, x) ∈ constants ∧ s = name ++ rest := by
  unfold scanConstant at h
  obtain ⟨⟨name, value⟩, hmem, hfound⟩ := List.exists_of_findSome?_eq_some h
  by_cases hname : startsWith name s = true
  · simp only [hname, if_true] at hfound
    obtain ⟨rfl, rfl⟩ := Prod.mk.inj (Option.some.inj hfound)
    obtain ⟨rest, rfl⟩ := List.isPrefixOf_iff_prefix.mp hname
    exact ⟨name, hmem, by rw [List.drop_left]⟩
  · simp [hname] at hfound

/-- The first round of the loop over the items. -/
theorem scanItems_succ_eq_ok {α : Type} {closing : CodePoint} {item : Scan α} {fuel : ℕ}
    {s rest : PyStr} {xs : List α} (h : scanItems closing item (fuel + 1) s = .ok (xs, rest)) :
    ∃ x after, item s = .ok (x, after) ∧
      (skipBlanks after = closing :: rest ∧ xs = [x] ∨
        ∃ more tail, skipBlanks after = 0x2c :: more ∧
          scanItems closing item fuel (skipBlanks more) = .ok (tail, rest) ∧ xs = x :: tail) := by
  rw [scanItems] at h
  obtain ⟨⟨x, after⟩, hx, h⟩ := bind_eq_ok.mp h
  refine ⟨x, after, hx, ?_⟩
  cases hblanks : skipBlanks after with
  | nil => simp [hblanks] at h
  | cons c more =>
    simp only [hblanks] at h
    by_cases hclosing : c = closing
    · rw [if_pos hclosing] at h
      obtain ⟨rfl, rfl⟩ := Prod.mk.inj (Except.ok.inj h)
      exact Or.inl ⟨by rw [hclosing], rfl⟩
    · rw [if_neg hclosing] at h
      by_cases hcomma : c = 0x2c
      · rw [if_pos hcomma] at h
        obtain ⟨⟨tail, rest'⟩, htail, h⟩ := bind_eq_ok.mp h
        obtain ⟨rfl, rfl⟩ := Prod.mk.inj (Except.ok.inj h)
        exact Or.inr ⟨more, tail, by rw [hcomma], htail, rfl⟩
      · rw [if_neg hcomma] at h
        simp at h

/-- How a value was read: as a string, an object, an array, a constant or a number. -/
theorem scanWith_cases {floatRepr : PyStr → PyStr} {array object : Scan Json} {s rest : PyStr}
    {x : Json} (h : scanWith floatRepr array object s = .ok (x, rest)) :
    ∃ c tail, s = c :: tail ∧
      ((∃ text, c = 0x22 ∧ scanString tail.length tail = .ok (text, rest) ∧ x = .str text) ∨
        (c = 0x7b ∧ object tail = .ok (x, rest)) ∨ (c = 0x5b ∧ array tail = .ok (x, rest)) ∨
        (∃ name, (name, x) ∈ constants ∧ s = name ++ rest) ∨
        scanNumber floatRepr s = .ok (x, rest)) := by
  cases s with
  | nil => simp [scanWith] at h
  | cons c tail =>
    refine ⟨c, tail, rfl, ?_⟩
    rw [scanWith] at h
    by_cases hquote : c = 0x22
    · rw [if_pos hquote] at h
      obtain ⟨⟨text, rest'⟩, htext, h⟩ := bind_eq_ok.mp h
      obtain ⟨rfl, rfl⟩ := Prod.mk.inj (Except.ok.inj h)
      exact Or.inl ⟨text, hquote, htext, rfl⟩
    rw [if_neg hquote] at h
    by_cases hbrace : c = 0x7b
    · rw [if_pos hbrace] at h
      exact Or.inr (Or.inl ⟨hbrace, h⟩)
    rw [if_neg hbrace] at h
    by_cases hbracket : c = 0x5b
    · rw [if_pos hbracket] at h
      exact Or.inr (Or.inr (Or.inl ⟨hbracket, h⟩))
    rw [if_neg hbracket] at h
    cases hconstant : scanConstant (c :: tail) with
    | none =>
      simp only [hconstant] at h
      exact Or.inr (Or.inr (Or.inr (Or.inr h)))
    | some found =>
      simp only [hconstant] at h
      obtain rfl := Except.ok.inj h
      exact Or.inr (Or.inr (Or.inr (Or.inl (scanConstant_eq_some hconstant))))

/-! ## How an object begins -/

theorem skipBlanks_eq_cons {s rest : PyStr} {c : CodePoint} (h : skipBlanks s = c :: rest) :
    ∃ d tail, s = d :: tail ∧
      (isBlank d = true ∧ skipBlanks tail = c :: rest ∨ d = c ∧ tail = rest) := by
  cases s with
  | nil => simp [skipBlanks] at h
  | cons d tail =>
    refine ⟨d, tail, rfl, ?_⟩
    unfold skipBlanks at h
    by_cases hblank : isBlank d = true
    · rw [List.dropWhile_cons_of_pos hblank] at h
      exact Or.inl ⟨hblank, h⟩
    · rw [List.dropWhile_cons_of_neg hblank] at h
      exact Or.inr (List.cons.inj h)

/-- An opening brace is followed by a closing one or by a quote. -/
theorem scanObject_starts {value : Scan Json} {s rest : PyStr} {x : Json}
    (h : scanObject value s = .ok (x, rest)) :
    ∃ c tail, skipBlanks s = c :: tail ∧ (c = 0x7d ∨ c = 0x22) := by
  unfold scanObject at h
  obtain ⟨⟨members, rest'⟩, hmembers, -⟩ := bind_eq_ok.mp h
  unfold scanContainer at hmembers
  cases hs : skipBlanks s with
  | nil => simp [hs] at hmembers
  | cons c tail =>
    refine ⟨c, tail, rfl, ?_⟩
    simp only [hs] at hmembers
    by_cases hclosing : c = 0x7d
    · exact Or.inl hclosing
    · rw [if_neg hclosing, List.length_cons] at hmembers
      obtain ⟨member, after, hmember, -⟩ := scanItems_succ_eq_ok hmembers
      by_cases hquote : c = 0x22
      · exact Or.inr hquote
      · rw [scanMember, if_neg hquote] at hmember
        simp at hmember

/-- Only an opening brace begins an object. -/
theorem scanWith_eq_obj {floatRepr : PyStr → PyStr} {array object : Scan Json} {s rest : PyStr}
    {fields : List (PyStr × Json)} (h : scanWith floatRepr array object s = .ok (.obj fields, rest))
    (harray : ∀ t, array t ≠ .ok (.obj fields, rest)) :
    ∃ tail, s = 0x7b :: tail ∧ object tail = .ok (.obj fields, rest) := by
  obtain ⟨c, tail, rfl, ⟨text, -, -, htext⟩ | ⟨rfl, h⟩ | ⟨-, h⟩ | ⟨name, hname, -⟩ | h⟩ :=
    scanWith_cases h
  · simp at htext
  · exact ⟨tail, rfl, h⟩
  · exact absurd h (harray tail)
  · simp [constants] at hname
  · unfold scanNumber at h
    simp only [] at h
    cases hint : integerPart (minusSign (c :: tail)).2 with
    | none => simp [hint] at h
    | some parts =>
      simp only [hint] at h
      split_ifs at h
      all_goals
        have hnumber := (Prod.mk.inj (Except.ok.inj h)).1
        simp at hnumber

theorem scanOnce_eq_obj {floatRepr : PyStr → PyStr} {depth : ℕ} {s rest : PyStr}
    {fields : List (PyStr × Json)} (h : scanOnce floatRepr depth s = .ok (.obj fields, rest)) :
    ∃ tail c tail', s = 0x7b :: tail ∧ skipBlanks tail = c :: tail' ∧ (c = 0x7d ∨ c = 0x22) := by
  cases depth with
  | zero =>
    rw [scanOnce] at h
    obtain ⟨tail, -, htail⟩ := scanWith_eq_obj h (by simp)
    simp at htail
  | succ depth =>
    rw [scanOnce] at h
    have harray : ∀ t, scanArray (scanOnce floatRepr depth) t ≠ .ok (.obj fields, rest) := by
      intro t ht
      unfold scanArray at ht
      obtain ⟨⟨items, rest'⟩, -, ht⟩ := bind_eq_ok.mp ht
      have harr := (Prod.mk.inj (Except.ok.inj ht)).1
      simp at harr
    obtain ⟨tail, rfl, htail⟩ := scanWith_eq_obj h harray
    obtain ⟨c, tail', hblanks, hc⟩ := scanObject_starts htail
    exact ⟨tail, c, tail', rfl, hblanks, hc⟩

/-- The text of an object starts with two characters that are neither null nor a byte order mark. -/
theorem decode_eq_obj {reader : JsonReader} {text : PyStr} {fields : List (PyStr × Json)}
    (h : decode reader text = .ok (.obj fields)) :
    ∃ c d rest, text = c :: d :: rest ∧ c ≠ 0 ∧ d ≠ 0 ∧ c ≠ 0xfeff := by
  unfold decode at h
  obtain ⟨⟨value, after⟩, hvalue, h⟩ := bind_eq_ok.mp h
  have hobj : value = .obj fields := by
    by_cases hend : skipBlanks after = []
    · simp only [hend, if_true] at h
      exact Except.ok.inj h
    · simp [hend] at h
  rw [hobj] at hvalue
  obtain ⟨tail, e, tail', hopen, hinner, he⟩ := scanOnce_eq_obj hvalue
  have hblank : ∀ c, isBlank c = true → c ≠ 0 ∧ c ≠ 0xfeff := by
    intro c hc
    constructor
    all_goals
      rintro rfl
      exact absurd hc (by decide)
  have hsecond : ∀ d, isBlank d = true ∨ d = 0x7b ∨ d = e → d ≠ 0 := by
    rintro d (hd | rfl | rfl)
    · exact (hblank d hd).1
    · decide
    · rcases he with rfl | rfl
      all_goals decide
  obtain ⟨c, rest, rfl, hc⟩ := skipBlanks_eq_cons hopen
  rcases hc with ⟨hc, hrest⟩ | ⟨rfl, rfl⟩
  · obtain ⟨d, rest', rfl, hd⟩ := skipBlanks_eq_cons hrest
    refine ⟨c, d, rest', rfl, (hblank c hc).1, hsecond d ?_, (hblank c hc).2⟩
    rcases hd with ⟨hd, -⟩ | ⟨rfl, -⟩
    · exact Or.inl hd
    · exact Or.inr (Or.inl rfl)
  · obtain ⟨d, rest', rfl, hd⟩ := skipBlanks_eq_cons hinner
    refine ⟨0x7b, d, rest', rfl, by decide, hsecond d ?_, by decide⟩
    rcases hd with ⟨hd, -⟩ | ⟨rfl, -⟩
    · exact Or.inl hd
    · exact Or.inr (Or.inr rfl)

/-- What is found to be UTF-8, and is UTF-8, is read as the text it is. -/
theorem loads_eq_decode {reader : JsonReader} {bytes : List Byte} {text : PyStr}
    (hdetect : detectEncoding bytes = .utf8) (htext : decodeUtf8 bytes = some text) :
    loads reader bytes = decode reader text := by
  unfold loads decodeDetected
  simp only [hdetect, decodeUtf8From_within .none htext]

/-- An object in UTF-8 is read as one. -/
theorem loads_of_utf8 {reader : JsonReader} {bytes : List Byte} {text : PyStr}
    {fields : List (PyStr × Json)} (htext : decodeUtf8 bytes = some text)
    (h : decode reader text = .ok (.obj fields)) :
    detectEncoding bytes = .utf8 ∧ loads reader bytes = .ok (.obj fields) := by
  obtain ⟨c, d, rest, rfl, hc, hd, hmark⟩ := decode_eq_obj h
  have hdetect := detectEncoding_eq_utf8 htext hc hd hmark
  exact ⟨hdetect, (loads_eq_decode hdetect htext).trans h⟩

end Json

end Python
