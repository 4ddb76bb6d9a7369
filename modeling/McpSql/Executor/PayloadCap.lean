import McpSql.Executor.CellCap
import McpSql.Executor.Fencing
import McpSql.Python.JsonLength

/-!
# The payload cap

`_cap_rows` keeps rows while their serialized sizes fit the payload cap, and the first one in any case.
The greedy loop returns the longest prefix of the rows that may be returned, and counts what it
returns.  It counts row by row and in ASCII; what is sent is the text of the whole matrix in UTF-8,
which is longer by the separators of the rows at most.
-/

namespace McpSql

open Python PyStr Raising GreedyPrefix

/-! ## The longest admissible prefix -/

/-- The types a cell may have. -/
def Cell.IsPrimitive (cell : Cell) : Prop :=
  cell = .none ∨ (∃ b, cell = .bool b) ∨ (∃ n, cell = .int n) ∨ (∃ text, cell = .float text) ∨
    ∃ s, cell = .str s

/-- What `_cap_rows` should return: the capped image of the longest admissible prefix, with its size
and whether a row was dropped. -/
structure LongestPrefix (bytesLimit : ℤ) (rows : List (List Value)) (capped : Kept (List Cell)) :
    Prop where
  image : CappedImage (rows.take capped.kept.length) capped.kept
  columns : List.Forall₂ (fun row cells => cells.length = row.length)
    (rows.take capped.kept.length) capped.kept
  longest : ∀ n ≤ rows.length,
    Admissible capRow bytesLimit (rows.take n) ↔ n ≤ capped.kept.length
  total : ∃ sizes, List.Forall₂ (fun cells size => rowBytes cells = .ok size) capped.kept sizes ∧
    capped.total = sizes.sum
  cut : capped.cut = true ↔ capped.kept.length < rows.length
  nonempty : rows ≠ [] → capped.kept ≠ []
  primitive : ∀ cells ∈ capped.kept, ∀ cell ∈ cells, cell.IsPrimitive

theorem isPrimitive (cell : Cell) : cell.IsPrimitive := by
  unfold Cell.IsPrimitive
  rcases cell with _ | b | n | text | s
  · simp
  · simp
  · simp
  · simp
  · simp

/-- A row has as many cells as values. -/
theorem length_of_cappedImage {rows : List (List Value)} {cells : List (List Cell)}
    (h : CappedImage rows cells) :
    List.Forall₂ (fun row cells => cells.length = row.length) rows cells := by
  apply h.imp
  intro row capped hrow
  exact (mapM_eq_ok_iff.mp hrow).length_eq.symm

/-- `_cap_rows` returns the longest admissible prefix. -/
theorem capRows_longestPrefix (bytesLimit : ℤ) (rows : List (List Value)) (capped : Kept (List Cell))
    (h : capRows bytesLimit rows = .ok capped) : LongestPrefix bytesLimit rows capped := by
  obtain ⟨pre, rest, measured, rfl, hmeasured, hkept, -, hcut, hfirst⟩ := loop_eq_ok h
  rw [List.nil_append] at hkept
  have hlength : capped.kept.length = pre.length := by
    rw [hkept, List.length_map]
    exact hmeasured.length_eq.symm
  have himage := cappedImage_take_of_capRows h
  constructor
  · exact himage
  · exact length_of_cappedImage himage
  · intro n hn
    exact (run_keeps_iff h hn).symm
  · exact sizes_of_capRows h
  · rw [hcut, hlength, List.length_append, ← List.length_pos_iff]
    omega
  · intro hrows hnil
    have hpre := hfirst rfl hrows
    rw [hnil, List.length_nil] at hlength
    exact hpre (List.length_eq_zero_iff.mp hlength.symm)
  · intro cells _ cell _
    exact isPrimitive cell

/-- Of two rows that do not fit together, the first is returned. -/
theorem capRows_longestPrefix_first :
    LongestPrefix 6 [[.str (lit "ab")], [.int 1]] ⟨[[.str (lit "ab")]], 6, true⟩ :=
  capRows_longestPrefix 6 _ _ rfl

/-! ## The bytes on the wire -/

theorem isAscii_of_digit {c : CodePoint} (h : isAsciiDigit c = true) : isAscii c = true := by
  simp only [isAsciiDigit, Bool.and_eq_true, decide_eq_true_eq] at h
  simp only [isAscii, decide_eq_true_eq]
  omega

/-- The text of a float is ASCII. -/
theorem isAscii_of_floatRepr {text : PyStr} (h : FloatRepr text) :
    ∀ c ∈ Json.dumpsFloat text, isAscii c = true := by
  rcases h with _ | _ | _ | hfinite
  · exact List.all_eq_true.mp (by decide)
  · exact List.all_eq_true.mp (by decide)
  · exact List.all_eq_true.mp (by decide)
  · rw [Json.dumpsFloat_of_finite hfinite]
    obtain ⟨hsign, hdigits, hfraction, hexponent, -⟩ := hfinite
    intro c hc
    simp only [List.mem_append] at hc
    rcases hc with ((hc | hc) | hc) | hc
    · rcases hsign with rfl | rfl
      · simp at hc
      · rw [List.mem_singleton.mp hc]
        decide
    · exact isAscii_of_digit (hdigits.digit c hc)
    · rcases hfraction with rfl | ⟨d, ds, rfl, hdigit⟩
      · simp at hc
      · rcases List.mem_cons.mp hc with rfl | hc
        · decide
        · exact isAscii_of_digit (hdigit c hc)
    · rcases hexponent with rfl | ⟨sign, d, ds, rfl, hsign, hdigit⟩
      · simp at hc
      · rcases List.mem_cons.mp hc with rfl | hc
        · decide
        · rcases List.mem_cons.mp hc with rfl | hc
          · rcases hsign with rfl | rfl
            · decide
            · decide
          · exact isAscii_of_digit (hdigit c hc)

/-- A cell that is written the same number of bytes whether or not the text is ASCII. -/
def Cell.IsWire : Cell → Prop
  | .float text => FloatRepr text
  | .str s => s.any isSurrogate = false
  | _ => True

theorem utf8Within_cell {cell : Cell} (h : cell.IsWire) :
    Utf8Within (Json.dumps true cell.toJson).length (Json.dumps false cell.toJson) := by
  rcases cell with _ | b | n | text | s
  · exact utf8Within_of_all (by decide)
  · rcases b with _ | _
    · exact utf8Within_of_all (by decide)
    · exact utf8Within_of_all (by decide)
  · exact utf8Within_of_ascii fun c hc => isAscii_of_mem_ofInt hc
  · exact utf8Within_of_ascii (isAscii_of_floatRepr h)
  · exact Json.utf8Within_dumpsStr h

/-- A row is sent in as many bytes as it was counted with. -/
theorem utf8Within_row {cells : List Cell} (h : ∀ cell ∈ cells, cell.IsWire) :
    Utf8Within (Json.dumps true (.arr (cells.map Cell.toJson))).length
      (Json.dumps false (.arr (cells.map Cell.toJson))) := by
  rw [Json.length_dumps_arr]
  apply Json.utf8Within_dumps_arr fun x => (Json.dumps true x).length
  intro x hx
  obtain ⟨cell, hcell, rfl⟩ := List.mem_map.mp hx
  exact utf8Within_cell (h cell hcell)

/-- A text that is returned has no surrogates. -/
theorem isWire_of_capText {text : PyStr} {cell : Cell} (h : capText text = .ok cell) :
    cell.IsWire := by
  obtain ⟨bytes, hbytes, rfl⟩ := capText_eq_ok h
  have hplain := (utf8Length_eq_some.mp hbytes).1
  have hmark : truncationMark.any isSurrogate = false := by decide
  by_cases hlong : perCellByteCap < bytes
  · rw [if_pos hlong]
    show (text.take perCellByteCap ++ truncationMark).any isSurrogate = false
    rw [List.any_append, hmark, Bool.or_false, List.any_eq_false]
    intro c hc
    exact List.any_eq_false.mp hplain c (List.mem_of_mem_take hc)
  · rw [if_neg hlong]
    exact hplain

theorem isWire_of_capCell {value : Value} {cell : Cell} (h : capCell value = .ok cell)
    (hfloat : ∀ text, value = .float text → FloatRepr text) : cell.IsWire := by
  rcases value with _ | b | n | text | s | text
  · obtain rfl := Except.ok.inj h
    trivial
  · obtain rfl := Except.ok.inj h
    trivial
  · obtain rfl := Except.ok.inj h
    trivial
  · obtain rfl := Except.ok.inj h
    exact hfloat text rfl
  · exact isWire_of_capText h
  · obtain ⟨text, rfl, hcap⟩ := bind_eq_ok.mp h
    exact isWire_of_capText hcap

/-- The cells of a capped image can be sent. -/
theorem isWire_of_cappedImage {rows : List (List Value)} {kept : List (List Cell)}
    (h : CappedImage rows kept)
    (hfloat : ∀ row ∈ rows, ∀ text, Value.float text ∈ row → FloatRepr text) :
    ∀ cells ∈ kept, ∀ cell ∈ cells, cell.IsWire := by
  induction h with
  | nil => simp
  | @cons row capped rows kept hrow hrest ih =>
    rw [List.forall_mem_cons] at hfloat ⊢
    refine ⟨?_, ih hfloat.2⟩
    intro cell hcell
    obtain ⟨value, hvalue, hcap⟩ := exists_of_mem_mapM hrow hcell
    apply isWire_of_capCell hcap
    rintro text rfl
    exact hfloat.1 text hvalue

/-- The size of a row is the length of its text, and none of its integers is too long. -/
theorem rowBytes_eq_ok {cells : List Cell} {size : ℕ} (h : rowBytes cells = .ok size) :
    (∀ cell ∈ cells, cell.tooLong = false) ∧
      size = (Json.dumps true (.arr (cells.map Cell.toJson))).length := by
  unfold rowBytes at h
  by_cases hlong : cells.any Cell.tooLong = true
  · simp [hlong] at h
  · rw [if_neg hlong] at h
    refine ⟨?_, (Except.ok.inj h).symm⟩
    simpa using hlong

/-- The rows that are counted can be written, and are counted with the lengths of their texts. -/
theorem rowBytes_rows {kept : List (List Cell)} {sizes : List ℕ}
    (h : List.Forall₂ (fun cells size => rowBytes cells = .ok size) kept sizes) :
    (∀ cells ∈ kept, ∀ cell ∈ cells, cell.tooLong = false) ∧
      sizes = kept.map fun cells => (Json.dumps true (.arr (cells.map Cell.toJson))).length := by
  induction h with
  | nil => simp
  | cons hbytes hrest ih =>
    obtain ⟨hshort, rfl⟩ := rowBytes_eq_ok hbytes
    exact ⟨List.forall_mem_cons.mpr ⟨hshort, ih.1⟩, by rw [List.map_cons, ← ih.2]⟩

/-- The text of the rows is within their sizes and the separators. -/
theorem utf8Within_rows {kept : List (List Cell)} {sizes : List ℕ}
    (hsizes : List.Forall₂ (fun cells size => rowBytes cells = .ok size) kept sizes)
    (hwire : ∀ cells ∈ kept, ∀ cell ∈ cells, cell.IsWire) :
    ∃ text, rowsText kept = .ok text ∧
      Utf8Within (sizes.sum + 2 * max 1 kept.length) text := by
  obtain ⟨hshort, rfl⟩ := rowBytes_rows hsizes
  refine ⟨_, rowsText_eq_ok.mpr ⟨hshort, rfl⟩, ?_⟩
  have hrows : ∀ x ∈ kept.map fun cells => Json.arr (cells.map Cell.toJson),
      Utf8Within (Json.dumps true x).length (Json.dumps false x) := by
    intro x hx
    obtain ⟨cells, hcells, rfl⟩ := List.mem_map.mp hx
    exact utf8Within_row (hwire cells hcells)
  have harray := Json.utf8Within_dumps_arr (fun x => (Json.dumps true x).length) hrows
  rw [List.map_map, List.length_map] at harray
  exact harray

/-- The text of the rows that `_cap_rows` keeps has a UTF-8 form of at most the bytes it reports and
two more for each row, or for the brackets when there is none. -/
theorem capRows_wireBytes (bytesLimit : ℤ) (rows : List (List Value)) (capped : Kept (List Cell))
    (h : capRows bytesLimit rows = .ok capped)
    (hfloat : ∀ row ∈ rows, ∀ text, Value.float text ∈ row → FloatRepr text) :
    ∃ text bytes, rowsText capped.kept = .ok text ∧ utf8Length text = some bytes ∧
      bytes ≤ capped.total + 2 * max 1 capped.kept.length ∧
      (2 ≤ capped.kept.length → (bytes : ℤ) ≤ bytesLimit + 2 * capped.kept.length) := by
  have himage := cappedImage_take_of_capRows h
  have hwire := isWire_of_cappedImage himage fun row hrow =>
    hfloat row (List.mem_of_mem_take hrow)
  obtain ⟨sizes, hsizes, htotal⟩ := sizes_of_capRows h
  obtain ⟨text, htext, bytes, hbytes, hle⟩ := utf8Within_rows hsizes hwire
  rw [← htotal] at hle
  refine ⟨text, bytes, htext, hbytes, hle, ?_⟩
  intro htwo
  have hbudget := run_total_le h htwo
  omega

/-- Two rows of a character that takes two bytes. -/
theorem capRows_wireBytes_two :
    ∃ text bytes, rowsText [[.str (lit "é")], [.str (lit "é")]] = .ok text ∧
      utf8Length text = some bytes ∧ bytes ≤ 20 + 2 * max 1 2 ∧
      (2 ≤ 2 → (bytes : ℤ) ≤ 65536 + 2 * 2) :=
  capRows_wireBytes 65536 [[.str (lit "é")], [.str (lit "é")]]
    ⟨[[.str (lit "é")], [.str (lit "é")]], 20, false⟩ rfl (by simp)

end McpSql
