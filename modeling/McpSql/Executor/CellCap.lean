import McpSql.Executor.Cells

/-!
# The cell cap

`_cap_cell` measures a text in bytes and cuts it in characters.  What a byte cap promises for the
cells `_cap_rows` returns is stated here, and the texts for which the cut keeps the promise: those
that fit, and those whose first 4096 characters are ASCII.
-/

namespace McpSql

open Python PyStr Raising GreedyPrefix

/-! ## The cap on one text -/

/-- The text fits in the cell cap. -/
def FitsCell (text : PyStr) : Prop := ∃ bytes, utf8Length text = some bytes ∧ bytes ≤ perCellByteCap

/-- The length of a string in UTF-8 is that of a capped cell at most. -/
def WithinCellCap (s : PyStr) : Prop :=
  ∃ bytes markBytes, utf8Length s = some bytes ∧ utf8Length truncationMark = some markBytes ∧
    bytes ≤ perCellByteCap + markBytes

/-- A byte cap on a text: one that fits is left alone, a longer one becomes a proper prefix with the
mark, and the result is within the cap. -/
structure TextCapped (text capped : PyStr) : Prop where
  within : WithinCellCap capped
  whole : FitsCell text → capped = text
  marked : ¬FitsCell text → ∃ pre rest, text = pre ++ rest ∧ rest ≠ [] ∧
    capped = pre ++ truncationMark

/-- A text for which 4096 characters are 4096 bytes, as far as that matters. -/
def CutsAtBytes (text : PyStr) : Prop :=
  FitsCell text ∨ ∀ c ∈ text.take perCellByteCap, isAscii c = true

/-- `_cap_cell` on a text that has a UTF-8 form. -/
theorem capText_eq_ok {text : PyStr} {cell : Cell} (h : capText text = .ok cell) :
    ∃ bytes, utf8Length text = some bytes ∧ cell = .str (if perCellByteCap < bytes then
      text.take perCellByteCap ++ truncationMark else text) := by
  unfold capText at h
  cases hbytes : utf8Length text with
  | none => simp [hbytes] at h
  | some bytes =>
    rw [hbytes] at h
    exact ⟨bytes, rfl, (Except.ok.inj h).symm⟩

theorem fitsCell_iff {text : PyStr} {bytes : ℕ} (h : utf8Length text = some bytes) :
    FitsCell text ↔ bytes ≤ perCellByteCap := by
  unfold FitsCell
  rw [h]
  simp

/-- A prefix of the text with the mark is within the cap exactly when the prefix fits a cell. -/
theorem withinCellCap_append_mark {text : PyStr} {bytes : ℕ} (h : utf8Length text = some bytes)
    (n : ℕ) : WithinCellCap (text.take n ++ truncationMark) ↔
      ((text.take n).map utf8Width).sum ≤ perCellByteCap := by
  have hmark : utf8Length truncationMark = some (truncationMark.map utf8Width).sum := by decide
  have hplain : (text.take n ++ truncationMark).any isSurrogate = false := by
    have htext := (utf8Length_eq_some.mp h).1
    have htruncation := (utf8Length_eq_some.mp hmark).1
    rw [List.any_append, htruncation, Bool.or_false, List.any_eq_false]
    intro c hc
    exact List.any_eq_false.mp htext c (List.mem_of_mem_take hc)
  have hlength := utf8Length_eq_some.mpr ⟨hplain, rfl⟩
  rw [List.map_append, List.sum_append] at hlength
  unfold WithinCellCap
  rw [hlength, hmark]
  simp

/-- `_cap_cell` caps a text in bytes exactly when it fits or its first 4096 characters are ASCII. -/
theorem textCapped_iff {text capped : PyStr} (h : capText text = .ok (.str capped)) :
    TextCapped text capped ↔ CutsAtBytes text := by
  obtain ⟨bytes, hbytes, hcell⟩ := capText_eq_ok h
  have hcapped := Cell.str.inj hcell
  have hfits := fitsCell_iff hbytes
  by_cases hlong : perCellByteCap < bytes
  · rw [if_pos hlong] at hcapped
    have hunfit : ¬FitsCell text := fun hfit => absurd (hfits.mp hfit) (Nat.not_le.mpr hlong)
    have hascii := sum_utf8Width_le_length_iff (text.take perCellByteCap)
    have hwithin := withinCellCap_append_mark hbytes perCellByteCap
    have htake : (text.take perCellByteCap).length ≤ perCellByteCap := List.length_take_le _ _
    unfold CutsAtBytes
    rw [or_iff_right hunfit, ← hascii]
    constructor
    · intro hcap
      obtain ⟨pre, rest, htext, hrest, hmarked⟩ := hcap.marked hunfit
      -- something was cut off, so there are more than 4096 characters
      have hpre : text.take perCellByteCap = pre :=
        List.append_cancel_right (hcapped.symm.trans hmarked)
      have hcut : perCellByteCap < text.length := by
        by_contra hshort
        rw [List.take_of_length_le (Nat.not_lt.mp hshort)] at hpre
        exact hrest (by simpa [hpre] using htext)
      have hsum := hwithin.mp (hcapped ▸ hcap.within)
      rw [List.length_take, Nat.min_eq_left (Nat.le_of_lt hcut)]
      exact hsum
    · intro hsum
      refine ⟨?_, fun hfit => absurd hfit hunfit, fun _ => ?_⟩
      · rw [hcapped]
        exact hwithin.mpr (Nat.le_trans hsum htake)
      · refine ⟨_, text.drop perCellByteCap, (List.take_append_drop _ _).symm, ?_, hcapped⟩
        intro hdrop
        -- nothing cut off: the text would be its own first 4096 characters
        have hshort : text.length ≤ perCellByteCap := List.drop_eq_nil_iff.mp hdrop
        rw [List.take_of_length_le hshort, (utf8Length_eq_some.mp hbytes).2] at hsum
        omega
  · rw [if_neg hlong] at hcapped
    have hfit : FitsCell text := hfits.mpr (Nat.not_lt.mp hlong)
    refine ⟨fun _ => Or.inl hfit, fun _ => ⟨?_, fun _ => hcapped, fun hunfit => absurd hfit hunfit⟩⟩
    refine ⟨bytes, _, by rw [hcapped, hbytes], rfl, ?_⟩
    omega

/-! ## The cap on rows -/

/-- The text `_cap_cell` caps. -/
def Value.text : Value → Option PyStr
  | .str s => some s
  | .other (.ok s) => some s
  | _ => Option.none

/-- What the cell cap promises for the cell of a value: a text is capped in bytes, and no other value
becomes a string. -/
inductive CellCapped (value : Value) : Cell → Prop
  | text {text capped : PyStr} : value.text = some text → TextCapped text capped →
      CellCapped value (.str capped)
  | plain {cell : Cell} : value.text = none → (∀ s, cell ≠ .str s) → CellCapped value cell

/-- The value of a cell that is no string has no text. -/
theorem capCell_eq_ok {value : Value} {cell : Cell} (h : capCell value = .ok cell) :
    (value.text = none ∧ ∀ s, cell ≠ .str s) ∨
      ∃ text capped, value.text = some text ∧ cell = .str capped ∧
        capText text = .ok (.str capped) := by
  have htext : ∀ text, capText text = .ok cell →
      ∃ capped, cell = .str capped ∧ capText text = .ok (.str capped) := by
    intro text hcap
    obtain ⟨bytes, -, rfl⟩ := capText_eq_ok hcap
    exact ⟨_, rfl, hcap⟩
  cases value with
  | none => exact Or.inl ⟨rfl, by rintro s rfl; simp [capCell] at h⟩
  | bool b => exact Or.inl ⟨rfl, by rintro s rfl; simp [capCell] at h⟩
  | int n => exact Or.inl ⟨rfl, by rintro s rfl; simp [capCell] at h⟩
  | float text => exact Or.inl ⟨rfl, by rintro s rfl; simp [capCell] at h⟩
  | str s =>
    obtain ⟨capped, hcell, hcap⟩ := htext s h
    exact Or.inr ⟨s, capped, rfl, hcell, hcap⟩
  | other text =>
    obtain ⟨text, rfl, hcap⟩ := bind_eq_ok.mp h
    obtain ⟨capped, hcell, hcap⟩ := htext text hcap
    exact Or.inr ⟨text, capped, rfl, hcell, hcap⟩

/-- The cell of a value keeps the promise exactly when its text is cut at bytes. -/
theorem cellCapped_iff {value : Value} {cell : Cell} (h : capCell value = .ok cell) :
    CellCapped value cell ↔ ∀ text, value.text = some text → CutsAtBytes text := by
  rcases capCell_eq_ok h with ⟨hnone, hcell⟩ | ⟨text, capped, hsome, rfl, hcap⟩
  · rw [hnone]
    exact ⟨fun _ text htext => by simp at htext, fun _ => .plain hnone hcell⟩
  · rw [hsome]
    constructor
    · rintro (⟨hsome', hcapped⟩ | ⟨hnone, -⟩) text' htext'
      · obtain rfl := Option.some.inj (hsome.symm.trans hsome')
        obtain rfl := Option.some.inj htext'
        exact (textCapped_iff hcap).mp hcapped
      · simp [hsome] at hnone
    · intro hcuts
      exact .text hsome ((textCapped_iff hcap).mpr (hcuts text rfl))

/-- What the cell cap promises for the rows that are returned, which answer the first rows given. -/
def RowsCapped (rows : List (List Value)) (kept : List (List Cell)) : Prop :=
  List.Forall₂ (List.Forall₂ CellCapped) (rows.take kept.length) kept

/-- The returned rows keep the promise exactly when the texts of the rows they answer are cut at
bytes. -/
theorem rowsCapped_iff_forall_mem {rows : List (List Value)} {kept : List (List Cell)}
    (h : CappedImage (rows.take kept.length) kept) :
    RowsCapped rows kept ↔ ∀ row ∈ rows.take kept.length, ∀ value ∈ row, ∀ text,
      value.text = some text → CutsAtBytes text := by
  apply forall₂_iff_forall_mem h
  intro row capped hrow
  exact forall₂_iff_forall_mem (mapM_eq_ok_iff.mp hrow) fun value cell hcell => cellCapped_iff hcell

/-- The rows returned are the images of the first rows. -/
theorem cappedImage_take_of_capRows {bytesLimit : ℤ} {rows : List (List Value)}
    {capped : Kept (List Cell)} (h : capRows bytesLimit rows = .ok capped) :
    CappedImage (rows.take capped.kept.length) capped.kept := by
  obtain ⟨pre, rest, rfl, himage, -⟩ := prefix_of_capRows h
  rw [← himage.length_eq, List.take_left]
  exact himage

/-- The cell cap is a byte cap on the rows `_cap_rows` returns exactly when every text in a row that
belongs to an admissible prefix fits in 4096 bytes or starts with 4096 ASCII characters. -/
theorem capRows_byteCap_iff (bytesLimit : ℤ) (rows : List (List Value)) (capped : Kept (List Cell))
    (h : capRows bytesLimit rows = .ok capped) :
    RowsCapped rows capped.kept ↔
      ∀ pre row rest, rows = pre ++ row :: rest → Admissible capRow bytesLimit (pre ++ [row]) →
        ∀ value ∈ row, ∀ text, value.text = some text → CutsAtBytes text := by
  rw [rowsCapped_iff_forall_mem (cappedImage_take_of_capRows h)]
  -- a row is returned exactly when the rows up to it are admissible
  have hkept : ∀ pre row rest, rows = pre ++ row :: rest →
      (pre.length < capped.kept.length ↔ Admissible capRow bytesLimit (pre ++ [row])) := by
    intro pre row rest hrows
    have hlength : pre.length + 1 ≤ rows.length := by
      rw [hrows, List.length_append, List.length_cons]
      omega
    have htake : rows.take (pre.length + 1) = pre ++ [row] := by
      rw [hrows, List.take_append, List.take_of_length_le (Nat.le_succ _), Nat.add_sub_cancel_left]
      rfl
    rw [← htake]
    exact run_keeps_iff h hlength
  constructor
  · intro hall pre row rest hrows hadmissible
    apply hall
    have hlt := (hkept pre row rest hrows).mpr hadmissible
    rw [hrows, List.take_append, List.mem_append]
    refine Or.inr ?_
    obtain ⟨m, hm⟩ : ∃ m, capped.kept.length - pre.length = m + 1 :=
      ⟨capped.kept.length - pre.length - 1, by omega⟩
    rw [hm]
    exact List.mem_cons_self
  · intro hall row hrow
    obtain ⟨pre, rest, htake⟩ := List.append_of_mem hrow
    have hrows : rows = pre ++ row :: (rest ++ rows.drop capped.kept.length) := by
      rw [← List.cons_append, ← List.append_assoc, ← htake, List.take_append_drop]
    have hlt : pre.length < capped.kept.length := by
      have hlength := congrArg List.length htake
      rw [List.length_take, List.length_append, List.length_cons] at hlength
      omega
    exact hall pre row _ hrows ((hkept pre row _ hrows).mp hlt)

/-! ## Two texts that are cut -/

/-- A repeated character has the same bytes each time. -/
theorem utf8Length_replicate {c : CodePoint} (hplain : isSurrogate c = false) (n : ℕ) :
    utf8Length (List.replicate n c) = some (n * utf8Width c) := by
  refine utf8Length_eq_some.mpr ⟨?_, ?_⟩
  · rw [List.any_eq_false]
    intro c' hc'
    rw [List.eq_of_mem_replicate hc', hplain]
    exact Bool.false_ne_true
  · rw [List.map_replicate, List.sum_replicate_nat]

/-- A row of texts that have a UTF-8 form can be measured. -/
theorem capRow_returns {row : List Value}
    (h : ∀ value ∈ row, ∃ text bytes, value = .str text ∧ utf8Length text = some bytes) :
    ∃ measured, capRow row = .ok measured := by
  have hcells : ∀ value ∈ row, ∃ cell, capCell value = .ok cell := by
    intro value hvalue
    obtain ⟨text, bytes, rfl, hbytes⟩ := h value hvalue
    show ∃ cell, capText text = .ok cell
    unfold capText
    rw [hbytes]
    exact ⟨_, rfl⟩
  obtain ⟨capped, hcapped⟩ := mapM_returns_iff.mpr hcells
  have hshort : ∀ cell ∈ capped, cell.tooLong = false := by
    intro cell hcell
    obtain ⟨value, hvalue, hcap⟩ := exists_of_mem_mapM hcapped hcell
    obtain ⟨text, bytes, rfl, -⟩ := h value hvalue
    obtain ⟨bytes', -, rfl⟩ := capText_eq_ok hcap
    rfl
  have hany : capped.any Cell.tooLong = false := List.any_eq_false.mpr (by simpa using hshort)
  have hbytes : rowBytes capped = .ok (Json.dumps true (.arr (capped.map Cell.toJson))).length := by
    unfold rowBytes
    rw [hany]
    rfl
  exact ⟨_, bind_eq_ok.mpr ⟨capped, hcapped, bind_eq_ok.mpr ⟨_, hbytes, rfl⟩⟩⟩

/-- One row of one text is returned, with the cell of the text. -/
theorem capRows_singleton (bytesLimit : ℤ) {text : PyStr} {bytes : ℕ}
    (h : utf8Length text = some bytes) :
    ∃ capped cell, capRows bytesLimit [[.str text]] = .ok capped ∧ capText text = .ok cell ∧
      capped.kept = [[cell]] := by
  have hmeasured : ∀ row ∈ [[Value.str text]], ∃ measured, capRow row = .ok measured := by
    intro row hrow
    apply capRow_returns
    intro value hvalue
    rw [List.mem_singleton.mp hrow] at hvalue
    exact ⟨text, bytes, List.mem_singleton.mp hvalue, h⟩
  obtain ⟨capped, hcapped⟩ : ∃ capped, capRows bytesLimit [[Value.str text]] = .ok capped :=
    loop_returns hmeasured
  have hone : 1 ≤ capped.kept.length :=
    (run_keeps_iff hcapped (Nat.le_refl 1)).mpr (Or.inl (List.length_take_le 1 _))
  have himage := cappedImage_take_of_capRows hcapped
  rw [List.take_of_length_le hone] at himage
  obtain ⟨row, kept, hrow, hnil, hkept⟩ := List.forall₂_cons_left_iff.mp himage
  obtain ⟨cell, cells, hcell, hcells, rfl⟩ := List.forall₂_cons_left_iff.mp (mapM_eq_ok_iff.mp hrow)
  rw [List.forall₂_nil_left_iff.mp hnil, List.forall₂_nil_left_iff.mp hcells] at hkept
  exact ⟨capped, cell, hcapped, hcell, hkept⟩

/-- A text of 4097 characters, one more than a cell holds. -/
def longText : PyStr := List.replicate 4097 0x61

/-- The long text is cut at 4096 characters, which are 4096 bytes. -/
theorem capRows_byteCap_iff_longText :
    ∃ capped, capRows 65536 [[.str longText]] = .ok capped ∧
      capped.kept = [[.str (longText.take perCellByteCap ++ truncationMark)]] ∧
      (RowsCapped [[.str longText]] capped.kept ↔
        ∀ pre row rest, [[Value.str longText]] = pre ++ row :: rest →
          Admissible capRow 65536 (pre ++ [row]) →
          ∀ value ∈ row, ∀ text, value.text = some text → CutsAtBytes text) := by
  have hlong : utf8Length longText = some (4097 * 1) := utf8Length_replicate (by decide) 4097
  obtain ⟨capped, cell, hcapped, hcell, hkept⟩ := capRows_singleton 65536 hlong
  obtain ⟨bytes, hbytes, rfl⟩ := capText_eq_ok hcell
  obtain rfl := Option.some.inj (hlong.symm.trans hbytes)
  rw [if_pos (by decide)] at hkept
  exact ⟨capped, hcapped, hkept, capRows_byteCap_iff 65536 _ capped hcapped⟩

/-- The euro sign, which has three bytes. -/
def euro : CodePoint := 0x20ac

/-- A text of 1366 euro signs is longer than 4096 bytes and is returned whole, with the mark. -/
theorem capRows_not_always_byteCap :
    ¬∀ (bytesLimit : ℤ) (rows : List (List Value)) (capped : Kept (List Cell)),
      capRows bytesLimit rows = .ok capped → RowsCapped rows capped.kept := by
  intro hbyteCap
  have hlong : utf8Length (List.replicate 1366 euro) = some (1366 * 3) :=
    utf8Length_replicate (by decide) 1366
  obtain ⟨capped, cell, hcapped, -, hkept⟩ := capRows_singleton 65536 hlong
  have hcuts := (rowsCapped_iff_forall_mem (cappedImage_take_of_capRows hcapped)).mp
    (hbyteCap _ _ _ hcapped)
  rw [hkept] at hcuts
  rcases hcuts _ List.mem_cons_self _ List.mem_cons_self _ rfl with hfits | hascii
  · exact absurd ((fitsCell_iff hlong).mp hfits) (by decide)
  · have heuro : euro ∈ (List.replicate 1366 euro).take perCellByteCap := by
      rw [List.take_of_length_le (by rw [List.length_replicate]; decide)]
      exact List.mem_replicate.mpr ⟨by decide, rfl⟩
    exact absurd (hascii euro heuro) (by decide)

end McpSql
