import McpSql.Exceptions
import McpSql.Foundations.GreedyPrefix
import McpSql.Python.JsonText

/-!
# Row capping

`_cap_cell` and `_cap_rows` (`executor.py`): the values a driver returns become JSON-storable
cells, each within the cell cap, and the rows are kept while they fit the payload cap.
-/

namespace McpSql

open Python PyStr Raising GreedyPrefix

/-- A value as the driver returns it.  For a class `_cap_cell` does not name, `text` is what
`str(value)` returns or raises. -/
inductive Value where
  | none
  | bool (b : Bool)
  | int (n : ℤ)
  | float (text : PyStr)
  | str (s : PyStr)
  | other (text : Except PyExc PyStr)

/-- `PER_CELL_BYTE_CAP`. -/
def perCellByteCap : ℕ := 4096

/-- `TRUNCATION_MARK`. -/
def truncationMark : PyStr := lit "…[truncated]"

/-- The cap on the text of a cell. -/
def capText (text : PyStr) : Except PyExc Cell :=
  match utf8Length text with
  | some bytes => .ok (.str (if perCellByteCap < bytes then
      text.take perCellByteCap ++ truncationMark else text))
  | none => .error (.unicodeError (lit "surrogates not allowed"))

/-- `_cap_cell`. -/
def capCell : Value → Except PyExc Cell
  | .none => .ok .none
  | .bool b => .ok (.bool b)
  | .int n => .ok (.int n)
  | .float text => .ok (.float text)
  | .str s => capText s
  | .other text => text.bind capText

/-- A cell as JSON. -/
def Cell.toJson : Cell → Json
  | .none => .null
  | .bool b => .bool b
  | .int n => .int n
  | .float text => .float text
  | .str s => .str s

/-- An integer with more digits than the interpreter converts to text. -/
def Cell.tooLong : Cell → Bool
  | .int n => 4300 < (ofNat n.natAbs).length
  | _ => false

/-- `len(json.dumps(capped, default=str).encode("utf-8"))`; the text is ASCII. -/
def rowBytes (capped : List Cell) : Except PyExc ℕ :=
  if capped.any Cell.tooLong then
    .error (.valueError (lit "Exceeds the limit (4300 digits) for integer string conversion"))
  else .ok (Json.dumps true (.arr (capped.map Cell.toJson))).length

/-- One iteration of `_cap_rows`: the capped row and its size. -/
def capRow (row : List Value) : Except PyExc (List Cell × ℕ) := do
  let capped ← row.mapM capCell
  return (capped, ← rowBytes capped)

/-- `_cap_rows`. -/
def capRows (bytesLimit : ℤ) (rows : List (List Value)) : Except PyExc (Kept (List Cell)) :=
  GreedyPrefix.run capRow bytesLimit rows

/-! ## What is kept -/

/-- The cell-capped image of rows. -/
def CappedImage (rows : List (List Value)) (cells : List (List Cell)) : Prop :=
  List.Forall₂ (fun row capped => row.mapM capCell = .ok capped) rows cells

/-- A measured row is its capped image. -/
theorem cappedImage_of_measured {rows : List (List Value)} {measured : List (List Cell × ℕ)}
    (h : Measured capRow rows measured) : CappedImage rows (measured.map Prod.fst) := by
  induction h with
  | nil => exact .nil
  | cons hrow hrest ih =>
    rw [List.map_cons]
    refine .cons ?_ ih
    obtain ⟨capped, hcapped, hsize⟩ := bind_eq_ok.mp hrow
    obtain ⟨size, -, hpair⟩ := bind_eq_ok.mp hsize
    have hfst := congrArg Prod.fst (Except.ok.inj hpair)
    rw [hcapped, ← hfst]

/-- `_cap_rows` keeps the capped image of a prefix, and reports a cut when it is not all. -/
theorem prefix_of_capRows {bytesLimit : ℤ} {rows : List (List Value)} {capped : Kept (List Cell)}
    (h : capRows bytesLimit rows = .ok capped) :
    ∃ pre rest, rows = pre ++ rest ∧ CappedImage pre capped.kept ∧
      (capped.cut = true ↔ rest ≠ []) := by
  obtain ⟨pre, rest, measured, hrows, hmeasured, hkept, -, hcut, -⟩ := loop_eq_ok h
  refine ⟨pre, rest, hrows, ?_, hcut⟩
  rw [hkept]
  exact cappedImage_of_measured hmeasured

/-- A measured row is counted with the size of its cells. -/
theorem rowBytes_of_measured {rows : List (List Value)} {measured : List (List Cell × ℕ)}
    (h : Measured capRow rows measured) :
    List.Forall₂ (fun cells size => rowBytes cells = .ok size) (measured.map Prod.fst)
      (measured.map Prod.snd) := by
  induction h with
  | nil => exact .nil
  | cons hrow hrest ih =>
    rw [List.map_cons, List.map_cons]
    refine .cons ?_ ih
    obtain ⟨capped, -, hsize⟩ := bind_eq_ok.mp hrow
    obtain ⟨size, hbytes, hpair⟩ := bind_eq_ok.mp hsize
    rw [← Except.ok.inj hpair]
    exact hbytes

/-- The sizes of the rows `_cap_rows` keeps sum up to the total it reports. -/
theorem sizes_of_capRows {bytesLimit : ℤ} {rows : List (List Value)} {capped : Kept (List Cell)}
    (h : capRows bytesLimit rows = .ok capped) :
    ∃ sizes, List.Forall₂ (fun cells size => rowBytes cells = .ok size) capped.kept sizes ∧
      capped.total = sizes.sum := by
  obtain ⟨pre, rest, measured, -, hmeasured, hkept, htotal, -, -⟩ := loop_eq_ok h
  refine ⟨measured.map Prod.snd, ?_, by rw [htotal, Nat.zero_add]⟩
  rw [hkept, List.nil_append]
  exact rowBytes_of_measured hmeasured

end McpSql
