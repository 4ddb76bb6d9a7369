import McpSql.Parser.ParseAndValidate

/-!
# FROM items

The row sources of a statement, wherever a FROM clause can stand: the item of a `From` or a `Join`,
the entries of a `laterals` list, and what a parenthesised join wraps.  The table walk refuses a
function call stored in an `exp.Table`, and the function walk one stored as a table function of its
own; a `LATERAL` item is seen by neither, so a statement keeps function calls out of its FROM
clauses exactly when no `LATERAL` is applied to one.
-/

namespace McpSql

open Python PyStr Located Raising

/-! ## Where rows come from -/

/-- Whether the class is `exp.Lateral`. -/
def Cls.isLateral : Cls → Bool
  | .lateral _ => true
  | _ => false

/-- Whether the class is `exp.Values`. -/
def Cls.isValues : Cls → Bool
  | .values _ => true
  | _ => false

/-- Whether the class is `exp.Subquery`. -/
def Cls.isSubquery : Cls → Bool
  | .subquery _ => true
  | _ => false

/-- A node that stands as a FROM item: below a `From` or `Join`, in a list of laterals, or inside
the parentheses of a join. -/
def isFromItem (m : ExprLoc) : Bool :=
  match m.above with
  | [] => false
  | f :: _ =>
    m.key = .laterals ||
      (m.key = .this && (f.parent.label.cls = .from_ || f.parent.label.cls = .join ||
        (f.parent.label.cls.isSubquery && !m.cls.isQuery)))

/-- The FROM items of a statement, at any depth. -/
def fromItems (ast : Expression) : List ExprLoc := (Loc.bfs (Loc.root ast)).filter isFromItem

/-- A function call, possibly behind a schema name: `f(…)` or `s.f(…)`. -/
def isCall (m : ExprLoc) : Bool :=
  m.cls.isFunc || (m.cls = .dot && (m.arg .expression).any (·.cls.isFunc))

/-- A parenthesised query: `(SELECT …)` or `(VALUES …)`. -/
def isQuerySource (m : ExprLoc) : Bool := m.cls.isQuery || m.cls.isValues

/-- A FROM item whose rows a function call produces.  sqlglot stores the call in an `exp.Table`
without a name, in an `exp.Lateral`, or on its own. -/
def isFunctionItem (m : ExprLoc) : Bool :=
  match m.cls with
  | .table _ name _ => identText name = []
  | .lateral _ => (m.arg .this).any isCall
  | c => c.isFunc

/-- A FROM item that is a named table or CTE reference or a parenthesised query or join. -/
def isTableOrQueryItem (m : ExprLoc) : Bool :=
  match m.cls with
  | .table _ name _ => identText name ≠ []
  | .lateral _ => (m.arg .this).any isQuerySource
  | _ => isQuerySource m

/-- What sqlglot puts into FROM position: a table, a query, a `VALUES` list, a table function of its
own, or a `LATERAL` over a query or a call. -/
def hasItemShape (m : ExprLoc) : Bool :=
  match m.cls with
  | .table _ _ _ => true
  | .lateral _ => (m.arg .this).any fun source => isQuerySource source || isCall source
  | c => isQuerySource m || (c.isUdtf && c.isFunc)

/-- Every FROM item of the tree has one of sqlglot's shapes. -/
def FromShape (ast : Expression) : Prop := ∀ m ∈ fromItems ast, hasItemShape m = true

instance (ast : Expression) : Decidable (FromShape ast) := by
  unfold FromShape
  infer_instance

theorem mem_fromItems {ast : Expression} {m : ExprLoc} :
    m ∈ fromItems ast ↔ Loc.Below (Loc.root ast) m ∧ isFromItem m = true := by
  simp [fromItems, Loc.mem_bfs_iff]

/-- A named table is an admissible item and an unnamed one is a call. -/
theorem table_item {m : ExprLoc} (h : m.cls.isTable = true) :
    (isFunctionItem m = true ↔ m.cls.tableName = []) ∧
      (isTableOrQueryItem m = true ↔ m.cls.tableName ≠ []) := by
  unfold isFunctionItem isTableOrQueryItem Cls.tableName
  cases hcls : m.cls <;> simp_all [Cls.isTable]

/-- A `LATERAL` item is what it is applied to. -/
theorem lateral_item {m : ExprLoc} (h : m.cls.isLateral = true) :
    isFunctionItem m = (m.arg .this).any isCall ∧
      isTableOrQueryItem m = (m.arg .this).any isQuerySource := by
  unfold isFunctionItem isTableOrQueryItem
  cases hcls : m.cls <;> simp_all [Cls.isLateral]

/-- A `LATERAL` that is not applied to a call is applied to a query. -/
theorem lateral_source {m : ExprLoc} (h : m.cls.isLateral = true) (hshape : hasItemShape m = true)
    (hcall : (m.arg .this).any isCall = false) : (m.arg .this).any isQuerySource = true := by
  unfold hasItemShape at hshape
  cases hcls : m.cls <;> rw [hcls] at h <;> simp [Cls.isLateral] at h
  rw [hcls] at hshape
  cases hsource : m.arg .this with
  | none => simp [hsource] at hshape
  | some source =>
    rw [hsource, Option.any_some] at hcall
    simpa [hsource, hcall] using hshape

/-! ## What the two walks cover -/

section Walks

variable [UnicodeDatabase]

/-- The table walk refuses a table without a name. -/
theorem tableName_ne_nil {ast : Expression} {allowedTables referenced : Finset PyStr}
    (h : checkTables ast allowedTables = .ok referenced) {m : ExprLoc}
    (hm : Loc.Below (Loc.root ast) m) (htable : m.cls.isTable = true) :
    m.cls.tableName ≠ [] := by
  obtain ⟨hadmitted, -⟩ := checkTables_eq_ok.mp h
  have hnamed := (hadmitted m (Expression.mem_findAll.mpr ⟨hm, htable⟩)).named
  intro hempty
  apply hnamed
  rw [loweredName, hempty]
  exact UnicodeDatabase.lower_ascii [] (by simp)

/-- The function walk refuses a function that is a table function by its class. -/
theorem not_func_of_udtf {ast : Expression} (h : checkNoDeniedFunctions ast = .ok ()) {m : ExprLoc}
    (hm : Loc.Below (Loc.root ast) m) (hudtf : m.cls.isUdtf = true) : m.cls.isFunc = false := by
  by_contra hfunc
  have hfunc : m.cls.isFunc = true := by simpa using hfunc
  have hcheck := forM_eq_ok.mp h m (Expression.mem_findAll.mpr ⟨hm, hfunc⟩)
  unfold checkFunc at hcheck
  obtain ⟨⟨⟩, hclass, -⟩ := bind_eq_ok.mp hcheck
  rw [raiseIf_eq_ok] at hclass
  exact hclass (Or.inr hudtf)

/-- A FROM item of an accepted statement that is no `LATERAL` is no function call. -/
theorem item_of_accepted {ast : Expression} {allowedTables referenced : Finset PyStr} {ban : Bool}
    (h : Accepted ast allowedTables referenced ban) {m : ExprLoc}
    (hm : Loc.Below (Loc.root ast) m) (hshape : hasItemShape m = true)
    (hlateral : m.cls.isLateral = false) :
    isFunctionItem m = false ∧ isTableOrQueryItem m = true := by
  by_cases htable : m.cls.isTable = true
  · obtain ⟨hcall, hok⟩ := table_item htable
    have hname := tableName_ne_nil h.tables hm htable
    exact ⟨by simpa [hname] using hcall, hok.mpr hname⟩
  · have hudtf := not_func_of_udtf h.noDeniedFunctions hm
    unfold hasItemShape at hshape
    unfold isFunctionItem isTableOrQueryItem
    cases hcls : m.cls <;>
      simp_all [Cls.isTable, Cls.isLateral, isQuerySource, Cls.isQuery, Cls.isValues, Cls.isUdtf,
        Cls.isFunc]

/-! ## When no function call is a row source -/

/-- In an accepted statement no FROM item is a function call, each being a named table or CTE
reference or a parenthesised query, exactly when no `LATERAL` item is applied to a call. -/
theorem no_function_items_iff (sqlglot : Sqlglot) (rawSql : PyStr) (allowedTables : Finset PyStr)
    (banSelectStar : Bool) (parsed : ParsedQuery)
    (h : parseAndValidate sqlglot rawSql allowedTables banSelectStar = .ok parsed)
    (hshape : FromShape parsed.ast) :
    (∀ m ∈ fromItems parsed.ast, isFunctionItem m = false ∧ isTableOrQueryItem m = true) ↔
      ∀ m ∈ fromItems parsed.ast, m.cls.isLateral = true → (m.arg .this).any isCall = false := by
  obtain ⟨haccepted, -⟩ := accepted_of_parseAndValidate h
  constructor
  · intro hsources m hm hlateral
    rw [← (lateral_item hlateral).1]
    exact (hsources m hm).1
  · intro hlaterals m hm
    obtain ⟨hbelow, -⟩ := mem_fromItems.mp hm
    cases hlateral : m.cls.isLateral with
    | false => exact item_of_accepted haccepted hbelow (hshape m hm) hlateral
    | true =>
      have hnocall := hlaterals m hm hlateral
      rw [(lateral_item hlateral).1, (lateral_item hlateral).2]
      exact ⟨hnocall, lateral_source hlateral (hshape m hm) hnocall⟩

end Walks

/-- `SELECT x FROM notes CROSS JOIN LATERAL my_srf(x) AS r`. -/
def lateralCallQuery : Expression :=
  .selectQuery .this [.columnRef .expressions "x"]
    [.fromClause (.tableRef "notes"),
      .node ⟨.join, .joins⟩ [.node ⟨.lateral (some (.bare "r")), .this⟩
        [.node ⟨.anonymous (lit "my_srf"), .this⟩ [Expression.columnRef .other "x"]]]]

/-- `SELECT x FROM notes CROSS JOIN LATERAL (SELECT x FROM notes) AS r`. -/
def lateralQuery : Expression :=
  .selectQuery .this [.columnRef .expressions "x"]
    [.fromClause (.tableRef "notes"),
      .node ⟨.join, .joins⟩ [.node ⟨.lateral (some (.bare "r")), .this⟩
        [.node ⟨.subquery none, .this⟩ [plainQuery]]]]

theorem no_function_items_iff_lateralQuery :
    (∀ m ∈ fromItems lateralQuery, isFunctionItem m = false ∧ isTableOrQueryItem m = true) ↔
      ∀ m ∈ fromItems lateralQuery, m.cls.isLateral = true → (m.arg .this).any isCall = false :=
  letI := asciiDatabase
  no_function_items_iff
    (Sqlglot.on lateralQuery
      (lit "SELECT x FROM notes CROSS JOIN LATERAL (SELECT x FROM notes) AS r"))
    (lit "SELECT x FROM notes CROSS JOIN LATERAL (SELECT x FROM notes) AS r") {lit "notes"} true
    ⟨lateralQuery, lit "SELECT x FROM notes CROSS JOIN LATERAL (SELECT x FROM notes) AS r",
      {lit "notes"}⟩ (by rfl) (by decide)

/-- A function call under `LATERAL` passes every check. -/
theorem function_item_accepted :
    ¬∀ (_ : UnicodeDatabase) (sqlglot : Sqlglot) (rawSql : PyStr) (allowedTables : Finset PyStr)
        (banSelectStar : Bool) (parsed : ParsedQuery),
      parseAndValidate sqlglot rawSql allowedTables banSelectStar = .ok parsed →
      FromShape parsed.ast →
        ∀ m ∈ fromItems parsed.ast, isFunctionItem m = false ∧ isTableOrQueryItem m = true := by
  intro hsources
  have hcall : ¬∀ m ∈ fromItems lateralCallQuery,
      isFunctionItem m = false ∧ isTableOrQueryItem m = true := by decide
  have haccepted :
      letI := asciiDatabase
      parseAndValidate
          (Sqlglot.on lateralCallQuery
            (lit "SELECT x FROM notes CROSS JOIN LATERAL MY_SRF(x) AS r"))
          (lit "SELECT x FROM notes CROSS JOIN LATERAL my_srf(x) AS r") {lit "notes"} true =
        .ok ⟨lateralCallQuery, lit "SELECT x FROM notes CROSS JOIN LATERAL MY_SRF(x) AS r",
          {lit "notes"}⟩ := by rfl
  exact hcall (hsources asciiDatabase _ _ _ _ _ haccepted (by decide))

end McpSql
