import McpSql.Parser.FromItems
import McpSql.Parser.Scope

/-!
# Whole rows in the output

What an output column of a query is computed from: a projected expression is followed through its
operands, through scalar subqueries to their projections, and through column references to the FROM
item that provides the column (a derived table, a CTE, a `LATERAL` item, a `VALUES` list).  A whole
row is reached as a `*` or as an unqualified name that no visible FROM item provides as a column but
that is the alias of one.

The two checks behind `ban_select_star` look at every `*` and at the columns in SELECT lists whose
name is the alias of an `exp.Table`.  What they overlook is listed by `Overlooked`.
-/

namespace McpSql

open Python PyStr Located Raising

/-- The names Postgres supplies itself: the columns of a relation or of a function's result, and the
name it gives an unaliased projection. -/
structure Catalog where
  relationColumns : Option Identifier → Option Identifier → List PyStr
  functionColumns : Expression → List PyStr
  implicitName : Expression → PyStr

/-! ## Visible FROM items -/

/-- A parenthesised join, which groups FROM items and is no query. -/
def isGrouping (item : ExprLoc) : Bool :=
  item.cls.isSubquery && (item.arg .this).any fun source => !isQuerySource source

/-- Whether the search for FROM items stops at a node: items below a query are its own. -/
def entersScope (n : Node) : Bool :=
  match n.cls with
  | .select | .setOperation _ => true
  | _ => false

/-- The FROM items of a clause, those of a parenthesised join included. -/
def clauseItems (clause : ExprLoc) : List ExprLoc :=
  (Loc.shallow entersScope clause).filter isFromItem

/-- The FROM items that provide the columns of an item. -/
def leafItems (item : ExprLoc) : List ExprLoc :=
  if isGrouping item then (clauseItems item).filter (!isGrouping ·) else [item]

/-- The FROM clauses stored in a node, in order. -/
def fromClauses (node : ExprLoc) : List ExprLoc :=
  node.args .from_ ++ node.args .joins ++ node.args .laterals

/-- The index of a node among its siblings. -/
def siblingIndex (m : ExprLoc) : Option ℕ := m.above.head?.map Frame.index

/-- The FROM items of a node that stand before its child at an index. -/
def earlierItems (node : ExprLoc) (index : ℕ) : List ExprLoc :=
  ((fromClauses node).takeWhile (siblingIndex · ≠ some index)).flatMap clauseItems

/-- The argument a step of a path goes down to. -/
def stepKey (f : Frame Node) : ArgKey := (f.child.map (·.label.key)).getD .other

/-- Whether a step goes into a FROM clause. -/
def entersClause (f : Frame Node) : Bool :=
  stepKey f = .from_ || stepKey f = .joins || stepKey f = .laterals

/-- The FROM items that one step of a path can see.  Below a FROM clause the path sees the items
before it when it runs through a `LATERAL` or a join condition (`sees`); the `WITH` of a query sees
none of its items, and every other part of it sees all of them. -/
def stepItems (f : Frame Node) (rest : List (Frame Node)) (sees : Bool) : List ExprLoc :=
  let node := frameLoc f rest
  match node.cls with
  | .select =>
    if stepKey f = .with_ then []
    else if entersClause f then if sees then earlierItems node f.index else []
    else (fromClauses node).flatMap clauseItems
  | .join => if stepKey f = .this then [] else clauseItems node
  | .table _ _ _ | .subquery _ =>
    if entersClause f && sees then node :: earlierItems node f.index else []
  | _ => []

/-- Whether the path sees earlier items after one more step up. -/
def stepSees (f : Frame Node) (sees : Bool) : Bool :=
  match f.parent.label.cls with
  | .select => false
  | .lateral _ => true
  | .join => sees || stepKey f ≠ .this
  | _ => sees

/-- The FROM items visible along a path, one list for each step, innermost first. -/
def visibleItems : List (Frame Node) → Bool → List (List ExprLoc)
  | [], _ => []
  | f :: rest, sees => stepItems f rest sees :: visibleItems rest (stepSees f sees)

theorem below_of_mem_clauseItems {clause item : ExprLoc} (h : item ∈ clauseItems clause) :
    Loc.Below clause item :=
  Loc.below_of_mem_shallow (List.mem_of_mem_filter h)

theorem below_of_mem_fromClauses {node clause : ExprLoc} (h : clause ∈ fromClauses node) :
    Loc.Below node clause := by
  simp only [fromClauses, List.mem_append] at h
  rcases h with (h | h) | h
  · exact ExprLoc.below_of_mem_args h
  · exact ExprLoc.below_of_mem_args h
  · exact ExprLoc.below_of_mem_args h

theorem below_of_mem_earlierItems {node item : ExprLoc} {index : ℕ}
    (h : item ∈ earlierItems node index) : Loc.Below node item := by
  obtain ⟨clause, hclause, hitem⟩ := List.mem_flatMap.mp h
  have hmem : clause ∈ fromClauses node := (List.takeWhile_sublist _).subset hclause
  exact (below_of_mem_fromClauses hmem).trans (below_of_mem_clauseItems hitem)

/-- What a step sees lies below the node it starts from. -/
theorem below_of_mem_stepItems {f : Frame Node} {rest : List (Frame Node)} {sees : Bool}
    {item : ExprLoc} (h : item ∈ stepItems f rest sees) : Loc.Below (frameLoc f rest) item := by
  simp only [stepItems] at h
  split at h
  · split_ifs at h
    · simp at h
    · exact below_of_mem_earlierItems h
    · simp at h
    · obtain ⟨clause, hclause, hitem⟩ := List.mem_flatMap.mp h
      exact (below_of_mem_fromClauses hclause).trans (below_of_mem_clauseItems hitem)
  · split_ifs at h
    · simp at h
    · exact below_of_mem_clauseItems h
  · split_ifs at h
    · rcases List.mem_cons.mp h with rfl | h
      · exact .refl
      · exact below_of_mem_earlierItems h
    · simp at h
  · split_ifs at h
    · rcases List.mem_cons.mp h with rfl | h
      · exact .refl
      · exact below_of_mem_earlierItems h
    · simp at h
  · simp at h

/-- A visible item lies below an ancestor. -/
theorem ancestor_of_visibleItems {above : List (Frame Node)} {sees : Bool} {items : List ExprLoc}
    {item : ExprLoc} (hitems : items ∈ visibleItems above sees) (h : item ∈ items) :
    ∃ p ∈ Loc.ancestorsOf above, Loc.Below p item := by
  induction above generalizing sees with
  | nil => simp [visibleItems] at hitems
  | cons f rest ih =>
    rw [visibleItems, List.mem_cons] at hitems
    rcases hitems with rfl | hitems
    · exact ⟨frameLoc f rest, by simp [Loc.ancestorsOf, frameLoc], below_of_mem_stepItems h⟩
    · obtain ⟨p, hp, hbelow⟩ := ih hitems
      exact ⟨p, by simp [Loc.ancestorsOf, hp], hbelow⟩

/-- The function call a FROM item reads its rows from. -/
def itemCall (item : ExprLoc) : Option ExprLoc :=
  match item.cls with
  | .table _ none _ => item.arg .this
  | .lateral _ => (item.arg .this).filter isCall
  | c => if c.isFunc then some item else none

theorem below_of_itemCall {item call : ExprLoc} (h : itemCall item = some call) :
    Loc.Below item call := by
  unfold itemCall at h
  split at h
  · exact ExprLoc.below_of_arg h
  · exact ExprLoc.below_of_arg (Option.filter_eq_some_iff.mp h).1
  · split_ifs at h
    obtain rfl := Option.some.inj h
    exact .refl

/-- The identifier a FROM item is known by. -/
def itemAlias (item : ExprLoc) : Option Identifier :=
  match item.cls with
  | .table _ name a =>
    if item.cls.aliasText = [] then name else a.bind TableAlias.this
  | c => c.aliasIdent

/-- The text of the identifier a table is known by is its `alias_or_name`. -/
theorem identText_itemAlias {item : ExprLoc} (h : item.cls.isTable = true) :
    identText (itemAlias item) = item.cls.aliasOrName := by
  unfold itemAlias Cls.aliasOrName
  cases hcls : item.cls <;> simp [hcls, Cls.isTable] at h
  next db name a =>
    by_cases halias : (Cls.table db name a).aliasText = []
    · simp only [halias, if_true]
      rfl
    · simp only [halias, if_false]
      rfl

/-- No star of an accepted statement belongs to a SELECT list directly. -/
theorem starOwner_of_check {ast : Expression} (h : checkNoSelectStar ast = .ok ()) {m : ExprLoc}
    (hm : Loc.Below (Loc.root ast) m) (hstar : m.cls.isStar = true) :
    (starOwner m).any (·.cls.isSelect) = false := by
  have hcheck := forM_eq_ok.mp h m (Expression.mem_findAll.mpr ⟨hm, hstar⟩)
  simpa using hcheck

/-! ## Output columns -/

/-- `e` computes the `i`-th output column of the query `q`. -/
inductive OutputAt : ExprLoc → ℕ → ExprLoc → Prop where
  | projection {q e : ExprLoc} {i : ℕ} (hq : q.cls.isSelect = true)
      (he : q.projections[i]? = some e) : OutputAt q i e
  | left {q q' e : ExprLoc} {i : ℕ} {op : SetOp} (hq : q.cls = .setOperation op)
      (hthis : q.arg .this = some q') (h : OutputAt q' i e) : OutputAt q i e
  | right {q q' e : ExprLoc} {i : ℕ} {op : SetOp} (hq : q.cls = .setOperation op)
      (hexpr : q.arg .expression = some q') (h : OutputAt q' i e) : OutputAt q i e
  | wrapped {q q' e : ExprLoc} {i : ℕ} (hq : q.cls.isSubquery = true ∨ q.cls.isCte = true)
      (hthis : q.arg .this = some q') (h : OutputAt q' i e) : OutputAt q i e
  | values {q row e : ExprLoc} {i : ℕ} (hq : q.cls.isValues = true)
      (hrow : row ∈ q.args .expressions) (he : row.children[i]? = some e) : OutputAt q i e

/-- An expression that computes an output column of a query lies below it. -/
theorem below_of_outputAt {q e : ExprLoc} {i : ℕ} (h : OutputAt q i e) : Loc.Below q e := by
  induction h with
  | projection _ he => exact ExprLoc.below_of_mem_args (List.mem_of_getElem? he)
  | left _ hthis _ ih => exact (ExprLoc.below_of_arg hthis).trans ih
  | right _ hexpr _ ih => exact (ExprLoc.below_of_arg hexpr).trans ih
  | wrapped _ hthis _ ih => exact (ExprLoc.below_of_arg hthis).trans ih
  | values _ hrow he =>
    exact (ExprLoc.below_of_mem_args hrow).trans (Loc.Below.refl.step (List.mem_of_getElem? he))

/-! ## Output names -/

/-- The name of a projection. -/
def projectionName (catalog : Catalog) (e : Expression) : PyStr :=
  match e.label.cls with
  | .alias_ name => name.folded
  | .column _ (some name) => name.folded
  | _ => catalog.implicitName e

mutual

/-- The output column names of a query. -/
def outputNames (catalog : Catalog) : Expression → List PyStr
  | .node n cs =>
    match n.cls with
    | .select => (cs.filter (·.label.key = .expressions)).map (projectionName catalog)
    | .values _ => valuesNames cs
    | _ => sourceNames catalog cs

/-- The output column names of the query stored under `this`. -/
def sourceNames (catalog : Catalog) : List Expression → List PyStr
  | [] => []
  | c :: cs => if c.label.key = .this then outputNames catalog c else sourceNames catalog cs

/-- The names of the columns of a `VALUES` list. -/
def valuesNames : List Expression → List PyStr
  | [] => []
  | c :: _ => (List.range c.children.length).map fun i => lit "column" ++ ofNat (i + 1)

end

/-- Column names under an alias: its column list renames the first ones. -/
def renameColumns (alias_ : Option TableAlias) (names : List PyStr) : List PyStr :=
  match alias_ with
  | some a => a.columns.map Identifier.folded ++ names.drop a.columns.length
  | none => names

/-- The query a FROM item reads its rows from. -/
def itemSource (item : ExprLoc) : Option ExprLoc :=
  match item.cls with
  | .table _ _ _ => pgResolve item
  | .lateral _ => (item.arg .this).filter isQuerySource
  | .subquery _ => if isGrouping item then none else some item
  | .values _ => some item
  | _ => none

/-- The column names a FROM item provides. -/
def itemColumns (catalog : Catalog) (item : ExprLoc) : List PyStr :=
  let provided :=
    match itemSource item, item.cls with
    | some source, .table _ _ _ =>
      renameColumns source.cls.tableAlias (outputNames catalog source.here)
    | some source, _ => outputNames catalog source.here
    | none, .table db (some name) _ => catalog.relationColumns db (some name)
    | none, _ => ((itemCall item).map fun call => catalog.functionColumns call.here).getD []
  renameColumns item.cls.tableAlias provided

/-! ## Resolving a name -/

/-- The FROM item that provides a column of `item`, with the column's position in it. -/
def findColumn (catalog : Catalog) (name : PyStr) (item : ExprLoc) : Option (ExprLoc × ℕ) :=
  (leafItems item).findSome? fun leaf =>
    ((itemColumns catalog leaf).idxOf? name).map fun i => (leaf, i)

/-- The innermost visible FROM item of an alias. -/
def resolveAlias (name : PyStr) (m : ExprLoc) : Option ExprLoc :=
  (visibleItems m.above false).findSome? fun items =>
    items.find? fun item => (itemAlias item).map Identifier.folded = some name

/-- The FROM item and position of the column a reference stands for. -/
def resolveColumn (catalog : Catalog) (m : ExprLoc) : Option (ExprLoc × ℕ) :=
  match m.cls with
  | .column none (some name) =>
    (visibleItems m.above false).findSome? fun items =>
      items.findSome? (findColumn catalog name.folded)
  | .column (some qualifier) (some name) =>
    (resolveAlias qualifier.folded m).bind (findColumn catalog name.folded)
  | _ => none

/-- The FROM item whose whole row an unqualified name stands for: no visible item provides it as a
column, and it is the alias of one. -/
def wholeRowOf (catalog : Catalog) (m : ExprLoc) : Option ExprLoc :=
  match m.cls with
  | .column none (some name) =>
    if (resolveColumn catalog m).isNone then resolveAlias name.folded m else none
  | _ => none

/-! ## What an output column is computed from -/

/-- The nodes an output column of the statement is computed from. -/
inductive Reached (catalog : Catalog) (ast : Expression) : ExprLoc → Prop where
  | output {e : ExprLoc} {i : ℕ} (h : OutputAt (Loc.root ast) i e) : Reached catalog ast e
  | operand {m c : ExprLoc} (hm : Reached catalog ast m) (hq : m.cls.isQuery = false)
      (hc : c ∈ m.children) : Reached catalog ast c
  | subquery {m e : ExprLoc} {i : ℕ} (hm : Reached catalog ast m) (h : OutputAt m i e) :
      Reached catalog ast e
  | column {m item source e : ExprLoc} {i : ℕ} (hm : Reached catalog ast m)
      (hcol : resolveColumn catalog m = some (item, i)) (hsource : itemSource item = some source)
      (h : OutputAt source i e) : Reached catalog ast e
  | call {m item call : ExprLoc} {i : ℕ} (hm : Reached catalog ast m)
      (hcol : resolveColumn catalog m = some (item, i)) (hcall : itemCall item = some call) :
      Reached catalog ast call

/-- The star is what a COUNT counts: `COUNT(*)`, `COUNT(t.*)`, `COUNT(DISTINCT *)`. -/
def isCounted (star : ExprLoc) : Bool :=
  (star.ancestors.dropWhile fun (p : ExprLoc) =>
    p.cls.isColumn || p.cls = .paren || p.cls = .distinct).head?.any fun (p : ExprLoc) =>
      p.cls.isCount

/-- A node that stands for a whole row. -/
def WholeRow (catalog : Catalog) (m : ExprLoc) : Prop :=
  (m.cls.isStar = true ∧ isCounted m = false) ∨ (wholeRowOf catalog m).isSome

/-! ## What is reached lies in the statement -/

theorem below_root_of_resolveAlias {ast : Expression} {m item : ExprLoc} {name : PyStr}
    (hm : Loc.Below (Loc.root ast) m) (h : resolveAlias name m = some item) :
    Loc.Below (Loc.root ast) item := by
  obtain ⟨items, hitems, hfind⟩ := List.exists_of_findSome?_eq_some h
  obtain ⟨p, hp, hbelow⟩ := ancestor_of_visibleItems hitems (List.mem_of_find?_eq_some hfind)
  exact (Expression.below_root_of_ancestor hm hp).trans hbelow

theorem below_of_findColumn {catalog : Catalog} {name : PyStr} {item leaf : ExprLoc} {i : ℕ}
    (h : findColumn catalog name item = some (leaf, i)) : Loc.Below item leaf := by
  obtain ⟨leaf', hleaf, hcol⟩ := List.exists_of_findSome?_eq_some h
  obtain ⟨_, -, hpair⟩ := Option.map_eq_some_iff.mp hcol
  obtain rfl : leaf' = leaf := congrArg Prod.fst hpair
  unfold leafItems at hleaf
  split_ifs at hleaf
  · exact below_of_mem_clauseItems (List.mem_of_mem_filter hleaf)
  · obtain rfl := List.mem_singleton.mp hleaf
    exact .refl

theorem below_root_of_resolveColumn {catalog : Catalog} {ast : Expression} {m item : ExprLoc}
    {i : ℕ} (hm : Loc.Below (Loc.root ast) m) (h : resolveColumn catalog m = some (item, i)) :
    Loc.Below (Loc.root ast) item := by
  unfold resolveColumn at h
  split at h
  · obtain ⟨items, hitems, hfind⟩ := List.exists_of_findSome?_eq_some h
    obtain ⟨item', hitem', hcol⟩ := List.exists_of_findSome?_eq_some hfind
    obtain ⟨p, hp, hbelow⟩ := ancestor_of_visibleItems hitems hitem'
    exact ((Expression.below_root_of_ancestor hm hp).trans hbelow).trans (below_of_findColumn hcol)
  · obtain ⟨item', halias, hcol⟩ := Option.bind_eq_some_iff.mp h
    exact (below_root_of_resolveAlias hm halias).trans (below_of_findColumn hcol)
  · simp at h

theorem below_root_of_itemSource {ast : Expression} {item source : ExprLoc}
    (hm : Loc.Below (Loc.root ast) item) (h : itemSource item = some source) :
    Loc.Below (Loc.root ast) source := by
  unfold itemSource at h
  split at h
  · rw [pgResolve] at h
    split_ifs at h
    obtain ⟨p, hp, hbelow⟩ := ancestor_of_visibleFrom (List.mem_of_find?_eq_some h)
    exact (Expression.below_root_of_ancestor hm hp).trans hbelow
  · exact hm.trans (ExprLoc.below_of_arg (Option.filter_eq_some_iff.mp h).1)
  · split_ifs at h
    obtain rfl := Option.some.inj h
    exact hm
  · obtain rfl := Option.some.inj h
    exact hm
  · simp at h

/-- Every node an output column is computed from is a node of the statement. -/
theorem below_root_of_reached {catalog : Catalog} {ast : Expression} {m : ExprLoc}
    (h : Reached catalog ast m) : Loc.Below (Loc.root ast) m := by
  induction h with
  | output h => exact (below_of_outputAt h)
  | operand _ _ hc ih => exact ih.step hc
  | subquery _ h ih => exact ih.trans (below_of_outputAt h)
  | column _ hcol hsource h ih =>
    have hitem := below_root_of_resolveColumn ih hcol
    exact (below_root_of_itemSource hitem hsource).trans (below_of_outputAt h)
  | call _ hcol hcall ih =>
    exact (below_root_of_resolveColumn ih hcol).trans (below_of_itemCall hcall)

/-- A whole-row name is unqualified and is the alias of its FROM item. -/
theorem resolveAlias_of_wholeRowOf {catalog : Catalog} {m item : ExprLoc}
    (h : wholeRowOf catalog m = some item) :
    m.cls.isUnqualified = true ∧ ∃ name : Identifier, m.cls.columnName = name.this ∧
      resolveAlias name.folded m = some item := by
  unfold wholeRowOf at h
  split at h
  · next name hcls =>
      split_ifs at h
      exact ⟨by simp [hcls, Cls.isUnqualified], name, by simp [hcls, Cls.columnName], h⟩
  · simp at h

/-! ## What the checks catch -/

section WholeRow

variable [UnicodeDatabase]

/-- A column of some SELECT list of the statement. -/
def InSelectList (ast : Expression) (m : ExprLoc) : Prop :=
  ∃ sel ∈ ast.findAll Cls.isSelect, ∃ p ∈ sel.projections, m ∈ p.findAll Cls.isColumn

/-- The whole rows the checks do not look for. -/
inductive Overlooked (catalog : Catalog) (ast : Expression) (m : ExprLoc) : Prop where
  /-- A star inside a larger argument of a COUNT, or outside every SELECT. -/
  | star (hstar : m.cls.isStar = true) (hcount : isCounted m = false)
      (howner : (starOwner m).any (·.cls.isSelect) = false)
  /-- The alias of a derived table, a `LATERAL` item or a `VALUES` list. -/
  | derived {item : ExprLoc} (hrow : wholeRowOf catalog m = some item)
      (hitem : item.cls.isTable = false) (hname : lower m.cls.columnName ∉ rowAliases ast)
  /-- A row alias outside the SELECT lists: an argument of a table function or a `VALUES` entry. -/
  | outside {item : ExprLoc} (hrow : wholeRowOf catalog m = some item)
      (hlist : ¬InSelectList ast m)

/-- The name of a table in an accepted statement is one of the row aliases. -/
theorem aliasOrName_mem_rowAliases {ast : Expression} {allowedTables referenced : Finset PyStr}
    (h : checkTables ast allowedTables = .ok referenced) {item : ExprLoc}
    (hitem : Loc.Below (Loc.root ast) item) (htable : item.cls.isTable = true) :
    lower item.cls.aliasOrName ∈ rowAliases ast := by
  have hname : item.cls.aliasOrName ≠ [] := by
    unfold Cls.aliasOrName
    split_ifs with halias
    · exact tableName_ne_nil h hitem htable
    · exact halias
  simp only [rowAliases, List.mem_toFinset, List.mem_filter, List.mem_map, decide_eq_true_eq]
  exact ⟨⟨item, Expression.mem_findAll.mpr ⟨hitem, htable⟩, rfl⟩,
    UnicodeDatabase.lower_ne_nil _ hname⟩

/-- The whole row of a table or CTE reference is asked for under one of the row aliases. -/
theorem columnName_mem_rowAliases {catalog : Catalog} {ast : Expression}
    {allowedTables referenced : Finset PyStr}
    (h : checkTables ast allowedTables = .ok referenced) {m item : ExprLoc}
    (hm : Loc.Below (Loc.root ast) m) (hrow : wholeRowOf catalog m = some item)
    (htable : item.cls.isTable = true) : lower m.cls.columnName ∈ rowAliases ast := by
  obtain ⟨-, name, hname, halias⟩ := resolveAlias_of_wholeRowOf hrow
  have hbelow := below_root_of_resolveAlias hm halias
  obtain ⟨items, -, hfind⟩ := List.exists_of_findSome?_eq_some halias
  have hsame : (itemAlias item).map Identifier.folded = some name.folded := by
    simpa using List.find?_some hfind
  obtain ⟨alias_, hitem, hfolded⟩ := Option.map_eq_some_iff.mp hsame
  have htext : alias_.this = item.cls.aliasOrName := by
    rw [← identText_itemAlias htable, hitem]
    rfl
  have hlower : lower m.cls.columnName = lower item.cls.aliasOrName := by
    rw [hname, ← lower_folded name, ← hfolded, lower_folded, htext]
  rw [hlower]
  exact aliasOrName_mem_rowAliases h hbelow htable

/-- No unqualified column in a SELECT list of an accepted statement is named as a row alias. -/
theorem columnName_notMem_rowAliases {ast : Expression} (h : checkNoWholeRowRefs ast = .ok ())
    {m : ExprLoc} (hlist : InSelectList ast m) (hunqualified : m.cls.isUnqualified = true) :
    lower m.cls.columnName ∉ rowAliases ast := by
  obtain ⟨sel, hsel, p, hp, hm⟩ := hlist
  unfold checkNoWholeRowRefs at h
  by_cases hempty : rowAliases ast = ∅
  · simp [hempty]
  · simp only [hempty, if_false] at h
    have hcheck := forM_eq_ok.mp (forM_eq_ok.mp (forM_eq_ok.mp h sel hsel) p hp) m hm
    rw [raiseIf_eq_ok] at hcheck
    exact fun hname => hcheck ⟨hunqualified, hname⟩

/-- A whole row an accepted statement reaches is one the checks do not look for. -/
theorem overlooked_of_accepted {catalog : Catalog} {ast : Expression}
    {allowedTables referenced : Finset PyStr} (h : Accepted ast allowedTables referenced true)
    {m : ExprLoc} (hm : Loc.Below (Loc.root ast) m) (hrow : WholeRow catalog m) :
    Overlooked catalog ast m := by
  rcases hrow with ⟨hstar, hcounted⟩ | hrow
  · exact .star hstar hcounted (starOwner_of_check (h.noSelectStar rfl) hm hstar)
  · obtain ⟨item, hitem⟩ := Option.isSome_iff_exists.mp hrow
    by_cases hlist : InSelectList ast m
    · obtain ⟨hunqualified, -⟩ := resolveAlias_of_wholeRowOf hitem
      have hname :=
        columnName_notMem_rowAliases (h.noWholeRowRefs rfl) hlist hunqualified
      refine .derived hitem ?_ hname
      by_contra htable
      exact hname (columnName_mem_rowAliases h.tables hm hitem (by simpa using htable))
    · exact .outside hitem hlist

theorem wholeRow_of_overlooked {catalog : Catalog} {ast : Expression} {m : ExprLoc}
    (h : Overlooked catalog ast m) : WholeRow catalog m := by
  cases h with
  | star hstar hcounted _ => exact Or.inl ⟨hstar, hcounted⟩
  | derived hrow _ _ => exact Or.inr (by simp [hrow])
  | outside hrow _ => exact Or.inr (by simp [hrow])

end WholeRow

/-- A database of one relation with the column `x`. -/
def oneColumnCatalog : Catalog where
  relationColumns _ _ := [lit "x"]
  functionColumns _ := []
  implicitName _ := lit "?column?"

/-- `SELECT q FROM (SELECT x FROM notes) AS q`. -/
def derivedRowQuery : Expression :=
  .selectQuery .this [.columnRef .expressions "q"]
    [.fromClause (.node ⟨.subquery (some (.bare "q")), .this⟩ [plainQuery])]

/-- `SELECT x FROM (SELECT x FROM notes) AS q`. -/
def derivedColumnQuery : Expression :=
  .selectQuery .this [.columnRef .expressions "x"]
    [.fromClause (.node ⟨.subquery (some (.bare "q")), .this⟩ [plainQuery])]

end McpSql
