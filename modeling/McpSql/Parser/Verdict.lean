import McpSql.Parser.ParseAndValidate

/-!
# The verdict on a statement

The checks of `parse_and_validate` as one ordered list of rules, each with the nodes it looks at and
what it says about a node that breaks it.  A statement is accepted exactly when no node breaks a rule,
and otherwise refused with what the first rule that is broken says about the first node that breaks
it; the rules on stars come last, so that they are only named when nothing else is wrong.
-/

namespace McpSql

open Python PyStr Located Raising

/-! ## The rules -/

/-- The rules, named after their checks. -/
inductive StatementRule where
  | ctesReadOnly
  | noRecursiveCte
  | noSelectInto
  | noOffset
  | noFetch
  | noLockingReads
  | tables
  | noDeniedFunctions
  | noBareKeywordColumns
  | noSelectStar
  | noWholeRowRefs
  deriving DecidableEq, Repr

/-- The exception of a computation that raises. -/
def exceptionOf {ε α : Type} : Except ε α → Option ε
  | .ok _ => none
  | .error e => some e

namespace StatementRule

/-- The rules in force, in the order of the checks. -/
def inForce (banSelectStar : Bool) : List StatementRule :=
  [ctesReadOnly, noRecursiveCte, noSelectInto, noOffset, noFetch, noLockingReads, tables,
    noDeniedFunctions, noBareKeywordColumns] ++
  if banSelectStar then [noSelectStar, noWholeRowRefs] else []

/-- The nodes a rule looks at, in its order. -/
def nodes (ast : Expression) : StatementRule → List ExprLoc
  | ctesReadOnly => ast.findAll Cls.isCte
  | noRecursiveCte => ast.findAll Cls.isWith
  | noSelectInto => ast.findAll Cls.isSelect
  | noOffset => ast.findAll (· = .offset)
  | noFetch => ast.findAll (· = .fetch)
  | noLockingReads => ast.findAll (· = .lock)
  | tables => ast.findAll Cls.isTable
  | noDeniedFunctions => ast.findAll Cls.isFunc
  | noBareKeywordColumns => ast.findAll Cls.isColumn
  | noSelectStar => ast.findAll Cls.isStar
  | noWholeRowRefs => (ast.findAll Cls.isSelect).flatMap fun sel =>
      sel.projections.flatMap fun projection => projection.findAll Cls.isColumn

variable [UnicodeDatabase]

/-- What a rule says about a node that breaks it. -/
def complaint (ast : Expression) (allowedTables : Finset PyStr) (node : ExprLoc) :
    StatementRule → Option QueryRejectedError
  | ctesReadOnly =>
    if (node.arg .this).any (·.cls.isQuery) then none
    else some ⟨.writeableCte,
      lit "CTE '" ++ (if node.cls.aliasText = [] then lit "<unnamed>" else node.cls.aliasText) ++
        lit "' body is " ++ (((node.arg .this).map fun b => b.cls.className).getD (lit "NoneType")) ++
        lit "; INSERT/UPDATE/DELETE inside WITH is not allowed"⟩
  | noRecursiveCte =>
    if node.cls = .with_ true then some ⟨.disallowedConstruct,
      lit "WITH RECURSIVE is not supported on the MCP surface. " ++
        lit "Use iterative aggregation (GROUP BY, window functions) " ++
        lit "or escalate to operators."⟩
    else none
  | noSelectInto =>
    if (node.arg .into).isSome then some ⟨.selectInto,
      lit "SELECT INTO writes a new table and is not allowed"⟩
    else none
  | noOffset => some ⟨.disallowedConstruct,
      lit "OFFSET is not supported. Use keyset pagination " ++
        lit "(WHERE id > <last_seen_id> ORDER BY id LIMIT N) instead."⟩
  | noFetch => some ⟨.disallowedConstruct,
      lit "FETCH FIRST/NEXT ROWS is not supported. Use LIMIT N instead; " ++
        lit "the server clamps it to the configured cap."⟩
  | noLockingReads => some ⟨.disallowedConstruct,
      lit "Locking reads (FOR UPDATE / FOR SHARE) are not supported on the " ++
        lit "read-only MCP surface."⟩
  | tables => exceptionOf (checkTable (allowedTables.image lower) node)
  | noDeniedFunctions => exceptionOf (checkFunc node)
  | noBareKeywordColumns =>
    if node.cls.isUnqualified ∧ lower node.cls.columnName ∈ deniedBareKeywords then
      some ⟨.disallowedFunction,
        lit "Built-in '" ++ lower node.cls.columnName ++ lit "' leaks server identity; the " ++
          lit "function-deny-list rejects both bare and parenthesised forms."⟩
    else none
  | noSelectStar =>
    if (starOwner node).any (·.cls.isSelect) then some ⟨.selectStar, starMessage node⟩ else none
  | noWholeRowRefs =>
    if node.cls.isUnqualified ∧ lower node.cls.columnName ∈ rowAliases ast then some ⟨.selectStar,
      lit "Bare reference to row alias '" ++ lower node.cls.columnName ++ lit "' returns " ++
        lit "the whole row; enumerate columns explicitly"⟩
    else none

/-- A rule as a check: it raises what it says about the first node that breaks it. -/
def check (ast : Expression) (allowedTables : Finset PyStr) (rule : StatementRule) :
    Except QueryRejectedError Unit :=
  forM (rule.nodes ast) fun node =>
    match rule.complaint ast allowedTables node with
    | some e => .error e
    | none => .ok ()

end StatementRule

/-! ## The checks are the rules -/

section Checks

variable [UnicodeDatabase] {ast : Expression} {allowedTables : Finset PyStr}

/-- A check that raises under a condition at each node. -/
theorem forM_eq_check (rule : StatementRule) {f : ExprLoc → Except QueryRejectedError Unit}
    (h : ∀ node ∈ rule.nodes ast, exceptionOf (f node) = rule.complaint ast allowedTables node) :
    forM (rule.nodes ast) f = rule.check ast allowedTables := by
  unfold StatementRule.check
  generalize rule.nodes ast = nodes at h
  induction nodes with
  | nil => rfl
  | cons node rest ih =>
    rw [List.forM_cons, List.forM_cons, ih fun n hn => h n (List.mem_cons_of_mem _ hn)]
    rw [← h node List.mem_cons_self]
    cases f node <;> rfl

omit [UnicodeDatabase] in
theorem exceptionOf_raiseIf {ε : Type} (c : Prop) [Decidable c] (e : ε) :
    exceptionOf (raiseIf c e) = if c then some e else none := by
  unfold raiseIf
  split_ifs <;> rfl

omit [UnicodeDatabase] in
/-- Refusing a class of nodes is refusing the first of them. -/
theorem raiseIf_head? {α : Type} (nodes : List α) (e : QueryRejectedError) :
    raiseIf nodes.head?.isSome e = forM nodes fun _ => .error e := by
  cases nodes with
  | nil => rfl
  | cons node rest => rfl

theorem checkCtesReadOnly_eq :
    checkCtesReadOnly ast = StatementRule.ctesReadOnly.check ast allowedTables := by
  refine forM_eq_check .ctesReadOnly fun node _ => ?_
  simp only [exceptionOf_raiseIf, ite_not]
  rfl

theorem checkNoRecursiveCte_eq :
    checkNoRecursiveCte ast = StatementRule.noRecursiveCte.check ast allowedTables := by
  refine forM_eq_check .noRecursiveCte fun node _ => ?_
  rw [exceptionOf_raiseIf]
  rfl

theorem checkNoSelectInto_eq :
    checkNoSelectInto ast = StatementRule.noSelectInto.check ast allowedTables := by
  refine forM_eq_check .noSelectInto fun node _ => ?_
  rw [exceptionOf_raiseIf]
  rfl

theorem checkNoOffset_eq : checkNoOffset ast = StatementRule.noOffset.check ast allowedTables :=
  raiseIf_head? _ _

theorem checkNoFetch_eq : checkNoFetch ast = StatementRule.noFetch.check ast allowedTables :=
  raiseIf_head? _ _

theorem checkNoLockingReads_eq :
    checkNoLockingReads ast = StatementRule.noLockingReads.check ast allowedTables :=
  raiseIf_head? _ _

theorem checkNoDeniedFunctions_eq :
    checkNoDeniedFunctions ast = StatementRule.noDeniedFunctions.check ast allowedTables :=
  forM_eq_check .noDeniedFunctions fun _ _ => rfl

theorem checkNoBareKeywordColumns_eq : checkNoBareKeywordColumns ast =
    StatementRule.noBareKeywordColumns.check ast allowedTables := by
  refine forM_eq_check .noBareKeywordColumns fun node _ => ?_
  rw [exceptionOf_raiseIf]
  rfl

theorem checkNoSelectStar_eq :
    checkNoSelectStar ast = StatementRule.noSelectStar.check ast allowedTables := by
  refine forM_eq_check .noSelectStar fun node _ => ?_
  rw [exceptionOf_raiseIf]
  rfl

/-- Without row aliases no column is one. -/
theorem checkNoWholeRowRefs_eq :
    checkNoWholeRowRefs ast = StatementRule.noWholeRowRefs.check ast allowedTables := by
  have hcolumns : forM (StatementRule.noWholeRowRefs.nodes ast) (fun col =>
      raiseIf (col.cls.isUnqualified ∧ lower col.cls.columnName ∈ rowAliases ast) ⟨.selectStar,
        lit "Bare reference to row alias '" ++ lower col.cls.columnName ++ lit "' returns " ++
          lit "the whole row; enumerate columns explicitly"⟩) =
      StatementRule.noWholeRowRefs.check ast allowedTables := by
    refine forM_eq_check .noWholeRowRefs fun node _ => ?_
    rw [exceptionOf_raiseIf]
    rfl
  unfold checkNoWholeRowRefs
  by_cases hnone : rowAliases ast = ∅
  · rw [if_pos hnone, ← hcolumns]
    refine (forM_eq_ok.mpr fun col _ => ?_).symm
    rw [raiseIf_eq_ok, hnone]
    simp
  · rw [if_neg hnone, ← hcolumns]
    unfold StatementRule.nodes
    simp only [forM_flatMap]

/-- The tables are checked one after another, and the names of the uncovered ones are returned. -/
theorem checkTablesFrom_eq (allowedLower : Finset PyStr) (tables : List ExprLoc)
    (referenced : Finset PyStr) : checkTablesFrom allowedLower tables referenced =
      (forM tables fun table => checkTable allowedLower table >>= fun _ => .ok ()) >>= fun _ =>
        .ok (referenced ∪ uncoveredNames tables) := by
  induction tables generalizing referenced with
  | nil =>
    have hnone : referenced ∪ uncoveredNames [] = referenced := Finset.union_empty referenced
    rw [hnone]
    rfl
  | cons table rest ih =>
    rw [List.forM_cons, checkTablesFrom]
    cases hchecked : checkTable allowedLower table with
    | error e => rfl
    | ok recorded =>
      obtain ⟨-, hrecorded⟩ := checkTable_eq_ok.mp hchecked
      cases hcte : resolvesToCte table (loweredName table) with
      | true =>
        obtain rfl : recorded = none := by rw [hrecorded, hcte, if_pos rfl]
        have hnames : uncoveredNames (table :: rest) = uncoveredNames rest := by
          simp [uncoveredNames, hcte]
        rw [hnames]
        exact ih referenced
      | false =>
        obtain rfl : recorded = some (loweredName table) := by
          rw [hrecorded, hcte, if_neg Bool.false_ne_true]
        have hnames : referenced ∪ uncoveredNames (table :: rest) =
            insert (loweredName table) referenced ∪ uncoveredNames rest := by
          have hinsert : uncoveredNames (table :: rest) =
              insert (loweredName table) (uncoveredNames rest) := by
            simp [uncoveredNames, hcte]
          rw [hinsert, Finset.union_insert, Finset.insert_union]
        rw [hnames]
        exact ih (insert (loweredName table) referenced)

theorem checkTables_eq : checkTables ast allowedTables =
    StatementRule.tables.check ast allowedTables >>= fun _ =>
      .ok (uncoveredNames (ast.findAll Cls.isTable)) := by
  have hrule : (forM (ast.findAll Cls.isTable) fun table =>
      checkTable (allowedTables.image lower) table >>= fun _ => .ok ()) =
        StatementRule.tables.check ast allowedTables := by
    refine forM_eq_check .tables fun node _ => ?_
    unfold StatementRule.complaint
    cases checkTable (allowedTables.image lower) node <;> rfl
  unfold checkTables
  rw [checkTablesFrom_eq, hrule, Finset.empty_union]

/-- The checks are the rules in force, one after another. -/
theorem checkStatement_eq (banSelectStar : Bool) : checkStatement ast allowedTables banSelectStar =
    forM (StatementRule.inForce banSelectStar) (StatementRule.check ast allowedTables) >>= fun _ =>
      .ok (uncoveredNames (ast.findAll Cls.isTable)) := by
  unfold checkStatement StatementRule.inForce
  rw [@checkCtesReadOnly_eq _ ast allowedTables, @checkNoRecursiveCte_eq _ ast allowedTables,
    @checkNoSelectInto_eq _ ast allowedTables, @checkNoOffset_eq _ ast allowedTables,
    @checkNoFetch_eq _ ast allowedTables, @checkNoLockingReads_eq _ ast allowedTables,
    checkTables_eq, @checkNoDeniedFunctions_eq _ ast allowedTables,
    @checkNoBareKeywordColumns_eq _ ast allowedTables, @checkNoSelectStar_eq _ ast allowedTables,
    @checkNoWholeRowRefs_eq _ ast allowedTables]
  cases banSelectStar with
  | false =>
    simp only [Bool.false_eq_true, if_false, List.append_nil, List.forM_cons, List.forM_nil,
      bind_assoc, pure_bind, ok_bind]
    rfl
  | true =>
    simp only [if_true, List.cons_append, List.nil_append, List.forM_cons, List.forM_nil,
      bind_assoc, pure_bind, ok_bind]
    rfl

end Checks

/-! ## What a rule looks at, and what it may say -/

namespace StatementRule

/-- The nodes a rule looks at: all of its class, wherever they are. -/
def LooksAt (ast : Expression) (node : ExprLoc) : StatementRule → Prop
  | ctesReadOnly => Loc.Below (Loc.root ast) node ∧ node.cls.isCte = true
  | noRecursiveCte => Loc.Below (Loc.root ast) node ∧ node.cls.isWith = true
  | noSelectInto => Loc.Below (Loc.root ast) node ∧ node.cls.isSelect = true
  | noOffset => Loc.Below (Loc.root ast) node ∧ node.cls = .offset
  | noFetch => Loc.Below (Loc.root ast) node ∧ node.cls = .fetch
  | noLockingReads => Loc.Below (Loc.root ast) node ∧ node.cls = .lock
  | tables => Loc.Below (Loc.root ast) node ∧ node.cls.isTable = true
  | noDeniedFunctions => Loc.Below (Loc.root ast) node ∧ node.cls.isFunc = true
  | noBareKeywordColumns => Loc.Below (Loc.root ast) node ∧ node.cls.isColumn = true
  | noSelectStar => Loc.Below (Loc.root ast) node ∧ node.cls.isStar = true
  | noWholeRowRefs => ∃ sel projection : ExprLoc, Loc.Below (Loc.root ast) sel ∧ sel.cls.isSelect = true ∧
      projection ∈ sel.projections ∧ Loc.Below projection node ∧ node.cls.isColumn = true

/-- The reasons a rule may give. -/
def reasons : StatementRule → List OutcomeReason
  | ctesReadOnly => [.writeableCte]
  | noRecursiveCte | noOffset | noFetch | noLockingReads => [.disallowedConstruct]
  | noSelectInto => [.selectInto]
  | tables => [.disallowedConstruct, .systemSchema, .disallowedTable]
  | noDeniedFunctions => [.disallowedConstruct, .disallowedFunction]
  | noBareKeywordColumns => [.disallowedFunction]
  | noSelectStar | noWholeRowRefs => [.selectStar]

theorem mem_nodes_iff {ast : Expression} {rule : StatementRule} {node : ExprLoc} :
    node ∈ rule.nodes ast ↔ rule.LooksAt ast node := by
  cases rule with
  | noWholeRowRefs =>
    unfold nodes LooksAt Expression.findAll
    simp only [List.mem_flatMap, ExprLoc.mem_findAll]
    constructor
    · rintro ⟨sel, ⟨hsel, hselect⟩, projection, hprojection, hnode⟩
      exact ⟨sel, projection, hsel, hselect, hprojection, hnode⟩
    · rintro ⟨sel, projection, hsel, hselect, hprojection, hnode⟩
      exact ⟨sel, ⟨hsel, hselect⟩, projection, hprojection, hnode⟩
  | _ =>
    unfold nodes LooksAt Expression.findAll
    simp [ExprLoc.mem_findAll]

theorem reason_of_checkTable [UnicodeDatabase] {allowedLower : Finset PyStr} {table : ExprLoc}
    {e : QueryRejectedError} (h : checkTable allowedLower table = .error e) :
    e.reason ∈ tables.reasons := by
  unfold checkTable at h
  rcases bind_eq_error.mp h with hunnamed | ⟨-, -, h⟩
  · obtain ⟨-, rfl⟩ := raiseIf_eq_error.mp hunnamed
    simp [reasons]
  rcases bind_eq_error.mp h with hschema | ⟨-, -, h⟩
  · obtain ⟨-, rfl⟩ := raiseIf_eq_error.mp hschema
    simp [reasons]
  rcases bind_eq_error.mp h with hname | ⟨-, -, h⟩
  · obtain ⟨-, rfl⟩ := raiseIf_eq_error.mp hname
    simp [reasons]
  cases hcte : resolvesToCte table (loweredName table) with
  | true => simp [hcte, pure, Except.pure] at h
  | false =>
    rw [if_neg (by simp [hcte])] at h
    rcases bind_eq_error.mp h with hallowed | ⟨-, -, h⟩
    · obtain ⟨-, rfl⟩ := raiseIf_eq_error.mp hallowed
      simp [reasons]
    · exact absurd h (by simp [pure, Except.pure])

theorem reason_of_checkFunc [UnicodeDatabase] {func : ExprLoc} {e : QueryRejectedError}
    (h : checkFunc func = .error e) : e.reason ∈ noDeniedFunctions.reasons := by
  unfold checkFunc at h
  rcases bind_eq_error.mp h with htable | ⟨-, -, h⟩
  · obtain ⟨-, rfl⟩ := raiseIf_eq_error.mp htable
    simp [reasons]
  by_cases hname : lower func.cls.funcName = []
  · simp [hname, pure, Except.pure] at h
  · rw [if_neg hname] at h
    rcases bind_eq_error.mp h with hsrf | ⟨-, -, h⟩
    · obtain ⟨-, rfl⟩ := raiseIf_eq_error.mp hsrf
      simp [reasons]
    rcases bind_eq_error.mp h with hexact | ⟨-, -, h⟩
    · obtain ⟨-, rfl⟩ := raiseIf_eq_error.mp hexact
      simp [reasons]
    · obtain ⟨pre, -, hprefix⟩ := forM_eq_error.mp h
      obtain ⟨-, rfl⟩ := raiseIf_eq_error.mp hprefix
      simp [reasons]

/-- What a rule says gives one of its reasons. -/
theorem reason_of_complaint [UnicodeDatabase] {ast : Expression} {allowedTables : Finset PyStr}
    {node : ExprLoc} {rule : StatementRule} {e : QueryRejectedError}
    (h : rule.complaint ast allowedTables node = some e) : e.reason ∈ rule.reasons := by
  have hexception : ∀ {α : Type} (r : Except QueryRejectedError α), exceptionOf r = some e →
      r = .error e := by
    intro α r hr
    cases r with
    | ok a => simp [exceptionOf] at hr
    | error e' => rw [Option.some.inj hr]
  cases rule with
  | tables => exact reason_of_checkTable (hexception _ h)
  | noDeniedFunctions => exact reason_of_checkFunc (hexception _ h)
  | noOffset | noFetch | noLockingReads =>
    obtain rfl := Option.some.inj h
    decide
  | _ =>
    unfold complaint at h
    simp only at h
    split_ifs at h
    all_goals
      obtain rfl := Option.some.inj h
      simp [reasons]

end StatementRule

/-! ## The verdict -/

section Verdict

variable [UnicodeDatabase]

/-- No node breaks the rule. -/
def StatementRule.Kept (ast : Expression) (allowedTables : Finset PyStr) (rule : StatementRule) :
    Prop :=
  ∀ node ∈ rule.nodes ast, rule.complaint ast allowedTables node = none

/-- The rule is the first in force that is broken, and the node the first that breaks it. -/
def FirstBroken (ast : Expression) (allowedTables : Finset PyStr) (banSelectStar : Bool)
    (rule : StatementRule) (node : ExprLoc) : Prop :=
  ComesTo (StatementRule.Kept ast allowedTables) (StatementRule.inForce banSelectStar) rule ∧
    ComesTo (fun other => rule.complaint ast allowedTables other = none) (rule.nodes ast) node

/-- How a statement is judged. -/
structure Judged (ast : Expression) (allowedTables : Finset PyStr) : Prop where
  /-- A rule looks at every node of its class, at any depth. -/
  everywhere : ∀ (rule : StatementRule) node, node ∈ rule.nodes ast ↔ rule.LooksAt ast node
  /-- Accepted exactly when every rule in force is kept, with the names of the uncovered tables. -/
  accepts : ∀ banSelectStar referenced,
    checkStatement ast allowedTables banSelectStar = .ok referenced ↔
      (∀ rule ∈ StatementRule.inForce banSelectStar, rule.Kept ast allowedTables) ∧
        referenced = uncoveredNames (ast.findAll Cls.isTable)
  /-- Refused with what the first broken rule says about the first node that breaks it. -/
  refuses : ∀ banSelectStar e, checkStatement ast allowedTables banSelectStar = .error e ↔
    ∃ rule node, FirstBroken ast allowedTables banSelectStar rule node ∧
      rule.complaint ast allowedTables node = some e
  /-- The reason is one of that rule's. -/
  reason : ∀ (rule : StatementRule) node e, rule.complaint ast allowedTables node = some e →
    e.reason ∈ rule.reasons
  /-- The ban on stars never changes another complaint, and is only named when there is none. -/
  starsLast : ∀ e, (checkStatement ast allowedTables false = .error e →
      checkStatement ast allowedTables true = .error e) ∧
    (checkStatement ast allowedTables true = .error e →
      checkStatement ast allowedTables false = .error e ∨ (e.reason = .selectStar ∧
        ∃ referenced, checkStatement ast allowedTables false = .ok referenced))
  /-- A CTE that writes is what is reported, whatever else is wrong. -/
  writesFirst : ∀ banSelectStar (cte : ExprLoc), Loc.Below (Loc.root ast) cte → cte.cls.isCte = true →
    (cte.arg .this).any (·.cls.isQuery) = false →
      ∃ e, checkStatement ast allowedTables banSelectStar = .error e ∧ e.reason = .writeableCte
  /-- `parse_and_validate` hands the complaint on. -/
  handedOn : ∀ sqlglot rawSql banSelectStar e, parseQuery sqlglot rawSql = .ok ast →
    checkStatement ast allowedTables banSelectStar = .error e →
      parseAndValidate sqlglot rawSql allowedTables banSelectStar = .error (.queryRejected e)

variable {ast : Expression} {allowedTables : Finset PyStr}

theorem check_eq_ok_iff {rule : StatementRule} {u : Unit} :
    rule.check ast allowedTables = .ok u ↔ rule.Kept ast allowedTables := by
  unfold StatementRule.check StatementRule.Kept
  rw [forM_eq_ok]
  refine forall₂_congr fun node _ => ?_
  cases rule.complaint ast allowedTables node <;> simp

theorem check_eq_error_iff {rule : StatementRule} {e : QueryRejectedError} :
    rule.check ast allowedTables = .error e ↔
      ∃ node, ComesTo (fun other => rule.complaint ast allowedTables other = none)
        (rule.nodes ast) node ∧ rule.complaint ast allowedTables node = some e := by
  let verdict : ExprLoc → Except QueryRejectedError Unit := fun node =>
    (rule.complaint ast allowedTables node).elim (.ok ()) .error
  have hpasses : (fun other => verdict other = .ok ()) =
      fun other => rule.complaint ast allowedTables other = none := by
    funext other
    unfold verdict
    cases rule.complaint ast allowedTables other <;> simp
  have herror : ∀ node, verdict node = .error e ↔
      rule.complaint ast allowedTables node = some e := by
    intro node
    unfold verdict
    cases rule.complaint ast allowedTables node <;> simp
  have hcheck : forM (rule.nodes ast) verdict = rule.check ast allowedTables := by
    refine forM_eq_check rule fun node _ => ?_
    unfold verdict
    cases rule.complaint ast allowedTables node <;> rfl
  rw [← hcheck, forM_eq_error, hpasses]
  exact exists_congr fun node => and_congr_right fun _ => herror node

/-- A statement is accepted exactly when the rules in force are kept. -/
theorem checkStatement_eq_ok_iff {banSelectStar : Bool} {referenced : Finset PyStr} :
    checkStatement ast allowedTables banSelectStar = .ok referenced ↔
      (∀ rule ∈ StatementRule.inForce banSelectStar, rule.Kept ast allowedTables) ∧
        referenced = uncoveredNames (ast.findAll Cls.isTable) := by
  rw [checkStatement_eq, bind_eq_ok]
  simp only [forM_eq_ok, check_eq_ok_iff, Except.ok.injEq, eq_comm (b := referenced)]
  simp

/-- A statement is refused with the complaint of the first broken rule. -/
theorem checkStatement_eq_error_iff {banSelectStar : Bool} {e : QueryRejectedError} :
    checkStatement ast allowedTables banSelectStar = .error e ↔
      ∃ rule node, FirstBroken ast allowedTables banSelectStar rule node ∧
        rule.complaint ast allowedTables node = some e := by
  rw [checkStatement_eq, bind_eq_error]
  have hkept : (fun rule => StatementRule.check ast allowedTables rule = .ok ()) =
      StatementRule.Kept ast allowedTables := funext fun rule => propext check_eq_ok_iff
  simp only [reduceCtorEq, and_false, exists_false, or_false]
  rw [forM_eq_error, hkept]
  unfold FirstBroken
  constructor
  · rintro ⟨rule, hrule, herror⟩
    obtain ⟨node, hnode, hcomplaint⟩ := check_eq_error_iff.mp herror
    exact ⟨rule, node, ⟨hrule, hnode⟩, hcomplaint⟩
  · rintro ⟨rule, node, ⟨hrule, hnode⟩, hcomplaint⟩
    exact ⟨rule, hrule, check_eq_error_iff.mpr ⟨node, hnode, hcomplaint⟩⟩

omit [UnicodeDatabase] in
/-- The ban adds the rules on stars at the end. -/
theorem inForce_true : StatementRule.inForce true =
    StatementRule.inForce false ++ [.noSelectStar, .noWholeRowRefs] := rfl

/-- The ban does not change the complaint of another rule. -/
theorem error_of_unbanned {e : QueryRejectedError}
    (h : checkStatement ast allowedTables false = .error e) :
    checkStatement ast allowedTables true = .error e := by
  obtain ⟨rule, node, ⟨⟨before, after, hrules, hbefore⟩, hnode⟩, hcomplaint⟩ :=
    checkStatement_eq_error_iff.mp h
  refine checkStatement_eq_error_iff.mpr ⟨rule, node, ⟨?_, hnode⟩, hcomplaint⟩
  refine ⟨before, after ++ [.noSelectStar, .noWholeRowRefs], ?_, hbefore⟩
  rw [inForce_true, hrules, List.append_assoc, List.cons_append]

/-- What the ban adds is a complaint about stars. -/
theorem unbanned_of_error {e : QueryRejectedError}
    (h : checkStatement ast allowedTables true = .error e) :
    checkStatement ast allowedTables false = .error e ∨ (e.reason = .selectStar ∧
      ∃ referenced, checkStatement ast allowedTables false = .ok referenced) := by
  cases hother : checkStatement ast allowedTables false with
  | error e' =>
    left
    rw [error_of_unbanned hother] at h
    exact h
  | ok referenced =>
    right
    obtain ⟨hkept, -⟩ := checkStatement_eq_ok_iff.mp hother
    obtain ⟨rule, node, ⟨hrule, hnode⟩, hcomplaint⟩ := checkStatement_eq_error_iff.mp h
    have hreason := StatementRule.reason_of_complaint hcomplaint
    have hmem := hrule.mem
    rw [inForce_true, List.mem_append] at hmem
    rcases hmem with hfirst | hstar
    · have hnone := hkept rule hfirst node hnode.mem
      rw [hcomplaint] at hnone
      exact absurd hnone (by simp)
    · refine ⟨?_, referenced, rfl⟩
      have hone : rule = .noSelectStar ∨ rule = .noWholeRowRefs := by simpa using hstar
      rcases hone with rfl | rfl
      · simpa [StatementRule.reasons] using hreason
      · simpa [StatementRule.reasons] using hreason

/-- A CTE that writes breaks the first rule. -/
theorem writeableCte_of_below (banSelectStar : Bool) {cte : ExprLoc}
    (hbelow : Loc.Below (Loc.root ast) cte) (hcte : cte.cls.isCte = true)
    (hwrites : (cte.arg .this).any (·.cls.isQuery) = false) :
    ∃ e, checkStatement ast allowedTables banSelectStar = .error e ∧ e.reason = .writeableCte := by
  have hfirst : ∃ rest, StatementRule.inForce banSelectStar = .ctesReadOnly :: rest := ⟨_, rfl⟩
  obtain ⟨rest, hrules⟩ := hfirst
  have hbroken : ¬StatementRule.ctesReadOnly.Kept ast allowedTables := by
    intro hkept
    have hnode := hkept cte (StatementRule.mem_nodes_iff.mpr ⟨hbelow, hcte⟩)
    simp [StatementRule.complaint, hwrites] at hnode
  cases hjudged : checkStatement ast allowedTables banSelectStar with
  | ok referenced =>
    obtain ⟨hkept, -⟩ := checkStatement_eq_ok_iff.mp hjudged
    exact absurd (hkept .ctesReadOnly (by rw [hrules]; exact List.mem_cons_self)) hbroken
  | error e =>
    obtain ⟨rule, node, ⟨hrule, -⟩, hcomplaint⟩ := checkStatement_eq_error_iff.mp hjudged
    rw [hrules, comesTo_cons_iff] at hrule
    have hreason := StatementRule.reason_of_complaint hcomplaint
    rcases hrule with rfl | ⟨hkept, -⟩
    · exact ⟨e, rfl, by simpa [StatementRule.reasons] using hreason⟩
    · exact absurd hkept hbroken

/-- A refused statement is refused by `parse_and_validate`, with the same complaint. -/
theorem parseAndValidate_of_refused {sqlglot : Sqlglot} {rawSql : PyStr} {banSelectStar : Bool}
    {e : QueryRejectedError} (hparse : parseQuery sqlglot rawSql = .ok ast)
    (hrefused : checkStatement ast allowedTables banSelectStar = .error e) :
    parseAndValidate sqlglot rawSql allowedTables banSelectStar = .error (.queryRejected e) := by
  unfold parseQuery at hparse
  obtain ⟨parsed, hparsed, hsingle⟩ := bind_eq_ok.mp hparse
  unfold parseAndValidate
  rw [hparsed, ok_bind, hsingle, ok_bind, hrefused]
  rfl

end Verdict

end McpSql
