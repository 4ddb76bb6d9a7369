import McpSql.Foundations.LocatedTree
import McpSql.Python.Str

/-!
# sqlglot's expression tree

A node of the tree carries its class and the argument of its parent it is stored under.  The
classes are those the package's checks and Postgres' name resolution tell apart; every other class
of `sqlglot.exp` is `Cls.other`.  An `exp.Identifier` is not a node of its own: the names it spells
are stored in the node that owns it.
-/

namespace McpSql

open Python PyStr Located

/-- `exp.Identifier`: a name as it was written. -/
structure Identifier where
  this : PyStr
  quoted : Bool
  deriving DecidableEq, Repr

/-- `exp.TableAlias`: the alias of a row source, with its optional column list. -/
structure TableAlias where
  this : Option Identifier
  columns : List Identifier
  deriving DecidableEq, Repr

/-- The set operations of `exp.SetOperation`. -/
inductive SetOp where
  | union
  | except
  | intersect
  deriving DecidableEq, Repr

/-- The argument of the parent under which a node is stored (its `arg_key`). -/
inductive ArgKey where
  | this
  | expression
  | expressions
  | with_
  | from_
  | joins
  | laterals
  | into
  | limit
  | other
  deriving DecidableEq, Repr

/-- The class of a node, with the names and flags it stores. -/
inductive Cls where
  | select
  | setOperation (op : SetOp)
  | subquery (alias_ : Option TableAlias)
  | with_ (recursive : Bool)
  | cte (alias_ : Option TableAlias)
  | from_
  | join
  /-- `exp.Table`; `name` is absent when `this` is a function call or missing. -/
  | table (db name : Option Identifier) (alias_ : Option TableAlias)
  | lateral (alias_ : Option TableAlias)
  | values (alias_ : Option TableAlias)
  | tuple
  /-- `exp.Column`; `name` is absent when `this` is a `Star`. -/
  | column (table name : Option Identifier)
  | star
  | alias_ (name : Identifier)
  | dot
  | paren
  | distinct
  | count
  | generateSeries
  /-- A subclass of both `exp.Func` and `exp.UDTF`, such as `exp.Unnest`. -/
  | tableFunc (sqlName : PyStr) (alias_ : Option TableAlias)
  /-- Any other typed subclass of `exp.Func`, by its `sql_name()`. -/
  | func (sqlName : PyStr)
  /-- `exp.Anonymous`: a function sqlglot has no class for. -/
  | anonymous (name : PyStr)
  | literal (this : PyStr) (isString : Bool)
  | limit
  | offset
  | fetch
  | lock
  | semicolon
  /-- `exp.DDL` (`Create`, `Insert`, …), by its class name. -/
  | ddl (name : PyStr)
  /-- Any other class, by its class name. -/
  | other (name : PyStr)
  deriving DecidableEq, Repr

/-- A node: its class and its key in the parent. -/
structure Node where
  cls : Cls
  key : ArgKey := .other
  deriving DecidableEq, Repr

/-- A sqlglot expression. -/
abbrev Expression := Located.Tree Node

/-- A node of an expression together with its ancestors. -/
abbrev ExprLoc := Loc Node

/-! ## Classes -/

namespace Cls

/-- `isinstance(node, exp.Query)`. -/
def isQuery : Cls → Bool
  | select | setOperation _ | subquery _ => true
  | _ => false

/-- `isinstance(node, exp.Select)`. -/
def isSelect : Cls → Bool
  | select => true
  | _ => false

/-- `isinstance(node, exp.Func)`. -/
def isFunc : Cls → Bool
  | count | generateSeries | tableFunc _ _ | func _ | anonymous _ => true
  | _ => false

/-- `isinstance(node, exp.UDTF)`. -/
def isUdtf : Cls → Bool
  | lateral _ | values _ | tableFunc _ _ => true
  | _ => false

/-- `isinstance(node, exp.Table)`. -/
def isTable : Cls → Bool
  | table _ _ _ => true
  | _ => false

/-- `isinstance(node, exp.Column)`. -/
def isColumn : Cls → Bool
  | column _ _ => true
  | _ => false

/-- `isinstance(node, exp.Star)`. -/
def isStar : Cls → Bool
  | star => true
  | _ => false

/-- `isinstance(node, exp.Count)`. -/
def isCount : Cls → Bool
  | count => true
  | _ => false

/-- `isinstance(node, exp.CTE)`. -/
def isCte : Cls → Bool
  | cte _ => true
  | _ => false

/-- `isinstance(node, exp.With)`. -/
def isWith : Cls → Bool
  | with_ _ => true
  | _ => false

/-- Whether the class has the `ctes` accessor: `exp.Query` and `exp.DDL` do. -/
def hasCtes : Cls → Bool
  | ddl _ => true
  | c => c.isQuery

/-- `type(node).__name__`. -/
def className : Cls → PyStr
  | select => lit "Select"
  | setOperation .union => lit "Union"
  | setOperation .except => lit "Except"
  | setOperation .intersect => lit "Intersect"
  | subquery _ => lit "Subquery"
  | with_ _ => lit "With"
  | cte _ => lit "CTE"
  | from_ => lit "From"
  | join => lit "Join"
  | table _ _ _ => lit "Table"
  | lateral _ => lit "Lateral"
  | values _ => lit "Values"
  | tuple => lit "Tuple"
  | column _ _ => lit "Column"
  | star => lit "Star"
  | alias_ _ => lit "Alias"
  | dot => lit "Dot"
  | paren => lit "Paren"
  | distinct => lit "Distinct"
  | count => lit "Count"
  | generateSeries => lit "GenerateSeries"
  | tableFunc name _ => name
  | func name => name
  | anonymous _ => lit "Anonymous"
  | literal _ _ => lit "Literal"
  | limit => lit "Limit"
  | offset => lit "Offset"
  | fetch => lit "Fetch"
  | lock => lit "Lock"
  | semicolon => lit "Semicolon"
  | ddl name => name
  | other name => name

/-- The alias of a row source or CTE. -/
def tableAlias : Cls → Option TableAlias
  | subquery a | cte a | table _ _ a | lateral a | values a | tableFunc _ a => a
  | _ => none

end Cls

/-- The text of an optional identifier, `""` when absent. -/
def identText (i : Option Identifier) : PyStr := (i.map Identifier.this).getD []

/-- The identifier an alias introduces. -/
def Cls.aliasIdent (c : Cls) : Option Identifier := c.tableAlias.bind TableAlias.this

/-- `node.alias`. -/
def Cls.aliasText (c : Cls) : PyStr := identText c.aliasIdent

/-- `table.name`: empty when the node wraps a function call. -/
def Cls.tableName : Cls → PyStr
  | .table _ name _ => identText name
  | _ => []

/-- `table.db`: the schema qualifier. -/
def Cls.tableDb : Cls → PyStr
  | .table db _ _ => identText db
  | _ => []

/-- `table.alias_or_name`. -/
def Cls.aliasOrName (c : Cls) : PyStr := if c.aliasText = [] then c.tableName else c.aliasText

/-! ## Reading the tree -/

namespace ExprLoc

/-- The class of a node. -/
def cls (l : ExprLoc) : Cls := l.label.cls

/-- The key of a node in its parent. -/
def key (l : ExprLoc) : ArgKey := l.label.key

/-- The children stored under a key. -/
def args (l : ExprLoc) (k : ArgKey) : List ExprLoc := l.children.filter (key · = k)

/-- The child stored under a single-valued key. -/
def arg (l : ExprLoc) (k : ArgKey) : Option ExprLoc := (l.args k).head?

/-- `node.find_all(cls)`: the nodes of a class at and below `l`, breadth first. -/
def findAll (l : ExprLoc) (p : Cls → Bool) : List ExprLoc := l.bfs.filter fun m => p m.cls

theorem mem_findAll {l m : ExprLoc} {p : Cls → Bool} :
    m ∈ l.findAll p ↔ Loc.Below l m ∧ p m.cls = true := by
  simp [findAll, Loc.mem_bfs_iff]

theorem mem_args {l m : ExprLoc} {k : ArgKey} : m ∈ l.args k ↔ m ∈ l.children ∧ m.key = k := by
  simp [args]

theorem mem_args_of_arg {l m : ExprLoc} {k : ArgKey} (h : l.arg k = some m) : m ∈ l.args k :=
  List.mem_of_head? h

theorem below_of_mem_args {l m : ExprLoc} {k : ArgKey} (h : m ∈ l.args k) : Loc.Below l m :=
  Loc.Below.refl.step (mem_args.mp h).1

theorem below_of_arg {l m : ExprLoc} {k : ArgKey} (h : l.arg k = some m) : Loc.Below l m :=
  below_of_mem_args (mem_args_of_arg h)

/-- The `With` node decorating a node. -/
def withNode (l : ExprLoc) : Option ExprLoc := l.arg .with_

/-- The CTEs of the `WITH` decorating a node, in order. -/
def withCtes (l : ExprLoc) : List ExprLoc :=
  match l.withNode with
  | none => []
  | some w => w.args .expressions

/-- `getattr(node, "ctes", ())`. -/
def ctes (l : ExprLoc) : List ExprLoc := if l.cls.hasCtes then l.withCtes else []

/-- The projections of a `SELECT`. -/
def projections (l : ExprLoc) : List ExprLoc := l.args .expressions

end ExprLoc

/-- `ast.find_all(cls)` from the root of a statement. -/
def Expression.findAll (ast : Expression) (p : Cls → Bool) : List ExprLoc :=
  ExprLoc.findAll (Loc.root ast) p

theorem Expression.mem_findAll {ast : Expression} {m : ExprLoc} {p : Cls → Bool} :
    m ∈ ast.findAll p ↔ Loc.Below (Loc.root ast) m ∧ p m.cls = true :=
  ExprLoc.mem_findAll

/-- An ancestor of a node of the statement is a node of the statement. -/
theorem Expression.below_root_of_ancestor {ast : Expression} {m p : ExprLoc}
    (hm : Loc.Below (Loc.root ast) m) (hp : p ∈ m.ancestors) : Loc.Below (Loc.root ast) p := by
  rcases hm.ancestor hp with h | h
  · simp [Loc.ancestors, Loc.root, Loc.ancestorsOf] at h
  · exact h

/-! ## Writing statements down -/

/-- An unquoted identifier. -/
def Identifier.bare (s : String) : Identifier := ⟨lit s, false⟩

/-- An alias without a column list. -/
def TableAlias.bare (s : String) : TableAlias := ⟨some (.bare s), []⟩

namespace Expression

/-- `s`, as a row source. -/
def tableRef (s : String) : Expression := .node ⟨.table none (some (.bare s)) none, .this⟩ []

/-- `s`, as a column. -/
def columnRef (key : ArgKey) (s : String) : Expression :=
  .node ⟨.column none (some (.bare s)), key⟩ []

/-- `FROM source`. -/
def fromClause (source : Expression) : Expression := .node ⟨.from_, .from_⟩ [source]

/-- `SELECT projections …`, stored under a key and followed by its other clauses. -/
def selectQuery (key : ArgKey) (projections clauses : List Expression) : Expression :=
  .node ⟨.select, key⟩ (projections ++ clauses)

/-- `s AS (body)`. -/
def cteOf (s : String) (body : Expression) : Expression :=
  .node ⟨.cte (some (.bare s)), .expressions⟩ [body]

/-- `WITH ctes`. -/
def withClause (ctes : List Expression) : Expression := .node ⟨.with_ false, .with_⟩ ctes

end Expression

/-- `SELECT x FROM notes`. -/
def plainQuery : Expression :=
  .selectQuery .this [.columnRef .expressions "x"] [.fromClause (.tableRef "notes")]

/-- The location of the node a step starts from, the remaining steps being `rest`. -/
def frameLoc (f : Frame Node) (rest : List (Frame Node)) : ExprLoc := ⟨f.parent, rest⟩

end McpSql
