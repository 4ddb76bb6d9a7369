import Mathlib.Algebra.Ring.Int.Defs
import McpSql.Exceptions
import McpSql.Foundations.Raising
import McpSql.Python.Int

/-!
# Python objects

The values a settings mapping may hold, and what the operators the startup check and the executor
apply to them return or raise: comparisons, `str`, `repr`, truth, `in`, a full match of a pattern, and
the stop of a slice.  Numbers and strings behave as the language says; what an object of another type
does is left to a parameter.  For each operator a predicate on its operands says exactly when it
raises nothing that the startup check would not raise itself.
-/

namespace McpSql

open Python PyStr Raising

/-! ## Numbers -/

/-- A `float`: `num / 2 ^ exp`, an infinity, or `nan`. -/
inductive PyFloat where
  | finite (num : ℤ) (exp : ℕ)
  | infinite (negative : Bool)
  | nan
  deriving DecidableEq, Repr

/-- `x <= y`; the comparison of an integer with a float is exact. -/
def PyFloat.le : PyFloat → PyFloat → Bool
  | .nan, _ => false
  | _, .nan => false
  | .infinite true, _ => true
  | _, .infinite false => true
  | .finite m i, .finite n j => m * 2 ^ j ≤ n * 2 ^ i
  | _, _ => false

/-- The comparisons. -/
inductive Comparison where
  | lt
  | le
  | gt
  | ge
  deriving DecidableEq, Repr

/-- The operator as it is written. -/
def Comparison.symbol : Comparison → PyStr
  | .lt => lit "<"
  | .le => lit "<="
  | .gt => lit ">"
  | .ge => lit ">="

/-- A comparison given by `<=`, on numbers; with `nan` every comparison is false. -/
def Comparison.onNumbers (x y : PyFloat) : Comparison → Bool
  | .lt => x.le y && !y.le x
  | .le => x.le y
  | .gt => y.le x && !x.le y
  | .ge => y.le x

/-- A comparison of strings. -/
def Comparison.onStrs (s t : PyStr) : Comparison → Bool
  | .lt => !PyStr.le t s
  | .le => PyStr.le s t
  | .gt => !PyStr.le s t
  | .ge => PyStr.le t s

/-! ## Objects -/

/-- A value of a settings mapping.  An instance of a subclass that keeps the operators of `int` or
`str` counts as one of these; an object of another type is known by a number. -/
inductive PyObject where
  | none
  | bool (b : Bool)
  | int (n : ℤ)
  | float (x : PyFloat)
  | str (s : PyStr)
  | other (id : ℕ)
  deriving DecidableEq, Repr

/-- What the interpreter does with objects of other types, and what it does with floats beyond
comparing them. -/
structure ObjectModel where
  typeName : ℕ → PyStr
  floatText : PyFloat → PyStr
  /-- `x + 1`, rounded. -/
  floatAddOne : PyFloat → PyFloat
  str : ℕ → Except PyExc PyStr
  repr : ℕ → Except PyExc PyStr
  truthy : ℕ → Except PyExc Bool
  /-- A comparison in which one of the operands is such an object. -/
  compare : Comparison → PyObject → PyObject → Except PyExc Bool
  /-- `obj == x`, also for an `x` of a builtin type. -/
  equals : ℕ → PyObject → Except PyExc Bool
  /-- The position of a key among the keys of a mapping or a set that are not all strings. -/
  position : PyObject → List PyObject → Except PyExc (Option ℕ)
  addOne : ℕ → Except PyExc PyObject
  /-- `operator.index(obj)`. -/
  index : ℕ → Except PyExc ℤ
  /-- The text of the `TypeError` for a pattern matched against a value that is no string. -/
  notText : PyObject → PyStr

namespace PyObject

/-- The value of a number. -/
def number : PyObject → Option PyFloat
  | bool b => some (.finite b.toNat 0)
  | int n => some (.finite n 0)
  | float x => some x
  | _ => Option.none

/-- The value of an `int`; a `bool` is one. -/
def asInt : PyObject → Option ℤ
  | bool b => some b.toNat
  | int n => some n
  | _ => Option.none

/-- The value of a `str`. -/
def asStr : PyObject → Option PyStr
  | str s => some s
  | _ => Option.none

/-- An object of another type. -/
def isOther : PyObject → Bool
  | other _ => true
  | _ => false

end PyObject

section Operators

variable (o : ObjectModel)

/-- `type(x).__name__`. -/
def typeName : PyObject → PyStr
  | .none => lit "NoneType"
  | .bool _ => lit "bool"
  | .int _ => lit "int"
  | .float _ => lit "float"
  | .str _ => lit "str"
  | .other id => o.typeName id

/-- The comparison of two numbers or of two strings. -/
def builtinOrder (a b : PyObject) : Option (Comparison → Bool) :=
  match a.number, b.number, a.asStr, b.asStr with
  | some x, some y, _, _ => some (Comparison.onNumbers x y)
  | _, _, some s, some t => some (Comparison.onStrs s t)
  | _, _, _, _ => none

/-- A comparison of two objects. -/
def richCompare (op : Comparison) (a b : PyObject) : Except PyExc Bool :=
  match builtinOrder a b with
  | some order => .ok (order op)
  | none =>
    if a.isOther || b.isOther then o.compare op a b
    else .error (.typeError (lit "'" ++ op.symbol ++ lit "' not supported between instances of '" ++
      typeName o a ++ lit "' and '" ++ typeName o b ++ lit "'"))

/-- `x == y` on objects of builtin types. -/
def builtinEqual (x y : PyObject) : Bool :=
  match x.number, y.number with
  | some m, some n => m.le n && n.le m
  | _, _ => x = y

/-- `x == y`, for a `y` of a builtin type. -/
def equalTo (x y : PyObject) : Except PyExc Bool :=
  match x with
  | .other id => o.equals id y
  | x => .ok (builtinEqual x y)

/-- `str(n)` of an integer, which is limited in length. -/
def intText (n : ℤ) : Except PyExc PyStr :=
  if (ofNat n.natAbs).length ≤ intMaxStrDigits then .ok (ofInt n)
  else .error (.valueError (lit "Exceeds the limit (4300 digits) for integer string conversion; " ++
    lit "use sys.set_int_max_str_digits() to increase the limit"))

/-- `str(x)`. -/
def strOf : PyObject → Except PyExc PyStr
  | .none => .ok (lit "None")
  | .bool true => .ok (lit "True")
  | .bool false => .ok (lit "False")
  | .int n => intText n
  | .float x => .ok (o.floatText x)
  | .str s => .ok s
  | .other id => o.str id

/-- `repr(x)`. -/
def reprOf [UnicodeDatabase] : PyObject → Except PyExc PyStr
  | .str s => .ok (PyStr.repr s)
  | .other id => o.repr id
  | x => strOf o x

/-- `bool(x)`. -/
def truthOf : PyObject → Except PyExc Bool
  | .none => .ok false
  | .bool b => .ok b
  | .int n => .ok (n ≠ 0)
  | .float x => .ok !(x.le (.finite 0 0) && (PyFloat.finite 0 0).le x)
  | .str s => .ok !s.isEmpty
  | .other id => o.truthy id

/-- The position of a key among the keys of a mapping or a set. -/
def positionOf (key : PyObject) (keys : List PyObject) : Except PyExc (Option ℕ) :=
  match key.asStr, keys.mapM PyObject.asStr with
  | some s, some texts => .ok (texts.findIdx? (· = s))
  | _, _ => o.position key keys

/-- `pattern.fullmatch(x)`, for a pattern given by the strings it matches. -/
def fullmatch (pattern : PyStr → Bool) (x : PyObject) : Except PyExc Bool :=
  match x.asStr with
  | some s => .ok (pattern s)
  | none => .error (.typeError (o.notText x))

/-- `x + 1`, for a number or an object of another type. -/
def addOne : PyObject → Except PyExc PyObject
  | .bool b => .ok (.int (b.toNat + 1))
  | .int n => .ok (.int (n + 1))
  | .float x => .ok (.float (o.floatAddOne x))
  | .other id => o.addOne id
  | x => .error (.typeError (lit "unsupported operand type(s) for +: '" ++ typeName o x ++
      lit "' and 'int'"))

/-- The stop of a slice; `None` is the end. -/
def sliceStop : PyObject → Except PyExc (Option ℤ)
  | .none => .ok none
  | .bool b => .ok (some b.toNat)
  | .int n => .ok (some n)
  | .other id => some <$> o.index id
  | _ => .error (.typeError
      (lit "slice indices must be integers or None or have an __index__ method"))

end Operators

/-- Strings are looked up among strings. -/
theorem positionOf_str (o : ObjectModel) (s : PyStr) (texts : List PyStr) :
    positionOf o (.str s) (texts.map .str) = .ok (texts.findIdx? (· = s)) := by
  have hkeys : (texts.map PyObject.str).mapM PyObject.asStr = some texts := by
    induction texts with
    | nil => rfl
    | cons t texts ih => rw [List.map_cons, List.mapM_cons, ih]; rfl
  unfold positionOf
  rw [hkeys]
  rfl

/-! ## What raises no foreign exception -/

/-- Every exception is an `ImproperlyConfigured`. -/
abbrev Focused {α : Type} (x : Except PyExc α) : Prop := Confined PyExc.isImproperlyConfigured x

theorem focused_bind {α β : Type} {x : Except PyExc α} {f : α → Except PyExc β} :
    Focused (x >>= f) ↔ Focused x ∧ ∀ a, x = .ok a → Focused (f a) := confined_bind

section Focused

variable (o : ObjectModel)

/-- Both numbers, or both strings, or one of another type that allows the comparison. -/
def Comparable (op : Comparison) (a b : PyObject) : Prop :=
  (builtinOrder a b).isSome ∨ ((a.isOther || b.isOther) = true ∧ Focused (o.compare op a b))

/-- An integer of at most 4300 digits, or no integer. -/
def Printable : PyObject → Prop
  | .int n => (ofNat n.natAbs).length ≤ intMaxStrDigits
  | .other id => Focused (o.str id)
  | _ => True

/-- The same for `repr`. -/
def Representable : PyObject → Prop
  | .other id => Focused (o.repr id)
  | x => Printable o x

/-- A value that has a truth value. -/
def HasTruth : PyObject → Prop
  | .other id => Focused (o.truthy id)
  | _ => True

/-- A key that can be looked up: a string among strings, or what the interpreter takes. -/
def LooksUp (key : PyObject) (keys : List PyObject) : Prop :=
  (key.asStr.isSome ∧ (keys.mapM PyObject.asStr).isSome) ∨ Focused (o.position key keys)

/-- A value that can be compared with `y`. -/
def HasEquality (x y : PyObject) : Prop :=
  match x with
  | .other id => Focused (o.equals id y)
  | _ => True

variable {o}

theorem focused_richCompare_iff {op : Comparison} {a b : PyObject} :
    Focused (richCompare o op a b) ↔ Comparable o op a b := by
  unfold richCompare Comparable
  cases builtinOrder a b with
  | some order => simp
  | none =>
    by_cases hother : (a.isOther || b.isOther) = true
    · simp [hother]
    · simp [hother, PyExc.isImproperlyConfigured]

theorem focused_strOf_iff {x : PyObject} : Focused (strOf o x) ↔ Printable o x := by
  cases x with
  | none => exact iff_of_true (confined_ok _ _) trivial
  | bool b =>
    refine iff_of_true ?_ trivial
    cases b with
    | false => exact confined_ok _ _
    | true => exact confined_ok _ _
  | int n =>
    show Focused (intText n) ↔ (ofNat n.natAbs).length ≤ intMaxStrDigits
    unfold intText
    by_cases hshort : (ofNat n.natAbs).length ≤ intMaxStrDigits
    · simp [hshort]
    · simp [hshort, PyExc.isImproperlyConfigured]
  | float x => exact iff_of_true (confined_ok _ _) trivial
  | str s => exact iff_of_true (confined_ok _ _) trivial
  | other id => exact Iff.rfl

theorem focused_reprOf_iff [UnicodeDatabase] {x : PyObject} :
    Focused (reprOf o x) ↔ Representable o x := by
  cases x with
  | str s => exact iff_of_true (confined_ok _ _) trivial
  | other id => exact Iff.rfl
  | none => exact @focused_strOf_iff o (.none)
  | bool b => exact @focused_strOf_iff o (.bool b)
  | int n => exact @focused_strOf_iff o (.int n)
  | float x => exact @focused_strOf_iff o (.float x)

theorem focused_truthOf_iff {x : PyObject} : Focused (truthOf o x) ↔ HasTruth o x := by
  cases x with
  | other id => exact Iff.rfl
  | none => exact iff_of_true (confined_ok _ _) trivial
  | bool b => exact iff_of_true (confined_ok _ _) trivial
  | int n => exact iff_of_true (confined_ok _ _) trivial
  | float x => exact iff_of_true (confined_ok _ _) trivial
  | str s => exact iff_of_true (confined_ok _ _) trivial

theorem focused_positionOf_iff {key : PyObject} {keys : List PyObject} :
    Focused (positionOf o key keys) ↔ LooksUp o key keys := by
  unfold positionOf LooksUp
  cases key.asStr with
  | none => simp
  | some s =>
    cases keys.mapM PyObject.asStr with
    | none => simp
    | some texts => simp

theorem focused_equalTo_iff {x y : PyObject} : Focused (equalTo o x y) ↔ HasEquality o x y := by
  cases x with
  | other id => exact Iff.rfl
  | none => exact iff_of_true (confined_ok _ _) trivial
  | bool b => exact iff_of_true (confined_ok _ _) trivial
  | int n => exact iff_of_true (confined_ok _ _) trivial
  | float x => exact iff_of_true (confined_ok _ _) trivial
  | str s => exact iff_of_true (confined_ok _ _) trivial

theorem focused_fullmatch_iff {pattern : PyStr → Bool} {x : PyObject} :
    Focused (fullmatch o pattern x) ↔ x.asStr.isSome := by
  unfold fullmatch
  cases x.asStr with
  | none => simp [PyExc.isImproperlyConfigured]
  | some s => simp

end Focused

end McpSql
