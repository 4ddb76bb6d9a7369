import McpSql.Python.Str

/-!
# JSON values

What `json.loads` returns, and the operations of Python that apply to a value of any type: item
lookup in a `dict`, truthiness, the `in` operator for a string on the left, and `repr`.
-/

namespace Python

open PyStr

/-- A decoded JSON value.  A float is carried by its `repr`; the keys of an object are distinct, in
the order of their first occurrence. -/
inductive Json where
  | null
  | bool (b : Bool)
  | int (n : ℤ)
  | float (text : PyStr)
  | str (s : PyStr)
  | arr (items : List Json)
  | obj (fields : List (PyStr × Json))

namespace Json

/-- The string a value is, if it is one. -/
def asStr : Json → Option PyStr
  | str s => some s
  | _ => none

/-- `body.get(key)` on a `dict`. -/
def get (fields : List (PyStr × Json)) (key : PyStr) : Option Json := fields.lookup key

/-- `bool(value)`. -/
def truthy : Json → Bool
  | null => false
  | bool b => b
  | int n => n ≠ 0
  | float text => text ≠ lit "0.0" && text ≠ lit "-0.0"
  | str s => s ≠ []
  | arr items => !items.isEmpty
  | obj fields => !fields.isEmpty

/-- `value == s` for a string `s`. -/
def isStr (s : PyStr) : Json → Bool
  | str t => t = s
  | _ => false

/-- `type(value).__name__`. -/
def typeName : Json → PyStr
  | null => lit "NoneType"
  | bool _ => lit "bool"
  | int _ => lit "int"
  | float _ => lit "float"
  | str _ => lit "str"
  | arr _ => lit "list"
  | obj _ => lit "dict"

/-- `s in value` for a string `s`; `none` is the `TypeError` of a value that is no container. -/
def hasMember (s : PyStr) : Json → Option Bool
  | str t => some (PyStr.contains s t)
  | arr items => some (items.any (isStr s))
  | obj fields => some (fields.any fun field => field.1 = s)
  | _ => none

section Repr

variable [UnicodeDatabase]

mutual

/-- `repr(value)`. -/
def repr : Json → PyStr
  | null => lit "None"
  | bool true => lit "True"
  | bool false => lit "False"
  | int n => ofInt n
  | float text => text
  | str s => PyStr.repr s
  | arr items => lit "[" ++ reprItems items ++ lit "]"
  | obj fields => lit "\x7b" ++ reprFields fields ++ lit "\x7d"

/-- The elements of a list, separated by commas. -/
def reprItems : List Json → PyStr
  | [] => []
  | [x] => repr x
  | x :: y :: rest => repr x ++ lit ", " ++ reprItems (y :: rest)

/-- The items of a dict, separated by commas. -/
def reprFields : List (PyStr × Json) → PyStr
  | [] => []
  | [(k, x)] => PyStr.repr k ++ lit ": " ++ repr x
  | (k, x) :: y :: rest => PyStr.repr k ++ lit ": " ++ repr x ++ lit ", " ++ reprFields (y :: rest)

end

end Repr

end Json

end Python
