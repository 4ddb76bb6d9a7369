import McpSql.Python.Codecs
import McpSql.Python.Int
import McpSql.Python.JsonText

/-!
# Reading JSON

`json.loads` as CPython's C scanner does it, with the exceptions it raises.  The scanner is written
once for a scanner of the values inside a container; the containers that may still be opened are
counted, and a deeper one is the `RecursionError`.
-/

namespace Python

open PyStr

/-- What `json.loads` raises. -/
inductive LoadsError where
  /-- The bytes do not decode: a `UnicodeDecodeError`. -/
  | unicode
  /-- The text is no JSON: a `JSONDecodeError`. -/
  | syntactic
  /-- The containers are nested too deeply: a `RecursionError`. -/
  | recursion
  /-- An integer has too many digits: a `ValueError`. -/
  | tooLong
  deriving DecidableEq, Repr

/-- What `json.loads` takes from the interpreter. -/
structure JsonReader where
  /-- How many containers may be nested at the call. -/
  depth : ℕ
  /-- `repr(float(s))`. -/
  floatRepr : PyStr → PyStr

namespace Json

/-- A scanner returns what it reads and the text behind it. -/
abbrev Scan (α : Type) := PyStr → Except LoadsError (α × PyStr)

/-- Whitespace between tokens. -/
def isBlank (c : CodePoint) : Bool := c = 0x20 || c = 0x09 || c = 0x0a || c = 0x0d

/-- The text behind some whitespace. -/
def skipBlanks (s : PyStr) : PyStr := s.dropWhile isBlank

/-! ## Strings -/

/-- The character of a one-letter escape. -/
def escaped (c : CodePoint) : Option CodePoint :=
  if c = 0x22 || c = 0x5c || c = 0x2f then some c
  else if c = 0x62 then some 0x08
  else if c = 0x66 then some 0x0c
  else if c = 0x6e then some 0x0a
  else if c = 0x72 then some 0x0d
  else if c = 0x74 then some 0x09
  else none

/-- Four hexadecimal digits. -/
def hexUnit (a b c d : CodePoint) : Option ℕ :=
  if isHexDigit a && isHexDigit b && isHexDigit c && isHexDigit d then
    some (0x1000 * hexValue a + 0x100 * hexValue b + 0x10 * hexValue c + hexValue d)
  else none

/-- The character of an escape, after its backslash. -/
def readEscape : Scan CodePoint
  | [] => .error .syntactic
  | e :: rest =>
    if e ≠ 0x75 then
      match escaped e with
      | none => .error .syntactic
      | some d => .ok (d, rest)
    else
      match rest with
      | h₁ :: h₂ :: h₃ :: h₄ :: rest =>
        match hexUnit h₁ h₂ h₃ h₄ with
        | none => .error .syntactic
        | some unit =>
          match rest with
          | 0x5c :: 0x75 :: l₁ :: l₂ :: l₃ :: l₄ :: rest' =>
            if isHighSurrogate unit then
              -- the next escape may be the other half of a pair of surrogates
              match hexUnit l₁ l₂ l₃ l₄ with
              | none => .error .syntactic
              | some low =>
                if isLowSurrogate low then .ok (joinSurrogates unit low, rest')
                else .ok (Fin.ofNat 0x110000 unit, rest)
            else .ok (Fin.ofNat 0x110000 unit, rest)
          | rest => .ok (Fin.ofNat 0x110000 unit, rest)
      | _ => .error .syntactic

/-- A character of a string, which begins with the given one. -/
def readChar (c : CodePoint) (rest : PyStr) : Except LoadsError (CodePoint × PyStr) :=
  if c.val < 0x20 then .error .syntactic
  else if c = 0x5c then readEscape rest
  else .ok (c, rest)

/-- `scanstring` in strict mode, after the opening quote; the number bounds the characters. -/
def scanString : ℕ → Scan PyStr
  | _, [] => .error .syntactic
  | 0, _ => .error .syntactic
  | fuel + 1, c :: rest =>
    if c = 0x22 then .ok ([], rest)
    else do
      let (d, rest) ← readChar c rest
      let (tail, rest) ← scanString fuel rest
      return (d :: tail, rest)

/-! ## Numbers and names -/

/-- The integer digits: a zero alone, or digits that do not start with one. -/
def integerPart : PyStr → Option (PyStr × PyStr)
  | [] => none
  | c :: rest =>
    if c = 0x30 then some ([c], rest)
    else if isAsciiDigit c then
      some (c :: rest.takeWhile isAsciiDigit, rest.dropWhile isAsciiDigit)
    else none

/-- A point with digits behind it, or nothing. -/
def fractionPart (s : PyStr) : PyStr × PyStr :=
  match s with
  | point :: d :: rest =>
    if point = 0x2e && isAsciiDigit d then
      (point :: d :: rest.takeWhile isAsciiDigit, rest.dropWhile isAsciiDigit)
    else ([], s)
  | _ => ([], s)

/-- A sign of an exponent, or nothing. -/
def exponentSign (s : PyStr) : PyStr × PyStr :=
  match s with
  | c :: rest => if c = 0x2b || c = 0x2d then ([c], rest) else ([], s)
  | [] => ([], [])

/-- An `e` with an exponent behind it, or nothing. -/
def exponentPart (s : PyStr) : PyStr × PyStr :=
  match s with
  | [] => ([], [])
  | e :: rest =>
    let (sign, digits) := exponentSign rest
    if (e = 0x65 || e = 0x45) && digits.head?.any isAsciiDigit then
      (e :: sign ++ digits.takeWhile isAsciiDigit, digits.dropWhile isAsciiDigit)
    else ([], s)

/-- The number that ASCII digits spell. -/
def digitsValue (digits : PyStr) : ℕ := digits.foldl (fun n c => 10 * n + (c.val - 0x30)) 0

/-- The minus sign of a number, or nothing. -/
def minusSign (s : PyStr) : Bool × PyStr :=
  match s with
  | c :: rest => if c = 0x2d then (true, rest) else (false, s)
  | [] => (false, [])

/-- `_match_number_unicode`. -/
def scanNumber (floatRepr : PyStr → PyStr) (s : PyStr) : Except LoadsError (Json × PyStr) :=
  let (negative, unsigned) := minusSign s
  match integerPart unsigned with
  | none => .error .syntactic
  | some (digits, rest) =>
    let (fraction, rest) := fractionPart rest
    let (exponent, rest) := exponentPart rest
    if fraction = [] && exponent = [] then
      if digits.length ≤ intMaxStrDigits then
        .ok (.int (if negative then -(digitsValue digits : ℤ) else digitsValue digits), rest)
      else .error .tooLong
    else .ok (.float (floatRepr ((if negative then lit "-" else []) ++ digits ++ fraction ++
      exponent)), rest)

/-- The values that have names. -/
def constants : List (PyStr × Json) :=
  [(lit "null", .null), (lit "true", .bool true), (lit "false", .bool false),
    (lit "NaN", .float (lit "nan")), (lit "Infinity", .float (lit "inf")),
    (lit "-Infinity", .float (lit "-inf"))]

/-- A value by its name. -/
def scanConstant (s : PyStr) : Option (Json × PyStr) :=
  constants.findSome? fun (name, value) =>
    if startsWith name s then some (value, s.drop name.length) else none

/-! ## Containers -/

/-- `fields[key] = value`. -/
def setItem (key : PyStr) (value : Json) : List (PyStr × Json) → List (PyStr × Json)
  | [] => [(key, value)]
  | (k, x) :: rest => if k = key then (k, value) :: rest else (k, x) :: setItem key value rest

/-- The items of a container up to its closing character, separated by commas; the number bounds
the items. -/
def scanItems {α : Type} (closing : CodePoint) (item : Scan α) : ℕ → Scan (List α)
  | 0, _ => .error .syntactic
  | fuel + 1, s => do
    let (x, rest) ← item s
    match skipBlanks rest with
    | [] => .error .syntactic
    | c :: rest =>
      if c = closing then return ([x], rest)
      else if c = 0x2c then do
        let (xs, rest) ← scanItems closing item fuel (skipBlanks rest)
        return (x :: xs, rest)
      else .error .syntactic

/-- The items of a container that may be empty, after its opening character. -/
def scanContainer {α : Type} (closing : CodePoint) (item : Scan α) (s : PyStr) :
    Except LoadsError (List α × PyStr) :=
  match skipBlanks s with
  | [] => .error .syntactic
  | c :: rest =>
    if c = closing then .ok ([], rest) else scanItems closing item (c :: rest).length (c :: rest)

/-- `_parse_array_unicode`. -/
def scanArray (value : Scan Json) (s : PyStr) : Except LoadsError (Json × PyStr) := do
  let (items, rest) ← scanContainer 0x5d value s
  return (.arr items, rest)

/-- A member of an object. -/
def scanMember (value : Scan Json) : Scan (PyStr × Json)
  | [] => .error .syntactic
  | c :: rest =>
    if c = 0x22 then do
      let (key, rest) ← scanString rest.length rest
      match skipBlanks rest with
      | [] => .error .syntactic
      | c :: rest =>
        if c = 0x3a then do
          let (x, rest) ← value (skipBlanks rest)
          return ((key, x), rest)
        else .error .syntactic
    else .error .syntactic

/-- `_parse_object_unicode`. -/
def scanObject (value : Scan Json) (s : PyStr) : Except LoadsError (Json × PyStr) := do
  let (members, rest) ← scanContainer 0x7d (scanMember value) s
  return (.obj (members.foldl (fun fields member => setItem member.1 member.2 fields) []), rest)

/-! ## Values -/

/-- `scan_once_unicode`, for scanners of what an opening bracket or brace begins. -/
def scanWith (floatRepr : PyStr → PyStr) (array object : Scan Json) : Scan Json
  | [] => .error .syntactic
  | c :: rest =>
    if c = 0x22 then do
      let (s, rest) ← scanString rest.length rest
      return (.str s, rest)
    else if c = 0x7b then object rest
    else if c = 0x5b then array rest
    else
      match scanConstant (c :: rest) with
      | some found => .ok found
      | none => scanNumber floatRepr (c :: rest)

/-- `scan_once_unicode`, where so many containers may be opened. -/
def scanOnce (floatRepr : PyStr → PyStr) : ℕ → Scan Json
  | 0 => scanWith floatRepr (fun _ => .error .recursion) (fun _ => .error .recursion)
  | depth + 1 => scanWith floatRepr (scanArray (scanOnce floatRepr depth))
      (scanObject (scanOnce floatRepr depth))

/-- `JSONDecoder.decode`. -/
def decode (reader : JsonReader) (s : PyStr) : Except LoadsError Json := do
  let (value, rest) ← scanOnce reader.floatRepr reader.depth (skipBlanks s)
  if skipBlanks rest = [] then return value else .error .syntactic

/-- `json.loads(bytes)`. -/
def loads (reader : JsonReader) (bytes : List Byte) : Except LoadsError Json :=
  match decodeDetected bytes with
  | none => .error .unicode
  | some s => decode reader s

end Json

end Python
