import Mathlib.Algebra.Group.Int.Defs
import Mathlib.Algebra.GroupWithZero.Nat
import Mathlib.Data.Rat.Defs

/-!
# JavaScript values

The values a request body, a database column of type `Json` or a decrypted blob
can hold. A number is one of the finite doubles the program handles, taken
exactly. `Number` is the conversion of a string to a number, as the program
applies it to environment variables: `none` stands for `NaN` and the infinities.
-/

namespace Js

/-- A JSON value. The fields of an object are in insertion order. -/
inductive Json where
  | null
  | bool (b : Bool)
  | num (q : ℚ)
  | str (s : String)
  | arr (elems : List Json)
  | obj (fields : List (String × Json))
  deriving Inhabited

namespace Json

/-- Property access; `none` is `undefined`. -/
def get? : Json → String → Option Json
  | obj fields, name => fields.lookup name
  | _, _ => none

/-- `if (x)`. -/
def isTruthy : Json → Bool
  | null => false
  | bool b => b
  | num q => q ≠ 0
  | str s => s ≠ ""
  | arr _ | obj _ => true

end Json

/-- `x || y` on an optional string: the empty string is falsy. -/
def orDefault (x : Option String) (y : String) : String :=
  match x with
  | none => y
  | some s => if s = "" then y else s

/-- `if (x)` on an optional string. -/
def truthy (x : Option String) : Option String :=
  x.filter fun s => s ≠ ""

theorem truthy_eq_some_iff {x : Option String} {s : String} :
    truthy x = some s ↔ x = some s ∧ s ≠ "" := by
  simp [truthy, Option.filter_eq_some_iff]

/-- The code points that `Number` and `trim` skip. -/
def isWhiteSpace (c : Char) : Bool :=
  let n := c.toNat
  (9 ≤ n && n ≤ 13) || n = 32 || n = 160 || n = 5760 || (8192 ≤ n && n ≤ 8202) ||
    n = 8232 || n = 8233 || n = 8239 || n = 8287 || n = 12288 || n = 65279

def trim (cs : List Char) : List Char :=
  ((cs.dropWhile isWhiteSpace).reverse.dropWhile isWhiteSpace).reverse

/-- The value of a digit in the given base. -/
def digitValue (base : ℕ) (c : Char) : Option ℕ :=
  let n := c.toNat
  let v? :=
    if 48 ≤ n ∧ n ≤ 57 then some (n - 48)
    else if 97 ≤ n ∧ n ≤ 122 then some (n - 87)
    else if 65 ≤ n ∧ n ≤ 90 then some (n - 55)
    else none
  v?.filter fun v => decide (v < base)

/-- A run of digits read as a natural number; the empty run reads as zero. -/
def digits (base : ℕ) (cs : List Char) : Option ℕ :=
  cs.foldlM (fun acc c => (digitValue base c).map fun v => acc * base + v) 0

def isDigit (c : Char) : Bool :=
  (digitValue 10 c).isSome

/-- The exponent part of a decimal literal, `none` when it is malformed. -/
def exponent : List Char → Option ℤ
  | [] => some 0
  | c :: cs =>
    if c ≠ 'e' ∧ c ≠ 'E' then none
    else match cs with
      | [] => none
      | '-' :: ds => if ds = [] then none else (digits 10 ds).map fun n => -(n : ℤ)
      | '+' :: ds => if ds = [] then none else (digits 10 ds).map fun n => (n : ℤ)
      | ds => (digits 10 ds).map fun n => (n : ℤ)

/-- A decimal literal without its sign. -/
def unsignedDecimal (cs : List Char) : Option ℚ := do
  let whole := cs.takeWhile isDigit
  let rest := cs.dropWhile isDigit
  let frac := match rest with
    | '.' :: ds => ds.takeWhile isDigit
    | _ => []
  let tail := match rest with
    | '.' :: ds => ds.dropWhile isDigit
    | _ => rest
  if whole = [] ∧ frac = [] then none
  else
    let n ← digits 10 (whole ++ frac)
    let e ← exponent tail
    let shift : ℤ := e - frac.length
    some (if 0 ≤ shift then (n : ℚ) * 10 ^ shift.toNat else (n : ℚ) / 10 ^ (-shift).toNat)

/-- A literal in base 2, 8 or 16, after its prefix. -/
def radixLiteral (base : ℕ) (cs : List Char) : Option ℚ :=
  if cs = [] then none else (digits base cs).map fun n => (n : ℚ)

/-- `Number(s)`. -/
def Number (s : String) : Option ℚ :=
  match trim s.toList with
  | [] => some 0
  | '0' :: 'x' :: cs => radixLiteral 16 cs
  | '0' :: 'X' :: cs => radixLiteral 16 cs
  | '0' :: 'o' :: cs => radixLiteral 8 cs
  | '0' :: 'O' :: cs => radixLiteral 8 cs
  | '0' :: 'b' :: cs => radixLiteral 2 cs
  | '0' :: 'B' :: cs => radixLiteral 2 cs
  | '-' :: cs => (unsignedDecimal cs).map fun q => -q
  | '+' :: cs => unsignedDecimal cs
  | cs => unsignedDecimal cs

/-- `parseInt(s, 10)`: the integer a string starts with, `none` for `NaN`. -/
def parseInt (s : String) : Option ℤ :=
  let cs := s.toList.dropWhile isWhiteSpace
  let signed := match cs with
    | '-' :: ds => (-1, ds)
    | '+' :: ds => (1, ds)
    | ds => ((1 : ℤ), ds)
  let ds := signed.2.takeWhile isDigit
  if ds.isEmpty then none else (digits 10 ds).map fun n => signed.1 * n

/-- A decimal literal, its sign included. -/
def signedDecimal : List Char → Option ℚ
  | '-' :: cs => (unsignedDecimal cs).map fun q => -q
  | '+' :: cs => unsignedDecimal cs
  | cs => unsignedDecimal cs

/-- `parseFloat(s)`: the longest literal that a string starts with, `none` for what is not a
finite number. -/
def parseFloat (s : String) : Option ℚ :=
  let cs := s.toList.dropWhile isWhiteSpace
  let finite (q : ℚ) : Bool := q.abs < (2 ^ 1024 - 2 ^ 970 : ℕ)
  (((List.range (cs.length + 1)).reverse.findSome? fun n =>
      signedDecimal (cs.take n))).filter finite

/-- The digits after the decimal point, at most `n` of them. -/
def fractionDigits : ℕ → ℚ → List Char
  | 0, _ => []
  | n + 1, q =>
    if q = 0 then []
    else
      let d := (q * 10).floor.toNat
      Nat.digitChar d :: fractionDigits n (q * 10 - d)

/-- A number as a string, for numbers with at most twenty decimals. -/
def decimal (q : ℚ) : String :=
  let whole := q.abs.floor.toNat
  let frac := fractionDigits 20 (q.abs - whole)
  (if q < 0 then "-" else "") ++ toString whole ++
    if frac = [] then "" else "." ++ String.ofList frac

/-- `q.toFixed(f)`. -/
def toFixed (f : ℕ) (q : ℚ) : String :=
  let n := (q.abs * 10 ^ f + 1 / 2).floor.toNat
  let frac := toString (n % 10 ^ f)
  (if q < 0 then "-" else "") ++ toString (n / 10 ^ f) ++
    if f = 0 then "" else "." ++ String.ofList (List.replicate (f - frac.length) '0') ++ frac

namespace Json

mutual

/-- A value in a template literal. An array is joined with commas. -/
def asText : Json → String
  | null => "null"
  | bool b => toString b
  | num q => decimal q
  | str s => s
  | arr elems => ",".intercalate (elemTexts elems)
  | obj _ => "[object Object]"

/-- The elements of a joined array: `null` is left empty. -/
def elemTexts : List Json → List String
  | [] => []
  | null :: es => "" :: elemTexts es
  | e :: es => asText e :: elemTexts es

end

end Json

end Js
