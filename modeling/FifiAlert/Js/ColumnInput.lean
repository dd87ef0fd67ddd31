import FifiAlert.Js.Text
import FifiAlert.Js.Value
import Mathlib.Data.List.Infix

/-!
# Values for columns

What a program does with a value of an unchecked object before it hands the object to a database
client, and what the client takes the value for: a column gets a new value, or an operation
changes the one that is stored.
-/

namespace Js

namespace Json

/-- `x.length`. -/
def length? : Json → Option Json
  | str s => some (num (utf16Length s.toList))
  | arr elems => some (num elems.length)
  | obj fields => fields.lookup "length"
  | _ => none

/-- The number that a comparison takes a value for; `none` is `NaN`. -/
def toNumber : Json → Option ℚ
  | null => some 0
  | bool b => some (if b then 1 else 0)
  | num q => some q
  | x => Number x.asText

/-- `x < n`; nothing compares with `undefined`. -/
def isBelow (n : ℚ) (x : Option Json) : Bool := (x.bind toNumber).any fun q => q < n

/-- `x > n`. -/
def isAbove (n : ℚ) (x : Option Json) : Bool := (x.bind toNumber).any fun q => n < q

/-- `x === y` for values of different origin; no two objects are the same. -/
def isSame : Json → Json → Bool
  | null, null => true
  | bool a, bool b => a = b
  | num p, num q => p = q
  | str s, str t => s = t
  | _, _ => false

/-- `x.includes(y)`; only strings and arrays have the method. -/
def includes? : Json → Json → Option Bool
  | str s, y => some (decide (y.asText.toList <:+: s.toList))
  | arr elems, y => some (elems.any fun x => x.isSame y)
  | _, _ => none

/-- The fields with the names that an object has, each once. -/
def ownFields : List (String × Json) → List (String × Json)
  | [] => []
  | field :: fields => field :: (ownFields fields).filter fun other => other.1 ≠ field.1

theorem nodup_ownFields (fields : List (String × Json)) :
    ((ownFields fields).map Prod.fst).Nodup := by
  induction fields with
  | nil => exact List.nodup_nil
  | cons field fields ih =>
      rw [ownFields, List.map_cons, List.nodup_cons]
      refine ⟨fun hmem => ?_, ih.sublist (List.filter_sublist.map _)⟩
      obtain ⟨other, hother, heq⟩ := List.mem_map.1 hmem
      exact of_decide_eq_true (List.mem_filter.1 hother).2 heq

theorem mem_ownFields {name : String} {fields : List (String × Json)} :
    name ∈ (ownFields fields).map Prod.fst ↔ name ∈ fields.map Prod.fst := by
  induction fields with
  | nil => rfl
  | cons field fields ih =>
      have hrest : name ∈ ((ownFields fields).filter fun other => other.1 ≠ field.1).map Prod.fst ↔
          name ∈ (ownFields fields).map Prod.fst ∧ name ≠ field.1 := by
        simp only [List.mem_map, List.mem_filter, decide_eq_true_eq]
        grind
      rw [ownFields, List.map_cons, List.mem_cons, hrest, ih, List.map_cons, List.mem_cons]
      tauto

/-- The code units of a text; half of a character that takes two is no character itself. -/
def codeUnits (cs : List Char) : List Char :=
  cs.flatMap fun c => if c.toNat < 0x10000 then [c] else [Char.ofNat 0xFFFD, Char.ofNat 0xFFFD]

/-- The elements of an array, under their indices. -/
def byIndex (elems : List Json) : List (String × Json) :=
  elems.zipIdx.map fun elem => (toString elem.2, elem.1)

/-- The fields that are enumerated; those of an array and of a text are its elements. -/
def ownEntries : Json → List (String × Json)
  | obj fields => ownFields fields
  | arr elems => ownFields (byIndex elems)
  | str s => ownFields (byIndex ((codeUnits s.toList).map fun c => str (String.singleton c)))
  | _ => []

theorem nodup_ownEntries (x : Json) : (x.ownEntries.map Prod.fst).Nodup := by
  cases x with
  | obj fields | arr elems | str s => exact nodup_ownFields _
  | _ => exact List.nodup_nil

/-- `Object.entries(x)`, which throws for `undefined` and `null`. -/
def entries? : Option Json → Option (List (String × Json))
  | none | some null => none
  | some x => some x.ownEntries

theorem nodup_of_entries? {x : Option Json} {entries : List (String × Json)}
    (h : entries? x = some entries) : (entries.map Prod.fst).Nodup := by
  cases x with
  | none => cases h
  | some x =>
      cases x with
      | null => cases h
      | _ =>
          obtain rfl := Option.some.inj h
          exact nodup_ownEntries _

/-- The names of the properties that an array has from its prototype, and its length. -/
def arrayPrototype : List String :=
  ["length", "at", "concat", "copyWithin", "fill", "find", "findIndex", "findLast",
    "findLastIndex", "lastIndexOf", "pop", "push", "reverse", "shift", "unshift", "slice", "sort",
    "splice", "includes", "indexOf", "join", "keys", "entries", "values", "forEach", "filter",
    "flat", "flatMap", "map", "every", "some", "reduce", "reduceRight", "toReversed", "toSorted",
    "toSpliced", "with"]

/-- `name in x`, which throws for what is no object. -/
def has? (x : Option Json) (name : String) : Option Bool :=
  match x with
  | some (obj fields) => some (hasProperty (fields.map Prod.fst) name)
  | some (arr elems) =>
      some (hasProperty ((arr elems).ownEntries.map Prod.fst) name || arrayPrototype.contains name)
  | _ => none

theorem mem_of_has? {x : Option Json} {name : String} {entries : List (String × Json)}
    (h : has? x name = some true) (hentries : entries? x = some entries) :
    name ∈ entries.map Prod.fst ∨ name ∈ objectPrototype ++ arrayPrototype := by
  cases x with
  | none => cases h
  | some x =>
      cases x with
      | obj fields =>
          obtain rfl := Option.some.inj hentries
          have hname := Option.some.inj h
          simp only [hasProperty, Bool.or_eq_true, List.contains_iff_mem] at hname
          rw [ownEntries, mem_ownFields, List.mem_append]
          tauto
      | arr elems =>
          obtain rfl := Option.some.inj hentries
          have hname := Option.some.inj h
          simp only [hasProperty, Bool.or_eq_true, List.contains_iff_mem] at hname
          rw [List.mem_append]
          tauto
      | _ => cases h

def string? : Json → Option String
  | str s => some s
  | _ => none

def bool? : Json → Option Bool
  | bool b => some b
  | _ => none

/-- A number that fits an `Int` of the database client. -/
def int32? : Json → Option ℤ
  | num q => if q.den = 1 ∧ -2 ^ 31 ≤ q.num ∧ q.num < 2 ^ 31 then some q.num else none
  | _ => none

theorem isSame_str {x : Json} {s : String} : x.isSame (str s) = true ↔ x = str s := by
  cases x <;> simp [isSame]

/-- A string is among strings as they are. -/
theorem includes?_strings (photos : List String) (s : String) :
    (arr (photos.map str)).includes? (str s) = some (photos.contains s) := by
  rw [includes?, List.any_map]
  congr 1
  rw [Bool.eq_iff_iff, List.any_eq_true, List.contains_iff_mem]
  constructor
  · rintro ⟨x, hx, hsame⟩
    obtain rfl := str.inj (isSame_str.1 hsame)
    exact hx
  · intro hs
    exact ⟨s, hs, isSame_str.2 rfl⟩

theorem mapM_string?_eq_some {elems : List Json} {xs : List String} :
    elems.mapM string? = some xs ↔ elems = xs.map str := by
  induction elems generalizing xs with
  | nil => cases xs <;> simp
  | cons x elems ih =>
      rw [List.mapM_cons]
      cases x with
      | str s =>
          cases xs with
          | nil => simp [string?, Option.bind_eq_some_iff]
          | cons s' xs => simp [string?, Option.bind_eq_some_iff, ih, and_comm]
      | _ => cases xs <;> simp [string?]

end Json

/-- The object with one of its fields replaced. -/
def assign (key : String) (v : Json) (fields : List (String × Json)) : List (String × Json) :=
  (key, v) :: fields.filter fun field => field.1 ≠ key

theorem lookup_filter_key (keep : String → Bool) {key : String} (hkey : keep key = true)
    (fields : List (String × Json)) :
    (fields.filter fun field => keep field.1).lookup key = fields.lookup key := by
  induction fields with
  | nil => rfl
  | cons field fields ih =>
      rw [List.filter_cons]
      split
      next => rw [List.lookup_cons, List.lookup_cons, ih]
      next hdropped =>
        have hne : (key == field.1) = false := by
          rw [beq_eq_false_iff_ne]
          rintro rfl
          exact hdropped hkey
        rw [List.lookup_cons, hne, ih]

theorem lookup_assign_self (key : String) (v : Json) (fields : List (String × Json)) :
    (assign key v fields).lookup key = some v := by
  rw [assign, List.lookup_cons, beq_self_eq_true]

theorem lookup_assign_of_ne {key key' : String} (h : key' ≠ key) (v : Json)
    (fields : List (String × Json)) : (assign key v fields).lookup key' = fields.lookup key' := by
  rw [assign, List.lookup_cons, beq_eq_false_iff_ne.2 h]
  exact lookup_filter_key (fun k => k ≠ key) (by simpa using h) fields

section Columns

variable {α : Type}

/-- The value of one column in an update: `none` when the client refuses it. -/
def column (meaning : Json → Option α) (data : List (String × Json)) (key : String) :
    Option (Option α) :=
  match data.lookup key with
  | none => some none
  | some v => (meaning v).map some

theorem column_eq_some {meaning : Json → Option α} {data : List (String × Json)} {key : String}
    {change : Option α} :
    column meaning data key = some change ↔
      (data.lookup key = none ∧ change = none) ∨
        ∃ v a, data.lookup key = some v ∧ meaning v = some a ∧ change = some a := by
  unfold column
  cases data.lookup key with
  | none => simp [eq_comm]
  | some v => simp [Option.map_eq_some_iff, eq_comm]

/-- A new value, by itself or with the operation `set`. -/
def newValue (read : Json → Option α) : Json → Option α
  | .obj [("set", v)] => read v
  | v => read v

/-- A value of a column that can be `NULL`. -/
def nullable (read : Json → Option α) : Json → Option (Option α)
  | .null => some none
  | v => (read v).map some

/-- What becomes of a list that is stored. -/
inductive ListChange (α : Type) where
  | set (elems : List α)
  | push (elems : List α)

def ListChange.apply : ListChange α → List α → List α
  | set elems, _ => elems
  | push elems, stored => stored ++ elems

def listChange (read : Json → Option α) : Json → Option (ListChange α)
  | .arr elems => (elems.mapM read).map .set
  | .obj [("set", .arr elems)] => (elems.mapM read).map .set
  | .obj [("push", .arr elems)] => (elems.mapM read).map .push
  | .obj [("push", v)] => (read v).map fun a => .push [a]
  | _ => none

/-- What becomes of an integer that is stored. -/
inductive IntChange where
  | set (n : ℤ)
  | increment (n : ℤ)
  | decrement (n : ℤ)
  | multiply (n : ℤ)
  | divide (n : ℤ)

/-- An integer column has 32 bits. -/
def int4 (n : ℤ) : Option ℤ := if -2 ^ 31 ≤ n ∧ n < 2 ^ 31 then some n else none

/-- The new integer, unless the database refuses it. -/
def IntChange.apply : IntChange → ℤ → Option ℤ
  | set n, _ => int4 n
  | increment n, stored => int4 (stored + n)
  | decrement n, stored => int4 (stored - n)
  | multiply n, stored => int4 (stored * n)
  | divide n, stored => if n = 0 then none else int4 (stored.tdiv n)

/-- An integer column after an update, unless the database refuses it. -/
def changed (change : Option IntChange) (stored : ℤ) : Option ℤ :=
  change.elim (some stored) fun change => change.apply stored

def intChange (read : Json → Option ℤ) : Json → Option IntChange
  | .obj [("set", v)] => (read v).map .set
  | .obj [("increment", v)] => (read v).map .increment
  | .obj [("decrement", v)] => (read v).map .decrement
  | .obj [("multiply", v)] => (read v).map .multiply
  | .obj [("divide", v)] => (read v).map .divide
  | v => (read v).map .set

/-- A text of a column of so many characters; spaces beyond these are cut off. -/
def varchar (n : ℕ) (text : String) : Option String :=
  if (text.toList.drop n).all fun c => c = ' ' then some (.ofList (text.toList.take n)) else none

end Columns

end Js
