import FifiAlert.Js.Ident
import FifiAlert.Js.Value

/-!
# The interceptor of the user responses

`SanitizeUserInterceptor` walks over a response. It takes the credentials out of the accounts and
the sessions of an object that looks like a user, it walks over the items of a page, and it passes
on as it is what else a page has, and every object whose constructor has another name.
-/

namespace FifiAlert

open Js (Value)

namespace SanitizeUserInterceptor

/-- The relations of a user that hold credentials. -/
inductive Relation where
  | accounts
  | sessions
  deriving DecidableEq

/-- The keys that the destructuring of an element takes out. -/
def Relation.secrets : Relation → List String
  | accounts => ["password", "refreshToken", "accessToken", "idToken"]
  | sessions => ["token"]

/-- What the interceptor throws. -/
inductive TypeError where
  | cannotReadName
  | cannotDestructure
  | hasOwnPropertyIsNotAFunction
  deriving DecidableEq

/-- `'key' in obj`. -/
def hasKey (fields : List (String × Value)) (key : String) : Bool := (fields.lookup key).isSome

/-- `data.constructor.name !== 'Object'`: an object without a `constructor` of its own has that of
all objects. -/
def hasOtherConstructor (fields : List (String × Value)) : Except TypeError Bool :=
  match fields.lookup "constructor" with
  | none => .ok false
  | some .undefined | some .null => .error .cannotReadName
  | some (.obj own) =>
    match own.lookup "name" with
    | some (.str name) => .ok (name ≠ "Object")
    | _ => .ok true
  | some _ => .ok true

/-- `data.items && Array.isArray(data.items)`. -/
def hasItems (fields : List (String × Value)) : Bool :=
  match fields.lookup "items" with
  | some (.arr _) => true
  | _ => false

def isUserObject (fields : List (String × Value)) : Bool :=
  hasKey fields "email" && (hasKey fields "id" || hasKey fields "createdAt")

/-- How a value is read: it is passed on as it is, it is sanitized, it is the value of a relation,
whose elements are sanitized without their credentials, or it is such an element. -/
inductive Reading where
  | kept
  | sanitized
  | relation (r : Relation)
  | element (r : Relation)
  deriving DecidableEq

/-- What becomes of a field: how its value is read, and whether the copy has it. -/
structure Treatment where
  reading : Reading
  isWritten : Bool := true
  deriving DecidableEq

/-- The branches of `sanitize` for an object, and of `sanitizeUser`. Both loops call the
`hasOwnProperty` of the object for its first key. What is assigned to `__proto__` of a new object
becomes no field of it. -/
def treatment (fields : List (String × Value)) : Except TypeError (String → Treatment) :=
  match hasOtherConstructor fields with
  | .error e => .error e
  | .ok true => .ok fun _ => { reading := .kept }
  | .ok false =>
    if hasItems fields then
      .ok fun key => { reading := if key = "items" then .sanitized else .kept }
    else if hasKey fields "hasOwnProperty" then .error .hasOwnPropertyIsNotAFunction
    else if isUserObject fields then
      .ok fun key =>
        if key = "accounts" then { reading := .relation .accounts }
        else if key = "sessions" then { reading := .relation .sessions }
        else { reading := .sanitized }
    else .ok fun key => { reading := .sanitized, isWritten := key ≠ "__proto__" }

/-- What a destructuring leaves of the fields. -/
def restFields (r : Relation) (fields : List (String × Value)) : List (String × Value) :=
  fields.filter fun field => !r.secrets.contains field.1

/-- How the fields of an object are treated; an element is treated as what the destructuring leaves
of it. -/
def treatmentAs (reading : Reading) (fields : List (String × Value)) :
    Except TypeError (String → Treatment) :=
  match reading with
  | .element r => (treatment (restFields r fields)).map fun t key =>
      if r.secrets.contains key then { reading := .kept, isWritten := false } else t key
  | _ => treatment fields

/-- The characters of a string, as its own properties. -/
def characters (s : String) : List Value := s.toList.map fun c => .str c.toString

/-- `const { …, ...rest } = v`. -/
def rest (r : Relation) : Value → Except TypeError Value
  | .undefined | .null => .error .cannotDestructure
  | .obj fields => .ok (.obj (restFields r fields))
  | .arr elems => .ok (.obj (Value.indexed 0 elems))
  | .str s => .ok (.obj (Value.indexed 0 (characters s)))
  | .bool _ | .num _ | .date _ => .ok (.obj [])

/-- How the elements of an array are read. -/
def Reading.ofElems : Reading → Reading
  | kept => kept
  | relation r => element r
  | _ => sanitized

/-- The copy of an array. -/
def arrayAs : Reading → List Value → Value
  | .element _, elems => .obj (Value.indexed 0 elems)
  | _, elems => .arr elems

/-- The copy of a primitive or a date. -/
def primitiveAs : Reading → Value → Except TypeError Value
  | .element r, v => rest r v
  | _, v => .ok v

mutual

/-- `sanitize` of a value that is read in one of the ways. -/
def sanitizeAs : Reading → Value → Except TypeError Value
  | .kept, v => .ok v
  | reading, .arr elems => arrayAs reading <$> sanitizeElems reading.ofElems elems
  | reading, .obj fields => do
    let t ← treatmentAs reading fields
    let fields ← sanitizeFields t fields
    return .obj fields
  | reading, v => primitiveAs reading v

def sanitizeElems (reading : Reading) : List Value → Except TypeError (List Value)
  | [] => .ok []
  | v :: vs => do
    let v ← sanitizeAs reading v
    let vs ← sanitizeElems reading vs
    return v :: vs

def sanitizeFields (t : String → Treatment) :
    List (String × Value) → Except TypeError (List (String × Value))
  | [] => .ok []
  | (key, v) :: fields => do
    let v ← sanitizeAs (t key).reading v
    let fields ← sanitizeFields t fields
    return if (t key).isWritten then (key, v) :: fields else fields

end

/-- `sanitize`. -/
def sanitize (v : Value) : Except TypeError Value := sanitizeAs .sanitized v

end SanitizeUserInterceptor

end FifiAlert
