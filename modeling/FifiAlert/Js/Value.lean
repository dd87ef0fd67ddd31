import Mathlib.Data.Rat.Defs

/-!
# JavaScript values with dates

What a response or the payload of an event is built of: primitives, dates, arrays and plain
objects. `redact` replaces what an object holds under secret keys, at every depth. Two values that
agree but for what lies under secret keys are redacted alike.
-/

namespace Js

/-- A value. The fields of an object are in their order; `none` is the time of an invalid date. -/
inductive Value where
  | undefined
  | null
  | bool (b : Bool)
  | num (q : ℚ)
  | str (s : String)
  | date (time : Option ℤ)
  | arr (elems : List Value)
  | obj (fields : List (String × Value))
  deriving Inhabited

namespace Value

/-- `if (x)`. -/
def isTruthy : Value → Bool
  | undefined | null => false
  | bool b => b
  | num q => q ≠ 0
  | str s => s ≠ ""
  | date _ | arr _ | obj _ => true

/-- The own properties of an array, from an index on. -/
def indexed : ℕ → List Value → List (String × Value)
  | _, [] => []
  | i, v :: vs => (toString i, v) :: indexed (i + 1) vs

section Redact

variable (secret : String → Bool) (mask : Value)

mutual

/-- A copy of the value, with the mask under every secret key. The copy of an array is an object,
and the copy of a date has no properties. -/
def redact : Value → Value
  | arr elems => obj (redactElems 0 elems)
  | obj fields => obj (redactFields fields)
  | date _ => obj []
  | v => v

def redactElems : ℕ → List Value → List (String × Value)
  | _, [] => []
  | i, v :: vs =>
      (toString i, if secret (toString i) then mask else redact v) :: redactElems (i + 1) vs

def redactFields : List (String × Value) → List (String × Value)
  | [] => []
  | (key, v) :: fields => (key, if secret key then mask else redact v) :: redactFields fields

end

mutual

/-- Redacting once is enough. -/
theorem redact_redact (hmask : redact secret mask mask = mask) :
    ∀ v, redact secret mask (redact secret mask v) = redact secret mask v
  | arr elems => congrArg obj (redactFields_redactElems hmask 0 elems)
  | obj fields => congrArg obj (redactFields_redactFields hmask fields)
  | date _ | undefined | null | bool _ | num _ | str _ => rfl

theorem redactFields_redactElems (hmask : redact secret mask mask = mask) :
    ∀ i vs, redactFields secret mask (redactElems secret mask i vs) = redactElems secret mask i vs
  | _, [] => rfl
  | i, v :: vs => by
      simp only [redactElems, redactFields, redactFields_redactElems hmask]
      split
      · rfl
      · rw [redact_redact hmask v]

theorem redactFields_redactFields (hmask : redact secret mask mask = mask) :
    ∀ fields, redactFields secret mask (redactFields secret mask fields) =
      redactFields secret mask fields
  | [] => rfl
  | (key, v) :: fields => by
      simp only [redactFields, redactFields_redactFields hmask]
      split
      · rfl
      · rw [redact_redact hmask v]

end

mutual

/-- The values agree but for what lies under secret keys. -/
inductive SameBut : Value → Value → Prop
  | same (v : Value) : SameBut v v
  | arr {vs vs' : List Value} (helems : SameElems vs vs') : SameBut (.arr vs) (.arr vs')
  | obj {fields fields' : List (String × Value)} (hfields : SameFields fields fields') :
      SameBut (.obj fields) (.obj fields')

inductive SameElems : List Value → List Value → Prop
  | nil : SameElems [] []
  | cons {v v' : Value} {vs vs' : List Value} (hv : SameBut v v') (helems : SameElems vs vs') :
      SameElems (v :: vs) (v' :: vs')

inductive SameFields : List (String × Value) → List (String × Value) → Prop
  | nil : SameFields [] []
  | secret {key : String} {v v' : Value} {fields fields' : List (String × Value)}
      (hkey : secret key = true) (hfields : SameFields fields fields') :
      SameFields ((key, v) :: fields) ((key, v') :: fields')
  | cons {key : String} {v v' : Value} {fields fields' : List (String × Value)}
      (hv : SameBut v v') (hfields : SameFields fields fields') :
      SameFields ((key, v) :: fields) ((key, v') :: fields')

end

variable {secret}

theorem SameBut.isTruthy_eq {v v' : Value} (h : SameBut secret v v') :
    v.isTruthy = v'.isTruthy := by
  cases h <;> rfl

mutual

/-- Such values are redacted alike. -/
theorem SameBut.redact_eq {v v' : Value} :
    SameBut secret v v' → redact secret mask v = redact secret mask v'
  | .same v => rfl
  | .arr helems => congrArg Value.obj (helems.redact_eq 0)
  | .obj hfields => congrArg Value.obj hfields.redact_eq

theorem SameElems.redact_eq {vs vs' : List Value} :
    SameElems secret vs vs' → ∀ i, redactElems secret mask i vs = redactElems secret mask i vs'
  | .nil, _ => rfl
  | .cons hv helems, i => by simp only [redactElems, hv.redact_eq, helems.redact_eq]

theorem SameFields.redact_eq {fields fields' : List (String × Value)} :
    SameFields secret fields fields' →
      redactFields secret mask fields = redactFields secret mask fields'
  | .nil => rfl
  | .secret hkey hfields => by simp only [redactFields, hkey, if_true, hfields.redact_eq]
  | .cons hv hfields => by simp only [redactFields, hv.redact_eq, hfields.redact_eq]

end

end Redact

end Value

/-- The names of the properties that an object does not have from its own keys. -/
def objectPrototype : List String :=
  ["constructor", "__defineGetter__", "__defineSetter__", "hasOwnProperty", "__lookupGetter__",
    "__lookupSetter__", "isPrototypeOf", "propertyIsEnumerable", "toString", "valueOf", "__proto__",
    "toLocaleString"]

/-- `name in object`, from the keys of the object. -/
def hasProperty (keys : List String) (name : String) : Bool :=
  keys.contains name || objectPrototype.contains name

end Js
