import FifiAlert.Js.Json
import FifiAlert.Js.Value

/-!
# The serialization of values

`toJson` is what `JSON.stringify` writes of a value: fields without a value are left out, and a
date is its text. `masked` hides what lies under secret keys and touches nothing else, so it is what
a redaction is to agree with. `redact` copies arrays and dates as objects, and agrees with `masked`
in what is serialized on the values without them, and on no others.
-/

namespace Js

/-- The number, with zeros in front. -/
def padded (width n : ℕ) : String :=
  let digits := toString n
  String.ofList (List.replicate (width - digits.length) '0') ++ digits

/-- The year, the month and the day of a day, counted from the first of January 1970. -/
def civilDate (day : ℤ) : ℤ × ℕ × ℕ :=
  let shifted := day + 719468
  let era := shifted / 146097
  let dayOfEra := (shifted % 146097).toNat
  let yearOfEra := (dayOfEra - dayOfEra / 1460 + dayOfEra / 36524 - dayOfEra / 146096) / 365
  let dayOfYear := dayOfEra - (365 * yearOfEra + yearOfEra / 4 - yearOfEra / 100)
  let marchMonth := (5 * dayOfYear + 2) / 153
  let month := if marchMonth < 10 then marchMonth + 3 else marchMonth - 9
  (yearOfEra + era * 400 + if month ≤ 2 then 1 else 0, month,
    dayOfYear - (153 * marchMonth + 2) / 5 + 1)

/-- The year of a date: four digits, or a sign and six. -/
def isoYear (year : ℤ) : String :=
  if 0 ≤ year ∧ year ≤ 9999 then padded 4 year.toNat
  else (if year < 0 then "-" else "+") ++ padded 6 year.natAbs

/-- `date.toISOString()`, from the time of a valid date. -/
def toISOString (time : ℤ) : String :=
  let (year, month, day) := civilDate (time / 86400000)
  let ms := (time % 86400000).toNat
  isoYear year ++ "-" ++ padded 2 month ++ "-" ++ padded 2 day ++ "T" ++
    padded 2 (ms / 3600000) ++ ":" ++ padded 2 (ms / 60000 % 60) ++ ":" ++
    padded 2 (ms / 1000 % 60) ++ "." ++ padded 3 (ms % 1000) ++ "Z"

example : toISOString 1767225600000 = "2026-01-01T00:00:00.000Z" := by decide +kernel

example : toISOString (-1) = "1969-12-31T23:59:59.999Z" := by decide +kernel

namespace Value

mutual

/-- What `JSON.stringify` writes of the value; `none` is `undefined`. -/
def toJson : Value → Option Json
  | undefined => none
  | null => some .null
  | bool b => some (.bool b)
  | num q => some (.num q)
  | str s => some (.str s)
  | date time => some (time.elim .null fun t => .str (toISOString t))
  | arr elems => some (.arr (elemsToJson elems))
  | obj fields => some (.obj (fieldsToJson fields))

def elemsToJson : List Value → List Json
  | [] => []
  | v :: vs => (toJson v).getD .null :: elemsToJson vs

def fieldsToJson : List (String × Value) → List (String × Json)
  | [] => []
  | (key, v) :: fields =>
      match toJson v with
      | none => fieldsToJson fields
      | some json => (key, json) :: fieldsToJson fields

end

/-- An own property of the value. -/
def own? : Value → String → Option Value
  | arr elems, key => (indexed 0 elems).lookup key
  | obj fields, key => fields.lookup key
  | _, _ => none

/-- What is found in the value along a path of keys. -/
def at? : Value → List String → Option Value
  | v, [] => some v
  | v, key :: path => (v.own? key).bind fun x => x.at? path

section Masked

variable (secret : String → Bool) (mask : Value)

mutual

/-- The value with the mask under every secret key, arrays and dates as they were. -/
def masked : Value → Value
  | arr elems => arr (maskedElems 0 elems)
  | obj fields => obj (maskedFields fields)
  | v => v

def maskedElems : ℕ → List Value → List Value
  | _, [] => []
  | i, v :: vs => (if secret (toString i) then mask else masked v) :: maskedElems (i + 1) vs

def maskedFields : List (String × Value) → List (String × Value)
  | [] => []
  | (key, v) :: fields => (key, if secret key then mask else masked v) :: maskedFields fields

end

mutual

/-- There is no array and no date in the value but under secret keys. -/
def isPlain : Value → Bool
  | arr _ | date _ => false
  | obj fields => fieldsPlain fields
  | _ => true

def fieldsPlain : List (String × Value) → Bool
  | [] => true
  | (key, v) :: fields => (secret key || isPlain v) && fieldsPlain fields

end

/-- Along every path without secret keys, the copy holds what serializes as the value there does
with its secrets masked. -/
def KeptBut (v copy : Value) : Prop :=
  ∀ path : List String, (∀ key ∈ path, secret key = false) → ∀ x, v.at? path = some x →
    ∃ y, copy.at? path = some y ∧ y.toJson = (masked secret mask x).toJson

variable {secret mask}

theorem toJson_eq_none_iff (v : Value) : v.toJson = none ↔ v = .undefined := by
  cases v <;> simp [toJson]

theorem redact_eq_undefined_iff (v : Value) :
    redact secret mask v = .undefined ↔ v = .undefined := by
  cases v <;> simp [redact]

theorem masked_eq_undefined_iff (v : Value) :
    masked secret mask v = .undefined ↔ v = .undefined := by
  cases v <;> simp [masked]

theorem lookup_redactFields (key : String) (fields : List (String × Value)) :
    (redactFields secret mask fields).lookup key =
      (fields.lookup key).map fun v => if secret key then mask else redact secret mask v := by
  induction fields with
  | nil => rfl
  | cons field fields ih =>
      obtain ⟨key', v⟩ := field
      rw [redactFields, List.lookup_cons, List.lookup_cons, ih]
      by_cases hkey : key = key'
      · simp [hkey]
      · simp [beq_eq_false_iff_ne.2 hkey]

theorem redactElems_eq (i : ℕ) (vs : List Value) :
    redactElems secret mask i vs = redactFields secret mask (indexed i vs) := by
  induction vs generalizing i with
  | nil => rfl
  | cons v vs ih => rw [redactElems, indexed, redactFields, ih (i + 1)]

theorem own?_redact {key : String} (hkey : secret key = false) (v : Value) :
    (redact secret mask v).own? key = (v.own? key).map (redact secret mask) := by
  cases v with
  | arr elems => simp [redact, own?, redactElems_eq, lookup_redactFields, hkey]
  | obj fields => simp [redact, own?, lookup_redactFields, hkey]
  | date time => rfl
  | _ => rfl

/-- Along a path without secret keys, redaction is met again. -/
theorem at?_redact : ∀ {path : List String}, (∀ key ∈ path, secret key = false) →
    ∀ v, (redact secret mask v).at? path = (v.at? path).map (redact secret mask)
  | [], _, _ => rfl
  | key :: path, hpath, v => by
      have ⟨hkey, hrest⟩ := List.forall_mem_cons.1 hpath
      rw [at?, at?, own?_redact hkey, Option.bind_map, Option.map_bind]
      exact Option.bind_congr fun x _ => at?_redact hrest x

theorem isPlain_of_lookup {key : String} (hkey : secret key = false) {x : Value} :
    ∀ {fields : List (String × Value)}, fieldsPlain secret fields = true →
      fields.lookup key = some x → x.isPlain secret = true
  | (key', v) :: fields, hplain, hx => by
      rw [fieldsPlain, Bool.and_eq_true, Bool.or_eq_true] at hplain
      rw [List.lookup_cons] at hx
      by_cases heq : key = key'
      · subst heq
        simp only [beq_self_eq_true, Option.some.injEq] at hx
        subst hx
        exact hplain.1.resolve_left (by simp [hkey])
      · simp only [beq_eq_false_iff_ne.2 heq] at hx
        exact isPlain_of_lookup hkey hplain.2 hx

/-- What is found in a plain value, along a path without secret keys, is plain. -/
theorem isPlain_of_at? : ∀ {path : List String}, (∀ key ∈ path, secret key = false) →
    ∀ {v x : Value}, v.isPlain secret = true → v.at? path = some x → x.isPlain secret = true
  | [], _, v, x, hplain, hx => Option.some.inj hx ▸ hplain
  | key :: path, hpath, v, x, hplain, hx => by
      have ⟨hkey, hrest⟩ := List.forall_mem_cons.1 hpath
      obtain ⟨child, hchild, hfound⟩ := Option.bind_eq_some_iff.1 hx
      cases v with
      | obj fields => exact isPlain_of_at? hrest (isPlain_of_lookup hkey hplain hchild) hfound
      | arr elems => cases hplain
      | _ => cases hchild

mutual

/-- The redacted value serializes as the masked one if and only if there is no array and no date
in it but under secret keys. -/
theorem toJson_redact_iff : ∀ v : Value,
    (redact secret mask v).toJson = (masked secret mask v).toJson ↔ v.isPlain secret = true
  | undefined | null | bool _ | num _ | str _ => by simp [redact, masked, isPlain]
  | date none | date (some _) => by simp [redact, masked, isPlain, toJson]
  | arr elems => by simp [redact, masked, isPlain, toJson]
  | obj fields => by
      simp only [redact, masked, toJson, Option.some.injEq, Json.obj.injEq, isPlain]
      exact fieldsToJson_redact_iff fields

theorem fieldsToJson_redact_iff : ∀ fields : List (String × Value),
    fieldsToJson (redactFields secret mask fields) =
      fieldsToJson (maskedFields secret mask fields) ↔ fieldsPlain secret fields = true
  | [] => by simp [redactFields, maskedFields, fieldsPlain]
  | (key, v) :: fields => by
      have hfields := fieldsToJson_redact_iff fields
      have hv := toJson_redact_iff v
      rw [redactFields, maskedFields, fieldsPlain]
      by_cases hkey : secret key = true
      · simp only [hkey, if_true, Bool.true_or, Bool.true_and, ← hfields, fieldsToJson]
        cases mask.toJson with
        | none => simp
        | some json => simp
      · simp only [Bool.eq_false_iff.2 hkey, Bool.false_eq_true, if_false, Bool.false_or,
          Bool.and_eq_true, ← hfields, ← hv, fieldsToJson]
        cases hr : (redact secret mask v).toJson with
        | none =>
            rw [toJson_eq_none_iff, redact_eq_undefined_iff] at hr
            subst hr
            simp [masked, toJson]
        | some json =>
            cases hm : (masked secret mask v).toJson with
            | none =>
                rw [toJson_eq_none_iff, masked_eq_undefined_iff] at hm
                subst hm
                simp [redact, toJson] at hr
            | some json' => simp

end

/-- Redaction keeps everything but the secrets if and only if there is no array and no date in the
value but under secret keys. -/
theorem keptBut_redact_iff (v : Value) :
    KeptBut secret mask v (redact secret mask v) ↔ v.isPlain secret = true := by
  constructor
  · intro hkept
    obtain ⟨y, hy, hjson⟩ := hkept [] (by simp) v rfl
    rwa [← @toJson_redact_iff _ mask, Option.some.inj hy]
  · intro hplain path hpath x hx
    refine ⟨redact secret mask x, by rw [at?_redact hpath, hx, Option.map_some], ?_⟩
    exact (toJson_redact_iff x).2 (isPlain_of_at? hpath hplain hx)

end Masked

end Value

end Js
