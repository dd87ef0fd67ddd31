import FifiAlert.Errors
import FifiAlert.Shared.SanitizeUserInterceptor

/-!
# The credentials in a response

A response exposes a credential when an object that looks like a user has one in an element of its
accounts or sessions. The interceptor takes these out where it walks, and passes on what lies beside
the items of a page or under another constructor. So its output exposes exactly what `passesOn`
finds in these parts. With `deep` a credential counts at any depth of an element, without it only
among the fields of the element.
-/

namespace FifiAlert

open Js (Value)

namespace SanitizeUserInterceptor

/-- The relation that a field of an object is, if the object looks like a user. -/
def relationOf (user : Bool) (key : String) : Option Relation :=
  if user && key = "accounts" then some .accounts
  else if user && key = "sessions" then some .sessions
  else none

/-- The relations whose elements a value lies in that is one step further down. -/
def below (deep : Bool) (rs : List Relation) : List Relation := if deep then rs else []

def isUndefined : Value → Bool
  | .undefined => true
  | _ => false

/-- Is this field of an element of the relations a credential? -/
def isCredential (rs : List Relation) (key : String) (v : Value) : Bool :=
  rs.any (fun r => r.secrets.contains key) && !isUndefined v

mutual

/-- Does the value of a relation, or of no relation, expose a credential, when it lies in elements
of the relations `rs`? -/
def exposes (deep : Bool) (relation : Option Relation) (rs : List Relation) : Value → Bool
  | .arr elems => exposesElems deep (relation.toList ++ below deep rs) elems
  | .obj fields => exposesFields deep rs (isUserObject fields) fields
  | _ => false

def exposesElems (deep : Bool) (rs : List Relation) : List Value → Bool
  | [] => false
  | v :: vs => exposes deep none rs v || exposesElems deep rs vs

def exposesFields (deep : Bool) (rs : List Relation) (user : Bool) :
    List (String × Value) → Bool
  | [] => false
  | (key, v) :: fields =>
    isCredential rs key v || exposes deep (relationOf user key) (below deep rs) v ||
      exposesFields deep rs user fields

end

mutual

/-- Does the interceptor throw on a value that is read in this way? -/
def throws : Reading → Value → Bool
  | .kept, _ => false
  | reading, .arr elems => throwsElems reading.ofElems elems
  | reading, .obj fields =>
    match treatmentAs reading fields with
    | .error _ => true
    | .ok t => throwsFields t fields
  | .element _, .undefined | .element _, .null => true
  | _, _ => false

def throwsElems (reading : Reading) : List Value → Bool
  | [] => false
  | v :: vs => throws reading v || throwsElems reading vs

def throwsFields (t : String → Treatment) : List (String × Value) → Bool
  | [] => false
  | (key, v) :: fields => throws (t key).reading v || throwsFields t fields

end

/-- The fields that a copy has. -/
def writtenFields (t : String → Treatment) (fields : List (String × Value)) :
    List (String × Value) :=
  fields.filter fun field => (t field.1).isWritten

mutual

/-- Does a value that is read in this way have a credential that the interceptor passes on? -/
def passesOn (deep : Bool) (relation : Option Relation) (rs : List Relation) :
    Reading → Value → Bool
  | .kept, v => exposes deep relation rs v
  | reading, .arr elems =>
      passesOnElems deep (relation.toList ++ below deep rs) reading.ofElems elems
  | reading, .obj fields =>
    match treatmentAs reading fields with
    | .error _ => false
    | .ok t => passesOnFields deep rs (isUserObject (writtenFields t fields)) t fields
  | _, _ => false

def passesOnElems (deep : Bool) (rs : List Relation) (reading : Reading) : List Value → Bool
  | [] => false
  | v :: vs => passesOn deep none rs reading v || passesOnElems deep rs reading vs

def passesOnFields (deep : Bool) (rs : List Relation) (user : Bool) (t : String → Treatment) :
    List (String × Value) → Bool
  | [] => false
  | (key, v) :: fields =>
    ((t key).isWritten && (isCredential rs key v ||
      passesOn deep (relationOf user key) (below deep rs) (t key).reading v)) ||
      passesOnFields deep rs user t fields

end

section Throws

theorem exists_map_eq_error {ε α β : Type} {x : Except ε α} {f : α → β} :
    (∃ e, f <$> x = .error e) ↔ ∃ e, x = .error e :=
  exists_congr fun _ => except_map_eq_error

mutual

/-- `throws` says when the interceptor throws. -/
theorem throws_iff : ∀ (reading : Reading) (v : Value),
    throws reading v = true ↔ ∃ e, sanitizeAs reading v = .error e
  | .kept, v => by simp [throws, sanitizeAs]
  | .sanitized, .arr elems | .relation _, .arr elems | .element _, .arr elems => by
      simp only [throws, sanitizeAs, exists_map_eq_error]
      exact throwsElems_iff _ elems
  | .sanitized, .obj fields | .relation _, .obj fields | .element _, .obj fields => by
      simp only [throws, sanitizeAs]
      cases treatmentAs _ fields with
      | error e => simp [bind, Except.bind]
      | ok t =>
          change throwsFields t fields = true ↔
            ∃ e, (sanitizeFields t fields >>= fun fields => pure (Value.obj fields)) = .error e
          rw [throwsFields_iff t fields]
          cases sanitizeFields t fields <;> simp [bind, Except.bind, pure, Except.pure]
  | reading, .undefined => by cases reading <;> simp [throws, sanitizeAs, primitiveAs, rest]
  | reading, .null => by cases reading <;> simp [throws, sanitizeAs, primitiveAs, rest]
  | reading, .bool _ => by cases reading <;> simp [throws, sanitizeAs, primitiveAs, rest]
  | reading, .num _ => by cases reading <;> simp [throws, sanitizeAs, primitiveAs, rest]
  | reading, .str _ => by cases reading <;> simp [throws, sanitizeAs, primitiveAs, rest]
  | reading, .date _ => by cases reading <;> simp [throws, sanitizeAs, primitiveAs, rest]

theorem throwsElems_iff : ∀ (reading : Reading) (vs : List Value),
    throwsElems reading vs = true ↔ ∃ e, sanitizeElems reading vs = .error e
  | _, [] => by simp [throwsElems, sanitizeElems]
  | reading, v :: vs => by
      rw [throwsElems, sanitizeElems, Bool.or_eq_true, throws_iff reading v,
        throwsElems_iff reading vs]
      cases sanitizeAs reading v with
      | error e => simp [bind, Except.bind]
      | ok v' => cases sanitizeElems reading vs <;> simp [bind, Except.bind, pure, Except.pure]

theorem throwsFields_iff : ∀ (t : String → Treatment) (fields : List (String × Value)),
    throwsFields t fields = true ↔ ∃ e, sanitizeFields t fields = .error e
  | _, [] => by simp [throwsFields, sanitizeFields]
  | t, (key, v) :: fields => by
      rw [throwsFields, sanitizeFields, Bool.or_eq_true, throws_iff _ v, throwsFields_iff t fields]
      cases sanitizeAs (t key).reading v with
      | error e => simp [bind, Except.bind]
      | ok v' => cases sanitizeFields t fields <;> simp [bind, Except.bind, pure, Except.pure]

end

end Throws

variable {deep : Bool} {rs : List Relation} {reading : Reading} {t : String → Treatment}

section Indexed

theorem toString_ne {s : String} (h : s.toList.all Char.isDigit = false) (i : ℕ) :
    toString i ≠ s := by
  rintro rfl
  rw [Js.toList_toString, List.all_eq_false] at h
  obtain ⟨c, hc, hdigit⟩ := h
  exact hdigit (Js.isDigit_toDigits c hc)

/-- No index is a credential. -/
theorem isCredential_index (i : ℕ) (v : Value) : isCredential rs (toString i) v = false := by
  have hsecret : ∀ r : Relation, r.secrets.contains (toString i) = false := by
    intro r
    rw [← Bool.not_eq_true, List.contains_iff_mem]
    intro hmem
    have hdigits : ∀ s ∈ r.secrets, s.toList.all Char.isDigit = false := by
      cases r <;> decide
    exact toString_ne (hdigits _ hmem) i rfl
  have hany : (rs.any fun r => r.secrets.contains (toString i)) = false :=
    List.any_eq_false.2 fun r _ => by rw [hsecret r]; exact Bool.false_ne_true
  rw [isCredential, hany, Bool.false_and]

theorem hasKey_indexed {key : String} (h : key.toList.all Char.isDigit = false) (i : ℕ)
    (vs : List Value) : hasKey (Value.indexed i vs) key = false := by
  induction vs generalizing i with
  | nil => rfl
  | cons v vs ih =>
      have hne : (key == toString i) = false := beq_eq_false_iff_ne.2 (toString_ne h i).symm
      rw [hasKey, Value.indexed, List.lookup_cons, hne]
      exact ih (i + 1)

theorem exposesFields_indexed (i : ℕ) (vs : List Value) :
    exposesFields deep rs false (Value.indexed i vs) = exposesElems deep (below deep rs) vs := by
  induction vs generalizing i with
  | nil => simp [Value.indexed, exposesFields, exposesElems]
  | cons v vs ih =>
      rw [Value.indexed, exposesFields, exposesElems, isCredential_index, ih, Bool.false_or]
      rfl

/-- An array shows the same as the object of its indices. -/
theorem exposes_indexed (relation : Option Relation) (vs : List Value) :
    exposes deep relation rs (.obj (Value.indexed 0 vs)) =
      exposesElems deep (below deep rs) vs := by
  have huser : isUserObject (Value.indexed 0 vs) = false := by
    rw [isUserObject, hasKey_indexed (by decide), Bool.false_and]
  rw [exposes, huser, exposesFields_indexed]

theorem exposes_characters (relation : Option Relation) (s : String) :
    exposes deep relation rs (.obj (Value.indexed 0 (characters s))) = false := by
  rw [exposes_indexed, characters]
  induction s.toList with
  | nil => rfl
  | cons c cs ih => simpa [exposesElems, exposes] using ih

end Indexed

section Element

theorem restFields_cons (r : Relation) (key : String) (v : Value)
    (fields : List (String × Value)) :
    restFields r ((key, v) :: fields) =
      if r.secrets.contains key then restFields r fields else (key, v) :: restFields r fields := by
  rw [restFields, List.filter_cons]
  cases r.secrets.contains key <;> rfl

/-- Fields that are neither read nor written might as well be missing. -/
theorem sanitizeFields_rest (r : Relation) (t : String → Treatment)
    (fields : List (String × Value)) :
    sanitizeFields (fun key => if r.secrets.contains key then ⟨.kept, false⟩ else t key) fields =
      sanitizeFields t (restFields r fields) := by
  induction fields with
  | nil => simp [restFields, sanitizeFields]
  | cons field fields ih =>
      obtain ⟨key, v⟩ := field
      rw [sanitizeFields, restFields_cons, ih]
      cases r.secrets.contains key with
      | true =>
          simp only [if_true, sanitizeAs]
          cases sanitizeFields t (restFields r fields) <;> rfl
      | false =>
          simp only [Bool.false_eq_true, if_false]
          rw [sanitizeFields]

/-- The fields of an array are treated like those of any object. -/
theorem treatment_indexed (vs : List Value) :
    treatment (Value.indexed 0 vs) =
      .ok fun key => { reading := .sanitized, isWritten := key ≠ "__proto__" } := by
  have hnone : ∀ key : String, key.toList.all Char.isDigit = false →
      (Value.indexed 0 vs).lookup key = none := by
    intro key hkey
    have hkey' := hasKey_indexed hkey 0 vs
    rwa [hasKey, Option.isSome_eq_false_iff, Option.isNone_iff_eq_none] at hkey'
  simp [treatment, hasOtherConstructor, hasItems, isUserObject, hasKey, hnone]

theorem sanitizeFields_indexed (i : ℕ) (vs : List Value) :
    sanitizeFields (fun key => { reading := .sanitized, isWritten := key ≠ "__proto__" })
      (Value.indexed i vs) = Value.indexed i <$> sanitizeElems .sanitized vs := by
  induction vs generalizing i with
  | nil => simp [Value.indexed, sanitizeFields, sanitizeElems, Functor.map, Except.map]
  | cons v vs ih =>
      have hwritten : decide (toString i ≠ "__proto__") = true :=
        decide_eq_true (toString_ne (by decide) i)
      rw [Value.indexed, sanitizeFields, sanitizeElems, ih (i + 1)]
      cases sanitizeAs .sanitized v with
      | error e => rfl
      | ok v' =>
          cases sanitizeElems .sanitized vs with
          | error e => rfl
          | ok vs' =>
              change Except.ok (if decide (toString i ≠ "__proto__") = true then _ else _) = _
              rw [if_pos hwritten]
              rfl

theorem sanitizeElems_characters (cs : List Char) :
    sanitizeElems .sanitized (cs.map fun c => .str c.toString) =
      .ok (cs.map fun c => .str c.toString) := by
  induction cs with
  | nil => simp [sanitizeElems]
  | cons c cs ih =>
      rw [List.map_cons, sanitizeElems, ih]
      simp only [sanitizeAs, primitiveAs]
      rfl

theorem sanitize_indexed (vs : List Value) :
    sanitize (.obj (Value.indexed 0 vs)) =
      (fun vs => Value.obj (Value.indexed 0 vs)) <$> sanitizeElems .sanitized vs := by
  rw [sanitize]
  simp only [sanitizeAs, treatmentAs, treatment_indexed]
  change (sanitizeFields _ (Value.indexed 0 vs) >>= fun fields => pure (Value.obj fields)) = _
  rw [sanitizeFields_indexed]
  cases sanitizeElems .sanitized vs <;> rfl

/-- An element of a relation is destructured, and what is left of it is sanitized. -/
theorem sanitizeAs_element (r : Relation) (v : Value) :
    sanitizeAs (.element r) v = rest r v >>= sanitize := by
  cases v with
  | arr elems =>
      simp only [sanitizeAs]
      exact (sanitize_indexed elems).symm
  | str s =>
      simp only [sanitizeAs, primitiveAs, rest]
      have hchars := sanitize_indexed (characters s)
      rw [characters, sanitizeElems_characters] at hchars
      exact hchars.symm
  | obj fields =>
      simp only [sanitizeAs, treatmentAs, rest]
      change _ = sanitize (.obj (restFields r fields))
      rw [sanitize]
      simp only [sanitizeAs, treatmentAs]
      cases treatment (restFields r fields) with
      | error e => rfl
      | ok t =>
          change (sanitizeFields _ fields >>= _) = (sanitizeFields t (restFields r fields) >>= _)
          rw [sanitizeFields_rest]
  | undefined | null => rfl
  | bool _ | num _ | date _ =>
      simp only [sanitizeAs, primitiveAs, rest]
      exact (sanitize_indexed []).symm

end Element

section Fields

theorem hasKey_cons (key key' : String) (v : Value) (fields : List (String × Value)) :
    hasKey ((key, v) :: fields) key' = (key' == key || hasKey fields key') := by
  rw [hasKey, List.lookup_cons]
  cases key' == key <;> rfl

/-- The copy of an object has the keys of the written fields. -/
theorem hasKey_sanitizeFields {fields out : List (String × Value)}
    (h : sanitizeFields t fields = .ok out) (key' : String) :
    hasKey out key' = hasKey (writtenFields t fields) key' := by
  induction fields generalizing out with
  | nil =>
      cases h
      rfl
  | cons field fields ih =>
      obtain ⟨key, v⟩ := field
      rw [sanitizeFields] at h
      cases hv : sanitizeAs (t key).reading v with
      | error e =>
          rw [hv] at h
          cases h
      | ok v' =>
          cases hfields : sanitizeFields t fields with
          | error e =>
              rw [hv, hfields] at h
              cases h
          | ok out' =>
              rw [hv, hfields] at h
              cases h
              rw [writtenFields, List.filter_cons]
              cases hwritten : (t key).isWritten with
              | false => exact ih hfields
              | true =>
                  rw [if_pos rfl, if_pos rfl, hasKey_cons, hasKey_cons, ih hfields]
                  rfl

theorem isUserObject_sanitizeFields {fields out : List (String × Value)}
    (h : sanitizeFields t fields = .ok out) :
    isUserObject out = isUserObject (writtenFields t fields) := by
  simp only [isUserObject, hasKey_sanitizeFields h]

/-- No field is an element of a relation. -/
def NoElement (t : String → Treatment) : Prop := ∀ key r, (t key).reading ≠ .element r

theorem treatment_noElement {fields : List (String × Value)} (h : treatment fields = .ok t) :
    NoElement t := by
  intro key r
  unfold treatment at h
  split at h
  · cases h
  · cases h
    nofun
  · split_ifs at h <;> cases h <;> dsimp only <;> (try split_ifs) <;> nofun

theorem treatmentAs_noElement {fields : List (String × Value)}
    (h : treatmentAs reading fields = .ok t) : NoElement t := by
  cases reading with
  | element r =>
      rw [treatmentAs] at h
      cases htreat : treatment (restFields r fields) with
      | error e =>
          rw [htreat] at h
          cases h
      | ok t' =>
          rw [htreat] at h
          cases h
          intro key r'
          dsimp only
          split
          · nofun
          · exact treatment_noElement htreat key r'
  | _ => exact treatment_noElement h

/-- The copy of an object. -/
theorem sanitizeAs_obj {fields : List (String × Value)} {out : Value}
    (h : sanitizeAs reading (.obj fields) = .ok out) (hkept : reading ≠ .kept) :
    ∃ t fields', treatmentAs reading fields = .ok t ∧ sanitizeFields t fields = .ok fields' ∧
      out = .obj fields' := by
  have hrun : sanitizeAs reading (.obj fields) = (treatmentAs reading fields >>= fun t =>
      sanitizeFields t fields >>= fun fields' => pure (.obj fields')) := by
    cases reading with
    | kept => exact absurd rfl hkept
    | _ => simp only [sanitizeAs]
  rw [hrun] at h
  obtain ⟨t, ht, h⟩ := except_bind_eq_ok.1 h
  obtain ⟨fields', hfields, h⟩ := except_bind_eq_ok.1 h
  exact ⟨t, fields', ht, hfields, (Except.ok.inj h).symm⟩

/-- The copy of an array. -/
theorem sanitizeAs_arr {elems : List Value} {out : Value}
    (h : sanitizeAs reading (.arr elems) = .ok out) (hkept : reading ≠ .kept) :
    ∃ elems', sanitizeElems reading.ofElems elems = .ok elems' ∧ out = arrayAs reading elems' := by
  have hrun : sanitizeAs reading (.arr elems) =
      arrayAs reading <$> sanitizeElems reading.ofElems elems := by
    cases reading with
    | kept => exact absurd rfl hkept
    | _ => simp only [sanitizeAs]
  rw [hrun] at h
  obtain ⟨elems', helems, rfl⟩ := except_map_eq_ok.1 h
  exact ⟨elems', helems, rfl⟩

/-- A value that is no element is `undefined` after all if it was before. -/
theorem isUndefined_sanitizeAs {v out : Value} (hread : ∀ r, reading ≠ .element r)
    (h : sanitizeAs reading v = .ok out) : isUndefined out = isUndefined v := by
  by_cases hkept : reading = .kept
  · subst hkept
    rw [sanitizeAs] at h
    cases h
    rfl
  cases v with
  | arr elems =>
      obtain ⟨elems', -, rfl⟩ := sanitizeAs_arr h hkept
      cases reading <;> rfl
  | obj fields =>
      obtain ⟨t, fields', -, -, rfl⟩ := sanitizeAs_obj h hkept
      rfl
  | _ =>
      cases reading with
      | kept => exact absurd rfl hkept
      | element r => exact absurd rfl (hread r)
      | _ =>
          simp only [sanitizeAs, primitiveAs] at h
          cases h
          rfl

end Fields

section Exposed

mutual

/-- The copy of a value exposes what the interceptor passes on of it. -/
theorem exposes_sanitizeAs : ∀ (reading : Reading) (v : Value) (relation : Option Relation)
    (rs : List Relation) (out : Value), ((∃ r, reading = .element r) → relation = none) →
      sanitizeAs reading v = .ok out →
        exposes deep relation rs out = passesOn deep relation rs reading v
  | .kept, v, _, _, out, _, h => by
      rw [sanitizeAs] at h
      cases h
      rw [passesOn]
  | .sanitized, .arr elems, relation, rs, out, _, h
  | .relation _, .arr elems, relation, rs, out, _, h => by
      obtain ⟨elems', helems, rfl⟩ := sanitizeAs_arr h nofun
      rw [arrayAs, exposes, passesOn, exposesElems_sanitizeElems _ elems _ elems' helems]
      all_goals nofun
  | .element r, .arr elems, relation, rs, out, hrelation, h => by
      obtain ⟨elems', helems, rfl⟩ := sanitizeAs_arr h nofun
      rw [arrayAs, exposes_indexed, passesOn, exposesElems_sanitizeElems _ elems _ elems' helems,
        hrelation ⟨r, rfl⟩]
      · rfl
      · nofun
  | .sanitized, .obj fields, relation, rs, out, _, h
  | .relation _, .obj fields, relation, rs, out, _, h
  | .element _, .obj fields, relation, rs, out, _, h => by
      obtain ⟨t, fields', ht, hfields, rfl⟩ := sanitizeAs_obj h nofun
      rw [exposes, passesOn, ht, isUserObject_sanitizeFields hfields]
      · exact exposesFields_sanitizeFields t fields rs _ fields' (treatmentAs_noElement ht) hfields
      · nofun
  | .element _, .str s, relation, rs, out, _, h => by
      simp only [sanitizeAs, primitiveAs, rest] at h
      cases h
      rw [exposes_characters]
      rfl
  | .element _, .undefined, _, _, _, _, h => by
      simp [sanitizeAs, primitiveAs, rest] at h
  | .element _, .null, _, _, _, _, h => by
      simp [sanitizeAs, primitiveAs, rest] at h
  | .element _, .bool _, _, _, _, _, h => by
      simp only [sanitizeAs, primitiveAs, rest] at h
      cases h
      rfl
  | .element _, .num _, _, _, _, _, h => by
      simp only [sanitizeAs, primitiveAs, rest] at h
      cases h
      rfl
  | .element _, .date _, _, _, _, _, h => by
      simp only [sanitizeAs, primitiveAs, rest] at h
      cases h
      rfl
  | .sanitized, .undefined, _, _, _, _, h | .relation _, .undefined, _, _, _, _, h
  | .sanitized, .null, _, _, _, _, h | .relation _, .null, _, _, _, _, h
  | .sanitized, .bool _, _, _, _, _, h | .relation _, .bool _, _, _, _, _, h
  | .sanitized, .num _, _, _, _, _, h | .relation _, .num _, _, _, _, _, h
  | .sanitized, .str _, _, _, _, _, h | .relation _, .str _, _, _, _, _, h
  | .sanitized, .date _, _, _, _, _, h | .relation _, .date _, _, _, _, _, h => by
      simp only [sanitizeAs, primitiveAs] at h
      cases h
      rfl

theorem exposesElems_sanitizeElems : ∀ (reading : Reading) (vs : List Value) (rs : List Relation)
    (out : List Value), sanitizeElems reading vs = .ok out →
      exposesElems deep rs out = passesOnElems deep rs reading vs
  | _, [], _, out, h => by
      cases h
      rw [exposesElems, passesOnElems]
  | reading, v :: vs, rs, out, h => by
      rw [sanitizeElems] at h
      cases hv : sanitizeAs reading v with
      | error e =>
          rw [hv] at h
          cases h
      | ok v' =>
          cases hvs : sanitizeElems reading vs with
          | error e =>
              rw [hv, hvs] at h
              cases h
          | ok vs' =>
              rw [hv, hvs] at h
              cases h
              rw [exposesElems, passesOnElems,
                exposes_sanitizeAs reading v none rs v' (fun _ => rfl) hv,
                exposesElems_sanitizeElems reading vs rs vs' hvs]

theorem exposesFields_sanitizeFields : ∀ (t : String → Treatment)
    (fields : List (String × Value)) (rs : List Relation) (user : Bool)
    (out : List (String × Value)), NoElement t → sanitizeFields t fields = .ok out →
      exposesFields deep rs user out = passesOnFields deep rs user t fields
  | _, [], _, _, out, _, h => by
      cases h
      rw [exposesFields, passesOnFields]
  | t, (key, v) :: fields, rs, user, out, ht, h => by
      rw [sanitizeFields] at h
      cases hv : sanitizeAs (t key).reading v with
      | error e =>
          rw [hv] at h
          cases h
      | ok v' =>
          cases hfields : sanitizeFields t fields with
          | error e =>
              rw [hv, hfields] at h
              cases h
          | ok out' =>
              rw [hv, hfields] at h
              cases h
              have htail := exposesFields_sanitizeFields t fields rs user out' ht hfields
              have hhead := exposes_sanitizeAs (t key).reading v (relationOf user key)
                (below deep rs) v' (fun ⟨r, hr⟩ => absurd hr (ht key r)) hv
              rw [passesOnFields, ← htail, ← hhead]
              cases hwritten : (t key).isWritten with
              | false => simp
              | true =>
                  rw [if_pos rfl, exposesFields, isCredential, isCredential,
                    isUndefined_sanitizeAs (ht key) hv, Bool.true_and]

end

end Exposed

/-- No object in the output that looks like a user has a credential in an element of its accounts
or sessions. -/
def HidesCredentials (deep : Bool) (v : Value) : Prop :=
  ∀ out, sanitize v = .ok out → exposes deep none [] out = false

/-- The interceptor hides the credentials of a response exactly when it throws or passes none of
them on. -/
theorem hidesCredentials_iff (deep : Bool) (v : Value) :
    HidesCredentials deep v ↔
      throws .sanitized v = true ∨ passesOn deep none [] .sanitized v = false := by
  unfold HidesCredentials sanitize
  rw [throws_iff]
  cases hout : sanitizeAs .sanitized v with
  | error e => simp
  | ok out =>
      have hexposes : exposes deep none [] out = passesOn deep none [] .sanitized v :=
        exposes_sanitizeAs .sanitized v none [] out (fun _ => rfl) hout
      simp [hexposes]

/-- A page with the user who asked for it beside its items. -/
def pageWithOwner : Value :=
  .obj [("items", .arr []), ("owner", .obj [("id", .num 1), ("email", .str "ann@example.com"),
    ("accounts", .arr [.obj [("providerId", .str "credential"), ("password", .str "hash")]])])]

/-- The password leaves with the response. -/
theorem hidesCredentials_page :
    (sanitize pageWithOwner).toOption.map (exposes false none []) = some true ∧
      ∀ deep, ¬ HidesCredentials deep pageWithOwner := by
  refine ⟨by decide +kernel, fun deep => ?_⟩
  rw [hidesCredentials_iff]
  cases deep <;> decide +kernel

end SanitizeUserInterceptor

end FifiAlert
