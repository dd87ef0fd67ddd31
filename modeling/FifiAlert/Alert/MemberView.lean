import FifiAlert.Alert.AnonymousView

/-!
# What members can tell apart

A member who has not created an alert sees all of it but the contact details. The
phone is shown if it is public; the email is the creator's own. Two tables of alerts
that differ in these only are to look the same to the member, by each lookup. A search
keeps this as long as its page is given by numerals: any other text is a part of the
statement, and may ask for the contacts.
-/

namespace FifiAlert

open Concurrency Store Js AlertService

/-- The alerts differ only in the contact email and, where the phone is not public, in
the contact phone. -/
def Alert.SameButContacts (a a' : Alert) : Prop :=
  a' = { a with
    contact_email := a'.contact_email
    contact_phone := if a.is_phone_public then a.contact_phone else a'.contact_phone }

/-- The alert without the contact details that the member does not see. -/
def Alert.memberPart (userId : ℕ) (a : Alert) : Alert :=
  if a.creator_id = userId then a
  else { a with
    contact_email := none
    contact_phone := if a.is_phone_public then a.contact_phone else none }

/-- Row by row, the tables differ at most in the contacts of alerts of others. -/
def SameToMember (userId : ℕ) (t t' : Alerts) : Prop :=
  List.Forall₂ (fun a a' => a = a' ∨ a.creator_id ≠ userId ∧ a.SameButContacts a') t.rows t'.rows

theorem Alert.SameButContacts.memberPart {a a' : Alert} (h : a.SameButContacts a') {userId : ℕ}
    (hother : a.creator_id ≠ userId) : a.memberPart userId = a'.memberPart userId := by
  rw [Alert.SameButContacts] at h
  have hcreator : a'.creator_id = a.creator_id := by rw [h]
  unfold Alert.memberPart
  rw [hcreator, if_neg hother, if_neg hother, h]
  cases a.is_phone_public <;> rfl

theorem SameToMember.rows {userId : ℕ} {t t' : Alerts} (h : SameToMember userId t t') :
    t.rows.map (Alert.memberPart userId) = t'.rows.map (Alert.memberPart userId) := by
  unfold SameToMember at h
  generalize t.rows = rows, t'.rows = rows' at h ⊢
  induction h with
  | nil => rfl
  | cons hrow _ ih =>
      have hhead := hrow.elim (fun heq => heq ▸ rfl) fun hcontacts =>
        hcontacts.2.memberPart hcontacts.1
      rw [List.map_cons, List.map_cons, hhead, ih]

section MemberPart

variable (userId : ℕ) (a : Alert)

@[simp] theorem memberPart_id : (a.memberPart userId).id = a.id := by
  unfold Alert.memberPart
  split <;> rfl

@[simp] theorem memberPart_status : (a.memberPart userId).status = a.status := by
  unfold Alert.memberPart
  split <;> rfl

@[simp] theorem memberPart_pet_id : (a.memberPart userId).pet_id = a.pet_id := by
  unfold Alert.memberPart
  split <;> rfl

@[simp] theorem memberPart_pet_species : (a.memberPart userId).pet_species = a.pet_species := by
  unfold Alert.memberPart
  split <;> rfl

@[simp] theorem memberPart_created_at : (a.memberPart userId).created_at = a.created_at := by
  unfold Alert.memberPart
  split <;> rfl

@[simp] theorem memberPart_location_point :
    (a.memberPart userId).location_point = a.location_point := by
  unfold Alert.memberPart
  split <;> rfl

@[simp] theorem memberPart_affected_postal_codes :
    (a.memberPart userId).affected_postal_codes = a.affected_postal_codes := by
  unfold Alert.memberPart
  split <;> rfl

theorem mapRaw_memberPart (tagId : Option String) (distance_km : Option ℚ) :
    mapRawToResponseDto (a.memberPart userId) tagId distance_km =
      mapRawToResponseDto a tagId distance_km := by
  unfold Alert.memberPart
  split
  · rfl
  · cases hphone : a.is_phone_public <;> simp [mapRawToResponseDto, hphone]

theorem mapTo_memberPart (pet : Option Pet) (sightings : List Sighting) :
    mapToResponseDto ⟨a.memberPart userId, pet, sightings⟩ (some userId) =
      mapToResponseDto ⟨a, pet, sightings⟩ (some userId) := by
  unfold Alert.memberPart
  split
  · rfl
  · rename_i hother
    have hno : ¬ userId = a.creator_id := fun heq => hother heq.symm
    cases hphone : a.is_phone_public <;>
      simp [mapToResponseDto, mapRawToResponseDto, hphone, hno]

end MemberPart

section Lookups

variable {E : AlertQueryEnv} {P : Paging} {userId : ℕ} {w : World} {t' : Alerts}

/-- What the member is answered about the row under an id. -/
theorem findAlert_toMember (h : SameToMember userId w.alerts t') (id : ℕ) :
    ((w.findAlert id).map fun row => mapToResponseDto row (some userId)) =
      (({ w with alerts := t' } : World).findAlert id).map fun row =>
        mapToResponseDto row (some userId) := by
  have hanswer : ∀ u : Alerts, ((({ w with alerts := u } : World).findAlert id).map fun row =>
      mapToResponseDto row (some userId)) =
        ((u.find? id).map (Alert.memberPart userId)).map fun a =>
          mapToResponseDto ⟨a, a.pet_id.bind w.pets.find?, w.sightings.findMany fun s =>
            s.alert_id = id && !s.dismissed⟩ (some userId) := by
    intro u
    cases hrow : u.find? id with
    | none => simp [World.findAlert, hrow]
    | some a => simp [World.findAlert, hrow, mapTo_memberPart]
  have hfind := Table.map_find?_congr _ (memberPart_id userId) h.rows id
  rw [hanswer t', ← hfind]
  exact hanswer w.alerts

theorem findById_toMember (h : SameToMember userId w.alerts t') (fails : AlertCall → Bool)
    (id : ℕ) :
    ((findById id (some userId)).runWith fails w).1 =
      ((findById id (some userId)).runWith fails { w with alerts := t' }).1 := by
  have hsame := congrArg (Option.map fun dto => applyViewerRedaction dto (some userId))
    (findAlert_toMember h id)
  rw [Option.map_map, Option.map_map] at hsame
  unfold findById
  rw [Process.runWith_bind, Process.runWith_bind, AlertCall.read, Process.runWith_query,
    Process.runWith_query]
  cases fails (.alertFindUnique id) with
  | true => rfl
  | false => exact congrArg Except.ok hsame

theorem findActiveByTagId_toMember (hties : E.rowOrder.Positional)
    (h : SameToMember userId w.alerts t') (fails : AlertCall → Bool) (tagId : String) :
    ((findActiveByTagId E tagId (some userId)).runWith fails w).1 =
      ((findActiveByTagId E tagId (some userId)).runWith fails { w with alerts := t' }).1 := by
  have hid := tagRow_congr (Alert.memberPart userId) hties tagId (memberPart_id userId)
    (memberPart_status userId) (memberPart_pet_id userId) (memberPart_created_at userId) h.rows
  have hsame : ((tagRow E tagId w).bind fun a => w.findAlert a.id).map
      (fun row => mapToResponseDto row (some userId)) =
        ((tagRow E tagId { w with alerts := t' }).bind fun a =>
          ({ w with alerts := t' } : World).findAlert a.id).map
            fun row => mapToResponseDto row (some userId) := by
    have hbind : ∀ v : World, ((tagRow E tagId v).bind fun a => v.findAlert a.id) =
        ((tagRow E tagId v).map Alert.id).bind v.findAlert := by
      intro v
      rw [Option.bind_map]
      rfl
    rw [hbind, hbind, ← hid, Option.map_bind, Option.map_bind]
    exact Option.bind_congr fun id _ => findAlert_toMember h id
  have hanswer := congrArg (Option.map fun dto => applyViewerRedaction dto (some userId)) hsame
  rw [Option.map_map, Option.map_map] at hanswer
  unfold findActiveByTagId
  rw [Process.runWith_bind, Process.runWith_bind, AlertCall.read, Process.runWith_query,
    Process.runWith_query]
  cases fails (.alertFindFirst tagId) with
  | true => rfl
  | false => exact congrArg Except.ok hanswer

theorem findNearby_runWith (fails : AlertCall → Bool) (query : ListAlertsQueryDto) (v : World) :
    ((findNearby E P query (some userId)).runWith fails v).1 =
      if fails (.alertQueryRaw query) then .error (.prisma .other)
      else (queryRaw E P query v).map (List.map (nearbyAnswer (some userId))) := by
  unfold findNearby
  rw [Process.runWith_bind, Process.runWith_atomic]
  cases fails (.alertQueryRaw query) with
  | true => rfl
  | false => cases queryRaw E P query v <;> rfl

theorem findNearby_toMember (hties : E.rowOrder.Positional) (h : SameToMember userId w.alerts t')
    (fails : AlertCall → Bool) {query : ListAlertsQueryDto} (hpage : query.NumeralPage) :
    ((findNearby E P query (some userId)).runWith fails w).1 =
      ((findNearby E P query (some userId)).runWith fails { w with alerts := t' }).1 := by
  rw [findNearby_runWith, findNearby_runWith]
  cases hc : query.conditions E with
  | none =>
      unfold queryRaw
      rw [hc]
  | some c =>
      have hselect : ∀ a, isNearby E c (Alert.memberPart userId a) = isNearby E c a := by
        simp [isNearby]
      rw [queryRaw_congr (Alert.memberPart userId) hties hc hpage hselect
        (fun a => by simp [nearbyRow]) (memberPart_created_at userId) (nearbyAnswer (some userId))
        (fun row => by unfold nearbyAnswer; rw [mapRaw_memberPart]) h.rows]

end Lookups

/-- The member is answered the same, whatever the contacts of the alerts of others, whichever
calls fail. -/
def HidesContacts (E : AlertQueryEnv) (P : Paging) (userId : ℕ) (request : AlertLookup) : Prop :=
  ∀ (w : World) (t' : Alerts), SameToMember userId w.alerts t' → ∀ fails : AlertCall → Bool,
    ((request.service E P (some userId)).runWith fails w).1 =
      ((request.service E P (some userId)).runWith fails { w with alerts := t' }).1

/-- The database refuses the search, or its page is given by numerals. -/
def AlertLookup.CutByNumerals (E : AlertQueryEnv) : AlertLookup → Prop
  | findAll query => query.Refused E ∨ query.NumeralPage
  | _ => True

section Lookups

variable {E : AlertQueryEnv} {P : Paging} {userId : ℕ}

theorem hidesContacts_refused {query : ListAlertsQueryDto} (hread : query.Refused E) :
    HidesContacts E P userId (.findAll query) := by
  intro w t' _ fails
  have hrefused : ∀ v : World, queryRaw E P query v = .error (.prisma .other) := by
    intro v
    unfold queryRaw
    rw [hread]
  change ((findNearby E P query (some userId)).runWith fails w).1 =
    ((findNearby E P query (some userId)).runWith fails { w with alerts := t' }).1
  rw [findNearby_runWith, findNearby_runWith, hrefused, hrefused]

/-- A search that is cut by no numeral may show whether a contact is given. -/
theorem not_hidesContacts_cut {query : ListAlertsQueryDto} (hread : ¬ query.Refused E)
    (hpage : ¬ query.NumeralPage) : ¬ HidesContacts E .peeking userId (.findAll query) := by
  intro hhides
  have hother : userId + 1 ≠ userId := by omega
  have hsame : SameToMember userId
      (Table.empty.insertNew { id := 0, creator_id := userId + 1, contact_email := some "" })
      (Table.empty.insertNew { id := 0, creator_id := userId + 1 }) :=
    .cons (.inr ⟨hother, rfl⟩) .nil
  have hanswer := hhides { (default : World) with
    alerts := Table.empty.insertNew
      { id := 0, creator_id := userId + 1, contact_email := some "" } } _ hsame fun _ => false
  change ((findNearby E .peeking query (some userId)).runWith (fun _ => false) _).1 =
    ((findNearby E .peeking query (some userId)).runWith (fun _ => false) _).1 at hanswer
  rw [findNearby_runWith, findNearby_runWith, queryRaw_peeking hread hpage,
    queryRaw_peeking hread hpage] at hanswer
  cases hanswer

end Lookups

/-- Whatever the database makes of the texts that are no numerals, the contacts of the alerts
of others stay hidden from a member: exactly when the lookup is a single one, or a search
that is refused or whose page is given by numerals. -/
theorem hidesContacts_iff (E : AlertQueryEnv) (hties : E.rowOrder.Positional) (userId : ℕ)
    (request : AlertLookup) :
    (∀ P, HidesContacts E P userId request) ↔ request.CutByNumerals E := by
  cases request with
  | findOne id =>
      refine iff_of_true (fun P w t' h fails => ?_) trivial
      unfold AlertLookup.service
      rw [Process.runWith_map, Process.runWith_map, findById_toMember h fails id]
  | findByTag tagId =>
      refine iff_of_true (fun P w t' h fails => ?_) trivial
      unfold AlertLookup.service
      rw [Process.runWith_map, Process.runWith_map, findActiveByTagId_toMember hties h fails tagId]
  | findAll query =>
      constructor
      · intro hhides
        by_contra hcut
        obtain ⟨hread, hpage⟩ := not_or.1 hcut
        exact not_hidesContacts_cut hread hpage (hhides .peeking)
      · rintro (hread | hpage) P
        · exact hidesContacts_refused hread
        · intro w t' h fails
          exact findNearby_toMember hties h fails hpage

/-- Alert 7 of user 1, for the pet with tag T, with these contacts. -/
def reachedAt (email phone : String) : Alerts :=
  Table.empty.insertNew
    { id := 7, creator_id := 1, pet_id := some 3, contact_email := some email
      contact_phone := some phone }

def taggedWorld : World where
  pets := Table.empty.insertNew { id := 3, userId := 1, tagId := "T" }
  alerts := reachedAt "ann@example.com" "111"

/-- User 2 lists the newest alerts, and with a limit that is a subquery. -/
theorem hidesContacts_iff_newest :
    (∀ P, HidesContacts flatQueries P 2 (.findAll { limit := some (.str "20") })) ∧
      ¬ ∀ P, HidesContacts flatQueries P 2
        (.findAll { limit := some (.str "(SELECT 20)") }) := by
  have hiff := hidesContacts_iff flatQueries RowOrder.insertion_positional 2
  constructor
  · apply (hiff _).2
    exact .inr ⟨by decide +kernel, by decide +kernel⟩
  · intro hhides
    rcases (hiff _).1 hhides with hread | ⟨hlimit, _⟩
    · unfold ListAlertsQueryDto.Refused at hread
      exact absurd hread (by decide +kernel)
    · exact absurd hlimit (by decide +kernel)

/-- A limit that asks for the first letter of an email. -/
def emailProbe : String :=
  "(SELECT CASE WHEN contact_email LIKE 'a%' THEN 1 ELSE 0 END FROM alert WHERE id = 7)"

/-- The database evaluates the subquery; no row is no limit. -/
def probing : Paging :=
  .other fun limit offset w rows =>
    if limit = emailProbe ∧ offset = "0" then
      .ok (match w.alerts.find? 7 with
        | none => rows
        | some a =>
            rows.take (if (a.contact_email.getD "").toList.head? = some 'a' then 1 else 0))
    else .error (.prisma .other)

/-- Two emails of alert 7: the answer to user 2 has a row or none. -/
theorem search_reveals_email :
    SameToMember 2 (reachedAt "ann@example.com" "111") (reachedAt "bob@example.com" "222") ∧
      ¬ HidesContacts flatQueries probing 2 (.findAll { limit := some (.str emailProbe) }) := by
  have hsame : SameToMember 2 (reachedAt "ann@example.com" "111")
      (reachedAt "bob@example.com" "222") :=
    .cons (.inr ⟨by decide, rfl⟩) .nil
  refine ⟨hsame, fun hhides => ?_⟩
  have hread : ({ limit := some (.str emailProbe) } : ListAlertsQueryDto).conditions flatQueries =
      some ⟨.ACTIVE, none, none, none⟩ := rfl
  have hpage : ¬ ({ limit := some (.str emailProbe) } : ListAlertsQueryDto).NumeralPage := by
    rintro ⟨hlimit, -⟩
    revert hlimit
    decide +kernel
  have hanswer := hhides taggedWorld _ hsame fun _ => false
  change ((findNearby flatQueries probing _ (some 2)).runWith (fun _ => false) _).1 =
    ((findNearby flatQueries probing _ (some 2)).runWith (fun _ => false) _).1 at hanswer
  rw [findNearby_runWith, findNearby_runWith] at hanswer
  unfold queryRaw probing at hanswer
  rw [hread] at hanswer
  dsimp only at hanswer
  rw [Paging.other_cut hpage, Paging.other_cut hpage] at hanswer
  revert hanswer
  decide +kernel

end FifiAlert
