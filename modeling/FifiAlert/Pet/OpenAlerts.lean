import FifiAlert.Adoption.AdoptionService
import Mathlib.Data.Fintype.EquivFin

/-!
# Open alerts follow the pet

An alert shows the name and the photos of its pet as they were copied to it. Whoever changes the
pet has to copy them to the open alerts again. The update of a pet does, by itself and with its
listing, as long as the request names no relation of the pet but to connect it, since its body goes
to the database client as it is. Adding photos to a listed pet does not, so the open alerts follow
if and only if none of them shows anything else than the pet then has (`openAlerts_follow_iff`).
-/

namespace FifiAlert

open Concurrency Store AdoptionService Js

/-- The alert shows the pet as it is. -/
def Alert.Shows (alert : Alert) (pet : Pet) : Prop :=
  alert.pet_name = pet.name ∧ alert.pet_photos = orderedPetPhotos pet

instance (alert : Alert) (pet : Pet) : Decidable (alert.Shows pet) :=
  inferInstanceAs (Decidable (_ ∧ _))

/-- Every open alert of the pet shows it as it is. -/
def World.OpenAlertsShow (w : World) (pet : Pet) : Prop :=
  ∀ a ∈ w.alerts.rows, a.pet_id = some pet.id → a.isOpen = true → a.Shows pet

instance (w : World) (pet : Pet) : Decidable (w.OpenAlertsShow pet) :=
  inferInstanceAs (Decidable (∀ a ∈ w.alerts.rows, _ → _ → _))

/-- From one state to the next the open alerts of a pet whose face has changed follow it, and
closed alerts are unchanged. -/
structure AlertsFollow (petId : ℕ) (w w' : World) : Prop where
  shown : ∀ pet, w'.pets.find? petId = some pet →
    (w.pets.find? petId).map Pet.face ≠ some pet.face → w'.OpenAlertsShow pet
  closed : ∀ a ∈ w.alerts.rows, a.isOpen = false → w'.alerts.find? a.id = some a

namespace AlertsFollow

variable {petId : ℕ} {w w' w'' : World}

/-- Nothing has to follow a pet whose face stays as it is. -/
theorem of_sameFace
    (hface : (w'.pets.find? petId).map Pet.face = (w.pets.find? petId).map Pet.face)
    (hclosed : ∀ a ∈ w.alerts.rows, a.isOpen = false → w'.alerts.find? a.id = some a) :
    AlertsFollow petId w w' where
  shown := by
    intro pet hfound hchanged
    rw [← hface, hfound] at hchanged
    exact absurd rfl hchanged
  closed := hclosed

theorem refl (w : World) : AlertsFollow petId w w :=
  of_sameFace rfl fun _ ha _ => Table.find?_of_mem ha

/-- What happens besides the pets and the alerts does not matter. -/
theorem congr_right (h : AlertsFollow petId w w') (hpets : w''.pets = w'.pets)
    (halerts : w''.alerts = w'.alerts) : AlertsFollow petId w w'' where
  shown := fun pet hfound hchanged a ha => by
    rw [hpets] at hfound
    rw [halerts] at ha
    exact h.shown pet hfound hchanged a ha
  closed := fun a ha hclosed => by
    rw [halerts]
    exact h.closed a ha hclosed

end AlertsFollow

section Sync

variable {pet : Pet} {w : World}

theorem syncAlertSnapshots_shows : (PetService.syncAlertSnapshots pet w).OpenAlertsShow pet := by
  intro a ha hpet hopen
  obtain ⟨b, -, hb⟩ := List.mem_map.1 ha
  by_cases hsynced : (b.pet_id = some pet.id && b.isOpen) = true
  · rw [if_pos (by simpa using hsynced)] at hb
    subst hb
    exact ⟨rfl, rfl⟩
  · rw [if_neg (by simpa using hsynced)] at hb
    subst hb
    exact absurd (by simp [hpet, hopen]) hsynced

theorem syncAlertSnapshots_closed {a : Alert} (ha : a ∈ w.alerts.rows)
    (hclosed : a.isOpen = false) :
    (PetService.syncAlertSnapshots pet w).alerts.find? a.id = some a := by
  unfold PetService.syncAlertSnapshots
  rw [Table.find?_updateMany, Table.find?_of_mem ha]
  simp [hclosed]

end Sync

section Writes

variable {C : PetClient} {w w' : World} {petId : ℕ}

/-- A write that leaves the alerts alone leaves the face of the pet alone. -/
def PetWrite.Sound (write : PetWrite) : Prop :=
  write.snapshotChanged = false →
    ∀ name ∈ ["name", "photos", "primaryPhoto"], write.data.lookup name = none

theorem PetWrite.Sound.face_apply {write : PetWrite} (h : write.Sound)
    (hsnapshot : write.snapshotChanged = false) {input : PetUpdateInput}
    (hparse : parsePetUpdate C write.data = some input) (pet : Pet) :
    (input.apply pet).face = pet.face := by
  have hnone := h hsnapshot
  have hface := PetService.parsedFace hparse
  have hkept : ∀ {α : Type} {meaning : Json → Option α} {name : String} {change : Option α},
      name ∈ ["name", "photos", "primaryPhoto"] →
        column meaning write.data name = some change → change = none := by
    intro α meaning name change hname hcolumn
    rcases column_eq_some.1 hcolumn with ⟨-, h⟩ | ⟨v, a, hlookup, -⟩
    · exact h
    · rw [hnone name hname] at hlookup
      cases hlookup
  simp [Pet.face, PetUpdateInput.apply, hkept (by simp) hface.name, hkept (by simp) hface.photos,
    hkept (by simp) hface.primaryPhoto]

/-- The operations on relations that an update gets to. -/
def World.relationsOf (C : PetClient) (w : World) (write : PetWrite) : List (String × Json) :=
  match parsePetUpdate C write.data, w.pets.find? write.id with
  | some input, some pet =>
    if (PetService.checkColumns input pet w).isOk then input.relations else []
  | _, _ => []

theorem relationsOf_of_ok {write : PetWrite} {updated : Pet}
    (h : PetService.petUpdate C write.id write.data w = .ok (updated, w')) :
    w.relationsOf C write = petRelations write.data := by
  unfold PetService.petUpdate at h
  unfold World.relationsOf
  cases hparse : parsePetUpdate C write.data with
  | none =>
      rw [hparse] at h
      cases h
  | some input =>
      rw [hparse] at h
      cases hfound : w.pets.find? write.id with
      | none =>
          rw [hfound] at h
          cases h
      | some pet =>
          rw [hfound] at h
          dsimp only at h ⊢
          cases hcheck : PetService.checkColumns input pet w with
          | error e =>
              rw [hcheck] at h
              cases h
          | ok _ => exact (PetService.parsedFace hparse).relations

/-- The transaction of `updatePet`, for a request that does no more than connect the pet. -/
theorem run_alertsFollow (hC : C.Lawful) {write : PetWrite} (hsound : write.Sound)
    (hconnects : (w.relationsOf C write).all connects = true) {updated : Pet}
    (h : PetService.run C write w = .ok (updated, w')) : AlertsFollow petId w w' := by
  unfold PetService.run at h
  split at h
  · cases h
  next updated₁ w₁ hupdate =>
    obtain ⟨rfl, hw'⟩ := Prod.mk.inj (Except.ok.inj h)
    rw [relationsOf_of_ok hupdate] at hconnects
    obtain ⟨input, pet, hparse, hfound, hrewritten⟩ :=
      PetService.petUpdate_rewritten hC hconnects hupdate
    have hpets : w'.pets = w₁.pets := by
      rw [← hw']
      split <;> rfl
    have hclosed : ∀ a ∈ w.alerts.rows, a.isOpen = false → w'.alerts.find? a.id = some a := by
      intro a ha hclosed
      rw [← hrewritten.alerts] at ha
      rw [← hw']
      split
      · exact syncAlertSnapshots_closed ha hclosed
      · exact Table.find?_of_mem ha
    by_cases heq : petId = write.id
    · subst heq
      cases hsnapshot : write.snapshotChanged with
      | false =>
          refine .of_sameFace ?_ hclosed
          rw [hpets, hrewritten.row, hfound, Option.map_some, Option.map_some, hrewritten.face,
            hsound.face_apply hsnapshot hparse]
      | true =>
          refine ⟨fun pet' hpet' _ => ?_, hclosed⟩
          rw [hpets, hrewritten.row] at hpet'
          cases hpet'
          rw [hsnapshot, if_pos rfl] at hw'
          exact hw' ▸ syncAlertSnapshots_shows
    · exact .of_sameFace (hpets ▸ hrewritten.others petId heq) hclosed

end Writes

section Runs

variable {C : PetClient} {w : World} {petId maxPhotos id userId : ℕ}

/-- The input with the pet type of the request, if that exists. -/
def World.withPetType (w : World) (petTypeId : Option Json) (updateInput : List (String × Json)) :
    Option (List (String × Json)) :=
  match petTypeId with
  | none => some updateInput
  | some petTypeId =>
    if (petTypeId.int32?.bind Int.toNat?).any w.petTypes.contains then
      some (assign "petType" (PetService.connect petTypeId) updateInput)
    else none

/-- What `updatePet` is about to write, if its checks pass. -/
def World.petWrite (w : World) (maxPhotos id userId : ℕ) (data : UpdatePetDto) :
    Option PetWrite := do
  let existing ← (w.pets.find? id).filter fun pet => pet.userId = userId
  let updateInput ← (PetService.photosInput maxPhotos data existing).toOption
  let data' ← w.withPetType (data.lookup "petTypeId") updateInput
  return { id, data := data', snapshotChanged := PetService.snapshotChanged data }

theorem findOwn_run (id userId : ℕ) (w : World) :
    ((w.pets.find? id).filter (fun pet => pet.userId = userId) = none ∧
        ∃ e, (PetService.findOne id userId).run w = (.error e, w)) ∨
      ∃ pet, (w.pets.find? id).filter (fun pet => pet.userId = userId) = some pet ∧
        (PetService.findOne id userId).run w = (.ok pet, w) := by
  unfold PetService.findOne AlertCall.read
  rw [Process.run_query_bind]
  cases w.pets.find? id with
  | none => exact .inl ⟨rfl, _, rfl⟩
  | some pet =>
      rw [Option.filter_some]
      by_cases howner : pet.userId = userId
      · exact .inr ⟨pet, by simp [howner], by simp [howner]⟩
      · refine .inl ⟨by simp [howner], ?_⟩
        dsimp only
        rw [if_pos howner]
        exact ⟨_, rfl⟩

theorem connectPetType_run (petTypeId : Option Json) (updateInput : List (String × Json))
    (w : World) :
    (w.withPetType petTypeId updateInput = none ∧
        ∃ e, (PetService.connectPetType petTypeId updateInput).run w = (.error e, w)) ∨
      ∃ data, w.withPetType petTypeId updateInput = some data ∧
        (PetService.connectPetType petTypeId updateInput).run w = (.ok data, w) := by
  unfold World.withPetType PetService.connectPetType
  cases petTypeId with
  | none => exact .inr ⟨updateInput, rfl, rfl⟩
  | some petTypeId =>
      unfold PetService.requirePetType
      dsimp only
      rw [Option.bind_some]
      cases petTypeId.int32? with
      | none => exact .inl ⟨rfl, _, rfl⟩
      | some n =>
          rw [Option.bind_some]
          dsimp only
          rw [Process.run_bind, Process.run_query_bind]
          cases n.toNat?.any w.petTypes.contains with
          | true => exact .inr ⟨_, rfl, rfl⟩
          | false => exact .inl ⟨rfl, _, rfl⟩

/-- Before its transaction the update of a pet changes nothing. -/
theorem prepareUpdate_run (maxPhotos id userId : ℕ) (data : UpdatePetDto) (w : World) :
    (w.petWrite maxPhotos id userId data = none ∧
        ∃ e, (PetService.prepareUpdate maxPhotos id userId data).run w = (.error e, w)) ∨
      ∃ write, w.petWrite maxPhotos id userId data = some write ∧
        (PetService.prepareUpdate maxPhotos id userId data).run w = (.ok write, w) := by
  unfold PetService.prepareUpdate World.petWrite
  rw [Process.run_bind, Process.run_relabel]
  rcases findOwn_run id userId w with ⟨hnone, e, hrun⟩ | ⟨existing, hexisting, hrun⟩
  · rw [hnone, hrun]
    exact .inl ⟨rfl, e, rfl⟩
  · rw [hexisting, hrun]
    simp only [bind, Option.bind_some]
    cases PetService.photosInput maxPhotos data existing with
    | error e => exact .inl ⟨rfl, e, rfl⟩
    | ok updateInput =>
        simp only [Except.toOption, Option.bind_some]
        rcases connectPetType_run (data.lookup "petTypeId") updateInput w with
          ⟨hnone, e, hrun⟩ | ⟨data', hdata, hrun⟩
        · rw [hnone]
          exact .inl ⟨rfl, e, Process.run_bind_error hrun _⟩
        · rw [hdata]
          exact .inr ⟨_, rfl, Process.run_bind_ok hrun _⟩

theorem petWrite_id {data : UpdatePetDto} {write : PetWrite}
    (h : w.petWrite maxPhotos id userId data = some write) : write.id = id := by
  unfold World.petWrite at h
  simp only [bind, Option.bind_eq_some_iff] at h
  obtain ⟨existing, -, updateInput, -, data', -, hwrite⟩ := h
  obtain rfl := Option.some.inj hwrite
  rfl

/-- What is written without a copy to the alerts changes nothing that they show. -/
theorem petWrite_sound {data : UpdatePetDto} {write : PetWrite}
    (h : w.petWrite maxPhotos id userId data = some write) : write.Sound := by
  unfold World.petWrite at h
  simp only [bind, Option.bind_eq_some_iff] at h
  obtain ⟨existing, -, updateInput, hinput, data', hdata, hwrite⟩ := h
  obtain rfl := Option.some.inj hwrite
  intro hsnapshot
  simp only [PetService.snapshotChanged, Bool.or_eq_false_iff, Option.isSome_eq_false_iff,
    Option.isNone_iff_eq_none] at hsnapshot
  obtain ⟨⟨hphotos, hprimary⟩, hname⟩ := hsnapshot
  have hbase : updateInput = data.filter fun field => field.1 ≠ "petTypeId" := by
    cases hok : PetService.photosInput maxPhotos data existing with
    | error e =>
        rw [hok] at hinput
        cases hinput
    | ok input =>
        rw [hok] at hinput
        obtain rfl := Option.some.inj hinput
        rw [PetService.photosInput, hphotos, hprimary] at hok
        exact (Except.ok.inj hok).symm
  have hlookup : ∀ name, name ≠ "petTypeId" → name ≠ "petType" →
      data'.lookup name = data.lookup name := by
    intro name htypeId htype
    have hkept : updateInput.lookup name = data.lookup name := by
      rw [hbase]
      exact lookup_filter_key (fun key => key ≠ "petTypeId") (by simpa using htypeId) data
    unfold World.withPetType at hdata
    split at hdata
    · cases hdata
      exact hkept
    · split at hdata
      · cases hdata
        rw [lookup_assign_of_ne htype, hkept]
      · cases hdata
  simp only [List.mem_cons, List.not_mem_nil, or_false]
  rintro name (rfl | rfl | rfl)
  · rw [hlookup _ (by decide) (by decide), hname]
  · rw [hlookup _ (by decide) (by decide), hphotos]
  · rw [hlookup _ (by decide) (by decide), hprimary]

theorem updatePet_run (C : PetClient) (data : UpdatePetDto) (w : World) :
    ((PetService.updatePet C maxPhotos id userId data).run w).2 =
      (w.petWrite maxPhotos id userId data).elim w fun write =>
        w.committed (PetService.run C write w) := by
  unfold PetService.updatePet
  rw [Process.run_bind]
  rcases prepareUpdate_run maxPhotos id userId data w with ⟨hnone, e, hrun⟩ |
    ⟨write, hwrite, hrun⟩
  · rw [hrun, hnone]
    rfl
  · rw [hrun, hwrite]
    dsimp only
    rw [Process.run_tryCatch, Process.run_atomic, Option.elim_some]
    cases PetService.run C write w <;> rfl

/-- The listing that its owner has access to. -/
def World.ownedListing (w : World) (id userId : ℕ) : Option AdoptionListingWithRelations :=
  (w.findListing id).filter fun found => found.listing.userId = userId

theorem requireOwned_run (id userId : ℕ) (w : World) :
    (w.ownedListing id userId = none ∧ ∃ e, (requireOwned id userId).run w = (.error e, w)) ∨
      ∃ found, w.ownedListing id userId = some found ∧
        (requireOwned id userId).run w = (.ok found, w) := by
  unfold World.ownedListing requireOwned
  rw [Process.run_query_bind]
  cases w.findListing id with
  | none => exact .inl ⟨rfl, _, rfl⟩
  | some found =>
      rw [Option.filter_some]
      by_cases howner : found.listing.userId = userId
      · exact .inr ⟨found, by simp [howner], by simp [ownedBy, howner]⟩
      · refine .inl ⟨by simp [howner], ?_⟩
        dsimp only [ownedBy]
        rw [if_pos howner]
        exact ⟨_, rfl⟩

theorem writeListing_ok {data : AdoptionListingUpdateInput} {w' : World}
    (h : writeListing id data w = .ok w') : w'.pets = w.pets ∧ w'.alerts = w.alerts := by
  unfold writeListing at h
  split at h
  · cases h
    exact ⟨rfl, rfl⟩
  · split at h
    · cases h
    · split at h
      · cases h
      · split at h
        · cases h
          exact ⟨rfl, rfl⟩
        · cases h
          exact ⟨rfl, rfl⟩

/-- The pet in the transaction of a listing. -/
theorem writePet_alertsFollow (hC : C.Lawful) {write : Option PetWrite}
    (hsound : ∀ pet ∈ write, pet.Sound)
    (hconnects : ∀ pet ∈ write, (w.relationsOf C pet).all connects = true)
    {w' : World} (h : writePet C write w = .ok w') : AlertsFollow petId w w' := by
  cases write with
  | none =>
      cases h
      exact .refl w
  | some write =>
      unfold writePet at h
      dsimp only at h
      split at h
      · cases h
      next updated w₂ hrun =>
        cases h
        exact run_alertsFollow hC (hsound write rfl) (hconnects write rfl) hrun

/-- The transaction of `AdoptionService.update`. -/
theorem runListing_alertsFollow (hC : C.Lawful) {write : ListingWrite}
    (hsound : ∀ pet ∈ write.pet, pet.Sound)
    (hconnects : ∀ pet ∈ write.pet, (w.relationsOf C pet).all connects = true)
    {found : AdoptionListingWithRelations} {w' : World}
    (h : AdoptionService.run C write w = .ok (found, w')) : AlertsFollow petId w w' := by
  obtain ⟨w₁, hpet, h⟩ := except_bind_eq_ok.1 h
  obtain ⟨w₂, hlisting, h⟩ := except_bind_eq_ok.1 h
  obtain ⟨found', -, h⟩ := except_bind_eq_ok.1 h
  cases h
  obtain ⟨hpets, halerts⟩ := writeListing_ok hlisting
  exact (writePet_alertsFollow hC hsound hconnects hpet).congr_right hpets halerts

/-- The part of the update of a listing that is about its pet, if there is one and its checks
pass. -/
def World.listingPet (w : World) (maxPhotos petId userId : ℕ) (petFields : UpdatePetDto) :
    Option (Option PetWrite) :=
  if petFields.isEmpty then some none
  else (w.petWrite maxPhotos petId userId petFields).map some

/-- What `AdoptionService.update` is about to write, if its checks pass. -/
def World.listingWrite (w : World) (maxPhotos id userId : ℕ) (dto : UpdateAdoptionListingDto) :
    Option ListingWrite := do
  let found ← w.ownedListing id userId
  if dto.lat.isSome ≠ dto.lon.isSome then none
  else do
    let pet ← w.listingPet maxPhotos found.listing.petId userId dto.petFields
    return { id, pet, data := listingData dto }

theorem preparePet_run (maxPhotos petId userId : ℕ) (petFields : UpdatePetDto) (w : World) :
    (w.listingPet maxPhotos petId userId petFields = none ∧
        ∃ e, (preparePet maxPhotos petId userId petFields).run w = (.error e, w)) ∨
      ∃ pet, w.listingPet maxPhotos petId userId petFields = some pet ∧
        (preparePet maxPhotos petId userId petFields).run w = (.ok pet, w) := by
  unfold preparePet World.listingPet
  cases petFields.isEmpty with
  | true => exact .inr ⟨none, rfl, rfl⟩
  | false =>
      rw [if_neg Bool.false_ne_true, if_neg Bool.false_ne_true, Process.run_map,
        Process.run_relabel]
      rcases prepareUpdate_run maxPhotos petId userId petFields w with ⟨hnone, e, hrun⟩ |
        ⟨write, hwrite, hrun⟩
      · exact .inl ⟨by rw [hnone, Option.map_none], e, by rw [hrun]⟩
      · exact .inr ⟨some write, by rw [hwrite, Option.map_some], by rw [hrun]⟩

theorem listingWrite_sound {dto : UpdateAdoptionListingDto} {write : ListingWrite}
    (h : w.listingWrite maxPhotos id userId dto = some write) : ∀ pet ∈ write.pet, pet.Sound := by
  intro pet hpet
  obtain ⟨found, -, h⟩ := Option.bind_eq_some_iff.1 h
  split at h
  · cases h
  · obtain ⟨pet', hprepared, h⟩ := Option.bind_eq_some_iff.1 h
    obtain rfl := Option.some.inj h
    obtain rfl : pet' = some pet := hpet
    unfold World.listingPet at hprepared
    split at hprepared
    · cases hprepared
    · obtain ⟨write', hwrite, heq⟩ := Option.map_eq_some_iff.1 hprepared
      obtain rfl := Option.some.inj heq
      exact petWrite_sound hwrite

theorem listingWrite_pet {dto : UpdateAdoptionListingDto} {write : ListingWrite} {pet : PetWrite}
    (h : w.listingWrite maxPhotos id userId dto = some write) (hpet : write.pet = some pet) :
    ∃ found, w.findListing id = some found ∧ write.id = id ∧ found.listing.petId = pet.id := by
  obtain ⟨found, hfound, h⟩ := Option.bind_eq_some_iff.1 h
  split at h
  · cases h
  · obtain ⟨pet', hprepared, h⟩ := Option.bind_eq_some_iff.1 h
    obtain rfl := Option.some.inj h
    obtain rfl : pet' = some pet := hpet
    refine ⟨found, (Option.filter_eq_some_iff.1 hfound).1, rfl, ?_⟩
    unfold World.listingPet at hprepared
    split at hprepared
    · cases hprepared
    · obtain ⟨write', hwrite, heq⟩ := Option.map_eq_some_iff.1 hprepared
      obtain rfl := Option.some.inj heq
      exact (petWrite_id hwrite).symm

theorem isValid_of_run {write : ListingWrite} {answer : AdoptionListingWithRelations × World}
    (h : AdoptionService.run C write w = .ok answer) : write.data.isValid = true := by
  obtain ⟨w₁, -, h⟩ := except_bind_eq_ok.1 h
  obtain ⟨w₂, hlisting, -⟩ := except_bind_eq_ok.1 h
  unfold writeListing at hlisting
  split at hlisting
  next hempty =>
    rw [hempty]
    rfl
  next =>
    split at hlisting
    · cases hlisting
    next hvalid => simpa using hvalid

theorem update_run (C : PetClient) (dto : UpdateAdoptionListingDto) (w : World) :
    ((AdoptionService.update C maxPhotos id userId dto).run w).2 =
      (w.listingWrite maxPhotos id userId dto).elim w fun write =>
        w.committed (AdoptionService.run C write w) := by
  unfold AdoptionService.update World.listingWrite
  rcases requireOwned_run id userId w with ⟨hnone, e, hrun⟩ | ⟨found, hfound, hrun⟩
  · rw [Process.run_bind_error hrun, hnone]
    rfl
  · rw [Process.run_bind_ok hrun, hfound]
    simp only [bind, Option.bind_some]
    split
    · rfl
    · rcases preparePet_run maxPhotos found.listing.petId userId dto.petFields w with
        ⟨hnone, e, hrun⟩ | ⟨pet, hpet, hrun⟩
      · rw [hnone]
        exact congrArg Prod.snd (Process.run_bind_error hrun _)
      · rw [hpet]
        refine (congrArg Prod.snd (Process.run_bind_ok hrun _)).trans ?_
        rw [Process.run_atomic, Option.bind_some]
        change _ = w.committed (AdoptionService.run C { id, pet, data := listingData dto } w)
        cases AdoptionService.run C { id, pet, data := listingData dto } w <;> rfl

end Runs

section AddPhotos

variable {w : World} {id userId : ℕ} {urls : List String}

/-- The pet that gets the photos: the listing is there and its owner's, and there is room. -/
def World.photosGoTo (w : World) (id userId : ℕ) (urls : List String) : Option Pet :=
  ((w.ownedListing id userId).map AdoptionListingWithRelations.pet).filter fun pet =>
    pet.photos.length + urls.length ≤ MAX_ADOPTION_PHOTOS

theorem find?_of_photosGoTo {pet : Pet} (h : w.photosGoTo id userId urls = some pet) :
    w.pets.find? pet.id = some pet := by
  obtain ⟨hpet, -⟩ := Option.filter_eq_some_iff.1 h
  obtain ⟨found, hfound, rfl⟩ := Option.map_eq_some_iff.1 hpet
  obtain ⟨hfound, -⟩ := Option.filter_eq_some_iff.1 hfound
  obtain ⟨listing, -, hpair⟩ := Option.bind_eq_some_iff.1 hfound
  obtain ⟨pet, hrow, rfl⟩ := Option.map_eq_some_iff.1 hpair
  exact Table.find?_of_mem (Table.mem_of_find? hrow)

theorem addPhotos_run (id userId : ℕ) (urls : List String) (w : World) :
    ((AdoptionService.addPhotos id userId urls).run w).2 =
      match w.photosGoTo id userId urls with
      | none => w
      | some pet => w.pushPhotos pet.id urls := by
  unfold AdoptionService.addPhotos World.photosGoTo
  rcases requireOwned_run id userId w with ⟨hnone, e, hrun⟩ | ⟨found, hlisting, hrun⟩
  · rw [Process.run_bind_error hrun, hnone]
    rfl
  · rw [Process.run_bind_ok hrun, hlisting, Option.map_some, Option.filter_some]
    dsimp only
    by_cases hroom : found.pet.photos.length + urls.length ≤ MAX_ADOPTION_PHOTOS
    · obtain ⟨hfound, -⟩ := Option.filter_eq_some_iff.1 hlisting
      obtain ⟨listing, -, hpair⟩ := Option.bind_eq_some_iff.1 hfound
      obtain ⟨pet, hrow, rfl⟩ := Option.map_eq_some_iff.1 hpair
      have hid : pet.id = listing.petId := Table.key_of_find? hrow
      rw [if_neg (Nat.not_lt.2 hroom), if_pos (by simpa using hroom), Process.run_bind,
        Process.run_atomic]
      dsimp only at hrow ⊢
      rw [hrow, Option.isSome_some, if_pos rfl, hid]
      exact congrArg Prod.snd (Process.run_atomic _ _ _ _)
    · rw [if_pos (Nat.lt_of_not_le hroom), if_neg (by simpa using hroom)]
      rfl

/-- What the pet is about to be. -/
def Pet.withPhotos (pet : Pet) (urls : List String) : Pet :=
  { pet with photos := pet.photos ++ urls }

/-- New photos leave the alerts as they are, so these follow when they show the photos already. -/
theorem pushPhotos_alertsFollow_iff (urls : List String) {pet : Pet}
    (h : w.pets.find? pet.id = some pet) :
    (∀ petId, AlertsFollow petId w (w.pushPhotos pet.id urls)) ↔
      urls = [] ∨ w.OpenAlertsShow (pet.withPhotos urls) := by
  have hrow : ∀ petId, (w.pushPhotos pet.id urls).pets.find? petId =
      if petId = pet.id then some (pet.withPhotos urls) else w.pets.find? petId :=
    fun _ => Table.find?_updateMany_key (fun p : Pet => { p with photos := p.photos ++ urls })
      (fun _ => rfl) h
  constructor
  · intro hfollow
    by_cases hurls : urls = []
    · exact .inl hurls
    · right
      refine (hfollow pet.id).shown (pet.withPhotos urls) ?_ ?_
      · rw [hrow, if_pos rfl]
      · rw [h]
        simpa [Pet.face, Pet.withPhotos] using hurls
  · intro hshows petId
    have hclosed : ∀ a ∈ w.alerts.rows, a.isOpen = false →
        (w.pushPhotos pet.id urls).alerts.find? a.id = some a :=
      fun a ha _ => Table.find?_of_mem ha
    by_cases heq : petId = pet.id
    · rcases hshows with rfl | hshows
      · refine .of_sameFace ?_ hclosed
        rw [hrow, if_pos heq, heq, h]
        simp [Pet.face, Pet.withPhotos]
      · refine ⟨fun pet' hpet' _ => ?_, hclosed⟩
        rw [hrow, if_pos heq] at hpet'
        cases hpet'
        exact hshows
    · refine .of_sameFace ?_ hclosed
      rw [hrow, if_neg heq]

end AddPhotos

section Intruders

variable {C : PetClient} {w : World} {n m : ℕ}

/-- A pet and an open alert of it that shows another name. -/
def intruder (n : ℕ) : Pet := { id := n, userId := 0, name := "Rex" }

def intruderAlert (m n : ℕ) : Alert :=
  { id := m, creator_id := 0, pet_id := some n, status := .ACTIVE }

/-- A client whose operations on relations bring such a pet, unless they connect the pet only. -/
def intruding (n m id : ℕ) (relations : List (String × Json)) (w : World) :
    Except AppError (Pet × World) :=
  match w.pets.find? id with
  | none => .error (.prisma .P2025)
  | some pet =>
    .ok (pet, if relations.all connects then w else
      { w with
        pets := w.pets.insertNew (intruder n)
        alerts := w.alerts.insertNew (intruderAlert m n) })

theorem lawful_intruding (C : PetClient) (n m : ℕ) :
    PetClient.Lawful { C with nested := intruding n m } := by
  intro id relations w pet w' hconnects h
  unfold intruding at h
  dsimp only at h
  cases hfound : w.pets.find? id with
  | none =>
      rw [hfound] at h
      cases h
  | some row =>
      rw [hfound, hconnects, if_pos rfl] at h
      cases h
      exact ⟨rfl, hfound, fun _ => rfl⟩

/-- The intruder is there, and its alert. -/
structure World.Intruded (w : World) (n m : ℕ) : Prop where
  pet : w.pets.find? n = some (intruder n)
  alert : intruderAlert m n ∈ w.alerts.rows

theorem World.Intruded.not_alertsFollow {w' : World} (h : w'.Intruded n m)
    (hfresh : w.pets.find? n = none) : ¬ AlertsFollow n w w' := by
  intro hfollow
  have hshown := hfollow.shown (intruder n) h.pet (by rw [hfresh, Option.map_none]; exact nofun)
  have hshows := hshown (intruderAlert m n) h.alert rfl rfl
  exact absurd hshows.1 (by simp [intruderAlert, intruder])

/-- An update that gets to operations on relations has found its pet, and its columns fit. -/
theorem found_of_relationsOf {write : PetWrite}
    (h : (w.relationsOf C write).all connects = false) :
    ∃ input pet, parsePetUpdate C write.data = some input ∧
      w.pets.find? write.id = some pet ∧ PetService.checkColumns input pet w = .ok () ∧
        input.relations.isEmpty = false ∧ input.relations.all connects = false := by
  unfold World.relationsOf at h
  cases hparse : parsePetUpdate C write.data with
  | none => simp [hparse] at h
  | some input =>
      cases hfound : w.pets.find? write.id with
      | none => simp [hparse, hfound] at h
      | some pet =>
          rw [hparse, hfound] at h
          dsimp only at h
          cases hcheck : PetService.checkColumns input pet w with
          | error e =>
              rw [hcheck] at h
              cases h
          | ok _ =>
              rw [hcheck, Except.isOk, Except.toBool, if_pos rfl] at h
              refine ⟨input, pet, rfl, rfl, hcheck, ?_, h⟩
              cases hrelations : input.relations with
              | nil =>
                  rw [hrelations] at h
                  cases h
              | cons _ _ => rfl

/-- The intruders come after the columns. -/
theorem petUpdate_intruding {id : ℕ} {data : List (String × Json)} {input : PetUpdateInput}
    {pet : Pet} (hparse : parsePetUpdate C data = some input)
    (hfound : w.pets.find? id = some pet) (hcheck : PetService.checkColumns input pet w = .ok ())
    (hrelations : input.relations.isEmpty = false)
    (hreaches : input.relations.all connects = false) :
    PetService.petUpdate { C with nested := intruding n m } id data w = .ok (input.apply pet,
      { PetService.setColumns id input w with
        pets := (PetService.setColumns id input w).pets.insertNew (intruder n)
        alerts := w.alerts.insertNew (intruderAlert m n) }) := by
  have hparse' : parsePetUpdate { C with nested := intruding n m } data = some input := hparse
  have hcolumns : (PetService.setColumns id input w).pets.find? id = some (input.apply pet) := by
    rw [PetService.find?_setColumns hfound, if_pos rfl]
  unfold PetService.petUpdate
  rw [hparse', hfound]
  dsimp only
  rw [hcheck]
  dsimp only
  rw [hrelations, if_neg Bool.false_ne_true, intruding, hcolumns, hreaches]
  rfl

theorem run_intruding {write : PetWrite} (hpets : w.pets.find? n = none)
    (halerts : w.alerts.find? m = none) (hreaches : (w.relationsOf C write).all connects = false) :
    ∃ updated w', PetService.run { C with nested := intruding n m } write w = .ok (updated, w') ∧
      w'.Intruded n m ∧ w'.adoptionListings = w.adoptionListings ∧
        (w'.pets.find? write.id).isSome = true := by
  obtain ⟨input, pet, hparse, hfound, hcheck, hrelations, hall⟩ := found_of_relationsOf hreaches
  have hne : n ≠ write.id := by
    rintro rfl
    rw [hfound] at hpets
    cases hpets
  have hcolumns : (PetService.setColumns write.id input w).pets.find? write.id =
      some (input.apply pet) := by
    rw [PetService.find?_setColumns hfound, if_pos rfl]
  have hid : (input.apply pet).id = write.id := Table.key_of_find? hcolumns
  have hfresh : (PetService.setColumns write.id input w).pets.find? n = none := by
    rw [PetService.find?_setColumns hfound, if_neg hne, hpets]
  have hpet := (Table.find?_insertNew (r := intruder n) hfresh n).trans (if_pos rfl)
  have hkept := Table.find?_insertNew_of_some (r := intruder n) hcolumns
  have halert : intruderAlert m n ∈ (w.alerts.insertNew (intruderAlert m n)).rows :=
    Table.mem_of_find? (k := m)
      ((Table.find?_insertNew (r := intruderAlert m n) halerts m).trans (if_pos rfl))
  unfold PetService.run
  rw [petUpdate_intruding hparse hfound hcheck hrelations hall]
  refine ⟨_, _, rfl, ?_⟩
  split
  · refine ⟨⟨hpet, List.mem_map.2 ⟨_, halert, if_neg ?_⟩⟩, rfl, ?_⟩
    · simp [intruderAlert, hid, hne]
    · rw [PetService.syncAlertSnapshots, hkept, Option.isSome_some]
  · exact ⟨⟨hpet, halert⟩, rfl, by rw [hkept, Option.isSome_some]⟩

/-- The listing is there, with its pet, and the columns of the request are those of a listing. -/
theorem runListing_intruding {write : ListingWrite} {pet : PetWrite} (hpet : write.pet = some pet)
    (hpets : w.pets.find? n = none) (halerts : w.alerts.find? m = none)
    (hvalid : write.data.isValid = true) {found : AdoptionListingWithRelations}
    (hfound : w.findListing write.id = some found) (hid : found.listing.petId = pet.id)
    (hreaches : (w.relationsOf C pet).all connects = false) :
    ∃ answer w', AdoptionService.run { C with nested := intruding n m } write w = .ok (answer, w') ∧
      w'.Intruded n m := by
  obtain ⟨updated, w₁, hrun, hintruded, hlistings, hkept⟩ := run_intruding hpets halerts hreaches
  obtain ⟨listing, hlisting, hpair⟩ := Option.bind_eq_some_iff.1 hfound
  obtain ⟨row, -, rfl⟩ := Option.map_eq_some_iff.1 hpair
  have hwritten : writePet { C with nested := intruding n m } write.pet w = .ok w₁ := by
    simp only [hpet, writePet, hrun]
  have hlisted : ∃ w₂ listing', writeListing write.id write.data w₁ = .ok w₂ ∧
      w₂.adoptionListings.find? write.id = some listing' ∧ listing'.petId = listing.petId ∧
        w₂.pets = w₁.pets ∧ w₂.alerts = w₁.alerts := by
    rw [← hlistings] at hlisting
    unfold writeListing
    split
    · exact ⟨w₁, listing, rfl, hlisting, rfl, rfl, rfl⟩
    · rw [hvalid, Bool.not_true, if_neg Bool.false_ne_true, hlisting]
      dsimp only
      have hset : (w₁.setListing write.id write.data).adoptionListings.find? write.id =
          some (write.data.apply listing) :=
        (Table.find?_updateMany_key write.data.apply write.data.apply_id hlisting).trans
          (if_pos rfl)
      split
      next lat lon _ _ =>
        exact ⟨_, _, rfl, (Table.find?_updateMany_key (setPoint lat lon) (fun _ => rfl) hset).trans
          (if_pos rfl), rfl, rfl, rfl⟩
      next => exact ⟨_, _, rfl, hset, rfl, rfl, rfl⟩
  obtain ⟨w₂, listing', hw₂, hrow, hpetId, hpets₂, halerts₂⟩ := hlisted
  have hsame : w₂.pets.find? listing'.petId = w₁.pets.find? pet.id := by
    rw [hpets₂, hpetId, hid]
  obtain ⟨row', hrow'⟩ := Option.isSome_iff_exists.1 hkept
  have hanswer : listingOr (.prisma .P2025) w₂ write.id = .ok ⟨listing', row'⟩ := by
    rw [listingOr, World.findListing, hrow, Option.bind_some, hsame, hrow']
    rfl
  refine ⟨⟨listing', row'⟩, w₂, ?_, ?_⟩
  · unfold AdoptionService.run
    rw [hwritten]
    simp only [bind, Except.bind, hw₂, hanswer]
    rfl
  · exact ⟨hpets₂ ▸ hintruded.pet, halerts₂ ▸ hintruded.alert⟩

end Intruders

section Writers

/-- What changes the name, the photos or the primary photo of a pet. -/
inductive PetWriter where
  | updatePet (id userId : ℕ) (data : UpdatePetDto)
  | updateListing (id userId : ℕ) (dto : UpdateAdoptionListingDto)
  | addPhotos (id userId : ℕ) (urls : List String)

/-- The state after the operation. -/
def PetWriter.after (C : PetClient) (maxPhotos : ℕ) (w : World) : PetWriter → World
  | updatePet id userId data => ((PetService.updatePet C maxPhotos id userId data).run w).2
  | updateListing id userId dto => ((AdoptionService.update C maxPhotos id userId dto).run w).2
  | addPhotos id userId urls => ((AdoptionService.addPhotos id userId urls).run w).2

/-- The operation is an update that is refused before it gets to an operation on relations, or
gets to none but to connect the pet; or it adds photos that no open alert of the pet is without. -/
def PetWriter.Spares (C : PetClient) (maxPhotos : ℕ) (w : World) : PetWriter → Prop
  | updatePet id userId data => ∀ write, w.petWrite maxPhotos id userId data = some write →
    (w.relationsOf C write).all connects = true
  | updateListing id userId dto => ∀ write, w.listingWrite maxPhotos id userId dto = some write →
    write.data.isValid = true → ∀ pet, write.pet = some pet →
      (w.relationsOf C pet).all connects = true
  | addPhotos id userId urls => ∀ pet, w.photosGoTo id userId urls = some pet →
    urls = [] ∨ w.OpenAlertsShow (pet.withPhotos urls)

variable {C : PetClient} {w : World} {maxPhotos id userId : ℕ}

/-- There is an id that no pet has, and one that no alert has. -/
theorem exists_freshIds (w : World) :
    ∃ n m, w.pets.find? n = none ∧ w.alerts.find? m = none := by
  have hfresh : ∀ ids : List ℕ, ∃ n, n ∉ ids := by
    intro ids
    obtain ⟨n, hn⟩ := Infinite.exists_notMem_finset ids.toFinset
    exact ⟨n, fun hmem => hn (List.mem_toFinset.2 hmem)⟩
  obtain ⟨n, hn⟩ := hfresh (w.pets.rows.map Pet.id)
  obtain ⟨m, hm⟩ := hfresh (w.alerts.rows.map Alert.id)
  refine ⟨n, m, Option.eq_none_iff_forall_not_mem.2 fun pet hpet => hn ?_,
    Option.eq_none_iff_forall_not_mem.2 fun alert halert => hm ?_⟩
  · exact List.mem_map.2 ⟨pet, Table.mem_of_find? hpet, Table.key_of_find? hpet⟩
  · exact List.mem_map.2 ⟨alert, Table.mem_of_find? halert, Table.key_of_find? halert⟩

theorem updatePet_follows_iff (data : UpdatePetDto) :
    (∀ nested, PetClient.Lawful { C with nested } → ∀ petId, AlertsFollow petId w
        ((PetWriter.updatePet id userId data).after { C with nested } maxPhotos w)) ↔
      (PetWriter.updatePet id userId data).Spares C maxPhotos w := by
  unfold PetWriter.after PetWriter.Spares
  simp only [updatePet_run]
  constructor
  · intro hfollow write hwrite
    by_contra hreaches
    obtain ⟨n, m, hpets, halerts⟩ := exists_freshIds w
    obtain ⟨updated, w', hrun, hintruded, -⟩ :=
      run_intruding hpets halerts (Bool.eq_false_iff.2 hreaches)
    have hafter := hfollow _ (lawful_intruding C n m) n
    rw [hwrite, Option.elim_some, hrun] at hafter
    exact hintruded.not_alertsFollow hpets hafter
  · intro hspares nested hlawful petId
    cases hwrite : w.petWrite maxPhotos id userId data with
    | none => exact .refl w
    | some write =>
        rw [Option.elim_some]
        cases hrun : PetService.run { C with nested } write w with
        | error e => exact .refl w
        | ok result =>
            exact run_alertsFollow hlawful (petWrite_sound hwrite) (hspares write hwrite) hrun

theorem updateListing_follows_iff (dto : UpdateAdoptionListingDto) :
    (∀ nested, PetClient.Lawful { C with nested } → ∀ petId, AlertsFollow petId w
        ((PetWriter.updateListing id userId dto).after { C with nested } maxPhotos w)) ↔
      (PetWriter.updateListing id userId dto).Spares C maxPhotos w := by
  unfold PetWriter.after PetWriter.Spares
  simp only [update_run]
  constructor
  · intro hfollow write hwrite hvalid pet hpet
    by_contra hreaches
    obtain ⟨found, hfound, hid, hpetId⟩ := listingWrite_pet hwrite hpet
    obtain ⟨n, m, hpets, halerts⟩ := exists_freshIds w
    obtain ⟨answer, w', hrun, hintruded⟩ := runListing_intruding hpet hpets halerts hvalid
      (hid ▸ hfound) hpetId (Bool.eq_false_iff.2 hreaches)
    have hafter := hfollow _ (lawful_intruding C n m) n
    rw [hwrite, Option.elim_some, hrun] at hafter
    exact hintruded.not_alertsFollow hpets hafter
  · intro hspares nested hlawful petId
    cases hwrite : w.listingWrite maxPhotos id userId dto with
    | none => exact .refl w
    | some write =>
        rw [Option.elim_some]
        cases hrun : AdoptionService.run { C with nested } write w with
        | error e => exact .refl w
        | ok result =>
            refine runListing_alertsFollow hlawful (listingWrite_sound hwrite) (fun pet hpet => ?_)
              hrun
            exact hspares write hwrite (isValid_of_run hrun) pet hpet

/-- However the database client carries out the operations on relations that do more than connect
a pet: after an operation on a pet the open alerts of every pet whose name, photos or primary photo
it has changed follow, and closed alerts are unchanged, if and only if it gets to no such operation
and is not one that adds photos which an open alert of the pet does not show. -/
theorem openAlerts_follow_iff (C : PetClient) (maxPhotos : ℕ) (w : World) (writer : PetWriter) :
    (∀ nested, PetClient.Lawful { C with nested } → ∀ petId,
        AlertsFollow petId w (writer.after { C with nested } maxPhotos w)) ↔
      writer.Spares C maxPhotos w := by
  cases writer with
  | updatePet id userId data => exact updatePet_follows_iff data
  | updateListing id userId dto => exact updateListing_follows_iff dto
  | addPhotos id userId urls =>
      have hlawful := lawful_intruding C 0 0
      unfold PetWriter.after PetWriter.Spares
      dsimp only
      rw [addPhotos_run]
      cases hgoes : w.photosGoTo id userId urls with
      | none =>
          refine iff_of_true (fun _ _ petId => .refl w) fun pet hpet => ?_
          cases hpet
      | some pet =>
          have hiff := pushPhotos_alertsFollow_iff urls (find?_of_photosGoTo hgoes)
          constructor
          · rintro hfollow _ ⟨⟩
            exact hiff.1 (hfollow _ hlawful)
          · exact fun hspares _ _ => hiff.2 (hspares pet rfl)

/-- A listed pet is missing, and there is an alert for it. -/
def missingListedWorld : World where
  pets := Table.empty.insertNew { id := 1, userId := 1, name := "Rex" }
  adoptionListings := Table.empty.insertNew { id := 1, petId := 1, userId := 1 }
  alerts := Table.empty.insertNew
    { id := 1, creator_id := 1, pet_id := some 1, pet_name := "Rex", status := .ACTIVE }

/-- The alert is closed. -/
def resolvedListedWorld : World where
  pets := missingListedWorld.pets
  alerts := Table.empty.insertNew
    { id := 1, creator_id := 1, pet_id := some 1, pet_name := "Rex", status := .RESOLVED }

/-- A client that carries out one kind of operations on the alerts of a pet. -/
def renamingClient : PetClient where
  dateTime := fun _ => none
  nested := fun id relations w =>
    match relations, w.pets.find? id with
    | [("alerts", .obj [("updateMany", .obj [("where", .obj []),
        ("data", .obj [("pet_name", .str name)])])])], some pet =>
      .ok (pet, { w with
        alerts := w.alerts.updateMany (fun a => a.pet_id = some id)
          (fun a => { a with pet_name := name }) fun _ => rfl })
    | _, _ => .error (.prisma .other)

/-- The name of the pet, and that of its alerts. -/
def renameAll : UpdatePetDto :=
  [("name", .str "Max"), ("alerts", .obj [("updateMany", .obj [("where", .obj []),
    ("data", .obj [("pet_name", .str "Max")])])])]

/-- The owner adds a photo to the listing, and the alert goes on without it. The owner renames the
pet and its alerts in one request, and the closed alert does not stay as it was. -/
theorem openAlerts_leftBehind :
    (¬ AlertsFollow 1 missingListedWorld
      ((PetWriter.addPhotos 1 1 ["https://cdn/rex.jpg"]).after renamingClient 5
        missingListedWorld)) ∧
    renamingClient.Lawful ∧
    ¬ AlertsFollow 1 resolvedListedWorld
      ((PetWriter.updatePet 1 1 renameAll).after renamingClient 5 resolvedListedWorld) := by
  refine ⟨fun h => ?_, fun id relations w pet w' hconnects h => ?_, fun h => ?_⟩
  · have hshown := h.shown
      { id := 1, userId := 1, name := "Rex", photos := ["https://cdn/rex.jpg"] } (by decide +kernel)
      (by decide +kernel)
    revert hshown
    decide +kernel
  · unfold renamingClient at h
    dsimp only at h
    split at h
    · cases hconnects
    · cases h
  · have hclosed := h.closed
      { id := 1, creator_id := 1, pet_id := some 1, pet_name := "Rex", status := .RESOLVED }
      (by decide +kernel) (by decide +kernel)
    revert hclosed
    decide +kernel

end Writers

end FifiAlert
