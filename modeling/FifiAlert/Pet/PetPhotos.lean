import FifiAlert.Adoption.AdoptionService
import FifiAlert.Concurrency.Cells
import FifiAlert.Pet.PetService
import Mathlib.Algebra.Order.Ring.Rat
import Mathlib.Data.Nat.Cast.Order.Ring

/-!
# The photos of a pet

Pets are created and updated, and photos are added to the listed ones. An update is checked against
the row that it has read, and it may write the photos without the primary photo, or the other way
around; photos are added up to the limit of the listings, and a body may name an operation on the
photos, which is not checked, or one on a relation of the pet. As long as no update finds the other
one of the two rewritten since, what is added stays within the limit of the pets, and a pet is at
most connected, no pet has too many photos and each primary photo is one of the photos.
-/

namespace FifiAlert

open Concurrency Store Js

/-- A primary photo is one of the photos. -/
def PrimaryAmong (primaryPhoto : Option String) (photos : List String) : Prop :=
  ∀ primary ∈ primaryPhoto, primary ∈ photos

instance (primaryPhoto : Option String) (photos : List String) :
    Decidable (PrimaryAmong primaryPhoto photos) :=
  inferInstanceAs (Decidable (∀ primary ∈ primaryPhoto, primary ∈ photos))

/-- The photos of a pet: not too many, and the primary photo is one of them. -/
structure Pet.PhotosInOrder (maxPhotos : ℕ) (pet : Pet) : Prop where
  limit : pet.photos.length ≤ maxPhotos
  primary : PrimaryAmong pet.primaryPhoto pet.photos

instance (maxPhotos : ℕ) (pet : Pet) : Decidable (pet.PhotosInOrder maxPhotos) :=
  decidable_of_iff (pet.photos.length ≤ maxPhotos ∧ PrimaryAmong pet.primaryPhoto pet.photos)
    ⟨fun h => ⟨h.1, h.2⟩, fun h => ⟨h.limit, h.primary⟩⟩

/-- What `validatePhotos` looks at: the empty string passes for no primary photo. -/
def PrimaryChecked (primaryPhoto : Option String) (photos : List String) : Prop :=
  primaryPhoto ≠ some "" → PrimaryAmong primaryPhoto photos

inductive PetPhotoCall where
  | adoption (l : AdoptionCall)
  | newPet (l : NewPetCall)

/-- A request about the photos of a pet. -/
inductive PetPhotoRequest where
  | createPet (userId : ℕ) (data : CreatePetDto)
  | updatePet (id userId : ℕ) (data : UpdatePetDto)
  | addPhotos (id userId : ℕ) (urls : List String)

def PetPhotoRequest.process (E : PetEnv) (C : PetClient) (maxPhotos : ℕ) :
    PetPhotoRequest → Process World PetPhotoCall AppError Unit
  | createPet userId data => do
      let _ ← (PetService.createPet E C maxPhotos userId data).relabel .newPet
      return ()
  | updatePet id userId data => do
      let _ ← (PetService.updatePet C maxPhotos id userId data).relabel fun l => .adoption (.pet l)
      return ()
  | addPhotos id userId urls => do
      let _ ← (AdoptionService.addPhotos id userId urls).relabel .adoption
      return ()

namespace PetPhotoCall

/-- What the calls of the three requests do to the shared state. -/
def effect (C : PetClient) : PetPhotoCall → World → World
  | adoption (.pet (.petTransaction write)), w => w.committed (PetService.run C write w)
  | adoption (.petPushPhotos petId urls), w => w.pushPhotos petId urls
  | newPet .nanoid, w => { w with nextTag := w.nextTag + 1 }
  | newPet (.petCreate data), w => w.committed (PetService.petCreate C data w)
  | _, w => w

/-- No operation on a relation that a call names does more than connect the pet. -/
def connectsOnly : PetPhotoCall → Bool
  | adoption (.pet (.petTransaction write)) => (petRelations write.data).all connects
  | newPet (.petCreate data) => (petRelations data).all connects
  | _ => true

end PetPhotoCall

/-- What is read of a pet and written later. -/
inductive PetCell where
  | photos (id : ℕ)
  | primaryPhoto (id : ℕ)
  deriving DecidableEq

/-- The cells that the update of a pet names. -/
def PetWrite.cells (write : PetWrite) : List PetCell :=
  (if (write.data.lookup "photos").isSome then [.photos write.id] else []) ++
    if (write.data.lookup "primaryPhoto").isSome then [.primaryPhoto write.id] else []

/-- The cells that a call writes. Photos that are added take none away. -/
def PetPhotoCall.writes (C : PetClient) (w : World) : PetPhotoCall → List PetCell
  | adoption (.pet (.petTransaction write)) =>
      if (PetService.run C write w).isOk then write.cells else []
  | newPet (.petCreate data) =>
      if (PetService.petCreate C data w).isOk then [.photos w.nextPet, .primaryPhoto w.nextPet]
      else []
  | _ => []

abbrev PetSnapshot (ι : Type*) := Snapshot World (CellMark ι PetCell)

def petPhotoMark {ι : Type*} (C : PetClient) (i : ι) (l : PetPhotoCall) (w : World) :
    Option (CellMark ι PetCell) :=
  match l with
  | .adoption (.pet (.alert (.petFindUnique id))) => some (.read i [.photos id, .primaryPhoto id])
  | l => some (.wrote i (l.writes C w))

section Effect

variable {ι : Type*} {C : PetClient} {i : ι} {l : PetPhotoCall} {w : World} {id : ℕ} {pet' : Pet}

theorem thread_petPhotoMark {m : CellMark ι PetCell} (h : petPhotoMark C i l w = some m) :
    m.thread = i := by
  unfold petPhotoMark at h
  split at h
  · cases h
    rfl
  · cases h
    rfl

theorem exists_of_map_face {row : Option Pet} (h : row.map Pet.face = some pet'.face) :
    ∃ pet, row = some pet ∧ pet'.face = pet.face := by
  obtain ⟨pet, hrow, hface⟩ := Option.map_eq_some_iff.1 h
  exact ⟨pet, hrow, hface.symm⟩

/-- Where the photos and the primary photo of a pet come from. -/
inductive PetRowChange (C : PetClient) (w : World) (id : ℕ) (pet' : Pet) : PetPhotoCall → Prop
  | kept {l : PetPhotoCall} (pet : Pet) (hfound : w.pets.find? id = some pet)
      (hface : pet'.face = pet.face) : PetRowChange C w id pet' l
  | updated (write : PetWrite) (input : PetUpdateInput) (pet : Pet) (hid : write.id = id)
      (hparse : parsePetUpdate C write.data = some input) (hfound : w.pets.find? id = some pet)
      (hok : (PetService.run C write w).isOk = true) (hface : pet'.face = (input.apply pet).face) :
      PetRowChange C w id pet' (.adoption (.pet (.petTransaction write)))
  | pushed (urls : List String) (pet : Pet) (hfound : w.pets.find? id = some pet)
      (hpet' : pet' = { pet with photos := pet.photos ++ urls }) :
      PetRowChange C w id pet' (.adoption (.petPushPhotos id urls))
  | created (data : List (String × Json)) (input : PetCreateInput) (hid : w.nextPet = id)
      (hparse : parsePetCreate C data = some input)
      (hok : (PetService.petCreate C data w).isOk = true)
      (hface : pet'.face = (input.toRow id).face) :
      PetRowChange C w id pet' (.newPet (.petCreate data))

theorem petRowChange_updated (hC : C.Lawful) {write : PetWrite}
    (hconnects : (petRelations write.data).all connects = true)
    (h : (w.committed (PetService.run C write w)).pets.find? id = some pet') :
    PetRowChange C w id pet' (.adoption (.pet (.petTransaction write))) := by
  cases hrun : PetService.run C write w with
  | error e =>
      rw [hrun] at h
      exact .kept pet' h rfl
  | ok result =>
      have hok : (PetService.run C write w).isOk = true := by rw [hrun, isOk_ok]
      rw [hrun] at h
      unfold PetService.run at hrun
      split at hrun
      · cases hrun
      next updated w₁ hupdate =>
        obtain ⟨input, pet, hparse, hfound, hrewritten⟩ :=
          PetService.petUpdate_rewritten hC hconnects hupdate
        cases hrun
        have hrow : w₁.pets.find? id = some pet' := by
          rw [← h, World.committed]
          split <;> rfl
        by_cases hid : id = write.id
        · subst hid
          obtain rfl := Option.some.inj (hrewritten.row.symm.trans hrow)
          exact .updated write input pet rfl hparse hfound hok hrewritten.face
        · have hface := hrewritten.others id hid
          rw [hrow, Option.map_some] at hface
          obtain ⟨before, hbefore, hface⟩ := exists_of_map_face hface.symm
          exact .kept before hbefore hface

theorem petRowChange_pushed {petId : ℕ} {urls : List String}
    (h : (w.pushPhotos petId urls).pets.find? id = some pet') :
    PetRowChange C w id pet' (.adoption (.petPushPhotos petId urls)) := by
  unfold World.pushPhotos at h
  dsimp only at h
  obtain ⟨pet, hfound, ⟨rfl, rfl⟩ | ⟨-, rfl⟩⟩ := Table.exists_of_find?_updateMany h
  · exact .pushed urls pet hfound rfl
  · exact .kept pet' hfound rfl

theorem petRowChange_created (hC : C.Lawful) {data : List (String × Json)}
    (hconnects : (petRelations data).all connects = true)
    (h : (w.committed (PetService.petCreate C data w)).pets.find? id = some pet') :
    PetRowChange C w id pet' (.newPet (.petCreate data)) := by
  cases hcreate : PetService.petCreate C data w with
  | error e =>
      rw [hcreate] at h
      exact .kept pet' h rfl
  | ok result =>
      have hok : (PetService.petCreate C data w).isOk = true := by rw [hcreate, isOk_ok]
      obtain ⟨input, hparse, hrows⟩ := PetService.petCreate_rows hC hconnects hcreate
      rw [hcreate, World.committed] at h
      have hrow := hrows id
      rw [h, Option.map_some] at hrow
      obtain ⟨row, hrow, hface⟩ := exists_of_map_face hrow.symm
      rcases Table.find?_of_insertNew hrow with hfound | ⟨-, hid, rfl⟩
      · exact .kept row hfound hface
      · exact .created data input hid hparse hok (by rw [hface, ← show w.nextPet = id from hid])

/-- A call that does no more than connect pets keeps the row of a pet, updates it, adds photos to it
or creates it. -/
theorem petRowChange (hC : C.Lawful) (hconnects : l.connectsOnly = true)
    (h : (l.effect C w).pets.find? id = some pet') : PetRowChange C w id pet' l := by
  unfold PetPhotoCall.effect at h
  split at h
  · exact petRowChange_updated hC hconnects h
  · exact petRowChange_pushed h
  · exact .kept pet' h rfl
  · exact petRowChange_created hC hconnects h
  · exact .kept pet' h rfl

theorem Pet.photos_eq_of_face {pet pet' : Pet} (h : pet'.face = pet.face) :
    pet'.photos = pet.photos :=
  congrArg (fun face => face.2.1) h

theorem Pet.primaryPhoto_eq_of_face {pet pet' : Pet} (h : pet'.face = pet.face) :
    pet'.primaryPhoto = pet.primaryPhoto :=
  congrArg (fun face => face.2.2) h

/-- A pet whose photos are not written has had them before, and maybe not all of them. -/
theorem photos_kept (hC : C.Lawful) (hconnects : l.connectsOnly = true)
    (h : (l.effect C w).pets.find? id = some pet') (hwrites : PetCell.photos id ∉ l.writes C w) :
    ∃ pet, w.pets.find? id = some pet ∧ pet.photos ⊆ pet'.photos := by
  cases petRowChange hC hconnects h with
  | kept pet hfound hface =>
      exact ⟨pet, hfound, (Pet.photos_eq_of_face hface).symm ▸ List.Subset.refl _⟩
  | updated write input pet hid hparse hfound hok hface =>
      refine ⟨pet, hfound, ?_⟩
      have hnone : write.data.lookup "photos" = none := by
        refine Option.not_isSome_iff_eq_none.1 fun hsome => hwrites ?_
        rw [PetPhotoCall.writes, if_pos hok, PetWrite.cells, if_pos hsome, hid]
        exact List.mem_append_left _ (List.mem_singleton.2 rfl)
      rcases column_eq_some.1 (PetService.parsedFace hparse).photos with ⟨-, hphotos⟩ |
        ⟨v, change, hv, -⟩
      · rw [Pet.photos_eq_of_face hface, PetUpdateInput.apply, hphotos]
        exact List.Subset.refl _
      · rw [hnone] at hv
        cases hv
  | pushed urls pet hfound hpet' =>
      refine ⟨pet, hfound, ?_⟩
      rw [hpet']
      exact List.subset_append_left pet.photos urls
  | created data input hid hparse hok hface =>
      exact absurd (by simp [PetPhotoCall.writes, hok, hid]) hwrites

theorem primaryPhoto_kept (hC : C.Lawful) (hconnects : l.connectsOnly = true)
    (h : (l.effect C w).pets.find? id = some pet')
    (hwrites : PetCell.primaryPhoto id ∉ l.writes C w) :
    ∃ pet, w.pets.find? id = some pet ∧ pet'.primaryPhoto = pet.primaryPhoto := by
  cases petRowChange hC hconnects h with
  | kept pet hfound hface => exact ⟨pet, hfound, Pet.primaryPhoto_eq_of_face hface⟩
  | updated write input pet hid hparse hfound hok hface =>
      refine ⟨pet, hfound, ?_⟩
      have hnone : write.data.lookup "primaryPhoto" = none := by
        refine Option.not_isSome_iff_eq_none.1 fun hsome => hwrites ?_
        rw [PetPhotoCall.writes, if_pos hok, PetWrite.cells, if_pos hsome, hid]
        exact List.mem_append_right _ (List.mem_singleton.2 rfl)
      rcases column_eq_some.1 (PetService.parsedFace hparse).primaryPhoto with ⟨-, hprimary⟩ |
        ⟨v, change, hv, -⟩
      · rw [Pet.primaryPhoto_eq_of_face hface, PetUpdateInput.apply, hprimary]
        rfl
      · rw [hnone] at hv
        cases hv
  | pushed urls pet hfound hpet' => exact ⟨pet, hfound, by rw [hpet']⟩
  | created data input hid hparse hok hface =>
      exact absurd (by simp [PetPhotoCall.writes, hok, hid]) hwrites

end Effect

section Protocol

variable {ι : Type*} [DecidableEq ι]

/-- The photos are given as a list, or not at all. -/
def listsPhotos (data : List (String × Json)) : Bool :=
  match data.lookup "photos" with
  | none => true
  | some (.arr _) => true
  | some _ => false

/-- The update finds what it leaves of the photos and the primary photo as it was read, or the two
fit anyway. Neither may be the empty string, which passes the check. An operation on the photos,
which is not checked, leaves no more than the limit. -/
structure PetWrite.FindsAsRead (maxPhotos : ℕ) (write : PetWrite) (input : PetUpdateInput) (i : ι)
    (pet : Pet) (marks : List (CellMark ι PetCell)) : Prop where
  operation : listsPhotos write.data = true ∨
    ∀ change ∈ input.photos, (change.apply pet.photos).length ≤ maxPhotos
  both : ∀ change ∈ input.photos, ∀ primaryPhoto ∈ input.primaryPhoto,
    primaryPhoto ≠ some "" ∨ PrimaryAmong primaryPhoto (change.apply pet.photos)
  stored : ∀ change ∈ input.photos, input.primaryPhoto = none →
    Unwritten i (.primaryPhoto write.id) marks ∧ pet.primaryPhoto ≠ some "" ∨
      PrimaryAmong pet.primaryPhoto (change.apply pet.photos)
  new : input.photos = none → ∀ primaryPhoto ∈ input.primaryPhoto,
    Unwritten i (.photos write.id) marks ∧ primaryPhoto ≠ some "" ∨
      PrimaryAmong primaryPhoto pet.photos

instance (maxPhotos : ℕ) (write : PetWrite) (input : PetUpdateInput) (i : ι) (pet : Pet)
    (marks : List (CellMark ι PetCell)) :
    Decidable (write.FindsAsRead maxPhotos input i pet marks) :=
  decidable_of_iff
    ((listsPhotos write.data = true ∨
        ∀ change ∈ input.photos, (change.apply pet.photos).length ≤ maxPhotos) ∧
      (∀ change ∈ input.photos, ∀ primaryPhoto ∈ input.primaryPhoto,
        primaryPhoto ≠ some "" ∨ PrimaryAmong primaryPhoto (change.apply pet.photos)) ∧
      (∀ change ∈ input.photos, input.primaryPhoto = none →
        Unwritten i (.primaryPhoto write.id) marks ∧ pet.primaryPhoto ≠ some "" ∨
          PrimaryAmong pet.primaryPhoto (change.apply pet.photos)) ∧
      (input.photos = none → ∀ primaryPhoto ∈ input.primaryPhoto,
        Unwritten i (.photos write.id) marks ∧ primaryPhoto ≠ some "" ∨
          PrimaryAmong primaryPhoto pet.photos))
    ⟨fun h => ⟨h.1, h.2.1, h.2.2.1, h.2.2.2⟩, fun h => ⟨h.operation, h.both, h.stored, h.new⟩⟩

/-- An update finds the pet as it has read it, what is added stays within the limit, as a list that
is set without a check does, and no pet is created with the empty string as its primary photo; and
a request does no more on the relations of a pet than connect it. -/
def KeepsPhotos (C : PetClient) (maxPhotos : ℕ) (i : ι) (l : PetPhotoCall) (s : PetSnapshot ι) :
    Prop :=
  l.connectsOnly = true ∧
    match l with
    | .adoption (.pet (.petTransaction write)) =>
        ∀ input ∈ parsePetUpdate C write.data, ∀ pet ∈ s.state.pets.find? write.id,
          write.FindsAsRead maxPhotos input i pet s.marks
    | .adoption (.petPushPhotos petId urls) =>
        ∀ pet ∈ s.state.pets.find? petId, pet.photos.length + urls.length ≤ maxPhotos
    | .newPet (.petCreate data) =>
        ∀ input ∈ parsePetCreate C data,
          (listsPhotos data = true ∨ input.photos.length ≤ maxPhotos) ∧
            (input.primaryPhoto ≠ some "" ∨ PrimaryAmong input.primaryPhoto input.photos)
    | _ => True

instance (C : PetClient) (maxPhotos : ℕ) (i : ι) (l : PetPhotoCall) (s : PetSnapshot ι) :
    Decidable (KeepsPhotos C maxPhotos i l s) := by
  unfold KeepsPhotos
  refine @instDecidableAnd _ _ inferInstance ?_
  split <;> infer_instance

/-- The surroundings: everything else may change, and pets may be deleted, but the photos of the
others stay as they are. -/
def PetPhotosKept (w w' : World) : Prop :=
  ∀ id pet', w'.pets.find? id = some pet' → ∃ pet, w.pets.find? id = some pet ∧
    pet'.photos = pet.photos ∧ pet'.primaryPhoto = pet.primaryPhoto

def petPhotoSetting {ι : Type*} (C : PetClient) (fails : PetPhotoCall → Prop)
    (admits : ι → PetPhotoCall → PetSnapshot ι → Prop) :
    Setting ι World PetPhotoCall (CellMark ι PetCell) where
  mark := petPhotoMark C
  env := PetPhotosKept
  mayFail := fails
  admits := admits

/-- What an update writes was checked, with what had been read of the rest. -/
structure PetWrite.Checked (maxPhotos : ℕ) (i : ι) (write : PetWrite) (input : PetUpdateInput)
    (s : PetSnapshot ι) : Prop where
  limit : listsPhotos write.data = true → ∀ change, input.photos = some change → ∀ photos,
    (change.apply photos).length ≤ maxPhotos
  both : ∀ change, input.photos = some change → ∀ primaryPhoto,
    input.primaryPhoto = some primaryPhoto →
      ∀ photos, PrimaryChecked primaryPhoto (change.apply photos)
  stored : ∀ change, input.photos = some change → input.primaryPhoto = none →
    ReadAs i (.primaryPhoto write.id) (fun w => ∀ pet, w.pets.find? write.id = some pet →
      ∀ photos, PrimaryChecked pet.primaryPhoto (change.apply photos)) s
  new : input.photos = none → ∀ primaryPhoto, input.primaryPhoto = some primaryPhoto →
    ReadAs i (.photos write.id) (fun w => ∀ pet, w.pets.find? write.id = some pet →
      PrimaryChecked primaryPhoto pet.photos) s

/-- What the requests write was checked. -/
def WritesChecked (C : PetClient) (maxPhotos : ℕ) (i : ι) (l : PetPhotoCall) (s : PetSnapshot ι) :
    Prop :=
  match l with
  | .adoption (.pet (.petTransaction write)) =>
      ∀ input, parsePetUpdate C write.data = some input → write.Checked maxPhotos i input s
  | .newPet (.petCreate data) =>
      ∀ input, parsePetCreate C data = some input →
        (listsPhotos data = true → input.photos.length ≤ maxPhotos) ∧
          PrimaryChecked input.primaryPhoto input.photos
  | _ => True

/-- The photos of all pets are in order. -/
def World.PetPhotosInOrder (maxPhotos : ℕ) (w : World) : Prop :=
  ∀ pet ∈ w.pets.rows, pet.PhotosInOrder maxPhotos

theorem Pet.PhotosInOrder.congr {maxPhotos : ℕ} {pet pet' : Pet} (h : pet.PhotosInOrder maxPhotos)
    (hface : pet'.face = pet.face) : pet'.PhotosInOrder maxPhotos := by
  have hphotos := Pet.photos_eq_of_face hface
  exact ⟨hphotos ▸ h.limit, by rw [hphotos, Pet.primaryPhoto_eq_of_face hface]; exact h.primary⟩

variable {C : PetClient} {maxPhotos : ℕ} {i : ι} {l : PetPhotoCall} {s : PetSnapshot ι} {id : ℕ}
  {pet : Pet}

/-- An update that finds the pet as it was read leaves its photos in order. -/
theorem PetWrite.Checked.inOrder {write : PetWrite} {input : PetUpdateInput}
    (h : write.Checked maxPhotos i input s) (hfound : s.state.pets.find? write.id = some pet)
    (hfinds : write.FindsAsRead maxPhotos input i pet s.marks)
    (hpet : pet.PhotosInOrder maxPhotos) : (input.apply pet).PhotosInOrder maxPhotos := by
  have hprimary : (input.apply pet).primaryPhoto = input.primaryPhoto.getD pet.primaryPhoto := rfl
  have hphotos : (input.apply pet).photos =
    input.photos.elim pet.photos fun change => change.apply pet.photos := rfl
  cases hchange : input.photos with
  | none =>
      rw [hchange, Option.elim_none] at hphotos
      refine ⟨hphotos ▸ hpet.limit, ?_⟩
      rw [hphotos, hprimary]
      cases hdata : input.primaryPhoto with
      | none => exact hpet.primary
      | some primaryPhoto =>
          rcases hfinds.new hchange primaryPhoto hdata with ⟨hunwritten, hne⟩ | hamong
          · exact h.new hchange primaryPhoto hdata hunwritten pet hfound hne
          · exact hamong
  | some change =>
      rw [hchange, Option.elim_some] at hphotos
      refine ⟨?_, ?_⟩
      · rw [hphotos]
        rcases hfinds.operation with hlist | hlimit
        · exact h.limit hlist change hchange _
        · exact hlimit change hchange
      · rw [hphotos, hprimary]
        cases hdata : input.primaryPhoto with
        | none =>
            rcases hfinds.stored change hchange hdata with ⟨hunwritten, hne⟩ | hamong
            · exact h.stored change hchange hdata hunwritten pet hfound _ hne
            · exact hamong
        | some primaryPhoto =>
            rcases hfinds.both change hchange primaryPhoto hdata with hne | hamong
            · exact h.both change hchange primaryPhoto hdata _ hne
            · exact hamong

/-- The step lemma: a call that was checked, and keeps to the limits, keeps the photos in order. -/
theorem petPhotosInOrder_call (hC : C.Lawful) (hinv : s.state.PetPhotosInOrder maxPhotos)
    (hper : WritesChecked C maxPhotos i l s) (hadm : KeepsPhotos C maxPhotos i l s) :
    (l.effect C s.state).PetPhotosInOrder maxPhotos := by
  intro pet' hmem
  obtain ⟨hconnects, hadm⟩ := hadm
  have hrow := petRowChange hC hconnects (Table.find?_of_mem hmem)
  generalize pet'.id = id at hrow
  cases hrow with
  | kept pet hfound hface => exact (hinv pet (Table.mem_of_find? hfound)).congr hface
  | updated write input pet hid hparse hfound hok hface =>
      subst hid
      exact (PetWrite.Checked.inOrder (hper input hparse) hfound (hadm input hparse pet hfound)
        (hinv pet (Table.mem_of_find? hfound))).congr hface
  | pushed urls pet hfound hpet' =>
      have hpet := hinv pet (Table.mem_of_find? hfound)
      rw [hpet']
      refine ⟨?_, fun primary hprimary => List.mem_append_left urls (hpet.primary primary hprimary)⟩
      rw [List.length_append]
      exact hadm pet hfound
  | created data input hid hparse hok hface =>
      obtain ⟨hlimit, hchecked⟩ := hper input hparse
      obtain ⟨hlists, hprimary⟩ := hadm input hparse
      have hamong : PrimaryAmong input.primaryPhoto input.photos :=
        hprimary.elim hchecked fun hamong => hamong
      have hnew : (input.toRow id).PhotosInOrder maxPhotos :=
        ⟨hlists.elim hlimit fun hlimit => hlimit, hamong⟩
      exact hnew.congr hface

/-- The protocol of the photos of pets. -/
def petPhotoProtocol (hC : C.Lawful) (maxPhotos : ℕ) (fails : PetPhotoCall → Prop) :
    Protocol (petPhotoSetting (ι := ι) C fails (KeepsPhotos C maxPhotos)) where
  effect := PetPhotoCall.effect C
  permits := WritesChecked C maxPhotos
  inv := fun s => s.state.PetPhotosInOrder maxPhotos
  inv_call := fun hinv hper hadm => petPhotosInOrder_call hC hinv hper hadm
  inv_env := by
    intro w w' marks henv hinv pet' hmem
    obtain ⟨pet, hfound, hphotos, hprimary⟩ := henv pet'.id pet' (Table.find?_of_mem hmem)
    obtain ⟨hlimit, hamong⟩ := hinv pet (Table.mem_of_find? hfound)
    exact ⟨hphotos ▸ hlimit, by rwa [hphotos, hprimary]⟩

variable {fails : PetPhotoCall → Prop} {hC : C.Lawful}

omit [DecidableEq ι] in
/-- A call that is not marked as writing a cell does not write it. -/
theorem not_mem_writes {j : ι} {w : World} {cell : PetCell}
    (h : ∀ m, petPhotoMark C j l w = some m → m.isWrite cell = false) : cell ∉ l.writes C w := by
  intro hmem
  have hmark : petPhotoMark C j l w = some (.wrote j (l.writes C w)) := by
    unfold petPhotoMark
    split
    · cases hmem
    · rfl
  simpa [CellMark.isWrite, hmem] using h _ hmark

/-- What a thread has read of a pet lasts while nobody writes the cell. -/
theorem lasting_petCell (id : ℕ) (cell : PetCell) {K : Pet → Prop}
    (hcall : ∀ (l : PetPhotoCall) (w : World) pet', l.connectsOnly = true →
      (l.effect C w).pets.find? id = some pet' → cell ∉ l.writes C w →
        ∃ pet, w.pets.find? id = some pet ∧ (K pet → K pet'))
    (henv : ∀ pet pet' : Pet, pet'.photos = pet.photos → pet'.primaryPhoto = pet.primaryPhoto →
      K pet → K pet') :
    (petPhotoProtocol (ι := ι) hC maxPhotos fails).Lasting i (CellMark.isRead i cell)
      (ReadAs i cell fun w => ∀ pet, w.pets.find? id = some pet → K pet) := by
  refine .readAs (fun j l w m hm => thread_petPhotoMark (w := w) hm)
    (fun j l s _ hadm hquiet hread pet' hfound' => ?_) fun w w' hkept hread pet' hfound' => ?_
  · obtain ⟨pet, hfound, hK⟩ := hcall l s.state pet' hadm.1 hfound' (not_mem_writes hquiet)
    exact hK (hread pet hfound)
  · obtain ⟨pet, hfound, hphotos, hprimary⟩ := hkept id pet' hfound'
    exact henv pet pet' hphotos hprimary (hread pet hfound)

/-- None of the photos that a thread has read is taken away. -/
theorem lasting_petPhotos (id : ℕ) (photos : List String) :
    (petPhotoProtocol (ι := ι) hC maxPhotos fails).Lasting i (CellMark.isRead i (.photos id))
      (ReadAs i (.photos id) fun w =>
        ∀ pet, w.pets.find? id = some pet → photos ⊆ pet.photos) := by
  refine lasting_petCell id (.photos id) (fun l w pet' hconnects hfound' hwrites => ?_)
    fun pet pet' hphotos _ hread => hphotos ▸ hread
  obtain ⟨pet, hfound, hsubset⟩ := photos_kept hC hconnects hfound' hwrites
  exact ⟨pet, hfound, fun hread => List.Subset.trans hread hsubset⟩

theorem lasting_petPrimaryPhoto (id : ℕ) (primaryPhoto : Option String) :
    (petPhotoProtocol (ι := ι) hC maxPhotos fails).Lasting i (CellMark.isRead i (.primaryPhoto id))
      (ReadAs i (.primaryPhoto id) fun w =>
        ∀ pet, w.pets.find? id = some pet → pet.primaryPhoto = primaryPhoto) := by
  refine lasting_petCell id (.primaryPhoto id) (fun l w pet' hconnects hfound' hwrites => ?_)
    fun pet pet' _ hprimary hread => hprimary.trans hread
  obtain ⟨pet, hfound, hprimary⟩ := primaryPhoto_kept hC hconnects hfound' hwrites
  exact ⟨pet, hfound, fun hread => hprimary.trans hread⟩

/-- What a thread has read of a pet. -/
def ReadPet (id : ℕ) (existing : Pet) (i : ι) (s : PetSnapshot ι) : Prop :=
  ReadAs i (.photos id) (fun w => ∀ pet, w.pets.find? id = some pet →
    existing.photos ⊆ pet.photos) s ∧
  ReadAs i (.primaryPhoto id) (fun w => ∀ pet, w.pets.find? id = some pet →
    pet.primaryPhoto = existing.primaryPhoto) s

theorem lasting_readPet (id : ℕ) (existing : Pet) :
    (petPhotoProtocol (ι := ι) hC maxPhotos fails).Lasting i
      (fun m => CellMark.isRead i (.photos id) m || CellMark.isRead i (.primaryPhoto id) m)
      (ReadPet id existing i) :=
  (lasting_petPhotos id existing.photos).and (lasting_petPrimaryPhoto id existing.primaryPhoto)

end Protocol

section Checks

variable {maxPhotos : ℕ} {photos p : Json} {primaryPhoto : Option String}

theorem PrimaryChecked.mono {urls urls' : List String} (h : PrimaryChecked primaryPhoto urls)
    (hsubset : urls ⊆ urls') : PrimaryChecked primaryPhoto urls' :=
  fun hne primary hprimary => hsubset (h hne primary hprimary)

theorem primaryChecked_none (urls : List String) : PrimaryChecked none urls :=
  fun _ _ h => by cases h

theorem validatePhotos_ok {given : Option Json}
    (h : PetService.validatePhotos maxPhotos photos given = .ok ()) :
    Json.isAbove maxPhotos photos.length? = false ∧
      PetService.isNotAmong photos given = .ok false := by
  unfold PetService.validatePhotos at h
  split at h
  next => cases h
  next hlimit =>
    obtain ⟨dropped, hdropped, h⟩ := except_bind_eq_ok.1 h
    cases dropped with
    | true => cases h
    | false => exact ⟨Bool.eq_false_iff.2 hlimit, hdropped⟩

theorem length_le_of_isAbove {elems : List Json}
    (h : Json.isAbove maxPhotos (Json.arr elems).length? = false) : elems.length ≤ maxPhotos := by
  simp only [Json.isAbove, Json.length?, Option.bind_some, Json.toNumber, Option.any_some,
    decide_eq_false_iff_not, Nat.cast_lt, not_lt] at h
  exact h

/-- A photo that passes the check is among the photos. -/
theorem includes_of_isNotAmong (h : PetService.isNotAmong photos (some p) = .ok false)
    (hp : p.isTruthy = true) : photos.includes? p = some true := by
  unfold PetService.isNotAmong at h
  rw [Option.filter_some, if_pos hp] at h
  dsimp only at h
  cases hincludes : photos.includes? p with
  | none =>
      rw [hincludes] at h
      cases h
  | some among =>
      rw [hincludes] at h
      cases among with
      | true => rfl
      | false => cases h

theorem mem_of_includes {elems : List Json} {urls : List String} {s : String}
    (helems : elems.mapM Json.string? = some urls)
    (h : (Json.arr elems).includes? (.str s) = some true) : s ∈ urls := by
  rw [Json.mapM_string?_eq_some.1 helems, Json.includes?_strings] at h
  exact List.contains_iff_mem.1 (Option.some.inj h)

/-- A primary photo that passes the check is among the photos that the client takes. -/
theorem primaryChecked_of_change {change : ListChange String}
    (hchange : listChange Json.string? photos = some change)
    (hp : newValue (nullable Json.string?) p = some primaryPhoto)
    (h : PetService.isNotAmong photos (some p) = .ok false) (stored : List String) :
    PrimaryChecked primaryPhoto (change.apply stored) := by
  rintro hne s rfl
  have hincludes : p.isTruthy = true → photos.includes? p = some true := includes_of_isNotAmong h
  cases photos with
  | arr elems =>
      obtain ⟨urls, hurls, rfl⟩ := Option.map_eq_some_iff.1 hchange
      cases p with
      | str t =>
          obtain rfl : t = s := by simpa [newValue, nullable, Json.string?] using hp
          refine mem_of_includes hurls (hincludes (decide_eq_true ?_))
          rintro rfl
          exact hne rfl
      | obj fields => simpa [Json.includes?, Json.isSame] using hincludes rfl
      | _ => simp [newValue, nullable, Json.string?] at hp
  | obj fields =>
      cases p with
      | str t =>
          obtain rfl : t = s := by simpa [newValue, nullable, Json.string?] using hp
          have htruthy : (Json.str t).isTruthy = true := by
            refine decide_eq_true ?_
            rintro rfl
            exact hne rfl
          cases hincludes htruthy
      | obj fields' => cases hincludes rfl
      | _ => simp [newValue, nullable, Json.string?] at hp
  | _ => cases hchange

theorem primaryChecked_of_newList {urls : List String} (hurls : newList photos = some urls)
    (hp : nullable Json.string? p = some primaryPhoto)
    (h : PetService.isNotAmong photos (some p) = .ok false) : PrimaryChecked primaryPhoto urls := by
  rintro hne s rfl
  have hincludes : p.isTruthy = true → photos.includes? p = some true := includes_of_isNotAmong h
  cases p with
  | str t =>
      obtain rfl : t = s := by simpa [nullable, Json.string?] using hp
      have htruthy : (Json.str t).isTruthy = true := by
        refine decide_eq_true ?_
        rintro rfl
        exact hne rfl
      cases photos with
      | arr elems => exact mem_of_includes hurls (hincludes htruthy)
      | obj fields => cases hincludes htruthy
      | _ => cases hurls
  | _ => simp [nullable, Json.string?] at hp

/-- The pet type is read, and nothing else. -/
theorem requirePetType_confined (petTypeId : Option Json) :
    (PetService.requirePetType petTypeId).Confined
      (fun l next => (∃ petType, l = .petTypeFindUnique petType) ∧ next = id) fun _ => True := by
  unfold PetService.requirePetType
  split
  · trivial
  · refine Process.confined_query_bind ⟨⟨_, rfl⟩, rfl⟩ trivial fun w => ?_
    split <;> trivial

end Checks

section Threads

variable {ι : Type*} [DecidableEq ι] {C : PetClient} {hC : C.Lawful} {maxPhotos : ℕ}
  {fails : PetPhotoCall → Prop} {i : ι} {s : PetSnapshot ι} {id : ℕ}

/-- What the check of the photos leaves of a field. -/
theorem lookup_photosInput {data : UpdatePetDto} {existing : Pet}
    {updateInput : List (String × Json)}
    (h : PetService.photosInput maxPhotos data existing = .ok updateInput) :
    updateInput.lookup "photos" = data.lookup "photos" ∧
      ((data.lookup "photos" = none ∧ data.lookup "primaryPhoto" = none ∧
          updateInput.lookup "primaryPhoto" = none) ∨
        (PetService.validatePhotos maxPhotos (PetService.photosAfter data existing)
            (data.lookup "primaryPhoto") = .ok () ∧
          (updateInput.lookup "primaryPhoto" = some .null ∨
            updateInput.lookup "primaryPhoto" = data.lookup "primaryPhoto" ∧
              PetService.isNotAmong (PetService.photosAfter data existing)
                (some (PetService.primaryPhotoAfter data existing)) = .ok false))) := by
  have hbase : ∀ name, name ≠ "petTypeId" →
      (data.filter fun field => field.1 ≠ "petTypeId").lookup name = data.lookup name :=
    fun name hname =>
      lookup_filter_key (fun key => key ≠ "petTypeId") (by simpa using hname) data
  rcases PetService.photosInput_ok h with ⟨hphotos, hprimary, rfl⟩ |
    ⟨hvalid, dropped, hdropped, rfl⟩
  · exact ⟨hbase _ (by decide), .inl ⟨hphotos, hprimary, (hbase _ (by decide)).trans hprimary⟩⟩
  · cases dropped with
    | true =>
        rw [if_pos rfl]
        refine ⟨?_, .inr ⟨hvalid, .inl (lookup_assign_self ..)⟩⟩
        rw [lookup_assign_of_ne (by decide), hbase _ (by decide)]
    | false =>
        rw [if_neg Bool.false_ne_true]
        exact ⟨hbase _ (by decide), .inr ⟨hvalid, .inr ⟨hbase _ (by decide), hdropped⟩⟩⟩

/-- Photos that are written are the ones that were checked. -/
theorem photosAfter_of_written {data : UpdatePetDto} {existing : Pet}
    {written : List (String × Json)} {change : ListChange String}
    (hphotos : written.lookup "photos" = data.lookup "photos")
    (h : column (listChange Json.string?) written "photos" = some (some change)) :
    listChange Json.string? (PetService.photosAfter data existing) = some change ∧
      data.lookup "photos" = some (PetService.photosAfter data existing) := by
  rcases column_eq_some.1 h with ⟨-, hnone⟩ | ⟨v, change', hv, hread, hsome⟩
  · cases hnone
  · obtain rfl := Option.some.inj hsome
    rw [hphotos] at hv
    have hafter : PetService.photosAfter data existing = v := by
      unfold PetService.photosAfter
      rw [hv]
      cases v with
      | null => cases hread
      | _ => rfl
    rw [hafter]
    exact ⟨hread, hv⟩

/-- Photos that are not written were checked as they were read. -/
theorem photosAfter_of_unwritten {data : UpdatePetDto} {existing : Pet}
    {written : List (String × Json)} (hphotos : written.lookup "photos" = data.lookup "photos")
    (h : column (listChange Json.string?) written "photos" = some none) :
    PetService.photosAfter data existing = .arr (existing.photos.map .str) := by
  rcases column_eq_some.1 h with ⟨hv, -⟩ | ⟨v, change, -, -, hsome⟩
  · rw [PetService.photosAfter, ← hphotos, hv]
  · cases hsome

/-- A primary photo that is written is none, or it passed the check. -/
theorem primaryPhoto_of_written {data : UpdatePetDto} {existing : Pet}
    {updateInput written : List (String × Json)} {primaryPhoto : Option String}
    (hinput : PetService.photosInput maxPhotos data existing = .ok updateInput)
    (hprimary : written.lookup "primaryPhoto" = updateInput.lookup "primaryPhoto")
    (h : column (newValue (nullable Json.string?)) written "primaryPhoto" =
      some (some primaryPhoto)) :
    primaryPhoto = none ∨ ∃ p, newValue (nullable Json.string?) p = some primaryPhoto ∧
      PetService.isNotAmong (PetService.photosAfter data existing) (some p) = .ok false := by
  obtain ⟨-, hcases⟩ := lookup_photosInput hinput
  rw [← hprimary] at hcases
  rcases column_eq_some.1 h with ⟨-, hnone⟩ | ⟨p, primaryPhoto', hp, hread, hsome⟩
  · cases hnone
  · obtain rfl := Option.some.inj hsome
    rcases hcases with ⟨-, -, hnone⟩ | ⟨-, hnull | ⟨hgiven, hamong⟩⟩
    · cases hp.symm.trans hnone
    · obtain rfl := Option.some.inj (hp.symm.trans hnull)
      exact .inl (Option.some.inj hread).symm
    · rw [PetService.primaryPhotoAfter, ← hgiven, hp, Option.getD_some] at hamong
      exact .inr ⟨p, hread, hamong⟩

/-- Without a new primary photo the one that was read passed the check. -/
theorem primaryPhoto_of_unwritten {data : UpdatePetDto} {existing : Pet}
    {updateInput written : List (String × Json)} {photos : Json}
    (hinput : PetService.photosInput maxPhotos data existing = .ok updateInput)
    (hprimary : written.lookup "primaryPhoto" = updateInput.lookup "primaryPhoto")
    (h : column (newValue (nullable Json.string?)) written "primaryPhoto" = some none)
    (hphotos : data.lookup "photos" = some photos) :
    PetService.isNotAmong (PetService.photosAfter data existing)
      (some (existing.primaryPhoto.elim .null .str)) = .ok false := by
  obtain ⟨-, hcases⟩ := lookup_photosInput hinput
  rw [← hprimary] at hcases
  rcases column_eq_some.1 h with ⟨hp, -⟩ | ⟨p, primaryPhoto, -, -, hsome⟩
  · rcases hcases with ⟨hnone, -⟩ | ⟨-, hnull | ⟨hgiven, hamong⟩⟩
    · cases hphotos.symm.trans hnone
    · cases hp.symm.trans hnull
    · rwa [PetService.primaryPhotoAfter, ← hgiven, hp, Option.getD_none] at hamong
  · cases hsome

/-- What `updatePet` is about to write was checked with the row that it has read. -/
theorem updateInput_checked {data : UpdatePetDto} {existing : Pet}
    {updateInput : List (String × Json)} {write : PetWrite}
    (hinput : PetService.photosInput maxPhotos data existing = .ok updateInput)
    (hdata : ∀ name, name ≠ "petType" → write.data.lookup name = updateInput.lookup name)
    (hs : ReadPet write.id existing i s) {input : PetUpdateInput}
    (hparse : parsePetUpdate C write.data = some input) : write.Checked maxPhotos i input s := by
  obtain ⟨hphotosRead, hprimaryRead⟩ := hs
  have hparsed := PetService.parsedFace hparse
  obtain ⟨hgiven, hcases⟩ := lookup_photosInput hinput
  have hphotos : write.data.lookup "photos" = data.lookup "photos" :=
    (hdata _ (by decide)).trans hgiven
  have hchange : ∀ change, input.photos = some change →
      listChange Json.string? (PetService.photosAfter data existing) = some change ∧
        data.lookup "photos" = some (PetService.photosAfter data existing) :=
    fun change hsome => photosAfter_of_written hphotos (hparsed.photos.trans (congrArg some hsome))
  have hprimary : ∀ primaryPhoto, input.primaryPhoto = some primaryPhoto → primaryPhoto = none ∨
      ∃ p, newValue (nullable Json.string?) p = some primaryPhoto ∧
        PetService.isNotAmong (PetService.photosAfter data existing) (some p) = .ok false :=
    fun primaryPhoto hsome => primaryPhoto_of_written hinput (hdata _ (by decide))
      (hparsed.primaryPhoto.trans (congrArg some hsome))
  refine ⟨fun hlists change hsome stored => ?_, fun change hsome primaryPhoto hp stored => ?_,
    fun change hsome hnone hunwritten pet hfound stored => ?_,
    fun hnone primaryPhoto hp hunwritten pet hfound => ?_⟩
  · obtain ⟨hread, hlookup⟩ := hchange change hsome
    rcases hcases with ⟨hnone, -⟩ | ⟨hvalid, -⟩
    · cases hlookup.symm.trans hnone
    · unfold listsPhotos at hlists
      rw [hphotos, hlookup] at hlists
      have habove := (validatePhotos_ok hvalid).1
      cases hafter : PetService.photosAfter data existing with
      | arr elems =>
          rw [hafter] at hread habove
          obtain ⟨urls, hurls, rfl⟩ := Option.map_eq_some_iff.1 hread
          have hlength := length_le_of_isAbove habove
          rwa [Json.mapM_string?_eq_some.1 hurls, List.length_map] at hlength
      | _ =>
          rw [hafter] at hlists
          cases hlists
  · rcases hprimary primaryPhoto hp with rfl | ⟨p, hread, hamong⟩
    · exact primaryChecked_none _
    · exact primaryChecked_of_change (hchange change hsome).1 hread hamong stored
  · obtain ⟨hread, hlookup⟩ := hchange change hsome
    have hamong := primaryPhoto_of_unwritten hinput (hdata _ (by decide))
      (hparsed.primaryPhoto.trans (congrArg some hnone)) hlookup
    rw [hprimaryRead hunwritten pet hfound]
    refine primaryChecked_of_change hread ?_ hamong stored
    cases existing.primaryPhoto <;> rfl
  · rcases hprimary primaryPhoto hp with rfl | ⟨p, hread, hamong⟩
    · exact primaryChecked_none _
    · rw [photosAfter_of_unwritten hphotos (hparsed.photos.trans (congrArg some hnone))] at hamong
      have hlist : listChange Json.string? (.arr (existing.photos.map .str)) =
          some (.set existing.photos) := by
        rw [listChange, Json.mapM_string?_eq_some.2 rfl, Option.map_some]
      exact (primaryChecked_of_change hlist hread hamong []).mono
        (hphotosRead hunwritten pet hfound)

/-- The row that `updatePet` reads. -/
theorem safe_findOne_photos (userId : ℕ) :
    Safe (petPhotoProtocol (ι := ι) hC maxPhotos fails).contract i
      (OnReturn fun existing s' => ReadPet id existing i s')
      (((PetService.findOne id userId).relabel PetCall.alert).relabel fun l =>
        PetPhotoCall.adoption (.pet l)) s := by
  have hnothing : (petPhotoProtocol (ι := ι) hC maxPhotos fails).Lasting i _ _ := .nothing
  unfold PetService.findOne AlertCall.read
  rw [Process.relabel_bind, Process.relabel_query, Process.relabel_bind, Process.relabel_query]
  refine hnothing.query_bind trivial (by rfl) (fun _ => trivial) fun s₁ _ _ => ?_
  cases hfound : s₁.state.pets.find? id with
  | none => exact Protocol.safe_onReturn_raise
  | some pet =>
      dsimp only
      split
      · exact Protocol.safe_onReturn_raise
      · refine (lasting_readPet id pet).ret ⟨.of ?_, .of ?_⟩ fun _ _ h => h
        · intro pet' hfound'
          obtain rfl := Option.some.inj (hfound.symm.trans hfound')
          exact List.Subset.refl _
        · intro pet' hfound'
          obtain rfl := Option.some.inj (hfound.symm.trans hfound')
          rfl

/-- Before its transaction `updatePet` reads the pet, and checks the request against it. -/
theorem safe_prepareUpdate (userId : ℕ) (data : UpdatePetDto) :
    Safe (petPhotoProtocol (ι := ι) hC maxPhotos fails).contract i
      (OnReturn fun write s' => ∃ existing updateInput, ReadPet id existing i s' ∧
        PetService.photosInput maxPhotos data existing = .ok updateInput ∧ write.id = id ∧
          ∀ name, name ≠ "petType" → write.data.lookup name = updateInput.lookup name)
      ((PetService.prepareUpdate maxPhotos id userId data).relabel fun l =>
        PetPhotoCall.adoption (.pet l)) s := by
  unfold PetService.prepareUpdate
  rw [Process.relabel_bind]
  refine Protocol.safe_onReturn_bind (safe_findOne_photos userId) fun existing s₁ _ hs₁ => ?_
  cases hinput : PetService.photosInput maxPhotos data existing with
  | error e => exact Protocol.safe_onReturn_raise
  | ok updateInput =>
      dsimp only
      have hread : (petPhotoProtocol (ι := ι) hC maxPhotos fails).Lasting i _ _ :=
        lasting_readPet id existing
      unfold PetService.connectPetType
      split
      · exact hread.ret hs₁ fun s₃ _ hs₃ =>
          ⟨existing, updateInput, hs₃, hinput, rfl, fun _ _ => rfl⟩
      next petTypeId _ =>
        rw [Process.bind_assoc, Process.relabel_bind]
        refine hread.guarded_bind hs₁ (Process.Confined.relabel
          ((requirePetType_confined (some petTypeId)).mono ?_ fun _ h => h))
          (fun _ s₂ _ hs₂ => ?_) fun _ _ _ _ _ => trivial
        · rintro l next ⟨⟨petType, rfl⟩, rfl⟩
          refine ⟨rfl, fun _ => trivial, fun w m hm => ?_⟩
          cases hm
          rfl
        · exact hread.ret hs₂ fun s₃ _ hs₃ => ⟨existing, updateInput, hs₃, hinput, rfl,
            fun name hname => lookup_assign_of_ne hname _ updateInput⟩

theorem safe_updatePet (userId : ℕ) (data : UpdatePetDto) :
    Safe (petPhotoProtocol (ι := ι) hC maxPhotos fails).contract i (OnReturn fun _ _ => True)
      ((PetService.updatePet C maxPhotos id userId data).relabel fun l =>
        PetPhotoCall.adoption (.pet l)) s := by
  unfold PetService.updatePet
  rw [Process.relabel_bind]
  refine Protocol.safe_onReturn_bind (safe_prepareUpdate userId data) fun write s₁ _ hs₁ => ?_
  obtain ⟨existing, updateInput, hs₁, hinput, rfl, hdata⟩ := hs₁
  rw [Process.relabel_tryCatch, Process.relabel_atomic]
  refine (lasting_readPet write.id existing).atomic_tryCatch hs₁ (funext fun w => ?_)
    (fun s₂ _ _ hs₂ _ hparse => updateInput_checked hinput hdata hs₂ hparse)
    fun _ _ => Protocol.safe_onReturn_raise
  change _ = w.committed _
  cases PetService.run C _ w <;> rfl

/-- A process whose calls are permitted wherever they are made. -/
theorem safe_petPhotos {α : Type} {p : Process World PetPhotoCall AppError α}
    (hp : p.Confined (fun l next => next = l.effect C ∧
      ∀ s : PetSnapshot ι, WritesChecked C maxPhotos i l s) fun _ => True) :
    Safe (petPhotoProtocol (ι := ι) hC maxPhotos fails).contract i (OnReturn fun _ _ => True) p s :=
  Protocol.Lasting.nothing.quietly trivial (hp.mono (fun _ _ h => ⟨h.1, h.2, fun _ _ _ => rfl⟩)
    fun _ h => h)

theorem generateTagId_confined (E : PetEnv) (attempts : ℕ) :
    ((PetService.generateTagId E attempts).relabel PetPhotoCall.newPet).Confined
      (fun l next => next = l.effect C ∧ ∀ s : PetSnapshot ι, WritesChecked C maxPhotos i l s)
      fun _ => True := by
  induction attempts with
  | zero => trivial
  | succ attempts ih =>
      unfold PetService.generateTagId
      rw [Process.relabel_bind]
      refine Process.Confined.bind ?_ fun tagId => ?_
      · exact Process.confined_modify ⟨rfl, fun _ => trivial⟩ trivial
      · rw [Process.relabel_bind]
        refine Process.confined_query_bind ⟨rfl, fun _ => trivial⟩ trivial fun w => ?_
        split
        · trivial
        · exact ih

/-- The fields that `createPet` adds are not about photos. -/
theorem lookup_createInput {userId : ℕ} {tagId : String} {petTypeId : Json} {data : CreatePetDto}
    {name : String} (hname : name ∉ ["petType", "user", "tagId", "petTypeId"]) :
    (PetService.createInput userId tagId petTypeId data).lookup name = data.lookup name := by
  simp only [List.mem_cons, List.not_mem_nil, or_false, not_or] at hname
  obtain ⟨htype, huser, htag, htypeId⟩ := hname
  rw [PetService.createInput, lookup_assign_of_ne htype, lookup_assign_of_ne huser,
    lookup_assign_of_ne htag]
  exact lookup_filter_key (fun key => key ≠ "petTypeId") (by simpa using htypeId) data

/-- The photos of the row, and its primary photo, are parsed from these fields. -/
theorem columns_of_parsePetCreate {data : List (String × Json)} {input : PetCreateInput}
    (h : parsePetCreate C data = some input) :
    ∃ photos primaryPhoto, column newList data "photos" = some photos ∧
      column (nullable Json.string?) data "primaryPhoto" = some primaryPhoto ∧
      input.photos = photos.getD [] ∧ input.primaryPhoto = primaryPhoto.join := by
  unfold parsePetCreate at h
  split at h
  · cases h
  · simp only [bind, Option.bind_eq_some_iff] at h
    obtain ⟨_, -, _, -, _, -, _, -, _, -, photos, hphotos, primaryPhoto, hprimary, _, -, _, -, _, -,
      hinput⟩ := h
    obtain rfl := Option.some.inj hinput
    exact ⟨photos, primaryPhoto, hphotos, hprimary, rfl, rfl⟩

/-- The row that `createPet` inserts was checked. -/
theorem createInput_checked {userId : ℕ} {tagId : String} {petTypeId : Json} {data : CreatePetDto}
    (hvalid : PetService.validatePhotos maxPhotos (PetService.newPhotos data)
      (data.lookup "primaryPhoto") = .ok ()) {input : PetCreateInput}
    (hparse : parsePetCreate C (PetService.createInput userId tagId petTypeId data) = some input) :
    (listsPhotos (PetService.createInput userId tagId petTypeId data) = true →
        input.photos.length ≤ maxPhotos) ∧
      PrimaryChecked input.primaryPhoto input.photos := by
  obtain ⟨habove, hamong⟩ := validatePhotos_ok hvalid
  obtain ⟨photos, primaryPhoto, hphotos, hprimary, hlist, hfirst⟩ :=
    columns_of_parsePetCreate hparse
  have hnew : newList (PetService.newPhotos data) = some input.photos := by
    rw [hlist]
    rcases column_eq_some.1 hphotos with ⟨hnone, rfl⟩ | ⟨v, urls, hv, hurls, rfl⟩
    · rw [lookup_createInput (by decide)] at hnone
      rw [PetService.newPhotos, hnone]
      rfl
    · rw [lookup_createInput (by decide)] at hv
      rw [PetService.newPhotos, hv, Option.getD_some]
      cases v with
      | null => cases hurls
      | _ => exact hurls
  refine ⟨fun hlists => ?_, ?_⟩
  · unfold listsPhotos at hlists
    rw [lookup_createInput (by decide)] at hlists
    cases hafter : PetService.newPhotos data with
    | arr elems =>
        rw [hafter] at habove hnew
        have hlength := length_le_of_isAbove habove
        rwa [Json.mapM_string?_eq_some.1 hnew, List.length_map] at hlength
    | _ =>
        exfalso
        unfold PetService.newPhotos at hafter
        split at hafter <;> simp_all
  · rw [hfirst]
    rcases column_eq_some.1 hprimary with ⟨hnone, rfl⟩ | ⟨p, first, hp, hread, rfl⟩
    · exact primaryChecked_none _
    · rw [lookup_createInput (by decide)] at hp
      rw [hp] at hamong
      exact primaryChecked_of_newList hnew hread hamong

theorem createPet_confined (E : PetEnv) (userId : ℕ) (data : CreatePetDto) :
    ((PetService.createPet E C maxPhotos userId data).relabel PetPhotoCall.newPet).Confined
      (fun l next => next = l.effect C ∧ ∀ s : PetSnapshot ι, WritesChecked C maxPhotos i l s)
      fun _ => True := by
  unfold PetService.createPet
  rw [Process.relabel_bind]
  refine (generateTagId_confined E _).bind fun tagId => ?_
  rw [Process.relabel_bind]
  refine Process.Confined.bind ?_ fun _ => ?_
  · refine Process.Confined.relabel (Process.Confined.relabel
      ((requirePetType_confined (data.lookup "petTypeId")).mono ?_ fun _ h => h))
    rintro l next ⟨⟨petType, rfl⟩, rfl⟩
    exact ⟨rfl, fun _ => trivial⟩
  · cases hcheck : PetService.validatePhotos maxPhotos (PetService.newPhotos data)
        (data.lookup "primaryPhoto") with
    | error e => trivial
    | ok _ =>
        dsimp only
        rw [Process.relabel_tryCatch, Process.relabel_atomic]
        refine Process.Confined.tryCatch (T := fun _ => True) ?_ fun _ _ => trivial
        refine Process.confined_atomic
          ⟨funext fun w => ?_, fun _ _ hparse => createInput_checked hcheck hparse⟩
          (fun _ _ _ => trivial) trivial
        change _ = w.committed _
        cases PetService.petCreate C _ w <;> rfl

theorem addPhotos_confined (userId : ℕ) (urls : List String) :
    ((AdoptionService.addPhotos id userId urls).relabel PetPhotoCall.adoption).Confined
      (fun l next => next = l.effect C ∧ ∀ s : PetSnapshot ι, WritesChecked C maxPhotos i l s)
      fun _ => True := by
  unfold AdoptionService.addPhotos AdoptionService.requireOwned
  rw [Process.relabel_bind, Process.relabel_bind]
  refine Process.Confined.bind
    (Process.confined_query_bind ⟨rfl, fun _ => trivial⟩ trivial fun w => ?_) fun found => ?_
  · cases hfound : w.findListing id with
    | none => trivial
    | some found =>
        unfold AdoptionService.ownedBy
        dsimp only
        split <;> trivial
  · dsimp only
    split
    · trivial
    · rw [Process.relabel_bind, Process.relabel_atomic]
      refine Process.Confined.bind (Process.confined_atomic ⟨rfl, fun _ => trivial⟩
        (fun _ _ _ => trivial) trivial) fun _ => ?_
      unfold AdoptionService.findUniqueOrThrow
      rw [Process.relabel_atomic]
      exact Process.confined_atomic ⟨rfl, fun _ => trivial⟩ (fun _ _ _ => trivial) trivial

theorem safe_petPhotoRequest (E : PetEnv) (req : PetPhotoRequest) :
    Safe (petPhotoProtocol (ι := ι) hC maxPhotos fails).contract i (OnReturn fun _ _ => True)
      (req.process E C maxPhotos) s := by
  have hdone : ∀ s₁ : PetSnapshot ι, Safe (petPhotoProtocol hC maxPhotos fails).contract i
      (OnReturn fun _ _ => True) (.ret () : Process World PetPhotoCall AppError Unit) s₁ :=
    fun _ => safe_petPhotos trivial
  cases req with
  | createPet userId data =>
      exact Protocol.safe_onReturn_bind (safe_petPhotos (createPet_confined E userId data))
        fun _ s₁ _ _ => hdone s₁
  | updatePet id userId data =>
      exact Protocol.safe_onReturn_bind (safe_updatePet userId data) fun _ s₁ _ _ => hdone s₁
  | addPhotos id userId urls =>
      exact Protocol.safe_onReturn_bind (safe_petPhotos (addPhotos_confined userId urls))
        fun _ s₁ _ _ => hdone s₁

end Threads

/-- In every run that starts with the photos of all pets in order, in which each update finds the
pet as it has read it, no photos are added or set beyond the limit, and no request does more on the
relations of a pet than connect it, they stay in order. -/
theorem petPhotos_kept {ι : Type*} [DecidableEq ι] (E : PetEnv) (C : PetClient) (hC : C.Lawful)
    (maxPhotos : ℕ) (w₀ : World) (req : ι → PetPhotoRequest) (fails : PetPhotoCall → Prop)
    (h₀ : w₀.PetPhotosInOrder maxPhotos)
    {c : Config ι World PetPhotoCall AppError Unit (CellMark ι PetCell)}
    (h : Reaches (petPhotoSetting C fails (KeepsPhotos C maxPhotos))
      (Config.init w₀ fun i => (req i).process E C maxPhotos) c) :
    c.state.PetPhotosInOrder maxPhotos := by
  have hsound : Sound (petPhotoProtocol hC maxPhotos fails).contract
      (fun _ => OnReturn fun _ _ => True)
      (Config.init w₀ fun i => (req i).process E C maxPhotos) :=
    ⟨h₀, fun i => safe_petPhotoRequest E (req i)⟩
  exact (hsound.reaches h).1

def petPhotoUrl (name : String) : String := "https://cdn.example/" ++ name ++ ".jpg"

/-- A client that knows no dates, and carries out no operation on a relation. -/
def columnsOnly : PetClient where
  dateTime := fun _ => none
  nested := fun _ _ _ => .error (.prisma .other)

theorem lawful_columnsOnly : columnsOnly.Lawful := by
  intro id relations w pet w' _ h
  cases h

/-- A listed pet with five photos, and one without any. -/
def photographedWorld : World where
  users := Table.empty.insertNew { id := 1, email := "ann@x" }
  petTypes := [1]
  pets := (Table.empty.insertNew
    { id := 1, userId := 1, photos := ["a", "b", "c", "d", "e"].map petPhotoUrl
      primaryPhoto := some (petPhotoUrl "a") }).insertNew { id := 2, userId := 1, tagId := "P2" }
  adoptionListings := Table.empty.insertNew { id := 1, petId := 1, userId := 1 }
  nextPet := 3

def photoList (names : List String) : Json := .arr (names.map fun name => .str (petPhotoUrl name))

/-- The owner changes the photos, and the primary photo, adds a photo, has a third pet, and pushes
photos to the second. -/
def petPhotoRequests : Fin 5 → PetPhotoRequest
  | 0 => .updatePet 1 1 [("photos", photoList ["a", "c"])]
  | 1 => .updatePet 1 1 [("primaryPhoto", .str (petPhotoUrl "b"))]
  | 2 => .addPhotos 1 1 [petPhotoUrl "f"]
  | 3 => .createPet 1
      [("petTypeId", .num 1), ("name", .str "Rex"), ("photos", photoList ["x"]),
        ("primaryPhoto", .str (petPhotoUrl "x"))]
  | 4 => .updatePet 2 1 [("photos", .obj [("push", photoList ["a", "b", "c", "d", "e", "f"])])]

def petPhotoPool :
    Config (Fin 5) World PetPhotoCall AppError Unit (CellMark (Fin 5) PetCell) :=
  Config.init photographedWorld fun i => (petPhotoRequests i).process ⟨toString⟩ columnsOnly 5

instance (maxPhotos : ℕ) (w : World) : Decidable (w.PetPhotosInOrder maxPhotos) :=
  inferInstanceAs (Decidable (∀ pet ∈ w.pets.rows, pet.PhotosInOrder maxPhotos))

theorem photographedWorld_inOrder : photographedWorld.PetPhotosInOrder 5 := by
  decide +kernel

/-- One after the other. -/
theorem petPhotos_kept_inTurn :
    (petPhotoPool.schedule (petPhotoMark columnsOnly)
      [1, 1, 0, 0, 2, 2, 2, 3, 3, 3, 3]).state.PetPhotosInOrder 5 := by
  have hreach : Reaches (petPhotoSetting columnsOnly (fun _ => False) (KeepsPhotos columnsOnly 5))
      petPhotoPool
      (petPhotoPool.schedule (petPhotoMark columnsOnly) [1, 1, 0, 0, 2, 2, 2, 3, 3, 3, 3]) :=
    Reaches.scheduleOk (fun i l s => decide (KeepsPhotos columnsOnly 5 i l s))
      (fun _ _ _ => of_decide_eq_true) (by decide +kernel)
  exact petPhotos_kept ⟨toString⟩ columnsOnly lawful_columnsOnly 5 photographedWorld
    petPhotoRequests
    (fun _ => False) photographedWorld_inOrder hreach

/-- A sixth photo is added to the listed pet, six are pushed to the other; and two updates read the
pet before either writes, and its primary photo is not among its photos. -/
theorem petPhotos_outOfOrder :
    (∀ i ∈ [2, 4], ∃ c, Reaches (petPhotoSetting columnsOnly (fun _ => False) fun _ _ _ => True)
      petPhotoPool c ∧ c.pool i = .ret () ∧ ∃ pet ∈ c.state.pets.rows, 5 < pet.photos.length) ∧
    ∃ c, Reaches (petPhotoSetting columnsOnly (fun _ => False) fun _ _ _ => True) petPhotoPool c ∧
      c.pool 0 = .ret () ∧ c.pool 1 = .ret () ∧
      ∃ pet ∈ c.state.pets.rows, ¬ PrimaryAmong pet.primaryPhoto pet.photos := by
  constructor
  · intro i hi
    refine ⟨_, Reaches.schedule (fun _ _ _ => trivial) [i, i, i] _,
      Process.eq_ret_of_result? ?_, ?_⟩
    · revert i
      decide +kernel
    · revert i
      decide +kernel
  · exact ⟨_, Reaches.schedule (fun _ _ _ => trivial) [0, 1, 1, 0] _,
      Process.eq_ret_of_result? (by decide +kernel), Process.eq_ret_of_result? (by decide +kernel),
      by decide +kernel⟩

end FifiAlert
