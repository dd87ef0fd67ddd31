import FifiAlert.Alert.AlertService
import FifiAlert.Js.ColumnInput

/-!
# Updating and creating a pet

`PetService.updatePet`, which `AdoptionService.update` runs in a transaction of its own. What is
shown of the pet is copied to its open alerts in the transaction that writes the row. The body is
any JSON object, since nothing validates it; it is spread into the `data` of the database client,
which takes values and operations for columns, and operations on relations.

`PetService.createPet`. A collar tag is drawn until one is free, the pet type and the photos are
checked, and the row is inserted. Another request may have taken the tag in between; then the
database refuses the row.
-/

namespace FifiAlert

open Concurrency Store Js

/-- The body of a request, with what it holds under each name. -/
abbrev UpdatePetDto := List (String × Json)

/-- The database client: what it reads a date as, whether it takes an input for a pet otherwise,
and what it makes of the fields of an input that are no columns of the pet. -/
structure PetClient where
  dateTime : Json → Option Time
  accepts : List (String × Json) → Bool := fun _ => true
  nested : ℕ → List (String × Json) → World → Except AppError (Pet × World)

/-- The columns that an update of a pet names, with what becomes of them, the pet type to connect,
and the other fields. -/
structure PetUpdateInput where
  tagId : Option String := none
  userId : Option IntChange := none
  petTypeId : Option ℕ := none
  name : Option String := none
  gender : Option (Option Gender) := none
  photos : Option (ListChange String) := none
  primaryPhoto : Option (Option String) := none
  size : Option (Option Size) := none
  isMissing : Option Bool := none
  birthday : Option (Option Time) := none
  relations : List (String × Json) := []

def Gender.ofLabel : Json → Option Gender
  | .str "MALE" => some .MALE
  | .str "FEMALE" => some .FEMALE
  | _ => none

def Size.ofLabel : Json → Option Size
  | .str "SMALL" => some .SMALL
  | .str "MEDIUM" => some .MEDIUM
  | .str "LARGE" => some .LARGE
  | _ => none

/-- The id in `{ connect: { id } }`. -/
def connectedId : Json → Option ℕ
  | .obj [("connect", .obj [("id", id)])] => id.int32?.bind Int.toNat?
  | _ => none

/-- The fields of an input that name columns which an update can write. -/
def petColumns : List String :=
  ["tagId", "userId", "name", "gender", "photos", "primaryPhoto", "size", "isMissing", "birthday",
    "created_at", "updated_at"]

/-- The fields that are no columns, besides a pet type to connect. -/
def petRelations (data : List (String × Json)) : List (String × Json) :=
  data.filter fun field =>
    !petColumns.contains field.1 && !(field.1 = "petType" && (connectedId field.2).isSome)

/-- The validation of the `data` of `pet.update`. -/
def parsePetUpdate (C : PetClient) (data : List (String × Json)) : Option PetUpdateInput :=
  if !C.accepts data then none
  else do
    let tagId ← column (newValue Json.string?) data "tagId"
    let userId ← column (intChange Json.int32?) data "userId"
    let name ← column (newValue Json.string?) data "name"
    let gender ← column (newValue (nullable Gender.ofLabel)) data "gender"
    let photos ← column (listChange Json.string?) data "photos"
    let primaryPhoto ← column (newValue (nullable Json.string?)) data "primaryPhoto"
    let size ← column (newValue (nullable Size.ofLabel)) data "size"
    let isMissing ← column (newValue Json.bool?) data "isMissing"
    let birthday ← column (newValue (nullable C.dateTime)) data "birthday"
    return { tagId, userId, petTypeId := (data.lookup "petType").bind connectedId, name, gender
             photos, primaryPhoto, size, isMissing, birthday, relations := petRelations data }

namespace PetUpdateInput

/-- The owner after the update. -/
def owner (data : PetUpdateInput) (pet : Pet) : Option ℕ :=
  match data.userId with
  | none => some pet.userId
  | some change => (change.apply pet.userId).bind Int.toNat?

/-- Write the named columns of a row. -/
def apply (data : PetUpdateInput) (pet : Pet) : Pet :=
  { pet with
    tagId := data.tagId.getD pet.tagId
    userId := (data.owner pet).getD pet.userId
    petTypeId := data.petTypeId.getD pet.petTypeId
    name := data.name.getD pet.name
    gender := data.gender.getD pet.gender
    photos := data.photos.elim pet.photos fun change => change.apply pet.photos
    primaryPhoto := data.primaryPhoto.getD pet.primaryPhoto
    size := data.size.getD pet.size
    birthday := data.birthday.getD pet.birthday
    isMissing := data.isMissing.getD pet.isMissing }

theorem apply_id (data : PetUpdateInput) (pet : Pet) : (data.apply pet).id = pet.id := rfl

end PetUpdateInput

/-- What of a pet its alerts show. -/
def Pet.face (pet : Pet) : String × List String × Option String :=
  (pet.name, pet.photos, pet.primaryPhoto)

/-- The field connects the pet to an owner, a type or a listing. -/
def connects : String × Json → Bool
  | (name, .obj [("connect", _)]) => ["user", "petType", "adoptionListing"].contains name
  | _ => false

/-- To connect a pet writes no alert, and no face of a pet. -/
def PetClient.Lawful (C : PetClient) : Prop :=
  ∀ id relations w pet w', relations.all connects = true → C.nested id relations w = .ok (pet, w') →
    w'.alerts = w.alerts ∧ w'.pets.find? id = some pet ∧
      ∀ petId, (w'.pets.find? petId).map Pet.face = (w.pets.find? petId).map Pet.face

/-- Photo URLs ordered for display: the primary photo first. -/
def orderedPetPhotos (pet : Pet) : List String :=
  match Js.truthy pet.primaryPhoto with
  | none => pet.photos
  | some primary =>
    if pet.photos.contains primary then primary :: pet.photos.filter fun p => p ≠ primary
    else pet.photos

/-- An alert that is not closed. -/
def Alert.isOpen (alert : Alert) : Bool := alert.status = .ACTIVE || alert.status = .DRAFT

/-- What an alert shows of its pet. -/
def Alert.showPet (pet : Pet) (now : Time) (alert : Alert) : Alert :=
  { alert with pet_name := pet.name, pet_photos := orderedPetPhotos pet, updated_at := now }

theorem Alert.showPet_id (pet : Pet) (now : Time) (alert : Alert) :
    (alert.showPet pet now).id = alert.id := rfl

/-- What `updatePet` is about to write. -/
structure PetWrite where
  id : ℕ
  data : List (String × Json)
  snapshotChanged : Bool

inductive PetCall where
  | alert (l : AlertCall)
  | petTypeFindUnique (id : ℕ)
  | petTransaction (write : PetWrite)

abbrev PetProcess := Process World PetCall AppError

/-- `pet.findUnique` for a tag. -/
def World.petWithTag (w : World) (tagId : String) : Option Pet :=
  w.pets.rows.find? fun p => p.tagId = tagId

/-- The state after a statement that is done as a whole or not at all. -/
def World.committed {α : Type} (w : World) (result : Except AppError (α × World)) : World :=
  match result with
  | .error _ => w
  | .ok (_, w') => w'

namespace PetService

/-- `primaryPhoto && !photos.includes(primaryPhoto)`. -/
def isNotAmong (photos : Json) (primaryPhoto : Option Json) : Except AppError Bool :=
  match primaryPhoto.filter Json.isTruthy with
  | none => .ok false
  | some primary =>
    match photos.includes? primary with
    | none => .error (.error "photos.includes is not a function")
    | some among => .ok !among

/-- `validatePhotos`. -/
def validatePhotos (maxPhotos : ℕ) (photos : Json) (primaryPhoto : Option Json) :
    Except AppError Unit := do
  if Json.isAbove maxPhotos photos.length? then
    .error (.unprocessableEntity ("A pet can have at most " ++ toString maxPhotos ++ " photos"))
  else if ← isNotAmong photos primaryPhoto then
    .error (.unprocessableEntity "Primary photo must be one of the pet photos")
  else .ok ()

/-- `requirePetType`; the database client looks for numbers only. -/
def requirePetType (petTypeId : Option Json) : PetProcess Unit :=
  match petTypeId.bind Json.int32? with
  | none => .raise (.prisma .other)
  | some id => do
    let petType ← Process.query (.petTypeFindUnique id.toNat) (.prisma .other) fun w =>
      id.toNat?.any w.petTypes.contains
    if petType then return ()
    else .raise (.unprocessableEntity ("Pet type " ++ toString id ++ " does not exist"))

/-- `syncAlertSnapshots`. -/
def syncAlertSnapshots (pet : Pet) (w : World) : World :=
  { w with
    alerts := w.alerts.updateMany (fun a => a.pet_id = some pet.id && a.isOpen)
      (Alert.showPet pet w.now) (Alert.showPet_id pet w.now) }

/-- The row of a pet with the named columns rewritten. -/
def setColumns (id : ℕ) (data : PetUpdateInput) (w : World) : World :=
  { w with pets := w.pets.updateMany (fun p => p.id = id) data.apply data.apply_id }

/-- The columns of the row fit the others: the pet type and the owner exist, and the tag is free. -/
def checkColumns (data : PetUpdateInput) (pet : Pet) (w : World) : Except AppError Unit :=
  if data.petTypeId.any fun petType => !w.petTypes.contains petType then .error (.prisma .P2025)
  else if (data.tagId.bind w.petWithTag).any fun other => other.id ≠ pet.id then
    .error (.prisma .P2002)
  else if data.userId.isSome && ((data.owner pet).bind w.users.find?).isNone then
    .error (.prisma .P2003)
  else .ok ()

/-- `pet.update`, which answers with the row. -/
def petUpdate (C : PetClient) (id : ℕ) (data : List (String × Json)) (w : World) :
    Except AppError (Pet × World) :=
  match parsePetUpdate C data with
  | none => .error (.prisma .other)
  | some input =>
    match w.pets.find? id with
    | none => .error (.prisma .P2025)
    | some pet =>
      match checkColumns input pet w with
      | .error e => .error e
      | .ok _ =>
        if input.relations.isEmpty then .ok (input.apply pet, setColumns id input w)
        else C.nested id input.relations (setColumns id input w)

/-- The body of the transaction of `updatePet`. -/
def run (C : PetClient) (write : PetWrite) (w : World) : Except AppError (Pet × World) :=
  match petUpdate C write.id write.data w with
  | .error e => .error e
  | .ok (updated, w') =>
    .ok (updated, if write.snapshotChanged then syncAlertSnapshots updated w' else w')

/-- What is parsed of the columns that an alert shows, and the other fields. -/
structure ParsedFace (data : List (String × Json)) (input : PetUpdateInput) : Prop where
  name : column (newValue Json.string?) data "name" = some input.name
  photos : column (listChange Json.string?) data "photos" = some input.photos
  primaryPhoto : column (newValue (nullable Json.string?)) data "primaryPhoto" =
    some input.primaryPhoto
  relations : input.relations = petRelations data

theorem parsedFace {C : PetClient} {data : List (String × Json)} {input : PetUpdateInput}
    (h : parsePetUpdate C data = some input) : ParsedFace data input := by
  unfold parsePetUpdate at h
  split at h
  · cases h
  · simp only [bind, Option.bind_eq_some_iff] at h
    obtain ⟨tagId, -, userId, -, name, hname, gender, -, photos, hphotos, primaryPhoto, hprimary,
      size, -, isMissing, -, birthday, -, hinput⟩ := h
    obtain rfl := Option.some.inj hinput
    exact ⟨hname, hphotos, hprimary, rfl⟩

/-- The update has rewritten the row of a pet, and no alert and no face of another pet. -/
structure Rewritten (id : ℕ) (input : PetUpdateInput) (pet updated : Pet) (w w' : World) :
    Prop where
  row : w'.pets.find? id = some updated
  alerts : w'.alerts = w.alerts
  face : updated.face = (input.apply pet).face
  others : ∀ petId, petId ≠ id →
    (w'.pets.find? petId).map Pet.face = (w.pets.find? petId).map Pet.face

theorem find?_setColumns {id petId : ℕ} {input : PetUpdateInput} {pet : Pet} {w : World}
    (hfound : w.pets.find? id = some pet) :
    (setColumns id input w).pets.find? petId =
      if petId = id then some (input.apply pet) else w.pets.find? petId :=
  Table.find?_updateMany_key input.apply input.apply_id hfound

/-- An update that does no more than connect the pet answers with the row that it has rewritten. -/
theorem petUpdate_rewritten {C : PetClient} (hC : C.Lawful) {id : ℕ} {data : List (String × Json)}
    (hconnects : (petRelations data).all connects = true) {updated : Pet} {w w' : World}
    (h : petUpdate C id data w = .ok (updated, w')) :
    ∃ input pet, parsePetUpdate C data = some input ∧ w.pets.find? id = some pet ∧
      Rewritten id input pet updated w w' := by
  unfold petUpdate at h
  cases hparse : parsePetUpdate C data with
  | none =>
      rw [hparse] at h
      cases h
  | some input =>
      rw [hparse] at h
      dsimp only at h
      cases hfound : w.pets.find? id with
      | none =>
          rw [hfound] at h
          cases h
      | some pet =>
          rw [hfound] at h
          dsimp only at h
          refine ⟨input, pet, rfl, rfl, ?_⟩
          split at h
          · cases h
          · split at h
            · cases h
              refine ⟨?_, rfl, rfl, fun petId hne => ?_⟩
              · rw [find?_setColumns hfound, if_pos rfl]
              · rw [find?_setColumns hfound, if_neg hne]
            · rw [(parsedFace hparse).relations] at h
              obtain ⟨halerts, hrow, hfaces⟩ := hC _ _ _ _ _ hconnects h
              refine ⟨hrow, halerts, ?_, fun petId hne => ?_⟩
              · have hface := hfaces id
                rw [hrow, find?_setColumns hfound, if_pos rfl] at hface
                exact Option.some.inj hface
              · rw [hfaces, find?_setColumns hfound, if_neg hne]

/-- The `catch` of `updatePet`. -/
def updateFailed (id : ℕ) : AppError → AppError
  | .prisma .P2025 => .notFound ("Pet with ID " ++ toString id ++ " not found")
  | .prisma .P2003 => .unprocessableEntity "Pet type does not exist"
  | e => e

/-- `data.photos ?? existing.photos`. -/
def photosAfter (data : UpdatePetDto) (existing : Pet) : Json :=
  match data.lookup "photos" with
  | none | some .null => .arr (existing.photos.map .str)
  | some photos => photos

/-- The primary photo of the request, or else the stored one. -/
def primaryPhotoAfter (data : UpdatePetDto) (existing : Pet) : Json :=
  (data.lookup "primaryPhoto").getD (existing.primaryPhoto.elim .null .str)

def snapshotChanged (data : UpdatePetDto) : Bool :=
  (data.lookup "photos").isSome || (data.lookup "primaryPhoto").isSome ||
    (data.lookup "name").isSome

/-- The input after the check of the photos, when the request is about them. A primary photo that
is not among the photos is dropped. -/
def photosInput (maxPhotos : ℕ) (data : UpdatePetDto) (existing : Pet) :
    Except AppError (List (String × Json)) := do
  let updateInput := data.filter fun field => field.1 ≠ "petTypeId"
  if (data.lookup "photos").isSome || (data.lookup "primaryPhoto").isSome then
    let photos := photosAfter data existing
    validatePhotos maxPhotos photos (data.lookup "primaryPhoto")
    let dropped ← isNotAmong photos (some (primaryPhotoAfter data existing))
    return if dropped then assign "primaryPhoto" .null updateInput else updateInput
  else return updateInput

theorem photosInput_ok {maxPhotos : ℕ} {data : UpdatePetDto} {existing : Pet}
    {updateInput : List (String × Json)}
    (h : photosInput maxPhotos data existing = .ok updateInput) :
    (data.lookup "photos" = none ∧ data.lookup "primaryPhoto" = none ∧
        updateInput = data.filter fun field => field.1 ≠ "petTypeId") ∨
      (validatePhotos maxPhotos (photosAfter data existing) (data.lookup "primaryPhoto") =
          .ok () ∧
        ∃ dropped, isNotAmong (photosAfter data existing) (some (primaryPhotoAfter data existing)) =
            .ok dropped ∧
          updateInput = if dropped then
              assign "primaryPhoto" .null (data.filter fun field => field.1 ≠ "petTypeId")
            else data.filter fun field => field.1 ≠ "petTypeId") := by
  unfold photosInput at h
  dsimp only at h
  split at h
  next =>
    obtain ⟨_, hvalid, h⟩ := except_bind_eq_ok.1 h
    obtain ⟨dropped, hdropped, h⟩ := except_bind_eq_ok.1 h
    exact .inr ⟨hvalid, dropped, hdropped, (Except.ok.inj h).symm⟩
  next hasked =>
    rw [Bool.or_eq_true, not_or, Option.not_isSome_iff_eq_none, Option.not_isSome_iff_eq_none]
      at hasked
    exact .inl ⟨hasked.1, hasked.2, (Except.ok.inj h).symm⟩

/-- `{ connect: { id } }`. -/
def connect (id : Json) : Json := .obj [("connect", .obj [("id", id)])]

/-- The input with the pet type that the request names. -/
def connectPetType (petTypeId : Option Json) (updateInput : List (String × Json)) :
    PetProcess (List (String × Json)) :=
  match petTypeId with
  | none => return updateInput
  | some petTypeId => do
    requirePetType petTypeId
    return assign "petType" (connect petTypeId) updateInput

/-- `updatePet` before its transaction. -/
def prepareUpdate (maxPhotos id userId : ℕ) (data : UpdatePetDto) : PetProcess PetWrite := do
  let existing ← (findOne id userId).relabel .alert
  match photosInput maxPhotos data existing with
  | .error e => .raise e
  | .ok updateInput => do
    let updateInput ← connectPetType (data.lookup "petTypeId") updateInput
    return { id, data := updateInput, snapshotChanged := snapshotChanged data }

/-- `updatePet`. -/
def updatePet (C : PetClient) (maxPhotos id userId : ℕ) (data : UpdatePetDto) :
    PetProcess Pet := do
  let write ← prepareUpdate maxPhotos id userId data
  Process.tryCatch
    (Process.atomic (.petTransaction write) (.prisma .other) fun w =>
      match run C write w with
      | .error e => (.error e, w)
      | .ok (updated, w') => (.ok updated, w'))
    fun e => .raise (updateFailed id e)

end PetService

/-- The body of a request, with what it holds under each name. -/
abbrev CreatePetDto := List (String × Json)

/-- The row that an insertion of a pet asks for, and the fields that are no columns. -/
structure PetCreateInput where
  tagId : String
  userId : ℕ
  petTypeId : ℕ
  name : String
  gender : Option Gender := none
  photos : List String := []
  primaryPhoto : Option String := none
  size : Option Size := none
  isMissing : Bool := false
  birthday : Option Time := none
  relations : List (String × Json) := []

def PetCreateInput.toRow (data : PetCreateInput) (id : ℕ) : Pet where
  id := id
  tagId := data.tagId
  userId := data.userId
  petTypeId := data.petTypeId
  name := data.name
  gender := data.gender
  photos := data.photos
  primaryPhoto := data.primaryPhoto
  size := data.size
  isMissing := data.isMissing
  birthday := data.birthday

/-- A new list, by itself or with the operation `set`. -/
def newList : Json → Option (List String)
  | .arr elems => elems.mapM Json.string?
  | .obj [("set", .arr elems)] => elems.mapM Json.string?
  | _ => none

/-- The validation of the `data` of `pet.create`. -/
def parsePetCreate (C : PetClient) (data : List (String × Json)) : Option PetCreateInput :=
  if !C.accepts data then none
  else do
    let tagId ← (data.lookup "tagId").bind Json.string?
    let userId ← (data.lookup "user").bind connectedId
    let petTypeId ← (data.lookup "petType").bind connectedId
    let name ← (data.lookup "name").bind Json.string?
    let gender ← column (nullable Gender.ofLabel) data "gender"
    let photos ← column newList data "photos"
    let primaryPhoto ← column (nullable Json.string?) data "primaryPhoto"
    let size ← column (nullable Size.ofLabel) data "size"
    let isMissing ← column Json.bool? data "isMissing"
    let birthday ← column (nullable C.dateTime) data "birthday"
    return { tagId, userId, petTypeId, name, gender := gender.join, photos := photos.getD []
             primaryPhoto := primaryPhoto.join, size := size.join
             isMissing := isMissing.getD false, birthday := birthday.join
             relations := (petRelations data).filter fun field => field.1 ≠ "user" }

/-- The tag generator: the tag that each draw gives. -/
structure PetEnv where
  nanoid : ℕ → String

inductive NewPetCall where
  | pet (l : PetCall)
  | nanoid
  | petFindByTag (tagId : String)
  | petCreate (data : List (String × Json))

abbrev NewPetProcess := Process World NewPetCall AppError

namespace PetService

/-- `maxRetries` of `generateTagId`. -/
def maxRetries : ℕ := 5

def nanoid (E : PetEnv) : NewPetProcess String :=
  Process.modify .nanoid (.prisma .other) (fun w => { w with nextTag := w.nextTag + 1 })
    fun w => E.nanoid w.nextTag

/-- `generateTagId`, with the attempts that are left. -/
def generateTagId (E : PetEnv) : ℕ → NewPetProcess String
  | 0 => .raise (.conflict "Failed to generate unique tag ID after multiple attempts")
  | attempts + 1 => do
    let tagId ← nanoid E
    let existing ← Process.query (.petFindByTag tagId) (.prisma .other) fun w =>
      w.petWithTag tagId
    if existing.isNone then return tagId
    else generateTagId E attempts

/-- The row that is inserted. -/
def insertPet (data : PetCreateInput) (w : World) : World :=
  { w with pets := w.pets.insertNew (data.toRow w.nextPet), nextPet := w.nextPet + 1 }

/-- `pet.create`: the user and the pet type have to exist, and the tag has to be free. -/
def petCreate (C : PetClient) (data : List (String × Json)) (w : World) :
    Except AppError (Pet × World) :=
  match parsePetCreate C data with
  | none => .error (.prisma .other)
  | some input =>
    if (w.users.find? input.userId).isNone then .error (.prisma .P2025)
    else if !w.petTypes.contains input.petTypeId then .error (.prisma .P2025)
    else if (w.petWithTag input.tagId).isSome then .error (.prisma .P2002)
    else if input.relations.isEmpty then .ok (input.toRow w.nextPet, insertPet input w)
    else C.nested w.nextPet input.relations (insertPet input w)

theorem parsePetCreate_relations {C : PetClient} {data : List (String × Json)}
    {input : PetCreateInput} (h : parsePetCreate C data = some input) :
    input.relations = (petRelations data).filter fun field => field.1 ≠ "user" := by
  unfold parsePetCreate at h
  split at h
  · cases h
  · simp only [bind, Option.bind_eq_some_iff] at h
    obtain ⟨_, -, _, -, _, -, _, -, _, -, _, -, _, -, _, -, _, -, _, -, hinput⟩ := h
    obtain rfl := Option.some.inj hinput
    rfl

/-- A pet after a creation that does no more than connect the new one. -/
theorem petCreate_rows {C : PetClient} (hC : C.Lawful) {data : List (String × Json)}
    (hconnects : (petRelations data).all connects = true) {created : Pet} {w w' : World}
    (h : petCreate C data w = .ok (created, w')) :
    ∃ input, parsePetCreate C data = some input ∧
      ∀ petId, (w'.pets.find? petId).map Pet.face =
        ((insertPet input w).pets.find? petId).map Pet.face := by
  unfold petCreate at h
  cases hparse : parsePetCreate C data with
  | none =>
      rw [hparse] at h
      cases h
  | some input =>
      rw [hparse] at h
      dsimp only at h
      refine ⟨input, rfl, ?_⟩
      split at h
      · cases h
      split at h
      · cases h
      split at h
      · cases h
      split at h
      · cases h
        exact fun _ => rfl
      · have hall : input.relations.all connects = true := by
          rw [parsePetCreate_relations hparse, List.all_filter]
          rw [List.all_eq_true] at hconnects ⊢
          intro field hfield
          rw [hconnects field hfield, Bool.or_true]
        exact (hC _ _ _ _ _ hall h).2.2

/-- The `catch` of `createPet`. -/
def createFailed : AppError → AppError
  | .prisma .P2002 => .conflict "Pet with this tag ID already exists"
  | .prisma .P2003 => .unprocessableEntity "Pet type does not exist"
  | e => e

/-- The input of `pet.create`. -/
def createInput (userId : ℕ) (tagId : String) (petTypeId : Json) (data : CreatePetDto) :
    List (String × Json) :=
  assign "petType" (connect petTypeId) (assign "user" (connect (.num userId))
    (assign "tagId" (.str tagId) (data.filter fun field => field.1 ≠ "petTypeId")))

/-- `data.photos ?? []`. -/
def newPhotos (data : CreatePetDto) : Json :=
  match data.lookup "photos" with
  | none | some .null => .arr []
  | some photos => photos

/-- `createPet`. -/
def createPet (E : PetEnv) (C : PetClient) (maxPhotos userId : ℕ) (data : CreatePetDto) :
    NewPetProcess Pet := do
  let tagId ← generateTagId E maxRetries
  let petTypeId := data.lookup "petTypeId"
  (requirePetType petTypeId).relabel .pet
  match validatePhotos maxPhotos (newPhotos data) (data.lookup "primaryPhoto") with
  | .error e => .raise e
  | .ok _ =>
    let input := createInput userId tagId (petTypeId.getD .null) data
    Process.tryCatch
      (Process.atomic (.petCreate input) (.prisma .other) fun w =>
        match petCreate C input w with
        | .error e => (.error e, w)
        | .ok (created, w') => (.ok created, w'))
      fun e => .raise (createFailed e)

end PetService

end FifiAlert
