import FifiAlert.Pet.PetService

/-!
# Adoption listings

The owner's side of `AdoptionService`: a listing is changed with its pet, it is marked adopted,
withdrawn and listed again, and photos are added to its pet. A listing is read together with its
pet, without which it cannot be. Each change reads the listing first.
-/

namespace FifiAlert

open Concurrency Store

structure AdoptionListingWithRelations where
  listing : AdoptionListing
  pet : Pet
  deriving DecidableEq

/-- The fields of a pet in a request and those of its listing. The pipe of the route lets only the
columns of a pet through. -/
structure UpdateAdoptionListingDto where
  petFields : UpdatePetDto := []
  lat : Option (Option ℚ) := none
  lon : Option (Option ℚ) := none
  locationAddress : Option (Option String) := none
  description : Option (Option String) := none

/-- The `data` of `adoptionListing.update`: the columns it names, with their values. -/
structure AdoptionListingUpdateInput where
  lat : Option (Option ℚ) := none
  lon : Option (Option ℚ) := none
  locationAddress : Option (Option String) := none
  description : Option (Option String) := none
  status : Option AdoptionStatus := none
  adoptedAt : Option Time := none
  deriving DecidableEq

namespace AdoptionListingUpdateInput

def isValid (data : AdoptionListingUpdateInput) : Bool :=
  data.lat ≠ some none && data.lon ≠ some none

/-- Write the named columns of a row. -/
def apply (data : AdoptionListingUpdateInput) (listing : AdoptionListing) : AdoptionListing :=
  { listing with
    lat := data.lat.join.getD listing.lat
    lon := data.lon.join.getD listing.lon
    locationAddress := data.locationAddress.getD listing.locationAddress
    description := data.description.getD listing.description
    status := data.status.getD listing.status
    adoptedAt := data.adoptedAt <|> listing.adoptedAt }

theorem apply_id (data : AdoptionListingUpdateInput) (listing : AdoptionListing) :
    (data.apply listing).id = listing.id := rfl

end AdoptionListingUpdateInput

/-- What `AdoptionService.update` writes in its transaction. -/
structure ListingWrite where
  id : ℕ
  pet : Option PetWrite
  data : AdoptionListingUpdateInput

inductive AdoptionCall where
  | pet (l : PetCall)
  | listingFindUnique (id : ℕ)
  | listingFindUniqueOrThrow (id : ℕ)
  | listingUpdate (id : ℕ) (data : AdoptionListingUpdateInput)
  | listingTransaction (write : ListingWrite)
  | petPushPhotos (petId : ℕ) (urls : List String)

abbrev AdoptionProcess := Process World AdoptionCall AppError

/-- `adoptionListing.findUnique` with its pet. -/
def World.findListing (w : World) (id : ℕ) : Option AdoptionListingWithRelations :=
  (w.adoptionListings.find? id).bind fun listing =>
    (w.pets.find? listing.petId).map fun pet => { listing, pet }

/-- A listing is found again under its id. -/
theorem findListing_id {world : World} {id : ℕ} {found : AdoptionListingWithRelations}
    (h : world.findListing id = some found) : found.listing.id = id := by
  obtain ⟨listing, hlisting, hpet⟩ := Option.bind_eq_some_iff.1 h
  obtain ⟨pet, -, rfl⟩ := Option.map_eq_some_iff.1 hpet
  exact Table.key_of_find? hlisting

/-- The columns of a listing that is there are rewritten. -/
def World.setListing (w : World) (id : ℕ) (data : AdoptionListingUpdateInput) : World :=
  { w with
    adoptionListings := w.adoptionListings.updateMany (fun l => l.id = id) data.apply
      data.apply_id }

/-- The photos are appended to those of the pet. -/
def World.pushPhotos (w : World) (petId : ℕ) (urls : List String) : World :=
  { w with
    pets := w.pets.updateMany (fun p => p.id = petId) fun p =>
      { p with photos := p.photos ++ urls } }

namespace AdoptionService

def MAX_ADOPTION_PHOTOS : ℕ := 10

/-- The listing under an id that has to be there. -/
def listingOr (e : AppError) (w : World) (id : ℕ) : Except AppError AdoptionListingWithRelations :=
  match w.findListing id with
  | none => .error e
  | some listing => .ok listing

def findUniqueOrThrow (id : ℕ) : AdoptionProcess AdoptionListingWithRelations :=
  Process.atomic (.listingFindUniqueOrThrow id) (.prisma .other) fun w =>
    (listingOr (.prisma .P2025) w id, w)

def notFoundMessage (id : ℕ) : String := "Adoption listing " ++ toString id ++ " not found"

/-- The check of `requireOwned`. -/
def ownedBy (id userId : ℕ) :
    Option AdoptionListingWithRelations → AdoptionProcess AdoptionListingWithRelations
  | none => .raise (.notFound (notFoundMessage id))
  | some found =>
    if found.listing.userId ≠ userId then
      .raise (.forbidden "You do not have permission to manage this listing")
    else return found

/-- `requireOwned`. -/
def requireOwned (id userId : ℕ) : AdoptionProcess AdoptionListingWithRelations := do
  let found ← Process.query (.listingFindUnique id) (.prisma .other) fun w => w.findListing id
  ownedBy id userId found

/-- `adoptionListing.update`, answering with the listing as it is then. -/
def listingUpdate (id : ℕ) (data : AdoptionListingUpdateInput) :
    AdoptionProcess AdoptionListingWithRelations :=
  Process.atomic (.listingUpdate id data) (.prisma .other) fun w =>
    (listingOr (.prisma .P2025) (w.setListing id data) id, w.setListing id data)

/-- `new Date()`. -/
def dateNow : AdoptionProcess Time :=
  (AlertCall.read .dateNow World.now).relabel fun l => .pet (.alert l)

/-- `markAdopted`. -/
def markAdopted (id userId : ℕ) : AdoptionProcess AdoptionListingWithRelations := do
  let found ← requireOwned id userId
  if found.listing.status ≠ .AVAILABLE then
    .raise (.conflict ("Only AVAILABLE listings can be marked adopted (current: " ++
      found.listing.status.text ++ ")"))
  else do
    let date ← dateNow
    listingUpdate id { status := some .ADOPTED, adoptedAt := some date }

/-- `withdraw`. -/
def withdraw (id userId : ℕ) : AdoptionProcess AdoptionListingWithRelations := do
  let found ← requireOwned id userId
  if found.listing.status ≠ .AVAILABLE then
    .raise (.conflict ("Only AVAILABLE listings can be withdrawn (current: " ++
      found.listing.status.text ++ ")"))
  else listingUpdate id { status := some .WITHDRAWN }

/-- `relist`. -/
def relist (id userId : ℕ) : AdoptionProcess AdoptionListingWithRelations := do
  let found ← requireOwned id userId
  if found.listing.status ≠ .WITHDRAWN then
    .raise (.conflict ("Only WITHDRAWN listings can be relisted (current: " ++
      found.listing.status.text ++ ")"))
  else listingUpdate id { status := some .AVAILABLE }

/-- `listingData` of `update`. -/
def listingData (dto : UpdateAdoptionListingDto) : AdoptionListingUpdateInput where
  lat := dto.lat
  lon := dto.lon
  locationAddress := dto.locationAddress
  description := dto.description

/-- The point of a listing whose coordinates were given. -/
def setPoint (lat lon : ℚ) (listing : AdoptionListing) : AdoptionListing :=
  { listing with location_point := ⟨lon, lat⟩ }

/-- The statements on the listing in the transaction of `update`. -/
def writeListing (id : ℕ) (data : AdoptionListingUpdateInput) (w : World) :
    Except AppError World :=
  if data = {} then .ok w
  else if !data.isValid then .error (.prisma .other)
  else
    match w.adoptionListings.find? id with
    | none => .error (.prisma .P2025)
    | some _ =>
      match data.lat.join, data.lon.join with
      | some lat, some lon =>
        .ok { w.setListing id data with
          adoptionListings :=
            (w.setListing id data).adoptionListings.updateMany (fun l => l.id = id)
              (setPoint lat lon) fun _ => rfl }
      | _, _ => .ok (w.setListing id data)

/-- The part of the transaction that writes the pet: `updatePet` with its `catch`. -/
def writePet (C : PetClient) (pet : Option PetWrite) (w : World) : Except AppError World :=
  match pet with
  | none => .ok w
  | some write =>
    match PetService.run C write w with
    | .error e => .error (PetService.updateFailed write.id e)
    | .ok (_, w') => .ok w'

/-- The transaction of `update`, without its reads: all of it or nothing. -/
def run (C : PetClient) (write : ListingWrite) (w : World) :
    Except AppError (AdoptionListingWithRelations × World) := do
  let w' ← writePet C write.pet w
  let w'' ← writeListing write.id write.data w'
  let found ← listingOr (.prisma .P2025) w'' write.id
  return (found, w'')

/-- The update of the pet, when the request has a field of the pet. -/
def preparePet (maxPhotos petId userId : ℕ) (petFields : UpdatePetDto) :
    AdoptionProcess (Option PetWrite) :=
  if petFields.isEmpty then return none
  else some <$> (PetService.prepareUpdate maxPhotos petId userId petFields).relabel .pet

/-- `update`. -/
def update (C : PetClient) (maxPhotos id userId : ℕ) (dto : UpdateAdoptionListingDto) :
    AdoptionProcess AdoptionListingWithRelations := do
  let found ← requireOwned id userId
  if dto.lat.isSome ≠ dto.lon.isSome then
    .raise (.badRequest ["lat and lon must be provided together"])
  else do
    let pet ← preparePet maxPhotos found.listing.petId userId dto.petFields
    let write : ListingWrite := { id, pet, data := listingData dto }
    Process.atomic (.listingTransaction write) (.prisma .other) fun w =>
      match run C write w with
      | .error e => (.error e, w)
      | .ok (updated, w') => (.ok updated, w')

/-- `addPhotos`. -/
def addPhotos (id userId : ℕ) (urls : List String) :
    AdoptionProcess AdoptionListingWithRelations := do
  let found ← requireOwned id userId
  let current := found.pet.photos.length
  if current + urls.length > MAX_ADOPTION_PHOTOS then
    .raise (.badRequest ["A listing may have at most " ++ toString MAX_ADOPTION_PHOTOS ++
      " photos (currently " ++ toString current ++ ")"])
  else do
    Process.atomic (.petPushPhotos found.listing.petId urls) (.prisma .other) fun w =>
      (if (w.pets.find? found.listing.petId).isSome then .ok () else .error (.prisma .P2025),
        w.pushPhotos found.listing.petId urls)
    findUniqueOrThrow id

end AdoptionService

end FifiAlert
