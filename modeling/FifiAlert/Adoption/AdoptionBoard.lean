import FifiAlert.Adoption.AdoptionService
import FifiAlert.Concurrency.Indifference
import FifiAlert.Store.Pages

/-!
# The adoption board

Everybody browses the listings that are available, page by page; a listing that is not is shown to
its owner only.
-/

namespace FifiAlert

open Concurrency Store

/-- The state with the column `created_at` of the listings. -/
structure BoardWorld where
  world : World
  created_at : ℕ → Time

/-- The geography functions of the database in meters, its calendar, and the order of its rows. -/
structure BoardEnv where
  ST_Distance : Point → Point → ℚ
  ST_DWithin : Point → Point → ℚ → Bool
  monthsBefore : Time → ℕ → Time
  rowOrder : RowOrder

structure ListAdoptionsQueryDto where
  lat : Option ℚ := none
  lon : Option ℚ := none
  radiusKm : Option ℚ := none
  petTypeId : Option ℕ := none
  gender : Option Gender := none
  size : Option Size := none
  minAgeMonths : Option ℕ := none
  maxAgeMonths : Option ℕ := none
  limit : Option ℕ := none
  offset : Option ℕ := none

namespace ListAdoptionsQueryDto

def place (query : ListAdoptionsQueryDto) : Option Point :=
  query.lat.bind fun lat => query.lon.map fun lon => ⟨lon, lat⟩

def pageLimit (query : ListAdoptionsQueryDto) : ℕ := query.limit.getD 20

def pageOffset (query : ListAdoptionsQueryDto) : ℕ := query.offset.getD 0

/-- The checks before the database is asked. -/
def check (query : ListAdoptionsQueryDto) : Except AppError Unit :=
  if query.lat.isSome ≠ query.lon.isSome then
    .error (.badRequest ["lat and lon must be provided together"])
  else
    match query.minAgeMonths, query.maxAgeMonths with
    | some minAgeMonths, some maxAgeMonths =>
        if minAgeMonths > maxAgeMonths then
          .error (.badRequest ["minAgeMonths cannot exceed maxAgeMonths"])
        else .ok ()
    | _, _ => .ok ()

end ListAdoptionsQueryDto

/-- A row of the board query, with the columns that it is ordered by. -/
structure IdDistanceRow where
  id : ℕ
  distance_km : Option ℚ
  created_at : Time
  deriving DecidableEq

structure PaginatedListings where
  data : List AdoptionListingWithRelations
  distances : List (ℕ × Option ℚ)
  total : ℕ
  limit : ℕ
  offset : ℕ
  deriving DecidableEq

inductive BoardCall where
  | boardQueryRaw (query : ListAdoptionsQueryDto)
  | boardCount (query : ListAdoptionsQueryDto)
  | listingFindMany (ids : List ℕ)
  | listingFindUnique (id : ℕ)
  | listingFindMine (userId : ℕ)

abbrev BoardProcess := Process BoardWorld BoardCall AppError

def BoardCall.read {α : Type} (l : BoardCall) (g : BoardWorld → α) : BoardProcess α :=
  Process.query l (.prisma .other) g

namespace AdoptionService

open BoardCall

/-- The `WHERE` clause on a listing and its pet. -/
def isListed (E : BoardEnv) (query : ListAdoptionsQueryDto) (now : Time)
    (found : AdoptionListingWithRelations) : Bool :=
  found.listing.status = .AVAILABLE &&
    query.petTypeId.all (fun petTypeId => found.pet.petTypeId = petTypeId) &&
    query.gender.all (fun gender => found.pet.gender = some gender) &&
    query.size.all (fun size => found.pet.size = some size) &&
    query.minAgeMonths.all (fun months =>
      found.pet.birthday.any fun birthday => birthday ≤ E.monthsBefore now months) &&
    query.maxAgeMonths.all (fun months =>
      found.pet.birthday.any fun birthday => E.monthsBefore now (months + 1) ≤ birthday) &&
    query.place.all fun place =>
      E.ST_DWithin found.listing.location_point place (query.radiusKm.getD 10 * 1000)

/-- The listings that the query selects, each with its pet. -/
def listed (E : BoardEnv) (query : ListAdoptionsQueryDto) (w : BoardWorld) :
    List AdoptionListingWithRelations :=
  (w.world.adoptionListings.rows.filterMap fun listing => w.world.findListing listing.id).filter
    (isListed E query w.world.now)

def idDistanceRow (E : BoardEnv) (query : ListAdoptionsQueryDto) (created_at : ℕ → Time)
    (found : AdoptionListingWithRelations) : IdDistanceRow where
  id := found.listing.id
  distance_km := query.place.map fun place =>
    E.ST_Distance found.listing.location_point place / 1000
  created_at := created_at found.listing.id

/-- The `ORDER BY` clause. -/
def boardLe (query : ListAdoptionsQueryDto) (a b : IdDistanceRow) : Bool :=
  if query.place.isSome then
    a.distance_km.getD 0 < b.distance_km.getD 0 ||
      (a.distance_km.getD 0 = b.distance_km.getD 0 && b.created_at ≤ a.created_at)
  else b.created_at ≤ a.created_at

/-- All rows of the board query in their order, before `LIMIT` and `OFFSET`. -/
def boardRows (E : BoardEnv) (query : ListAdoptionsQueryDto) (w : BoardWorld) :
    List IdDistanceRow :=
  E.rowOrder.sort (boardLe query) ((listed E query w).map (idDistanceRow E query w.created_at))

/-- `adoptionListing.findMany` by ids, put in the order of the ids. -/
def listingsByIds (ids : List ℕ) (w : BoardWorld) : List AdoptionListingWithRelations :=
  ids.filterMap w.world.findListing

def findAvailable (E : BoardEnv) (query : ListAdoptionsQueryDto) :
    BoardProcess PaginatedListings := do
  match query.check with
  | .error e => .raise e
  | .ok () =>
    let rows ← read (.boardQueryRaw query) fun w =>
      page query.pageLimit query.pageOffset (boardRows E query w)
    let total ← read (.boardCount query) fun w => (listed E query w).length
    let distances := rows.map fun row => (row.id, row.distance_km)
    let limit := query.pageLimit
    let offset := query.pageOffset
    if rows.isEmpty then
      return { data := [], distances, total, limit, offset }
    else
      let data ← read (.listingFindMany (rows.map IdDistanceRow.id))
        (listingsByIds (rows.map IdDistanceRow.id))
      return { data, distances, total, limit, offset }

def findOneForRequester (id : ℕ) (requesterId : Option ℕ) :
    BoardProcess AdoptionListingWithRelations := do
  let found ← read (.listingFindUnique id) fun w => w.world.findListing id
  match found with
  | none => .raise (.notFound (notFoundMessage id))
  | some found =>
    if found.listing.status ≠ .AVAILABLE && some found.listing.userId ≠ requesterId then
      .raise (.notFound (notFoundMessage id))
    else return found

/-- The listings of a user, the newest first. -/
def ownListings (O : RowOrder) (userId : ℕ) (w : BoardWorld) :
    List AdoptionListingWithRelations :=
  (O.sort (fun a b => b.1 ≤ a.1)
    ((w.world.adoptionListings.findMany fun listing => listing.userId = userId).map
      fun listing => (w.created_at listing.id, listing.id))).filterMap
        fun row => w.world.findListing row.2

def findMine (O : RowOrder) (userId : ℕ) : BoardProcess (List AdoptionListingWithRelations) :=
  read (.listingFindMine userId) (ownListings O userId)

end AdoptionService

end FifiAlert
