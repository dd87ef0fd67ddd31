import FifiAlert.Schema.Auth

/-!
# Pets, alerts and what surrounds them

A pet, the alerts raised for it, the sightings reported on an alert, and the
public card written when the pet is back. The geometry column of an alert is the
point made of its longitude and latitude.

An adoption listing is a pet that its owner offers for adoption. A pet has one at most.
-/

namespace FifiAlert

open Store

inductive AlertStatus where
  | DRAFT
  | ACTIVE
  | RESOLVED
  | EXPIRED
  | CANCELLED
  deriving DecidableEq, Inhabited

inductive PetSpecies where
  | DOG
  | CAT
  | BIRD
  | RABBIT
  | OTHER
  deriving DecidableEq, Inhabited

/-- A geometry column: longitude and latitude. -/
structure Point where
  lon : ℚ
  lat : ℚ
  deriving DecidableEq, Inhabited

inductive Gender where
  | MALE
  | FEMALE
  deriving DecidableEq, Inhabited

inductive Size where
  | SMALL
  | MEDIUM
  | LARGE
  deriving DecidableEq, Inhabited

structure Pet where
  id : ℕ
  tagId : String := ""
  userId : ℕ
  petTypeId : ℕ := 0
  name : String := ""
  gender : Option Gender := none
  photos : List String := []
  primaryPhoto : Option String := none
  size : Option Size := none
  isMissing : Bool := false
  birthday : Option Time := none
  deriving DecidableEq, Inhabited

structure Alert where
  id : ℕ
  creator_id : ℕ
  pet_id : Option ℕ := none
  pet_name : String := ""
  pet_species : PetSpecies := .DOG
  pet_breed : Option String := none
  pet_description : String := ""
  pet_color : Option String := none
  pet_age_years : Option ℕ := none
  pet_photos : List String := []
  last_seen_lat : ℚ := 0
  last_seen_lon : ℚ := 0
  location_point : Point := ⟨0, 0⟩
  location_address : Option String := none
  alert_radius_km : ℚ := 5
  status : AlertStatus := .ACTIVE
  time_last_seen : Time := 0
  created_at : Time := 0
  updated_at : Time := 0
  expires_at : Time := 0
  resolved_at : Option Time := none
  cancelled_at : Option Time := none
  renewal_count : ℕ := 0
  success_story_sent_at : Option Time := none
  contact_phone : Option String := none
  contact_email : Option String := none
  is_phone_public : Bool := false
  affected_postal_codes : List String := []
  notes : Option String := none
  reward_offered : Bool := false
  reward_amount : Option ℚ := none
  deriving DecidableEq, Inhabited

structure Sighting where
  id : ℕ
  alert_id : ℕ
  reporter_id : ℕ
  sighting_lat : ℚ := 0
  sighting_lon : ℚ := 0
  location_point : Point := ⟨0, 0⟩
  location_address : Option String := none
  photo_url : Option String := none
  photos : List String := []
  notes : Option String := none
  confidence : Option String := none
  sighting_time : Time := 0
  direction : Option String := none
  dismissed : Bool := false
  dismissed_at : Option Time := none
  dismissed_reason : Option String := none
  created_at : Time := 0
  updated_at : Time := 0
  deriving DecidableEq, Inhabited

structure ReunionSnapshot where
  tagId : String
  alertId : ℕ
  petName : String
  petPhotoUrl : Option String := none
  thankYouMessage : Option String := none
  resolvedAt : Time
  neighboursNotified : Option ℕ := none
  sightingsReported : ℕ := 0
  expiresAt : Time
  deriving DecidableEq, Inhabited

/-- What triggered a status change. -/
inductive AlertStatusChangeSource where
  | user
  | pet_found
  | system_expiry
  deriving DecidableEq, Inhabited

/-- `AlertStatusChangedEvent`, with the fields of the resolved and cancelled
events. -/
structure AlertStatusChangedEvent where
  alertId : ℕ
  petId : Option ℕ
  creatorId : ℕ
  previousStatus : Option AlertStatus
  newStatus : AlertStatus
  changedBy : Option ℕ
  source : AlertStatusChangeSource
  occurredAt : Time
  outcome : Option String := none
  notes : Option String := none
  shareSuccessStory : Option Bool := none
  reason : Option String := none
  deriving DecidableEq, Inhabited

abbrev Pets := Table Pet Pet.id
abbrev Alerts := Table Alert Alert.id
abbrev Sightings := Table Sighting Sighting.id
abbrev ReunionSnapshots := Table ReunionSnapshot ReunionSnapshot.tagId

end FifiAlert

namespace FifiAlert

open Store

inductive AdoptionStatus where
  | AVAILABLE
  | ADOPTED
  | WITHDRAWN
  deriving DecidableEq, Inhabited

/-- The name of the status, as it stands in a message. -/
def AdoptionStatus.text : AdoptionStatus → String
  | AVAILABLE => "AVAILABLE"
  | ADOPTED => "ADOPTED"
  | WITHDRAWN => "WITHDRAWN"

structure AdoptionListing where
  id : ℕ
  petId : ℕ
  userId : ℕ
  status : AdoptionStatus := .AVAILABLE
  lat : ℚ := 0
  lon : ℚ := 0
  location_point : Point := ⟨0, 0⟩
  locationAddress : Option String := none
  description : Option String := none
  adoptedAt : Option Time := none
  deriving DecidableEq, Inhabited

abbrev AdoptionListings := Table AdoptionListing AdoptionListing.id

end FifiAlert
