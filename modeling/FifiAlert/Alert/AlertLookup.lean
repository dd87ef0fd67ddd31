import FifiAlert.Alert.AlertService
import FifiAlert.Js.Json
import FifiAlert.Store.RowOrder

/-!
# Looking up alerts

The lookups that are open to callers without a bearer token: an alert by its id,
the newest active alert for a collar tag, and the search. Anonymous callers of the
search see active alerts only.
-/

namespace FifiAlert

open Concurrency Store AlertCall Js

/-- The database, as the lookups use it: its geography functions, in meters, the order of
its rows, and what it reads a parameter of a statement as. It refuses what is no number
or no text, and a negative distance. -/
structure AlertQueryEnv where
  ST_Distance : Point → Point → ℚ
  ST_DWithin : Point → Point → ℚ → Bool
  rowOrder : RowOrder
  double : Json → Option ℚ
  radius : Json → Option ℚ
  text : Json → Option String
  radius_nonneg : ∀ {x r}, radius x = some r → 0 ≤ r

/-- A row of the search. -/
structure NearbyRow where
  alert : Alert
  tag_id : Option String
  distance_km : Option ℚ

/-- The number of rows that a number stands for: it is rounded, halves away from zero. It is
refused if it is negative then, or no `bigint`. -/
def bigint (x : ℚ) : Option ℕ :=
  if -(1 / 2) < x ∧ x < 2 ^ 63 - 1 / 2 then some (x + 1 / 2).floor.toNat else none

/-- The number that a text is in a statement, if it is a numeral. -/
def numeral (text : String) : Option ℚ :=
  signedDecimal text.toList

/-- The rows of a page. -/
def rowsOfPage {α : Type} (limit offset : ℚ) (rows : List α) : Except AppError (List α) :=
  match bigint limit, bigint offset with
  | some limit, some offset => .ok ((rows.drop offset).take limit)
  | _, _ => .error (.prisma .other)

/-- What the database makes of the texts that stand after `LIMIT` and `OFFSET`. Numerals
are numbers of rows. Any other text is a part of the statement, and may do anything with
the rows and the tables. -/
structure Paging where
  cut : String → String → World → List NearbyRow → Except AppError (List NearbyRow)
  cut_numerals : ∀ {limit offset : String} {l o : ℚ}, numeral limit = some l →
    numeral offset = some o → ∀ w rows, cut limit offset w rows = rowsOfPage l o rows

/-- The conditions of the search. -/
structure NearbyConditions where
  status : AlertStatus
  species : Option PetSpecies
  around : Option (Point × ℚ)
  postalCode : Option String
  deriving DecidableEq

namespace ListAlertsQueryDto

/-- The place to search around: both coordinates have to be given. -/
def place (query : ListAlertsQueryDto) : Option (Json × Json) :=
  query.lat.bind fun lat => query.lon.map fun lon => (lon, lat)

/-- The conditions, with the parameters as the database reads them; `none` if it refuses
one. -/
def conditions (E : AlertQueryEnv) (query : ListAlertsQueryDto) : Option NearbyConditions := do
  let status ← bindParam AlertStatus.ofLabel query.status
  let species ← bindParam PetSpecies.ofLabel (query.species.filter Json.isTruthy)
  match query.place with
  | some (lon, lat) => do
      let lon ← E.double lon
      let lat ← E.double lat
      let radiusKm ← bindParam E.radius query.radiusKm
      return ⟨status.getD .ACTIVE, species, some (⟨lon, lat⟩, radiusKm.getD 10), none⟩
  | none => do
      let postalCode ← bindParam E.text (query.postalCode.filter Json.isTruthy)
      return ⟨status.getD .ACTIVE, species, none, postalCode⟩

def limitText (query : ListAlertsQueryDto) : String :=
  (query.limit.getD (.num 20)).asText

def offsetText (query : ListAlertsQueryDto) : String :=
  (query.offset.getD (.num 0)).asText

end ListAlertsQueryDto

namespace AlertService

def findActiveByTagId (E : AlertQueryEnv) (tagId : String) (requesterId : Option ℕ) :
    AlertProcess (Option AlertResponseDto) := do
  let row ← read (.alertFindFirst tagId) fun w =>
    (E.rowOrder.sort (fun a b => b.created_at ≤ a.created_at) (w.alerts.findMany fun a =>
      a.status = .ACTIVE && (a.pet_id.bind w.pets.find?).map Pet.tagId = some tagId)).head?.bind
        fun a => w.findAlert a.id
  return row.map fun row => applyViewerRedaction (mapToResponseDto row requesterId) requesterId

section Search

variable (E : AlertQueryEnv) (c : NearbyConditions)

/-- The `WHERE` clause of the search. -/
def isNearby (alert : Alert) : Bool :=
  alert.status = c.status && c.species.all (fun species => alert.pet_species = species) &&
    c.around.all (fun around =>
      E.ST_DWithin alert.location_point around.1 (around.2 * 1000)) &&
    c.postalCode.all alert.affected_postal_codes.contains

def nearbyRow (pets : Pets) (alert : Alert) : NearbyRow where
  alert := alert
  tag_id := (alert.pet_id.bind pets.find?).map Pet.tagId
  distance_km := c.around.map fun around => E.ST_Distance alert.location_point around.1 / 1000

/-- The `ORDER BY` clause of the search. -/
def nearbyLe (a b : NearbyRow) : Bool :=
  if c.around.isSome then a.distance_km.getD 0 ≤ b.distance_km.getD 0
  else b.alert.created_at ≤ a.alert.created_at

/-- The rows of the search before they are cut to a page. -/
def nearbyRows (w : World) : List NearbyRow :=
  E.rowOrder.sort (nearbyLe c) ((w.alerts.findMany (isNearby E c)).map (nearbyRow E c w.pets))

end Search

/-- The statement of the search. -/
def queryRaw (E : AlertQueryEnv) (P : Paging) (query : ListAlertsQueryDto) (w : World) :
    Except AppError (List NearbyRow) :=
  match query.conditions E with
  | none => .error (.prisma .other)
  | some c => P.cut query.limitText query.offsetText w (nearbyRows E c w)

def findNearby (E : AlertQueryEnv) (P : Paging) (query : ListAlertsQueryDto)
    (requesterId : Option ℕ) : AlertProcess (List AlertResponseDto) := do
  let alerts ← Process.atomic (.alertQueryRaw query) (.prisma .other)
    fun w => (queryRaw E P query w, w)
  return alerts.map fun row =>
    applyViewerRedaction (mapRawToResponseDto row.alert row.tag_id row.distance_km) requesterId

end AlertService

namespace AlertController

def findOne (id : ℕ) (userId : Option ℕ) : AlertProcess AlertResponseDto := do
  let alert ← AlertService.findById id userId
  match alert with
  | none => .raise (.notFound ("Alert with ID " ++ toString id ++ " not found"))
  | some alert => return alert

def findByTag (E : AlertQueryEnv) (tagId : String) (userId : Option ℕ) :
    AlertProcess AlertResponseDto := do
  let alert ← AlertService.findActiveByTagId E tagId userId
  match alert with
  | none => .raise (.notFound ("No active alert for tag " ++ tagId))
  | some alert => return alert

def findAll (E : AlertQueryEnv) (P : Paging) (query : ListAlertsQueryDto) (userId : Option ℕ) :
    AlertProcess (List AlertResponseDto) :=
  AlertService.findNearby E P
    (if userId = none then { query with status := some (.str "ACTIVE") } else query) userId

end AlertController

/-- What a search answers about a row. -/
def nearbyAnswer (requesterId : Option ℕ) (row : NearbyRow) : AlertResponseDto :=
  AlertService.applyViewerRedaction
    (AlertService.mapRawToResponseDto row.alert row.tag_id row.distance_km) requesterId

/-- The row that a lookup by tag answers about. -/
def tagRow (E : AlertQueryEnv) (tagId : String) (w : World) : Option Alert :=
  (E.rowOrder.sort (fun a b => b.created_at ≤ a.created_at) (w.alerts.findMany fun a =>
    a.status = .ACTIVE && (a.pet_id.bind w.pets.find?).map Pet.tagId = some tagId)).head?

/-- A lookup, as the routes take it. -/
inductive AlertLookup where
  | findOne (id : ℕ)
  | findByTag (tagId : String)
  | findAll (query : ListAlertsQueryDto)

namespace AlertLookup

variable (E : AlertQueryEnv) (P : Paging)

/-- What a lookup answers: one alert, or a list of them. -/
def process (userId : Option ℕ) : AlertLookup → AlertProcess (List AlertResponseDto)
  | findOne id => (fun dto => [dto]) <$> AlertController.findOne id userId
  | findByTag tagId => (fun dto => [dto]) <$> AlertController.findByTag E tagId userId
  | findAll query => AlertController.findAll E P query userId

/-- The call of the service that a lookup makes. -/
def service (requesterId : Option ℕ) : AlertLookup → AlertProcess (List AlertResponseDto)
  | findOne id => Option.toList <$> AlertService.findById id requesterId
  | findByTag tagId => Option.toList <$> AlertService.findActiveByTagId E tagId requesterId
  | findAll query => AlertService.findNearby E P query requesterId

end AlertLookup

namespace ListAlertsQueryDto

/-- The database refuses a parameter of the search. -/
def Refused (E : AlertQueryEnv) (query : ListAlertsQueryDto) : Prop :=
  query.conditions E = none

/-- The limit and the offset are not given, or are numerals. -/
def NumeralPage (query : ListAlertsQueryDto) : Prop :=
  (numeral query.limitText).isSome = true ∧ (numeral query.offsetText).isSome = true

end ListAlertsQueryDto

section Pages

/-- Texts of which one is no numeral are read in one way. -/
def Paging.other (cut : String → String → World → List NearbyRow →
    Except AppError (List NearbyRow)) : Paging where
  cut := fun limit offset w rows =>
    match numeral limit, numeral offset with
    | some l, some o => rowsOfPage l o rows
    | _, _ => cut limit offset w rows
  cut_numerals := fun hlimit hoffset w rows => by rw [hlimit, hoffset]

theorem Paging.other_cut {cut : String → String → World → List NearbyRow →
    Except AppError (List NearbyRow)} {query : ListAlertsQueryDto} (hpage : ¬ query.NumeralPage)
    (w : World) (rows : List NearbyRow) :
    (Paging.other cut).cut query.limitText query.offsetText w rows =
      cut query.limitText query.offsetText w rows := by
  unfold ListAlertsQueryDto.NumeralPage at hpage
  unfold Paging.other
  dsimp only
  cases hlimit : numeral query.limitText with
  | none => simp only
  | some l =>
      cases hoffset : numeral query.offsetText with
      | none => simp only
      | some o =>
          rw [hlimit, hoffset] at hpage
          exact absurd ⟨rfl, rfl⟩ hpage

/-- Texts that ask the table of alerts whether a contact is given. -/
def Paging.peeking : Paging :=
  .other fun _ _ w _ =>
    if w.alerts.rows.any fun a => a.contact_email.isSome then .error (.prisma .other) else .ok []

theorem map_rowsOfPage {α : Type} (f : α → α) (limit offset : ℚ) {rows rows' : List α}
    (h : rows.map f = rows'.map f) :
    (rowsOfPage limit offset rows).map (List.map f) =
      (rowsOfPage limit offset rows').map (List.map f) := by
  unfold rowsOfPage
  cases bigint limit with
  | none => rfl
  | some l =>
      cases bigint offset with
      | none => rfl
      | some o =>
          dsimp only [Except.map]
          rw [List.map_take, List.map_drop, h, ← List.map_drop, ← List.map_take]

end Pages

section SameLooks

variable {E : AlertQueryEnv} {w : World} {t' : Alerts} (look : Alert → Alert)

/-- In tables that look the same, a tag leads to the same alert. -/
theorem tagRow_congr (hties : E.rowOrder.Positional) (tagId : String)
    (hid : ∀ a, (look a).id = a.id) (hstatus : ∀ a, (look a).status = a.status)
    (hpet : ∀ a, (look a).pet_id = a.pet_id) (hcreated : ∀ a, (look a).created_at = a.created_at)
    (h : w.alerts.rows.map look = t'.rows.map look) :
    (tagRow E tagId w).map Alert.id = (tagRow E tagId { w with alerts := t' }).map Alert.id := by
  have hsorted := hties.map_sort_eq look
    (fun a b => decide (b.created_at ≤ a.created_at)) (fun a b => by rw [hcreated, hcreated])
    (Table.map_findMany_congr (p := fun a => a.status = .ACTIVE &&
      (a.pet_id.bind w.pets.find?).map Pet.tagId = some tagId)
      (fun a => by rw [hstatus, hpet]) h)
  have hhead := congrArg (fun l => l.head?.map Alert.id) hsorted
  simpa [List.head?_map, Function.comp_def, hid, tagRow] using hhead

/-- In tables that look the same, the rows of a search that tells nothing apart do. -/
theorem nearbyRows_congr (hties : E.rowOrder.Positional) {c : NearbyConditions}
    (hselect : ∀ a, AlertService.isNearby E c (look a) = AlertService.isNearby E c a)
    (hrow : ∀ a, AlertService.nearbyRow E c w.pets (look a) =
      { AlertService.nearbyRow E c w.pets a with alert := look a })
    (hcreated : ∀ a, (look a).created_at = a.created_at)
    (h : w.alerts.rows.map look = t'.rows.map look) :
    (AlertService.nearbyRows E c w).map (fun row => { row with alert := look row.alert }) =
      (AlertService.nearbyRows E c { w with alerts := t' }).map
        fun row => { row with alert := look row.alert } := by
  have hrows := congrArg (List.map (AlertService.nearbyRow E c w.pets))
    (Table.map_findMany_congr hselect h)
  have hcomp : AlertService.nearbyRow E c w.pets ∘ look =
      (fun row => { row with alert := look row.alert }) ∘ AlertService.nearbyRow E c w.pets :=
    funext hrow
  rw [List.map_map, List.map_map, hcomp, ← List.map_map, ← List.map_map] at hrows
  have hle : ∀ a b : NearbyRow, AlertService.nearbyLe c { a with alert := look a.alert }
      { b with alert := look b.alert } = AlertService.nearbyLe c a b := by
    intro a b
    unfold AlertService.nearbyLe
    rw [hcreated, hcreated]
  exact hties.map_sort_eq _ (AlertService.nearbyLe c) hle hrows

/-- The answers to a search are the same if its conditions and the answers tell nothing
apart, and its page is given by numerals. -/
theorem queryRaw_congr (hties : E.rowOrder.Positional) {P : Paging} {query : ListAlertsQueryDto}
    {c : NearbyConditions} (hc : query.conditions E = some c) (hpage : query.NumeralPage)
    (hselect : ∀ a, AlertService.isNearby E c (look a) = AlertService.isNearby E c a)
    (hrow : ∀ a, AlertService.nearbyRow E c w.pets (look a) =
      { AlertService.nearbyRow E c w.pets a with alert := look a })
    (hcreated : ∀ a, (look a).created_at = a.created_at)
    {answer : NearbyRow → AlertResponseDto} (view : NearbyRow → AlertResponseDto)
    (hview : ∀ row, answer row = view { row with alert := look row.alert })
    (h : w.alerts.rows.map look = t'.rows.map look) :
    (AlertService.queryRaw E P query w).map (List.map answer) =
      (AlertService.queryRaw E P query { w with alerts := t' }).map (List.map answer) := by
  obtain ⟨l, hl⟩ := Option.isSome_iff_exists.1 hpage.1
  obtain ⟨o, ho⟩ := Option.isSome_iff_exists.1 hpage.2
  have hsame := map_rowsOfPage (fun row : NearbyRow => { row with alert := look row.alert })
    l o (nearbyRows_congr look hties hselect hrow hcreated h)
  have hanswers : ∀ rows : Except AppError (List NearbyRow), rows.map (List.map answer) =
      (rows.map (List.map fun row => { row with alert := look row.alert })).map
        (List.map view) := by
    intro rows
    cases rows with
    | error e => rfl
    | ok rows =>
        dsimp only [Except.map]
        rw [List.map_map]
        exact congrArg Except.ok (List.map_congr_left fun row _ => hview row)
  have hrows : ∀ v : World, AlertService.queryRaw E P query v =
      rowsOfPage l o (AlertService.nearbyRows E c v) := by
    intro v
    unfold AlertService.queryRaw
    rw [hc]
    exact P.cut_numerals hl ho v _
  rw [hrows, hrows, hanswers, hsame, ← hanswers]

/-- A search that is cut by no numeral can be answered by what is hidden. -/
theorem queryRaw_peeking {query : ListAlertsQueryDto} (hread : ¬ query.Refused E)
    (hpage : ¬ query.NumeralPage) (w : World) :
    AlertService.queryRaw E .peeking query w =
      if w.alerts.rows.any fun a => a.contact_email.isSome then .error (.prisma .other)
      else .ok [] := by
  obtain ⟨c, hc⟩ := Option.ne_none_iff_exists'.1 hread
  unfold AlertService.queryRaw
  rw [hc]
  exact Paging.other_cut hpage w _

end SameLooks

end FifiAlert
