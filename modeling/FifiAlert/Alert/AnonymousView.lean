import FifiAlert.Alert.AlertLookup
import Mathlib.Data.Rat.Floor
import Mathlib.Tactic.Linarith

/-!
# What anonymous callers can tell apart

Two tables of alerts that differ only in what the redaction hides are to look the
same to a caller without a token. The answers are redacted, so a lookup that
selects and orders its rows by public columns keeps this. The search around a place
selects, orders and reports by the exact distance, the search by postal code selects
by a hidden column, and a limit that is no numeral is a statement of its own.
-/

namespace FifiAlert

open Concurrency Store Js AlertService

/-- The alert without what is hidden from anonymous callers. -/
def Alert.publicPart (alert : Alert) : Alert :=
  { alert with
    creator_id := 0
    contact_email := none
    notes := none
    affected_postal_codes := []
    contact_phone := if alert.is_phone_public then alert.contact_phone else none
    last_seen_lat := roundCoordinate alert.last_seen_lat
    last_seen_lon := roundCoordinate alert.last_seen_lon
    location_point := ⟨0, 0⟩ }

/-- The point of every alert is made of its coordinates. -/
def PointsKept (t : Alerts) : Prop :=
  ∀ a ∈ t.rows, a.location_point = ⟨a.last_seen_lon, a.last_seen_lat⟩

/-- The tables differ in what is hidden from anonymous callers only. -/
structure SamePublicly (t t' : Alerts) : Prop where
  rows : t.rows.map Alert.publicPart = t'.rows.map Alert.publicPart
  points : PointsKept t
  points' : PointsKept t'

/-- No two tables that differ in hidden columns only are told apart by the answer. -/
def Discreet (E : AlertQueryEnv) (P : Paging) (request : AlertLookup) : Prop :=
  ∀ (w : World) (t' : Alerts), SamePublicly w.alerts t' →
    ((request.process E P none).run w).1 =
      ((request.process E P none).run { w with alerts := t' }).1

/-- The answer to anonymous callers, made of the public part. -/
def publicDto (p : Alert) (tagId : Option String) (distance_km : Option ℚ) : AlertResponseDto :=
  { mapRawToResponseDto p tagId distance_km with
    creatorId := none
    notes := none
    affectedPostalCodes := none }

section Redaction

theorem redacted_raw (a : Alert) (tagId : Option String) (distance_km : Option ℚ) :
    applyViewerRedaction (mapRawToResponseDto a tagId distance_km) none =
      publicDto a.publicPart tagId distance_km := by
  cases hphone : a.is_phone_public <;>
    simp [applyViewerRedaction, mapRawToResponseDto, publicDto, Alert.publicPart, hphone]

theorem redacted_detail (a : Alert) (pet : Option Pet) (sightings : List Sighting) :
    applyViewerRedaction (mapToResponseDto ⟨a, pet, sightings⟩ none) none =
      { publicDto a.publicPart (pet.map Pet.tagId) none with
        sightingCount := some sightings.length } := by
  cases hphone : a.is_phone_public <;>
    simp [applyViewerRedaction, mapToResponseDto, mapRawToResponseDto, publicDto,
      Alert.publicPart, hphone]

end Redaction

section Discreet

variable {E : AlertQueryEnv} {P : Paging} {w : World} {t' : Alerts}

/-- What a single lookup answers about the row under an id. -/
theorem findAlert_answer (h : SamePublicly w.alerts t') (id : ℕ) :
    ((w.findAlert id).map fun row => applyViewerRedaction (mapToResponseDto row none) none) =
      (({ w with alerts := t' } : World).findAlert id).map fun row =>
        applyViewerRedaction (mapToResponseDto row none) none := by
  have hanswer : ∀ u : Alerts, ((({ w with alerts := u } : World).findAlert id).map fun row =>
      applyViewerRedaction (mapToResponseDto row none) none) =
        ((u.find? id).map Alert.publicPart).map fun p =>
          { publicDto p ((p.pet_id.bind w.pets.find?).map Pet.tagId) none with
            sightingCount := some (w.sightings.findMany fun s =>
              s.alert_id = id && !s.dismissed).length } := by
    intro u
    cases hrow : u.find? id with
    | none => simp [World.findAlert, hrow]
    | some a => simp [World.findAlert, hrow, redacted_detail, Alert.publicPart]
  have hfind := Table.map_find?_congr Alert.publicPart (fun _ => rfl) h.rows id
  rw [hanswer t', ← hfind]
  exact hanswer w.alerts

/-- The answer of a lookup of one alert. -/
def single (missing : AppError) : Option AlertResponseDto → Except AppError (List AlertResponseDto)
  | none => .error missing
  | some dto => .ok [dto]

theorem findOne_run (id : ℕ) (w : World) :
    (((AlertLookup.findOne id).process E P none).run w).1 =
      single (.notFound ("Alert with ID " ++ toString id ++ " not found"))
        ((w.findAlert id).map fun row =>
          applyViewerRedaction (mapToResponseDto row none) none) := by
  have hread : (findById id none).run w = (.ok ((w.findAlert id).map fun row =>
      applyViewerRedaction (mapToResponseDto row none) none), w) := rfl
  unfold AlertLookup.process AlertController.findOne
  rw [Process.run_map, Process.run_bind_ok hread]
  cases w.findAlert id <;> rfl

theorem discreet_findOne (id : ℕ) : Discreet E P (.findOne id) := by
  intro w t' h
  rw [findOne_run, findOne_run, findAlert_answer h id]

theorem findByTag_run (tagId : String) (w : World) :
    (((AlertLookup.findByTag tagId).process E P none).run w).1 =
      single (.notFound ("No active alert for tag " ++ tagId))
        ((tagRow E tagId w).bind fun a => (w.findAlert a.id).map fun row =>
          applyViewerRedaction (mapToResponseDto row none) none) := by
  have hread : (findActiveByTagId E tagId none).run w = (.ok (((tagRow E tagId w).bind fun a =>
      w.findAlert a.id).map fun row => applyViewerRedaction (mapToResponseDto row none) none), w) :=
    rfl
  unfold AlertLookup.process AlertController.findByTag
  rw [Process.run_map, Process.run_bind_ok hread]
  cases tagRow E tagId w with
  | none => rfl
  | some a =>
      rw [Option.bind_some, Option.bind_some]
      cases w.findAlert a.id <;> rfl

theorem discreet_findByTag (hties : E.rowOrder.Positional) (tagId : String) :
    Discreet E P (.findByTag tagId) := by
  intro w t' h
  have hid := tagRow_congr Alert.publicPart hties tagId (fun _ => rfl) (fun _ => rfl)
    (fun _ => rfl) (fun _ => rfl) h.rows
  rw [findByTag_run, findByTag_run]
  cases hrow : tagRow E tagId w with
  | none =>
      rw [hrow, Option.map_none, eq_comm, Option.map_eq_none_iff] at hid
      rw [hid, Option.bind_none, Option.bind_none]
  | some a =>
      rw [hrow, Option.map_some, eq_comm, Option.map_eq_some_iff] at hid
      obtain ⟨a', hrow', heq⟩ := hid
      rw [hrow', Option.bind_some, Option.bind_some, heq, findAlert_answer h a.id]

/-- The query of the search, as the controller passes it on for anonymous callers. -/
def publicQuery (query : ListAlertsQueryDto) : ListAlertsQueryDto :=
  { query with status := some (.str "ACTIVE") }

theorem findAll_run (query : ListAlertsQueryDto) (w : World) :
    (((AlertLookup.findAll query).process E P none).run w).1 =
      (queryRaw E P (publicQuery query) w).map (List.map (nearbyAnswer none)) := by
  change (((findNearby E P (publicQuery query) none).run w)).1 = _
  unfold findNearby
  rw [Process.run_bind, Process.run_atomic]
  cases queryRaw E P (publicQuery query) w <;> rfl

/-- The search selects by a place or by a postal code. -/
def ListAlertsQueryDto.UsesHidden (query : ListAlertsQueryDto) : Prop :=
  query.place.isSome = true ∨ (query.postalCode.filter Json.isTruthy).isSome = true

/-- The limit and the offset ask for a row at least. -/
def ListAlertsQueryDto.ShowsRows (query : ListAlertsQueryDto) : Prop :=
  ∃ l o limit offset, numeral query.limitText = some l ∧ numeral query.offsetText = some o ∧
    bigint l = some limit ∧ bigint o = some offset ∧ 1 ≤ limit

/-- The search tells nothing hidden apart: it is refused, or its page is given by numerals,
and if it shows rows it selects by no hidden column. -/
def AlertLookup.ByPublicColumns (E : AlertQueryEnv) : AlertLookup → Prop
  | findAll query => (publicQuery query).Refused E ∨
      query.NumeralPage ∧ (query.ShowsRows → ¬ query.UsesHidden)
  | _ => True

section Conditions

variable {query : ListAlertsQueryDto} {c : NearbyConditions}

theorem bindParam_eq_some {α : Type} {read : Json → Option α} {x : Option Json} {y : Option α}
    (h : bindParam read x = some y) : y = x.bind read ∧ y.isSome = x.isSome := by
  cases x with
  | none => cases h; exact ⟨rfl, rfl⟩
  | some x =>
      obtain ⟨a, ha, rfl⟩ := Option.map_eq_some_iff.1 h
      exact ⟨ha.symm, rfl⟩

theorem conditions_around (hc : query.conditions E = some c) {lon lat : Json}
    (hplace : query.place = some (lon, lat)) :
    c.postalCode = none ∧ ∃ place radiusKm, c.around = some (place, radiusKm) ∧ 0 ≤ radiusKm := by
  unfold ListAlertsQueryDto.conditions at hc
  rw [hplace] at hc
  simp only [Option.bind_eq_bind, Option.bind_eq_some_iff, Option.pure_def, Option.some.injEq] at hc
  obtain ⟨status, -, species, -, x, -, y, -, radiusKm, hradius, rfl⟩ := hc
  refine ⟨rfl, ⟨x, y⟩, radiusKm.getD 10, rfl, ?_⟩
  cases radiusKm with
  | none => norm_num
  | some r =>
      obtain ⟨hr, -⟩ := bindParam_eq_some hradius
      obtain ⟨z, -, hz⟩ := Option.bind_eq_some_iff.1 hr.symm
      exact E.radius_nonneg hz

theorem conditions_postalCode (hc : query.conditions E = some c) (hplace : query.place = none) :
    c.around = none ∧ c.postalCode.isSome = (query.postalCode.filter Json.isTruthy).isSome := by
  unfold ListAlertsQueryDto.conditions at hc
  rw [hplace] at hc
  simp only [Option.bind_eq_bind, Option.bind_eq_some_iff, Option.pure_def, Option.some.injEq] at hc
  obtain ⟨status, -, species, -, postalCode, hcode, rfl⟩ := hc
  exact ⟨rfl, (bindParam_eq_some hcode).2⟩

theorem conditions_status (hc : (publicQuery query).conditions E = some c) :
    c.status = .ACTIVE := by
  unfold ListAlertsQueryDto.conditions at hc
  simp only [Option.bind_eq_bind, Option.bind_eq_some_iff, Option.pure_def] at hc
  obtain ⟨status, hstatus, species, -, hc⟩ := hc
  cases hstatus
  split at hc
  · simp only [Option.bind_eq_some_iff, Option.some.injEq] at hc
    obtain ⟨x, -, y, -, radiusKm, -, rfl⟩ := hc
    rfl
  · simp only [Option.bind_eq_some_iff, Option.some.injEq] at hc
    obtain ⟨postalCode, -, rfl⟩ := hc
    rfl

end Conditions

/-- A refused search answers everyone the same. -/
theorem discreet_refused {query : ListAlertsQueryDto} (hread : (publicQuery query).Refused E) :
    Discreet E P (.findAll query) := by
  intro w t' _
  have hrefused : ∀ v : World, queryRaw E P (publicQuery query) v = .error (.prisma .other) := by
    intro v
    unfold queryRaw
    rw [hread]
  rw [findAll_run, findAll_run, hrefused, hrefused]

/-- So does one that shows no row. -/
theorem discreet_noRows {query : ListAlertsQueryDto} (hpage : query.NumeralPage)
    (hshows : ¬ query.ShowsRows) : Discreet E P (.findAll query) := by
  intro w t' _
  obtain ⟨l, hl⟩ := Option.isSome_iff_exists.1 hpage.1
  obtain ⟨o, ho⟩ := Option.isSome_iff_exists.1 hpage.2
  have hempty : ∀ rows rows' : List NearbyRow, rowsOfPage l o rows = rowsOfPage l o rows' := by
    intro rows rows'
    unfold rowsOfPage
    cases hlimit : bigint l with
    | none => rfl
    | some limit =>
        cases hoffset : bigint o with
        | none => rfl
        | some offset =>
            cases limit with
            | zero => simp only [List.take_zero]
            | succ n => exact absurd ⟨l, o, n + 1, offset, hl, ho, hlimit, hoffset, by omega⟩ hshows
  rw [findAll_run, findAll_run]
  unfold queryRaw
  cases (publicQuery query).conditions E with
  | none => rfl
  | some c =>
      have hl' : numeral (publicQuery query).limitText = some l := hl
      have ho' : numeral (publicQuery query).offsetText = some o := ho
      dsimp only
      rw [P.cut_numerals hl' ho', P.cut_numerals hl' ho', hempty]

theorem discreet_findAll (hties : E.rowOrder.Positional) {query : ListAlertsQueryDto}
    (hpage : query.NumeralPage) (hquery : ¬ query.UsesHidden) : Discreet E P (.findAll query) := by
  cases hc : (publicQuery query).conditions E with
  | none => exact discreet_refused hc
  | some c =>
      intro w t' h
      unfold ListAlertsQueryDto.UsesHidden at hquery
      rw [not_or, Bool.not_eq_true, Bool.not_eq_true, Option.isSome_eq_false_iff,
        Option.isNone_iff_eq_none] at hquery
      obtain ⟨haround, hcode⟩ := conditions_postalCode hc hquery.1
      have hcode' : c.postalCode = none := by
        rw [← Option.isNone_iff_eq_none, ← Option.isSome_eq_false_iff, hcode]
        exact hquery.2
      rw [findAll_run, findAll_run]
      refine queryRaw_congr Alert.publicPart hties hc hpage ?_ ?_ (fun _ => rfl)
        (fun row => publicDto row.alert row.tag_id row.distance_km)
        (fun row => redacted_raw row.alert row.tag_id row.distance_km) h.rows
      · intro a
        unfold isNearby
        rw [haround, hcode']
        rfl
      · intro a
        unfold nearbyRow
        rw [haround]
        rfl

end Discreet

/-- The distance tells points of one cell of the rounding apart: around every place one of
them is in reach, and the other is not, or is at another distance. -/
def AlertQueryEnv.TellsApart (E : AlertQueryEnv) : Prop :=
  ∀ (place : Point) (radiusKm : ℚ), 0 ≤ radiusKm → ∃ p p' : Point,
    roundCoordinate p.lat = roundCoordinate p'.lat ∧
    roundCoordinate p.lon = roundCoordinate p'.lon ∧
    E.ST_DWithin p place (radiusKm * 1000) = true ∧
    (E.ST_DWithin p' place (radiusKm * 1000) = true →
      E.ST_Distance p place ≠ E.ST_Distance p' place)

section Leaks

variable {E : AlertQueryEnv} {P : Paging} {query : ListAlertsQueryDto} {c : NearbyConditions}

/-- As many copies of an alert. -/
def copies (n : ℕ) (alert : Alert) : Alerts where
  rows := (List.range n).map fun i => { alert with id := i }
  nodup := by
    rw [List.map_map]
    exact List.nodup_range.map fun _ _ h => h

/-- An active alert at a point that the other conditions of a search let through. -/
def sample (c : NearbyConditions) (p : Point) (codes : List String) : Alert where
  id := 0
  creator_id := 0
  pet_species := c.species.getD .DOG
  last_seen_lat := p.lat
  last_seen_lon := p.lon
  location_point := p
  affected_postal_codes := codes

/-- A search of a table of copies lists copies that it lets through. -/
theorem mem_nearbyRows_copies {alert : Alert} {n : ℕ} {w : World} {row : NearbyRow}
    (hrow : row ∈ nearbyRows E c { w with alerts := copies n alert }) :
    ∃ i, isNearby E c { alert with id := i } = true ∧
      row = nearbyRow E c w.pets { alert with id := i } := by
  unfold nearbyRows at hrow
  rw [RowOrder.mem_sort] at hrow
  obtain ⟨a, ha, rfl⟩ := List.mem_map.1 hrow
  obtain ⟨ha, hnear⟩ := List.mem_filter.1 ha
  obtain ⟨i, -, rfl⟩ := List.mem_map.1 ha
  exact ⟨i, hnear, rfl⟩

/-- If it lets them all through, it lists as many as there are. -/
theorem length_nearbyRows_copies {alert : Alert}
    (hnear : ∀ i, isNearby E c { alert with id := i } = true) (n : ℕ) (w : World) :
    (nearbyRows E c { w with alerts := copies n alert }).length = n := by
  have hall : (copies n alert).findMany (isNearby E c) = (copies n alert).rows := by
    unfold Table.findMany
    rw [List.filter_eq_self]
    intro a ha
    obtain ⟨i, -, rfl⟩ := List.mem_map.1 ha
    exact hnear i
  unfold nearbyRows
  dsimp only
  rw [(E.rowOrder.perm _ _).length_eq, List.length_map, hall, copies, List.length_map,
    List.length_range]

theorem pointsKept_copies (n : ℕ) (c : NearbyConditions) (p : Point) (codes : List String) :
    PointsKept (copies n (sample c p codes)) := by
  intro a ha
  obtain ⟨i, -, rfl⟩ := List.mem_map.1 ha
  rfl

theorem samePublicly_copies (c : NearbyConditions) (n : ℕ) {p p' : Point}
    (hlat : roundCoordinate p.lat = roundCoordinate p'.lat)
    (hlon : roundCoordinate p.lon = roundCoordinate p'.lon) (codes codes' : List String) :
    SamePublicly (copies n (sample c p codes)) (copies n (sample c p' codes')) := by
  constructor
  · unfold copies
    dsimp only
    rw [List.map_map, List.map_map]
    apply List.map_congr_left
    intro i _
    simp only [Function.comp_apply, Alert.publicPart, sample, hlat, hlon]
  · exact pointsKept_copies n c p codes
  · exact pointsKept_copies n c p' codes'

/-- What is answered about one of two alerts that look the same, and about no copy of the
other, tells them apart. -/
theorem not_discreet_of_copies (hc : (publicQuery query).conditions E = some c)
    (hshows : query.ShowsRows) {a a' : Alert} (hsame : ∀ n, SamePublicly (copies n a) (copies n a'))
    (hnear : ∀ i, isNearby E c { a with id := i } = true)
    (hdiffer : ∀ i j pets, isNearby E c { a' with id := j } = true →
      nearbyAnswer none (nearbyRow E c pets { a with id := i }) ≠
        nearbyAnswer none (nearbyRow E c pets { a' with id := j })) :
    ¬ Discreet E P (.findAll query) := by
  intro hdiscreet
  obtain ⟨l, o, limit, offset, hl, ho, hlimit, hoffset, hone⟩ := hshows
  have hl' : numeral (publicQuery query).limitText = some l := hl
  have ho' : numeral (publicQuery query).offsetText = some o := ho
  have hrows : ∀ v : World, queryRaw E P (publicQuery query) v =
      .ok (((nearbyRows E c v).drop offset).take limit) := by
    intro v
    unfold queryRaw
    rw [hc]
    dsimp only
    rw [P.cut_numerals hl' ho']
    unfold rowsOfPage
    rw [hlimit, hoffset]
  have hanswer := hdiscreet { (default : World) with alerts := copies (offset + 1) a } _
    (hsame (offset + 1))
  rw [findAll_run, findAll_run, hrows, hrows] at hanswer
  have hanswer := Except.ok.inj hanswer
  have hlength := length_nearbyRows_copies hnear (offset + 1) default
  have hlisted : ((nearbyRows E c { (default : World) with
      alerts := copies (offset + 1) a }).drop offset).take limit ≠ [] := by
    intro hnil
    have hzero := congrArg List.length hnil
    rw [List.length_take, List.length_drop, hlength, List.length_nil] at hzero
    omega
  obtain ⟨row, hrow⟩ := List.exists_mem_of_ne_nil _ hlisted
  have hmem := List.mem_map_of_mem (f := nearbyAnswer none) hrow
  rw [hanswer] at hmem
  obtain ⟨row', hrow', heq⟩ := List.mem_map.1 hmem
  obtain ⟨i, -, rfl⟩ := mem_nearbyRows_copies (List.mem_of_mem_drop (List.mem_of_mem_take hrow))
  obtain ⟨j, hj, rfl⟩ := mem_nearbyRows_copies (List.mem_of_mem_drop (List.mem_of_mem_take hrow'))
  exact hdiffer i j _ hj heq.symm

theorem filter_ne_zero_inj {x y : ℚ}
    (h : ((some x).filter fun d => d ≠ 0) = (some y).filter fun d => d ≠ 0) : x = y := by
  by_cases hx : x = 0 <;> by_cases hy : y = 0 <;> simp_all [Option.filter]

/-- The search around a place tells hidden coordinates apart. -/
theorem not_discreet_place (hapart : E.TellsApart)
    (hc : (publicQuery query).conditions E = some c) (hshows : query.ShowsRows) {lon lat : Json}
    (hplace : query.place = some (lon, lat)) : ¬ Discreet E P (.findAll query) := by
  have hstatus := conditions_status hc
  obtain ⟨hcode, place, radiusKm, haround, hradius⟩ := conditions_around hc hplace
  obtain ⟨p, p', hcell₁, hcell₂, hin, hne⟩ := hapart place radiusKm hradius
  have hnear : ∀ (q : Point) (i : ℕ), isNearby E c { sample c q [] with id := i } =
      E.ST_DWithin q place (radiusKm * 1000) := by
    intro q i
    unfold isNearby
    rw [hcode, haround, hstatus]
    cases hspecies : c.species <;> simp [sample, hspecies]
  refine not_discreet_of_copies hc hshows
    (fun n => samePublicly_copies c n hcell₁ hcell₂ [] []) (fun i => (hnear p i).trans hin) ?_
  intro i j pets hj heq
  rw [hnear] at hj
  have hdistance := congrArg AlertResponseDto.distanceKm heq
  dsimp only [nearbyAnswer, nearbyRow, applyViewerRedaction, mapRawToResponseDto] at hdistance
  rw [haround] at hdistance
  have hquotient : E.ST_Distance p place / 1000 = E.ST_Distance p' place / 1000 :=
    filter_ne_zero_inj hdistance
  exact hne hj (by linarith)

/-- The search by a postal code tells hidden postal codes apart. -/
theorem not_discreet_code (hc : (publicQuery query).conditions E = some c)
    (hshows : query.ShowsRows) (hplace : query.place = none)
    (hcode : (query.postalCode.filter Json.isTruthy).isSome = true) :
    ¬ Discreet E P (.findAll query) := by
  have hstatus := conditions_status hc
  obtain ⟨haround, hgiven⟩ := conditions_postalCode hc hplace
  obtain ⟨code, hcode⟩ := Option.isSome_iff_exists.1 (hgiven.trans hcode)
  have hnear : ∀ (codes : List String) (i : ℕ),
      isNearby E c { sample c ⟨0, 0⟩ codes with id := i } = codes.contains code := by
    intro codes i
    unfold isNearby
    rw [hcode, haround, hstatus]
    cases hspecies : c.species <;> simp [sample, hspecies]
  have hsame : ∀ n, SamePublicly (copies n (sample c ⟨0, 0⟩ [code]))
      (copies n (sample c ⟨0, 0⟩ [])) :=
    fun n => samePublicly_copies c n rfl rfl [code] []
  refine not_discreet_of_copies hc hshows hsame (fun i => ?_) ?_
  · rw [hnear]
    simp
  · intro i j pets hj
    rw [hnear] at hj
    cases hj

/-- A search that is cut by no numeral may tell anything apart. -/
theorem not_discreet_cut (hread : ¬ (publicQuery query).Refused E) (hpage : ¬ query.NumeralPage) :
    ¬ Discreet E .peeking (.findAll query) := by
  intro hdiscreet
  have hpage' : ¬ (publicQuery query).NumeralPage := hpage
  have hanswer := hdiscreet { (default : World) with
    alerts := Table.empty.insertNew { id := 0, creator_id := 0, contact_email := some "" } }
    (Table.empty.insertNew { id := 0, creator_id := 0 })
    ⟨by decide +kernel, by unfold PointsKept; decide +kernel, by unfold PointsKept; decide +kernel⟩
  rw [findAll_run, findAll_run, queryRaw_peeking hread hpage', queryRaw_peeking hread hpage']
    at hanswer
  cases hanswer

end Leaks

/-- Whatever the database makes of the texts that are no numerals, an anonymous lookup tells
nothing hidden apart: exactly when it is a single lookup, a search that is refused, or one
whose page is given by numerals and that selects by no hidden column or shows no row. -/
theorem discreet_iff (E : AlertQueryEnv) (hties : E.rowOrder.Positional) (hapart : E.TellsApart)
    (request : AlertLookup) :
    (∀ P, Discreet E P request) ↔ request.ByPublicColumns E := by
  cases request with
  | findOne id => exact iff_of_true (fun P => discreet_findOne id) trivial
  | findByTag tagId => exact iff_of_true (fun P => discreet_findByTag hties tagId) trivial
  | findAll query =>
      constructor
      · intro hdiscreet
        by_cases hread : (publicQuery query).Refused E
        · exact .inl hread
        · by_cases hpage : query.NumeralPage
          · refine .inr ⟨hpage, ?_⟩
            rintro hshows hhidden
            obtain ⟨c, hc⟩ := Option.ne_none_iff_exists'.1 hread
            cases hplace : query.place with
            | some place =>
                exact not_discreet_place hapart hc hshows hplace (hdiscreet .peeking)
            | none =>
                have hcode := hhidden.resolve_left (by rw [hplace]; exact Bool.false_ne_true)
                exact not_discreet_code hc hshows hplace hcode (hdiscreet .peeking)
          · exact absurd (hdiscreet .peeking) (not_discreet_cut hread hpage)
      · rintro (hread | ⟨hpage, hshows⟩) P
        · exact discreet_refused hread
        · by_cases hrows : query.ShowsRows
          · exact discreet_findAll hties hpage (hshows hrows)
          · exact discreet_noRows hpage hrows

/-- A plane where a degree is a meter. Parameters are read as numerals. -/
def flatQueries : AlertQueryEnv where
  ST_Distance := fun a b => |a.lon - b.lon| + |a.lat - b.lat|
  ST_DWithin := fun a b r => |a.lon - b.lon| + |a.lat - b.lat| ≤ r
  rowOrder := .insertion
  double := fun x => numeral x.asText
  radius := fun x => (numeral x.asText).filter fun r => 0 ≤ r
  text := fun x => some x.asText
  radius_nonneg := fun h => of_decide_eq_true (Option.filter_eq_some_iff.1 h).2

theorem roundCoordinate_near (n : ℤ) {e : ℚ} (hlow : -(1 / 2) ≤ e * 1000)
    (hhigh : e * 1000 < 1 / 2) :
    roundCoordinate (n / 1000 + e) = n / 1000 := by
  have hfloor : (((n / 1000 + e) * 1000 + 1 / 2 : ℚ)).floor = n := by
    change ⌊((n / 1000 + e) * 1000 + 1 / 2 : ℚ)⌋ = n
    rw [Int.floor_eq_iff]
    constructor <;> linarith
  unfold roundCoordinate
  rw [hfloor]

/-- A number with another one in its cell of the rounding. -/
theorem exists_roundCoordinate_eq (x : ℚ) :
    ∃ y, y ≠ x ∧ roundCoordinate x = roundCoordinate y := by
  have hfloor := Int.floor_le (x * 1000 + 1 / 2)
  have hfloor' := Int.lt_floor_add_one (x * 1000 + 1 / 2)
  generalize ⌊x * 1000 + 1 / 2⌋ = n at hfloor hfloor'
  have hcell := roundCoordinate_near n (e := x - n / 1000) (by linarith) (by linarith)
  rw [add_sub_cancel] at hcell
  rcases eq_or_ne x (n / 1000) with heq | hne
  · refine ⟨n / 1000 + 1 / 5000, by rw [heq]; norm_num, ?_⟩
    rw [hcell, roundCoordinate_near] <;> norm_num
  · refine ⟨n / 1000, hne.symm, ?_⟩
    have hcenter := roundCoordinate_near n (e := 0) (by norm_num) (by norm_num)
    rw [add_zero] at hcenter
    rw [hcell, hcenter]

theorem flatQueries_tellsApart : flatQueries.TellsApart := by
  intro place radiusKm hradius
  obtain ⟨lon, hne, hcell⟩ := exists_roundCoordinate_eq place.lon
  refine ⟨place, ⟨lon, place.lat⟩, rfl, hcell, ?_, ?_⟩
  · simp only [flatQueries, sub_self, abs_zero, add_zero, decide_eq_true_eq]
    linarith
  · intro _ heq
    simp only [flatQueries, sub_self, abs_zero, add_zero] at heq
    exact hne (sub_eq_zero.1 (abs_eq_zero.1 heq.symm))

/-- The second page of the newest alerts gives nothing away; a limit with a subquery does. -/
theorem discreet_iff_newest :
    (∀ P, Discreet flatQueries P
        (.findAll { limit := some (.str "20"), offset := some (.str "20") })) ∧
      ¬ ∀ P, Discreet flatQueries P (.findAll { limit := some (.str "(SELECT 20)") }) := by
  have hiff := discreet_iff flatQueries RowOrder.insertion_positional flatQueries_tellsApart
  constructor
  · apply (hiff _).2
    refine .inr ⟨⟨by decide +kernel, by decide +kernel⟩, fun _ => ?_⟩
    rintro (hplace | hcode)
    · cases hplace
    · cases hcode
  · intro hdiscreet
    rcases (hiff _).1 hdiscreet with hread | ⟨⟨hlimit, _⟩, _⟩
    · unfold ListAlertsQueryDto.Refused at hread
      exact absurd hread (by decide +kernel)
    · exact absurd hlimit (by decide +kernel)

/-- An alert at a place that rounds to (1, 1), so far east of it. -/
def eastOf (east : ℚ) : Alerts :=
  Table.empty.insertNew
    { id := 7, creator_id := 1, last_seen_lat := 1, last_seen_lon := 1 + east
      location_point := ⟨1 + east, 1⟩ }

/-- The search around (1, 1). -/
def aroundOne : ListAlertsQueryDto where
  lat := some (.str "1")
  lon := some (.str "1")

theorem queryRaw_aroundOne (P : Paging) (w : World) :
    queryRaw flatQueries P (publicQuery aroundOne) w = .ok
      (((nearbyRows flatQueries ⟨.ACTIVE, none, some (⟨1, 1⟩, 10), none⟩ w).drop 0).take 20) := by
  have hc : (publicQuery aroundOne).conditions flatQueries =
      some ⟨.ACTIVE, none, some (⟨1, 1⟩, 10), none⟩ := by
    decide +kernel
  have hl : numeral (publicQuery aroundOne).limitText = some 20 := by decide +kernel
  have ho : numeral (publicQuery aroundOne).offsetText = some 0 := by decide +kernel
  have hlimit : bigint 20 = some 20 := by decide +kernel
  have hoffset : bigint 0 = some 0 := by decide +kernel
  unfold queryRaw
  rw [hc]
  dsimp only
  rw [P.cut_numerals hl ho]
  unfold rowsOfPage
  rw [hlimit, hoffset]

/-- Two tables that differ in coordinates within one cell of the rounding: the search
around (1, 1) reports different distances. -/
theorem search_reveals_distance :
    SamePublicly (eastOf (1 / 10000)) (eastOf (1 / 5000)) ∧
      ∀ P, ¬ Discreet flatQueries P (.findAll aroundOne) := by
  have hsame : SamePublicly (eastOf (1 / 10000)) (eastOf (1 / 5000)) :=
    ⟨by decide +kernel, by unfold PointsKept; decide +kernel, by unfold PointsKept; decide +kernel⟩
  refine ⟨hsame, fun P hdiscreet => ?_⟩
  have hanswer := hdiscreet { alerts := eastOf (1 / 10000) } _ hsame
  rw [findAll_run, findAll_run, queryRaw_aroundOne, queryRaw_aroundOne] at hanswer
  have hanswer := Except.ok.inj hanswer
  revert hanswer
  decide +kernel

end FifiAlert
