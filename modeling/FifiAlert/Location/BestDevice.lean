import FifiAlert.Location.LocationService
import FifiAlert.Store.Assoc
import Mathlib.Data.Prod.Lex

/-!
# The best device of each user

The two passes of `deduplicateMatches` are two minima: a device is represented by
the first of its matches with the smallest priority, and a user by a smallest of
these by priority, then by having a push token, then by distance. An id is the
same whether the driver hands it over as a number or as a string; the passes tell
the two apart, so a list has to stay with one of them.
-/

namespace FifiAlert

open Store Js

namespace LocationService

/-- Each id is represented in one way only, and each device has one user. -/
structure UniformIds (ms : List MatchResult) : Prop where
  device : ∀ m ∈ ms, ∀ m' ∈ ms, m.deviceId.text = m'.deviceId.text → m.deviceId = m'.deviceId
  user : ∀ m ∈ ms, ∀ m' ∈ ms, m.userId.text = m'.userId.text → m.userId = m'.userId
  owner : ∀ m ∈ ms, ∀ m' ∈ ms, m.deviceId.text = m'.deviceId.text →
    m.userId.text = m'.userId.text

/-- The first match of a device with the smallest priority. -/
def representative (ms : List MatchResult) (device : String) : Option MatchResult :=
  (ms.filter fun m => m.deviceId.text = device).argmin MatchResult.priority

def IsRepresentative (ms : List MatchResult) (r : MatchResult) : Prop :=
  representative ms r.deviceId.text = some r

/-- Priority first, then a push token that is there, then distance. -/
def deviceRank (m : MatchResult) : ℕ ×ₗ Bool ×ₗ ℚ :=
  toLex (m.priority, toLex ((truthy m.pushToken).isNone, m.distanceKm))

/-- A representative that no representative of a device of the same user comes before. -/
def IsBestDevice (ms : List MatchResult) (r : MatchResult) : Prop :=
  IsRepresentative ms r ∧
    ∀ r', IsRepresentative ms r' → r'.userId.text = r.userId.text → deviceRank r ≤ deviceRank r'

theorem betterForDevice_eq (m existing : MatchResult) :
    betterForDevice m existing = decide (m.priority < existing.priority) := rfl

/-- The replacement rule of the second pass compares ranks. -/
theorem betterForUser_eq (m existing : MatchResult) :
    betterForUser m existing = decide (deviceRank m < deviceRank existing) := by
  rw [Bool.eq_iff_iff, decide_eq_true_iff, deviceRank, deviceRank, Prod.Lex.toLex_lt_toLex,
    Prod.Lex.toLex_lt_toLex]
  cases hold : truthy existing.pushToken <;> cases hnew : truthy m.pushToken <;>
    simp [betterForUser, hold, hnew]

section Passes

variable {ms : List MatchResult} {r : MatchResult}

/-- One match for each device. -/
def matchesByDevice (ms : List MatchResult) : List MatchResult :=
  (Assoc.bestOf (fun m => m.deviceId) betterForDevice ms).values

theorem mem_of_mem_matchesByDevice (h : r ∈ matchesByDevice ms) : r ∈ ms :=
  (Assoc.mem_values_bestOf h).1

theorem IsRepresentative.mem (h : IsRepresentative ms r) : r ∈ ms :=
  (List.mem_filter.1 (List.argmin_mem h)).1

/-- The first pass keeps the representatives. -/
theorem mem_matchesByDevice_iff (hids : UniformIds ms) :
    r ∈ matchesByDevice ms ↔ IsRepresentative ms r := by
  have hfilter : r ∈ ms → (ms.filter fun m => m.deviceId = r.deviceId) =
      ms.filter fun m => m.deviceId.text = r.deviceId.text := fun hr =>
    List.filter_congr fun m hm =>
      decide_eq_decide.2 ⟨fun h => h ▸ rfl, hids.device m hm r hr⟩
  rw [matchesByDevice, Assoc.mem_values_bestOf_iff betterForDevice_eq, IsRepresentative,
    representative]
  constructor
  · intro h
    rwa [← hfilter (List.mem_filter.1 (List.argmin_mem h)).1]
  · intro h
    rwa [hfilter (List.mem_filter.1 (List.argmin_mem h)).1]

/-- Every match has a representative, of the same user. -/
theorem exists_mem_matchesByDevice (hids : UniformIds ms) {m : MatchResult} (hm : m ∈ ms) :
    ∃ r ∈ matchesByDevice ms, r.userId.text = m.userId.text := by
  obtain ⟨r, hr⟩ : ∃ r, (Assoc.bestOf (fun m => m.deviceId) betterForDevice ms).get m.deviceId =
      some r := Assoc.get_bestOf_of_mem hm
  have hmem := Assoc.mem_of_get_bestOf hr
  exact ⟨r, Assoc.mem_values_iff.2 ⟨m.deviceId, hr⟩,
    hids.owner r hmem.1 m hm (congrArg Ident.text hmem.2)⟩

theorem mem_of_mem_bestMatches (h : r ∈ bestMatches ms) : r ∈ matchesByDevice ms :=
  (Assoc.mem_values_bestOf h).1

theorem isBestDevice_of_mem_bestMatches (hids : UniformIds ms) (h : r ∈ bestMatches ms) :
    IsBestDevice ms r := by
  have hrep := (mem_matchesByDevice_iff hids).1 (mem_of_mem_bestMatches h)
  refine ⟨hrep, fun r' hrep' huser => ?_⟩
  have hid : r'.userId = r.userId := hids.user r' hrep'.mem r hrep.mem huser
  exact Assoc.rank_le_of_mem_values_bestOf betterForUser_eq h
    ((mem_matchesByDevice_iff hids).2 hrep') hid

/-- The users of the matches that are kept are those of the list. -/
theorem mem_users_bestMatches (hids : UniformIds ms) (user : String) :
    user ∈ (bestMatches ms).map (fun m => m.userId.text) ↔
      user ∈ ms.map fun m => m.userId.text := by
  constructor
  · intro h
    obtain ⟨r, hr, rfl⟩ := List.mem_map.1 h
    exact List.mem_map.2 ⟨r, mem_of_mem_matchesByDevice (mem_of_mem_bestMatches hr), rfl⟩
  · intro h
    obtain ⟨m, hm, rfl⟩ := List.mem_map.1 h
    obtain ⟨r, hr, huser⟩ := exists_mem_matchesByDevice hids hm
    have hkept : r.userId ∈ (bestMatches ms).map fun m => m.userId :=
      Assoc.mem_map_key_values_bestOf.2 (List.mem_map_of_mem hr)
    obtain ⟨best, hbest, hid⟩ := List.mem_map.1 hkept
    exact List.mem_map.2 ⟨best, hbest, by rw [hid, huser]⟩

theorem nodup_users_bestMatches (hids : UniformIds ms) :
    ((bestMatches ms).map fun m => m.userId.text).Nodup := by
  have hnodup : ((bestMatches ms).map fun m => m.userId).Nodup := Assoc.nodup_values_bestOf _
  rw [List.nodup_map_iff_inj_on hnodup.of_map]
  intro m hm m' hm' htext
  have hmem : ∀ r ∈ bestMatches ms, r ∈ ms := fun r hr =>
    mem_of_mem_matchesByDevice (mem_of_mem_bestMatches hr)
  exact List.inj_on_of_nodup_map hnodup hm hm'
    (hids.user m (hmem m hm) m' (hmem m' hm') htext)

end Passes

/-- Each user among the matches gets one match, that of their best device. -/
theorem deduplicateMatches_bestDevice (ms : List MatchResult) (hids : UniformIds ms) :
    ((deduplicateMatches ms).map fun d => d.userId.text).Nodup ∧
      (∀ user, user ∈ (deduplicateMatches ms).map (fun d => d.userId.text) ↔
        user ∈ ms.map fun m => m.userId.text) ∧
      ∀ d ∈ deduplicateMatches ms, ∃ r, r.toDeviceMatch = d ∧ IsBestDevice ms r := by
  have husers : (deduplicateMatches ms).map (fun d => d.userId.text) =
      (bestMatches ms).map fun m => m.userId.text := by
    rw [deduplicateMatches, List.map_map]
    rfl
  rw [husers]
  refine ⟨nodup_users_bestMatches hids, mem_users_bestMatches hids, fun d hd => ?_⟩
  obtain ⟨r, hr, rfl⟩ := List.mem_map.1 hd
  exact ⟨r, rfl, isBestDevice_of_mem_bestMatches hids hr⟩

def gpsMatch (device user : ℕ) (pushToken : Option String) (km : ℚ) (priority : ℕ) :
    MatchResult where
  deviceId := .num device
  userId := .num user
  pushToken := pushToken
  confidence := .HIGH
  matchReason := .GPS
  distanceKm := km
  matchedVia := ""
  priority := priority

/-- A laptop without a token close by, the phone of the same user further away, which
matches twice, and the phone of somebody else. -/
def twoDevices : List MatchResult :=
  [gpsMatch 20 2 none 1 2, gpsMatch 21 2 (some "phone") 3 3, gpsMatch 21 2 (some "phone") 4 2,
    gpsMatch 30 3 (some "other") 9 5]

theorem deduplicateMatches_bestDevice_phone :
    deduplicateMatches twoDevices = [(gpsMatch 21 2 (some "phone") 4 2).toDeviceMatch,
        (gpsMatch 30 3 (some "other") 9 5).toDeviceMatch] ∧
      ((deduplicateMatches twoDevices).map fun d => d.userId.text).Nodup :=
  ⟨by decide +kernel, (deduplicateMatches_bestDevice twoDevices
    ⟨by decide +kernel, by decide +kernel, by decide +kernel⟩).1⟩

end LocationService

end FifiAlert
