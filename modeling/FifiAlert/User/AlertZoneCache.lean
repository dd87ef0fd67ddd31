import FifiAlert.Concurrency.ReadThrough
import FifiAlert.Concurrency.Ending
import FifiAlert.Store.Pages
import FifiAlert.User.AlertZones
import FifiAlert.User.Deletions

/-!
# The cache of active alert zones

`AlertZoneCacheService` keeps the list of the active alert zones in Redis. It reads it through the
cache, and `AlertZoneService` drops it after each change. The deletion of a user takes their zones
without a word to the cache, which forgets what it holds after some minutes by itself.
-/

namespace FifiAlert

open Concurrency Store

structure CachedAlertZone where
  id : ℕ
  user_id : ℕ
  name : String
  lat : ℚ
  lon : ℚ
  radius_meters : ℤ
  priority : ℤ
  is_active : Bool
  deriving DecidableEq

/-- The columns that `fetchActiveZonesFromDB` selects. -/
def AlertZone.selected (zone : AlertZone) : CachedAlertZone where
  id := zone.id
  user_id := zone.user_id
  name := zone.name
  lat := zone.lat
  lon := zone.lon
  radius_meters := zone.radius_meters
  priority := zone.priority
  is_active := zone.is_active

def World.activeZones (w : World) : List CachedAlertZone :=
  (w.alertZones.findMany AlertZone.is_active).map AlertZone.selected

/-- The state, and what Redis holds under `ACTIVE_ALERT_ZONES`. -/
structure ZoneCacheState where
  world : World
  cached : Option (List CachedAlertZone) := none

inductive ZoneCacheCall where
  | zone (l : ZoneCall)
  | deletion (l : DeletionCall)
  | cacheGet
  | zonesQueryRaw
  | cacheSet (zones : List CachedAlertZone)

def ZoneCall.dropsCache : ZoneCall → Bool
  | cacheDel => true
  | _ => false

/-- A call of the zone service on the state with the cache. -/
def ZoneCall.lift (l : ZoneCall) (next : World → World) (s : ZoneCacheState) : ZoneCacheState where
  world := next s.world
  cached := if l.dropsCache then none else s.cached

/-- A call that the cache does not hear of. -/
def DeletionCall.lift (_ : DeletionCall) (next : World → World) (s : ZoneCacheState) :
    ZoneCacheState :=
  { s with world := next s.world }

def ZoneCacheCall.effect : ZoneCacheCall → ZoneCacheState → ZoneCacheState
  | zone l, s => l.lift l.effect s
  | deletion l, s => l.lift l.effect s
  | cacheSet zones, s => { s with cached := some zones }
  | _, s => s

abbrev ZoneCacheProcess := Process ZoneCacheState ZoneCacheCall AppError

namespace AlertZoneCacheService

/-- `ORDER BY priority DESC`. -/
def byPriority (O : RowOrder) (zones : List CachedAlertZone) : List CachedAlertZone :=
  O.sort (fun a b => b.priority ≤ a.priority) zones

def fetchActiveZonesFromDB (O : RowOrder) : ZoneCacheProcess (List CachedAlertZone) :=
  Process.query .zonesQueryRaw (.prisma .other) fun s => byPriority O s.world.activeZones

def getActiveAlertZones (O : RowOrder) : ZoneCacheProcess (List CachedAlertZone) :=
  Process.tryCatch
    (do
      let cached ← Process.query .cacheGet (.error "cache") ZoneCacheState.cached
      match cached with
      | some zones => return zones
      | none =>
        let zones ← fetchActiveZonesFromDB O
        Process.modify (.cacheSet zones) (.error "cache") (ZoneCacheCall.cacheSet zones).effect
          fun _ => zones)
    fun _ => fetchActiveZonesFromDB O

/-- `warmCache`, which never throws. -/
def warmCache (O : RowOrder) : ZoneCacheProcess Unit :=
  Process.tryCatch ((fun _ => ()) <$> getActiveAlertZones O) fun _ => return ()

end AlertZoneCacheService

inductive ZoneCacheRequest where
  | change (req : ZoneRequest)
  | deleteUser (id : ℕ)
  | read
  | warm

/-- The process of a request, with the list that it answers, if it does. -/
def ZoneCacheRequest.process (E : AlertZoneEnv) (O : RowOrder) :
    ZoneCacheRequest → ZoneCacheProcess (Option (List CachedAlertZone))
  | change req =>
      (((fun _ => none) <$> req.process E).extend ZoneCacheState.world ZoneCall.lift).relabel .zone
  | deleteUser id =>
      (((fun _ => none) <$> UserService.delete id).extend ZoneCacheState.world
        DeletionCall.lift).relabel .deletion
  | read => some <$> AlertZoneCacheService.getActiveAlertZones O
  | warm => (fun _ => none) <$> AlertZoneCacheService.warmCache O

/-- The list shows the zones that are active, the highest priority first. -/
def ShowsActive (s : ZoneCacheState) (zones : List CachedAlertZone) : Prop :=
  zones.Perm s.world.activeZones ∧ zones.Pairwise fun a b => b.priority ≤ a.priority

abbrev ZoneCacheMark (ι : Type*) := CacheMark ι (List CachedAlertZone)

abbrev ZoneCacheSnapshot (ι : Type*) := Snapshot ZoneCacheState (ZoneCacheMark ι)

/-- A thread has changed the active zones. -/
def wroteZones {ι : Type*} (i : ι) (w w' : World) : Option (ZoneCacheMark ι) :=
  if w'.activeZones = w.activeZones then none else some (.wrote i)

/-- The mark of a call; each thread meets ties in an order of its own. -/
def zoneCacheMark {ι : Type*} (orders : ι → RowOrder) (i : ι) (l : ZoneCacheCall)
    (s : ZoneCacheState) : Option (ZoneCacheMark ι) :=
  match l with
  | .zone l => if l.dropsCache then some (.dropped i) else wroteZones i s.world (l.effect s.world)
  | .deletion l => wroteZones i s.world (l.effect s.world)
  | .zonesQueryRaw =>
      some (.fetched i (AlertZoneCacheService.byPriority (orders i) s.world.activeZones))
  | .cacheSet zones => some (.stored i zones)
  | .cacheGet => none

/-- Others leave the active zones alone; the cache may forget what it holds. -/
structure ZonesUndisturbed (s s' : ZoneCacheState) : Prop where
  zones : s'.world.activeZones = s.world.activeZones
  cached : s'.cached = s.cached ∨ s'.cached = none

def zoneCacheSetting {ι : Type*} (orders : ι → RowOrder) (fails : ZoneCacheCall → Prop) :
    Setting ι ZoneCacheState ZoneCacheCall (ZoneCacheMark ι) where
  mark := zoneCacheMark orders
  env := ZonesUndisturbed
  mayFail := fails
  admits := fun _ _ _ => True

section Calls

variable {ι : Type*} {orders : ι → RowOrder} {fails : ZoneCacheCall → Prop} {i : ι}
  {w w' : World} {m : ZoneCacheMark ι}

theorem wroteZones_eq_some : wroteZones i w w' = some m ↔
    w'.activeZones ≠ w.activeZones ∧ m = .wrote i := by
  unfold wroteZones
  split
  next heq => exact ⟨nofun, fun h => absurd heq h.1⟩
  next hne => exact ⟨fun h => ⟨hne, (Option.some.inj h).symm⟩, fun h => congrArg some h.2.symm⟩

/-- A call that has not written the zones leaves them. -/
theorem activeZones_of_not_wrote
    (h : ∀ m, wroteZones i w w' = some m → m.isWrote = false) : w'.activeZones = w.activeZones := by
  by_contra hne
  cases h _ (wroteZones_eq_some.2 ⟨hne, rfl⟩)

theorem ShowsActive.of_eq {s s' : ZoneCacheState} {zones : List CachedAlertZone}
    (h : ShowsActive s zones) (heq : s'.world.activeZones = s.world.activeZones) :
    ShowsActive s' zones :=
  ⟨heq ▸ h.1, h.2⟩

theorem showsActive_byPriority (O : RowOrder) (s : ZoneCacheState) :
    ShowsActive s (AlertZoneCacheService.byPriority O s.world.activeZones) :=
  ⟨O.perm _ _, O.sorted_desc CachedAlertZone.priority _⟩

/-- The calls are those around a cache. -/
theorem readsThrough_zones :
    ReadsThrough (zoneCacheSetting orders fails) ZoneCacheCall.effect ZoneCacheState.cached
      ShowsActive where
  thread := by
    intro i l s m hm j hj
    cases l with
    | zone l =>
        change (if l.dropsCache then _ else _) = some m at hm
        split at hm
        · obtain rfl := Option.some.inj hm
          rcases hj with hj | hj <;> cases hj
          rfl
        · obtain ⟨-, rfl⟩ := wroteZones_eq_some.1 hm
          rcases hj with hj | hj <;> cases hj
          rfl
    | deletion l =>
        obtain ⟨-, rfl⟩ := wroteZones_eq_some.1 hm
        rcases hj with hj | hj <;> cases hj
        rfl
    | zonesQueryRaw | cacheSet zones =>
        obtain rfl := Option.some.inj hm
        rcases hj with hj | hj <;> cases hj
    | cacheGet => cases hm
  source := by
    intro i l s hquiet v hv
    refine hv.of_eq ?_
    cases l with
    | zone l =>
        change ∀ m, (if l.dropsCache then _ else _) = some m → _ at hquiet
        split at hquiet
        next hdrops => cases l <;> first | rfl | cases hdrops
        next => exact activeZones_of_not_wrote hquiet
    | deletion l => exact activeZones_of_not_wrote hquiet
    | zonesQueryRaw | cacheSet zones | cacheGet => rfl
  cache := by
    intro i l s v hv
    cases l with
    | zone l =>
        change (if l.dropsCache then _ else _) = some v at hv
        split at hv
        · cases hv
        next hdrops =>
          refine .inl ⟨hv, fun m hm => ?_⟩
          change (if l.dropsCache then _ else _) = some m at hm
          rw [if_neg hdrops] at hm
          obtain ⟨-, rfl⟩ := wroteZones_eq_some.1 hm
          rfl
    | deletion l =>
        refine .inl ⟨hv, fun m hm => ?_⟩
        obtain ⟨-, rfl⟩ := wroteZones_eq_some.1 hm
        rfl
    | zonesQueryRaw =>
        refine .inl ⟨hv, fun m hm => ?_⟩
        obtain rfl := Option.some.inj hm
        rfl
    | cacheGet => exact .inl ⟨hv, nofun⟩
    | cacheSet zones =>
        obtain rfl := Option.some.inj hv
        exact .inr rfl
  env_source := fun _ _ henv _ hv => hv.of_eq henv.zones
  env_cache := fun _ _ _ henv hv => henv.cached.elim (fun h => h ▸ hv) fun h => by
    rw [h] at hv
    cases hv

end Calls

end FifiAlert
