import FifiAlert.User.AlertZoneCache

/-!
# Stale zones

For any number of reads of the cached zones, changes of zones and deletions of users in any
interleaving, with any of their calls failing: a list in the cache that does not show the active
zones was overtaken by a change, or a writer has not dropped it. When all writers are changes that
have returned, and the cache can be reached to drop the list, it was overtaken.
-/

namespace FifiAlert

open Concurrency Store AlertZoneService AlertZoneCacheService

section Confined

variable {E : AlertZoneEnv} {zoneId userId : ℕ}

/-- The process makes its calls as they are. -/
abbrev PlainCalls {α : Type} (p : ZoneProcess α) : Prop :=
  p.Confined (fun l next => next = l.effect) fun _ => True

theorem plainCalls_findOne : PlainCalls (AlertZoneService.findOne zoneId userId) := by
  refine Process.confined_query_bind rfl trivial fun w => ?_
  cases w.alertZones.find? zoneId with
  | none => trivial
  | some zone =>
      dsimp only
      split
      · trivial
      · refine Process.confined_query_bind rfl trivial fun w' => ?_
        cases w'.alertZones.find? zoneId <;> trivial

theorem plainCalls_findExisting (verb : String) :
    PlainCalls (findExisting zoneId userId verb) := by
  refine Process.confined_query_bind rfl trivial fun w => ?_
  cases w.alertZones.find? zoneId with
  | none => trivial
  | some zone =>
      dsimp only
      split <;> trivial

theorem plainCalls_invalidateCache : PlainCalls invalidateCache :=
  ⟨rfl, fun _ => trivial, trivial⟩

theorem plainCalls_create (dto : CreateAlertZoneDto) :
    PlainCalls (AlertZoneService.create E dto userId) := by
  refine Process.confined_query_bind rfl trivial fun w => ?_
  cases w.users.find? userId with
  | none => trivial
  | some user =>
      refine Process.confined_query_bind rfl trivial fun w' => ?_
      split
      · trivial
      split
      · trivial
      cases newZone E dto userId with
      | none => trivial
      | some zone =>
          refine Process.Confined.bind ?_ fun _ => plainCalls_findOne.bind fun _ =>
            plainCalls_invalidateCache.bind fun _ => trivial
          exact Process.confined_atomic rfl (fun _ _ _ => trivial) trivial

theorem plainCalls_writeZone (row : AlertZone) (old : AlertZoneResponseDto)
    (dto : UpdateAlertZoneDto) : PlainCalls (writeZone E zoneId row old dto) := by
  unfold writeZone
  split
  · cases moveData E row old dto with
    | none => trivial
    | some data => exact Process.confined_modify rfl trivial
  · cases updateData dto with
    | none => trivial
    | some data => exact Process.confined_atomic rfl (fun _ _ _ => trivial) trivial

theorem plainCalls_update (dto : UpdateAlertZoneDto) :
    PlainCalls (AlertZoneService.update E zoneId dto userId) := by
  refine (plainCalls_findExisting "update").bind fun row => ?_
  split
  · trivial
  · exact plainCalls_findOne.bind fun old => (plainCalls_writeZone row old dto).bind fun _ =>
      plainCalls_findOne.bind fun _ => plainCalls_invalidateCache.bind fun _ => trivial

theorem plainCalls_delete : PlainCalls (AlertZoneService.delete zoneId userId) := by
  refine (plainCalls_findExisting "delete").bind fun _ => plainCalls_findOne.bind fun _ => ?_
  refine Process.Confined.bind ?_ fun _ => plainCalls_invalidateCache
  exact Process.confined_atomic rfl (fun _ _ _ => trivial) trivial

theorem plainCalls_change (req : ZoneRequest) : PlainCalls (req.process E) := by
  cases req with
  | create dto userId => exact (plainCalls_create dto).bind fun _ => trivial
  | update zoneId dto userId => exact (plainCalls_update dto).bind fun _ => trivial
  | delete zoneId userId => exact plainCalls_delete

theorem plainCalls_deleteUser (id : ℕ) :
    (UserService.delete id).Confined (fun l next => next = l.effect) fun _ => True := by
  refine Process.confined_query_bind rfl trivial fun w => ?_
  cases w.users.find? id with
  | none => trivial
  | some user => exact Process.confined_atomic rfl (fun _ _ _ => trivial) trivial

end Confined

section Dropped

variable {E : AlertZoneEnv} {O : RowOrder} {fails : ZoneCacheCall → Prop}

/-- Was the last call of the process the one that drops the cache? -/
def droppedLast (_ : Bool) : ZoneCacheCall → Bool
  | .zone l => l.dropsCache
  | _ => false

/-- When the process returns, its last call has dropped the cache. -/
abbrev DropsLast {α : Type} (fails : ZoneCacheCall → Prop) (dropped : Bool)
    (p : ZoneCacheProcess α) : Prop :=
  p.Tracks droppedLast fails (fun x r => r.isOk = true → x = true) dropped

/-- The same of a process of the zone service. -/
abbrev ZoneDropsLast {α : Type} (fails : ZoneCacheCall → Prop) (dropped : Bool)
    (p : ZoneProcess α) : Prop :=
  p.Tracks (fun x l => droppedLast x (.zone l)) (fun l => fails (.zone l))
    (fun x r => r.isOk = true → x = true) dropped

/-- What comes before the drop does not matter. -/
theorem dropsLast_bind {α β : Type} {p : ZoneProcess α} {k : α → ZoneProcess β}
    (hk : ∀ a dropped, ZoneDropsLast fails dropped (k a)) (dropped : Bool) :
    ZoneDropsLast fails dropped (p >>= k) :=
  Process.tracks_bind hk (fun _ _ => nofun) p

theorem dropsLast_invalidateCache {α : Type} (hdel : ¬ fails (.zone .cacheDel)) (a : α)
    (dropped : Bool) : ZoneDropsLast fails dropped (invalidateCache >>= fun _ => .ret a) :=
  ⟨fun _ _ => rfl, fun hfail => absurd hfail hdel⟩

theorem dropsLast_create (hdel : ¬ fails (.zone .cacheDel)) (dto : CreateAlertZoneDto)
    (userId : ℕ) (dropped : Bool) :
    ZoneDropsLast fails dropped (AlertZoneService.create E dto userId) := by
  refine dropsLast_bind (fun user dropped₁ => ?_) dropped
  cases user with
  | none => exact nofun
  | some user =>
      refine dropsLast_bind (fun count dropped₂ => ?_) dropped₁
      split
      · exact nofun
      split
      · exact nofun
      cases newZone E dto userId with
      | none => exact nofun
      | some zone =>
          refine dropsLast_bind (fun id dropped₃ => ?_) dropped₂
          exact dropsLast_bind (fun response dropped₄ =>
            dropsLast_invalidateCache hdel response dropped₄) dropped₃

theorem dropsLast_update (hdel : ¬ fails (.zone .cacheDel)) (zoneId : ℕ)
    (dto : UpdateAlertZoneDto) (userId : ℕ) (dropped : Bool) :
    ZoneDropsLast fails dropped (AlertZoneService.update E zoneId dto userId) := by
  refine dropsLast_bind (fun row dropped₁ => ?_) dropped
  split
  · exact nofun
  · refine dropsLast_bind (fun old dropped₂ => ?_) dropped₁
    refine dropsLast_bind (fun _ dropped₃ => ?_) dropped₂
    exact dropsLast_bind (fun response dropped₄ =>
      dropsLast_invalidateCache hdel response dropped₄) dropped₃

theorem dropsLast_delete (hdel : ¬ fails (.zone .cacheDel)) (zoneId userId : ℕ) (dropped : Bool) :
    ZoneDropsLast fails dropped (AlertZoneService.delete zoneId userId) := by
  refine dropsLast_bind (fun _ dropped₁ => ?_) dropped
  refine dropsLast_bind (fun _ dropped₂ => ?_) dropped₁
  exact dropsLast_bind (fun _ dropped₃ => dropsLast_invalidateCache hdel () dropped₃) dropped₂

theorem dropsLast_map {α β : Type} {p : ZoneProcess α} {f : α → β} {dropped : Bool}
    (hp : ZoneDropsLast fails dropped p) : ZoneDropsLast fails dropped (f <$> p) := by
  refine Process.Tracks.map (fun x r hr hok => hr ?_) hp
  cases r with
  | ok a => rfl
  | error e => cases hok

theorem dropsLast_change (hdel : ¬ fails (.zone .cacheDel)) (req : ZoneRequest) (dropped : Bool) :
    ZoneDropsLast fails dropped (req.process E) := by
  cases req with
  | create dto userId => exact dropsLast_map (dropsLast_create hdel dto userId dropped)
  | update zoneId dto userId =>
      exact dropsLast_map (dropsLast_update hdel zoneId dto userId dropped)
  | delete zoneId userId => exact dropsLast_delete hdel zoneId userId dropped

/-- A change of the zones, on the state with the cache. -/
theorem dropsLast_process (hdel : ¬ fails (.zone .cacheDel)) (req : ZoneRequest) (dropped : Bool) :
    DropsLast fails dropped ((ZoneCacheRequest.change req).process E O) :=
  .relabel (.extend (dropsLast_map (dropsLast_change hdel req dropped)))

end Dropped

section Threads

variable {ι : Type*} {orders : ι → RowOrder} {fails : ZoneCacheCall → Prop} {i : ι}
  {start : Option (List CachedAlertZone)} {s : ZoneCacheSnapshot ι} {E : AlertZoneEnv}

/-- The protocol of the cached zones. -/
abbrev zoneCacheProtocol (orders : ι → RowOrder) (fails : ZoneCacheCall → Prop)
    (start : Option (List CachedAlertZone)) : Protocol (zoneCacheSetting orders fails) :=
  readsThrough_zones.protocol start

/-- A call that stores nothing needs no leave. -/
theorem permits_zone (l : ZoneCall) :
    (zoneCacheProtocol orders fails start).permits i (.zone l) s := by
  refine permits_of_not_stored fun zones => ?_
  change (if l.dropsCache then _ else _) ≠ _
  split
  · exact nofun
  · exact fun h => nomatch (wroteZones_eq_some.1 h).2

theorem permits_deletion (l : DeletionCall) :
    (zoneCacheProtocol orders fails start).permits i (.deletion l) s :=
  permits_of_not_stored fun _ h => nomatch (wroteZones_eq_some.1 h).2

/-- The list that is fetched shows the zones of that moment. -/
theorem fetched_query : Fetched (ShowsActive s.state) i
    (byPriority (orders i) s.state.world.activeZones)
    (s.after (zoneCacheMark orders) i .zonesQueryRaw (fun w => w)).marks :=
  ⟨[], s.marks, rfl, fun _ => showsActive_byPriority (orders i) s.state⟩

theorem safe_fetch : Safe (zoneCacheProtocol orders fails start).contract i
    (OnReturn fun zones s => Fetched (ShowsActive s.state) i zones s.marks)
      (fetchActiveZonesFromDB (orders i)) s := by
  refine Protocol.safe_call (P := zoneCacheProtocol orders fails start) rfl
    fun s₁ _ _ => ⟨fun _ => ⟨?_, fun _ => ?_⟩, fun _ => ?_⟩
  · exact permits_of_not_stored fun _ => nofun
  · exact lasting_fetched.ret fetched_query fun _ _ h => h
  · exact Protocol.safe_onReturn_raise

theorem safe_getActiveAlertZones : Safe (zoneCacheProtocol orders fails start).contract i
    (OnReturn fun zones s => Known start zones s.marks)
      (getActiveAlertZones (orders i)) s := by
  refine Protocol.safe_onReturn_tryCatch ?_ fun e s₁ => ?_
  · refine Protocol.Lasting.nothing.call_bind trivial (f := fun w => w) rfl
      (fun _ _ _ _ => permits_of_not_stored fun _ => nofun) (fun s₁ hinv _ => ?_)
      fun _ _ _ _ => trivial
    cases hcached : s₁.state.cached with
    | some zones => exact lasting_known.ret (hinv zones hcached).known fun _ _ h => h
    | none =>
        refine Protocol.safe_onReturn_bind safe_fetch fun zones s₂ _ hfetched => ?_
        refine Protocol.safe_call rfl fun s₃ hr _ => ⟨fun _ => ⟨?_, fun _ => ?_⟩, fun _ => ?_⟩
        · intro zones' hzones'
          obtain rfl := (CacheMark.stored.inj (Option.some.inj hzones')).2
          exact lasting_fetched.stable hfetched hr
        · have hknown : Known start zones s₃.marks := (lasting_fetched.stable hfetched hr).known
          refine lasting_known.ret ?_ fun _ _ h => h
          exact hknown.imp_right fun ⟨j, hj⟩ => ⟨j, Snapshot.mem_after_of_mem hj⟩
        · exact Protocol.safe_onReturn_raise
  · refine Safe.mono safe_fetch fun r s₂ _ hr => ?_
    cases r with
    | ok zones => exact hr.known
    | error e => trivial

/-- A process that stores nothing is permitted all that it does. -/
theorem safe_plain {α : Type} {p : ZoneCacheProcess α}
    {Q : Except AppError α → ZoneCacheSnapshot ι → Prop}
    (hp : p.Confined (fun l next => next = l.effect ∧
      ∀ s, (zoneCacheProtocol orders fails start).permits i l s) fun _ => True)
    (hQ : ∀ r s, Q r s) : Safe (zoneCacheProtocol orders fails start).contract i Q p s := by
  have hsafe := Protocol.safe_of_permitted (P := zoneCacheProtocol orders fails start)
    (J := fun _ => True) (w := s) hp (fun _ _ _ _ _ _ _ => trivial) (fun _ _ _ _ _ _ => trivial)
    trivial
  exact Safe.mono hsafe fun r s₁ _ _ => hQ r s₁

/-- What a read answers is known; the other requests answer no list. -/
def AnswersKnown (start : Option (List CachedAlertZone)) (req : ZoneCacheRequest) :
    Except AppError (Option (List CachedAlertZone)) → ZoneCacheSnapshot ι → Prop :=
  OnReturn fun answer s => req = .read → ∀ zones, answer = some zones → Known start zones s.marks

theorem answersKnown_of_ne {req : ZoneCacheRequest} (hreq : req ≠ .read)
    (r : Except AppError (Option (List CachedAlertZone))) : AnswersKnown start req r s := by
  cases r with
  | ok answer => exact fun hread => absurd hread hreq
  | error e => trivial

theorem safe_zoneCacheRequest (req : ZoneCacheRequest) :
    Safe (zoneCacheProtocol orders fails start).contract i (AnswersKnown start req)
      (req.process E (orders i)) s := by
  cases req with
  | change req =>
      have hreq : ZoneCacheRequest.change req ≠ .read := nofun
      refine safe_plain (.relabel (.extend ((plainCalls_change req).map _) ?_)) fun r _ =>
        answersKnown_of_ne hreq r
      rintro l _ rfl
      exact ⟨rfl, fun _ => permits_zone l⟩
  | deleteUser id =>
      have hreq : ZoneCacheRequest.deleteUser id ≠ .read := nofun
      refine safe_plain (.relabel (.extend ((plainCalls_deleteUser id).map _) ?_)) fun r _ =>
        answersKnown_of_ne hreq r
      rintro l _ rfl
      exact ⟨rfl, fun _ => permits_deletion l⟩
  | read =>
      refine Safe.map (Safe.mono safe_getActiveAlertZones fun r s₁ _ hr => ?_)
      cases r with
      | ok zones =>
          rintro - zones' hzones'
          exact Option.some.inj hzones' ▸ hr
      | error e => trivial
  | warm =>
      have hreq : ZoneCacheRequest.warm ≠ .read := nofun
      have hwarm : Safe (zoneCacheProtocol orders fails start).contract i
          (OnReturn fun _ _ => True) (warmCache (orders i)) s := by
        refine Protocol.safe_onReturn_tryCatch ?_ fun _ _ => Safe.ret fun _ _ _ => trivial
        refine Safe.map (Safe.mono safe_getActiveAlertZones fun r s₁ _ _ => ?_)
        cases r <;> trivial
      exact Safe.map (Safe.mono hwarm fun r _ _ _ => answersKnown_of_ne hreq _)

end Threads

section Runs

variable {ι : Type*} [DecidableEq ι] {orders : ι → RowOrder} {fails : ZoneCacheCall → Prop}
  {E : AlertZoneEnv} {start : ZoneCacheState} {req : ι → ZoneCacheRequest}

abbrev ZoneCacheConfig (ι : Type*) :=
  Config ι ZoneCacheState ZoneCacheCall AppError (Option (List CachedAlertZone)) (ZoneCacheMark ι)

def zoneCachePool (E : AlertZoneEnv) (orders : ι → RowOrder) (start : ZoneCacheState)
    (req : ι → ZoneCacheRequest) : ZoneCacheConfig ι :=
  .init start fun i => (req i).process E (orders i)

/-- The thread is a change of zones that has returned. -/
def ChangedZones (req : ι → ZoneCacheRequest) (c : ZoneCacheConfig ι) (i : ι) : Prop :=
  ∃ change answer, req i = .change change ∧ c.pool i = .ret answer

/-- A change of zones that has returned has dropped the cache after its writes. -/
theorem droppedAfter_of_changed (hdel : ¬ fails (.zone .cacheDel)) {c : ZoneCacheConfig ι}
    (h : Reaches (zoneCacheSetting orders fails) (zoneCachePool E orders start req) c) {i : ι}
    (hi : ChangedZones req c i) : DroppedAfter i c.marks := by
  obtain ⟨change, answer, hreq, hret⟩ := hi
  have hstart : DropsLast fails false ((zoneCachePool E orders start req).pool i) := by
    change DropsLast fails false ((req i).process E (orders i))
    rw [hreq]
    exact dropsLast_process hdel change false
  have hown : ∀ dropped l (s : ZoneCacheSnapshot ι) next,
      (dropped = true → DroppedAfter i s.marks) → droppedLast dropped l = true →
        DroppedAfter i (s.after (zoneCacheMark orders) i l next).marks := by
    intro dropped l s next _ hlast
    cases l with
    | zone l =>
        have hmark : zoneCacheMark orders i (.zone l) s.state = some (.dropped i) := if_pos hlast
        change DroppedAfter i ((zoneCacheMark orders i (.zone l) s.state).toList ++ s.marks)
        rw [hmark]
        exact droppedAfter_dropped i
    | _ => cases hlast
  obtain ⟨dropped, htracks, hdropped⟩ := Reaches.tracks (S := zoneCacheSetting orders fails)
    (K := fun dropped s => dropped = true → DroppedAfter i s.marks) hown
    (fun _ _ _ _ _ hne hs hdropped => (hs hdropped).after readsThrough_zones hne)
    (fun _ _ _ _ _ hs => hs) hstart nofun h
  rw [hret] at htracks
  exact hdropped (htracks rfl)

/-- What holds of the cached zones after a run from `start`. -/
structure ZonesCached (fails : ZoneCacheCall → Prop) (start : ZoneCacheState)
    (req : ι → ZoneCacheRequest) (c : ZoneCacheConfig ι) : Prop where
  /-- A cached list that is not right is one that a writer has not dropped yet, or that a reader
  stored after a writer had dropped it. -/
  stale : ∀ zones, c.state.cached = some zones → ¬ ShowsActive c.state zones →
    StaleBecause zones c.marks
  /-- When the writers are changes that have returned, it is the latter. -/
  overtaken : ¬ fails (.zone .cacheDel) → (∀ i, .wrote i ∈ c.marks → ChangedZones req c i) →
    ∀ zones, c.state.cached = some zones → ¬ ShowsActive c.state zones →
      ∃ i j, [.stored i zones, .dropped j, .wrote j, .fetched i zones].Sublist c.marks
  answered : ∀ i, req i = .read → ∀ zones, c.pool i = .ret (some zones) →
    Known start.cached zones c.marks

/-- In every interleaving the cached zones are right, or they were overtaken, or a writer owes a
drop. -/
theorem zones_cached (h₀ : ∀ zones, start.cached = some zones → ShowsActive start zones)
    {c : ZoneCacheConfig ι}
    (h : Reaches (zoneCacheSetting orders fails) (zoneCachePool E orders start req) c) :
    ZonesCached fails start req c := by
  have hsound : Sound (zoneCacheProtocol orders fails start.cached).contract
      (fun i => AnswersKnown start.cached (req i)) (zoneCachePool E orders start req) := by
    refine ⟨fun zones hzones => ?_, fun i => safe_zoneCacheRequest (req i)⟩
    exact .start hzones nofun fun _ => h₀ zones hzones
  have hend := hsound.reaches h
  refine ⟨fun zones hzones => (hend.1 zones hzones).stale,
    fun hdel hwriters zones hzones hstale => ?_,
    fun i hread zones hret => hend.result hret hread zones rfl⟩
  refine ((hend.1 zones hzones).stale hstale).overtaken_of fun j => ?_
  by_cases hj : .wrote j ∈ c.marks
  · exact droppedAfter_of_changed hdel h (hwriters j hj)
  · exact droppedAfter_of_not_mem hj

end Runs

section Example

/-- The zones are read while one is created. -/
def readAndCreate : Bool → ZoneCacheRequest
  | false => .read
  | true => .change
      (.create [("name", .str "Park"), ("latitude", .num 1), ("longitude", .num 2),
        ("radius_meters", .num 100)] 1)

/-- The reader fetches first and stores last. -/
def overtakenRun : ZoneCacheConfig Bool :=
  (zoneCachePool wholeNumberEnv (fun _ => RowOrder.insertion) ⟨zonesWorld 0, none⟩
    readAndCreate).schedule (zoneCacheMark fun _ => RowOrder.insertion)
      [false, false, true, true, true, true, true, true, false]

theorem zones_cached_overtaken :
    ZonesCached (fun _ => False) ⟨zonesWorld 0, none⟩ readAndCreate overtakenRun :=
  zones_cached (fun _ h => absurd h (by simp))
    (Reaches.schedule (S := zoneCacheSetting (fun _ => RowOrder.insertion) fun _ => False)
      (fun _ _ _ => trivial) _ _)

/-- The new zone is not in the list that stays in the cache. -/
example : overtakenRun.state.cached = some [] ∧
    overtakenRun.state.world.activeZones.map CachedAlertZone.name = ["Park"] := by decide +kernel

end Example

end FifiAlert
