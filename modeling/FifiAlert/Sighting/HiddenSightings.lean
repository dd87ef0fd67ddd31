import FifiAlert.Sighting.Dismissal

/-!
# What becomes of a dismissed sighting

For any number of listings and dismissals in any interleaving, beside reports, photos and deletions
of sightings: a dismissal is for good and goes back to the creator of the alert, and a listing shows
the others every sighting but the dismissed ones.
-/

namespace FifiAlert

open Concurrency Store SightingService

def reviewSetting {ι : Type*} (fails : ReviewCall → Prop) :
    Setting ι World ReviewCall (ReviewMark ι) where
  mark := ReviewMark.of
  env := ReviewsKept
  mayFail := fails
  admits := fun _ _ _ => True

/-- The protocol of the dismissals. -/
def reviewProtocol {ι : Type*} (req : ι → ReviewRequest) (w₀ : World)
    (fails : ReviewCall → Prop) : Protocol (reviewSetting (ι := ι) fails) where
  effect := ReviewCall.effect
  permits := ReviewPermits req
  inv := ReviewInv req w₀
  inv_call := fun hinv hper _ => hinv.call hper
  inv_env := fun henv hinv => hinv.env henv

section Lists

variable {ι : Type*} {req : ι → ReviewRequest} {w₀ w w₁ : World} {fails : ReviewCall → Prop}
  {i : ι} {s : ReviewSnapshot ι} {O : RowOrder} {alertId : ℕ} {requesterId : Option ℕ}

/-- What was hidden in `w₁` still is, and no id has been given again. -/
structure HidesSince (alertId : ℕ) (w₁ w : World) : Prop where
  next : w₁.nextSighting ≤ w.nextSighting
  hidden : ∀ id, HiddenFrom alertId id w₁ → HiddenFrom alertId id w

theorem HidesSince.effect (h : HidesSince alertId w₁ w) (l : ReviewCall) :
    HidesSince alertId w₁ (l.effect w) :=
  ⟨h.next.trans_eq (next_reviewEffect l w).symm, fun id hid => (h.hidden id hid).effect l⟩

theorem lasting_hidesSince (alertId : ℕ) (w₁ : World) :
    (reviewProtocol req w₀ fails).Lasting i (fun _ => false)
      fun s => HidesSince alertId w₁ s.state :=
  .of_kept (fun _ l _ _ _ _ h => h.effect l) fun _ _ _ _ hw h =>
    ⟨h.next.trans hw.next, fun id hid => (h.hidden id hid).kept hw⟩

theorem mem_listedSightings {withDismissed : Bool} {row : Sighting} :
    row ∈ listedSightings O alertId withDismissed w ↔ row ∈ w.sightings.rows ∧
      row.alert_id = alertId ∧ (withDismissed = true ∨ row.dismissed = false) := by
  simp [listedSightings, Table.mem_findMany]

theorem sorted_listedSightings (withDismissed : Bool) :
    (listedSightings O alertId withDismissed w).Pairwise fun a b =>
      b.sighting_time ≤ a.sighting_time :=
  O.sorted_desc Sighting.sighting_time _

/-- What a listing shows: the sightings of the alert that are not hidden now, the newest first, and
to a stranger none that was hidden in `w₁` and no trace of a dismissal. -/
structure Lists (alertId : ℕ) (requesterId : Option ℕ) (w₁ : World) (i : ι)
    (dtos : List SightingResponseDto) (s : ReviewSnapshot ι) : Prop where
  complete : ∀ id < w₁.nextSighting, (∃ dto ∈ dtos, dto.id = id) ∨ HiddenFrom alertId id s.state
  sorted : dtos.Pairwise fun a b => b.sighting_time ≤ a.sighting_time
  own : ∀ dto ∈ dtos, dto.alert_id = alertId
  stranger : (∃ creator_id, .alert i creator_id ∈ s.marks ∧ requesterId = some creator_id) ∨
    ∀ dto ∈ dtos, ¬ HiddenFrom alertId dto.id w₁ ∧ dto.dismissed = false ∧
      dto.dismissed_at = none ∧ dto.dismissed_reason = none

theorem Lists.after {dtos : List SightingResponseDto}
    (h : Lists alertId requesterId w₁ i dtos s) (j : ι) (l : ReviewCall) :
    Lists alertId requesterId w₁ i dtos (s.after ReviewMark.of j l l.effect) := by
  refine ⟨fun id hid => ?_, h.sorted, h.own, h.stranger.imp_left ?_⟩
  · exact (h.complete id hid).imp_right fun hhidden => hhidden.effect l
  · exact fun ⟨creator_id, hm, heq⟩ => ⟨creator_id, Snapshot.mem_after_of_mem hm, heq⟩

theorem lasting_lists {dtos : List SightingResponseDto} :
    (reviewProtocol req w₀ fails).Lasting i (fun _ => false)
      (Lists alertId requesterId w₁ i dtos) :=
  .of_kept (fun j l _ _ _ _ h => h.after j l) fun _ _ _ _ hw h =>
    ⟨fun id hid => (h.complete id hid).imp_right fun hhidden => hhidden.kept hw, h.sorted, h.own,
      h.stranger⟩

/-- The rows that the query finds are what a listing has to show. -/
theorem lists_found {isCreator : Bool} (hinv : ReviewInv req w₀ s)
    (hsince : HidesSince alertId w₁ s.state)
    (hcreator : isCreator = true →
      ∃ creator_id, .alert i creator_id ∈ s.marks ∧ requesterId = some creator_id) :
    Lists alertId requesterId w₁ i
      ((listedSightings O alertId isCreator s.state).map mapToResponseDto) s where
  complete := by
    intro id hid
    by_cases hhidden : HiddenFrom alertId id s.state
    · exact .inr hhidden
    · left
      have hshown : ∃ row ∈ s.state.sightings.rows,
          row.id = id ∧ row.alert_id = alertId ∧ row.dismissed = false := by
        by_contra hnone
        refine hhidden ⟨hid.trans_le hsince.next, fun row hrow hrowId halert => ?_⟩
        rw [← Bool.not_eq_false]
        exact fun hnot => hnone ⟨row, hrow, hrowId, halert, hnot⟩
      obtain ⟨row, hrow, hrowId, halert, hnot⟩ := hshown
      exact ⟨_, List.mem_map_of_mem (mem_listedSightings.2 ⟨hrow, halert, .inr hnot⟩), hrowId⟩
  sorted := (List.pairwise_map).2 (sorted_listedSightings isCreator)
  own := by
    intro dto hdto
    obtain ⟨row, hrow, rfl⟩ := List.mem_map.1 hdto
    exact (mem_listedSightings.1 hrow).2.1
  stranger := by
    refine Classical.or_iff_not_imp_left.2 fun hstranger dto hdto => ?_
    obtain ⟨row, hrow, rfl⟩ := List.mem_map.1 hdto
    obtain ⟨hmem, halert, hall | hnot⟩ := mem_listedSightings.1 hrow
    · exact absurd (hcreator hall) hstranger
    · have hreviewed := hinv.ready.reviewed row hmem
      refine ⟨fun hhidden => ?_, hnot, ?_, ?_⟩
      · rw [(hsince.hidden row.id hhidden).hidden row hmem rfl halert] at hnot
        cases hnot
      · have hdate := hreviewed.date
        rw [hnot, Option.isSome_eq_false_iff, Option.isNone_iff_eq_none] at hdate
        exact hdate
      · have hreason := hreviewed.reason
        rw [hnot, Option.isSome_eq_false_iff, Option.isNone_iff_eq_none] at hreason
        exact hreason

end Lists

section Threads

variable {ι : Type*} {req : ι → ReviewRequest} {w₀ w₁ : World} {fails : ReviewCall → Prop}
  {i : ι} {s : ReviewSnapshot ι} {O : RowOrder}

/-- What a request answers; `w₁` is the state in which it may have started. -/
def Reviewed (w₁ : World) (i : ι) :
    ReviewRequest → Except AppError ReviewAnswer → ReviewSnapshot ι → Prop
  | .list alertId requesterId, .ok (.listed dtos), s => Lists alertId requesterId w₁ i dtos s
  | _, _, _ => True

theorem safe_list {alertId : ℕ} {requesterId : Option ℕ}
    (hs : HidesSince alertId w₁ s.state) :
    Safe (reviewProtocol req w₀ fails).contract i (Reviewed w₁ i (.list alertId requesterId))
      ((ReviewRequest.list alertId requesterId).process O) s := by
  refine Safe.map ((lasting_hidesSince alertId w₁).call_bind hs (f := id) rfl
    (fun _ _ _ _ => trivial)
    (fun s₁ _ h₁ => ?_) fun _ _ _ _ => trivial)
  have h₂ := h₁.effect (.alertFindUnique alertId)
  cases halert : s₁.state.alerts.find? alertId with
  | none => exact Safe.raise fun _ _ _ => trivial
  | some alert =>
      have hmark : .alert i alert.creator_id ∈
          (s₁.after ReviewMark.of i (.alertFindUnique alertId)
            (ReviewCall.alertFindUnique alertId).effect).marks :=
        Snapshot.mem_after.2 (.inl (by simp [ReviewMark.of, halert]))
      have hJ := (Protocol.Lasting.marked (P := reviewProtocol req w₀ fails) (i := i)
        (.alert i alert.creator_id)).and (lasting_hidesSince alertId w₁)
      refine hJ.call_bind ⟨hmark, h₂⟩ (f := id) rfl
        (fun _ _ _ _ => trivial) (fun s₂ hinv₂ h₂ => ?_) fun _ _ _ _ => trivial
      have hlists : Lists alertId requesterId w₁ i ((listedSightings O alertId
          (decide (requesterId = some alert.creator_id)) s₂.state).map mapToResponseDto) s₂ :=
        lists_found hinv₂ h₂.2 fun heq => ⟨alert.creator_id, h₂.1, of_decide_eq_true heq⟩
      exact Safe.ret fun s₃ hr _ => lasting_lists.stable (hlists.after i _) hr

theorem findSightingWithAlert_id {w : World} {id : ℕ} {found : SightingWithAlert}
    (h : w.findSightingWithAlert id = some found) : found.sighting.id = id := by
  obtain ⟨row, hrow, halert⟩ := Option.bind_eq_some_iff.1 h
  obtain ⟨alert, -, rfl⟩ := Option.map_eq_some_iff.1 halert
  exact Table.key_of_find? hrow

theorem safe_dismiss {sightingId requesterId : ℕ} {reason : String}
    (hreq : req i = .dismiss sightingId reason requesterId) :
    Safe (reviewProtocol req w₀ fails).contract i (fun _ _ => True)
      ((ReviewRequest.dismiss sightingId reason requesterId).process O) s := by
  refine Safe.map (Protocol.Lasting.nothing.call_bind trivial (f := id) rfl
    (fun _ _ _ _ => trivial) (fun s₁ hinv _ => ?_) fun _ _ _ _ => trivial)
  cases hfind : s₁.state.findSightingWithAlert sightingId with
  | none => exact Safe.raise fun _ _ _ => trivial
  | some found =>
      have hseen : .sighting i found ∈
          (s₁.after ReviewMark.of i (.sightingFindWithAlert sightingId)
            (ReviewCall.sightingFindWithAlert sightingId).effect).marks :=
        Snapshot.mem_after.2 (.inl (congrArg (Option.map (ReviewMark.sighting i)) hfind))
      dsimp only
      split
      next => exact Safe.raise fun _ _ _ => trivial
      next hcreator =>
        split
        next => exact Safe.raise fun _ _ _ => trivial
        next hnot =>
          have hby : ∀ marks, .sighting i found ∈ marks → ByCreator req i sightingId marks := by
            intro marks hm
            refine ⟨found, reason, ?_, hm, findSightingWithAlert_id hfind, ?_⟩
            · rw [hreq, not_not.1 hcreator]
            · exact Bool.eq_false_iff.2 hnot
          refine (Protocol.Lasting.marked (.sighting i found)).call_bind hseen (f := id) rfl
            (fun _ _ _ _ => trivial) (fun s₂ _ h₂ => ?_) fun _ _ _ _ => trivial
          have hclock : .clock i s₂.state.now ∈
              (s₂.after ReviewMark.of i .dateNow ReviewCall.dateNow.effect).marks :=
            Snapshot.mem_after.2 (.inl rfl)
          have hJ := (Protocol.Lasting.marked (P := reviewProtocol req w₀ fails) (i := i)
            (.sighting i found)).and (.marked (.clock i s₂.state.now))
          refine Protocol.safe_call rfl fun s₃ hr _ => ⟨fun _ => ⟨?_, fun _ => ?_⟩, fun _ => ?_⟩
          · have h₃ := hJ.stable ⟨Snapshot.mem_after_of_mem h₂, hclock⟩ hr
            exact ⟨hby _ h₃.1, h₃.2⟩
          · split
            · exact Safe.ret fun _ _ _ => trivial
            · exact Safe.raise fun _ _ _ => trivial
          · exact Safe.raise fun _ _ _ => trivial

theorem safe_reviewRequest (request : ReviewRequest) (hreq : req i = request)
    (hs : ∀ alertId requesterId, request = .list alertId requesterId →
      HidesSince alertId w₁ s.state) :
    Safe (reviewProtocol req w₀ fails).contract i (Reviewed w₁ i request)
      (request.process O) s := by
  cases request with
  | list alertId requesterId => exact safe_list (hs alertId requesterId rfl)
  | dismiss sightingId reason requesterId =>
      exact (safe_dismiss hreq).mono fun _ _ _ _ => trivial

end Threads

section Runs

variable {ι : Type*} [DecidableEq ι] {O : RowOrder} {fails : ReviewCall → Prop}
  {req : ι → ReviewRequest} {w₀ : World}

abbrev ReviewConfig (ι : Type*) := Config ι World ReviewCall AppError ReviewAnswer (ReviewMark ι)

def reviewPool (O : RowOrder) (w₀ : World) (req : ι → ReviewRequest) : ReviewConfig ι :=
  .init w₀ fun i => (req i).process O

omit [DecidableEq ι] in
theorem reviewPool_sound (O : RowOrder) (fails : ReviewCall → Prop) (req : ι → ReviewRequest)
    (h₀ : w₀.ReviewReady) :
    Sound (reviewProtocol req w₀ fails).contract (fun i => Reviewed w₀ i (req i))
      (reviewPool O w₀ req) := by
  refine ⟨⟨h₀, nofun, nofun, fun row hrow hdismissed => .inl ⟨row, hrow, rfl, hdismissed⟩⟩,
    fun i => safe_reviewRequest (req i) rfl fun _ _ _ => ⟨le_rfl, fun _ h => h⟩⟩

/-- What holds of the dismissals between two moments of a run from `w₀`. -/
structure DismissalsFinal (req : ι → ReviewRequest) (w₀ : World) (c₁ c₂ : ReviewConfig ι) :
    Prop where
  final : ∀ row ∈ c₁.state.sightings.rows, row.dismissed = true →
    ∀ row' ∈ c₂.state.sightings.rows, row'.id = row.id → row'.dismissed = true
  reviewed : ∀ row ∈ c₂.state.sightings.rows, row.Reviewed c₂.state.now
  creators : ∀ row ∈ c₂.state.sightings.rows, row.dismissed = true →
    (∃ row₀ ∈ w₀.sightings.rows, row₀.id = row.id ∧ row₀.dismissed = true) ∨
      ∃ i, .dismissed i row.id ∈ c₂.marks ∧ ByCreator req i row.id c₂.marks

/-- In every interleaving a dismissal is for good, its columns are set together, and it goes back to
a request of the creator of the alert that found the sighting undismissed. -/
theorem dismissals_final (h₀ : w₀.ReviewReady) {c₁ c₂ : ReviewConfig ι}
    (h₁ : Reaches (reviewSetting fails) (reviewPool O w₀ req) c₁)
    (h₂ : Reaches (reviewSetting fails) c₁ c₂) : DismissalsFinal req w₀ c₁ c₂ := by
  have hsound₁ := (reviewPool_sound O fails req h₀).reaches h₁
  have hsound₂ := hsound₁.reaches h₂
  refine ⟨fun row hrow hdismissed row' hrow' hid => ?_, hsound₂.1.ready.reviewed,
    fun row hrow hdismissed => ?_⟩
  · have hstart : HiddenFrom row'.alert_id row.id c₁.state := by
      refine ⟨hsound₁.1.ready.fresh row hrow, fun other hother heq _ => ?_⟩
      have hfind := Table.find?_of_mem hother
      rw [heq, Table.find?_of_mem hrow] at hfind
      rw [← Option.some.inj hfind]
      exact hdismissed
    have hend : HiddenFrom row'.alert_id row.id c₂.state :=
      (Protocol.refines hsound₁ h₂).invariant
        (J := fun s => HiddenFrom row'.alert_id row.id s.state) hstart
        (fun _ l _ _ _ _ h => h.effect l) fun _ _ _ _ hw h => h.kept hw
    exact hend.hidden row' hrow' hid rfl
  · refine (hsound₂.1.origin row hrow hdismissed).imp_right ?_
    exact fun ⟨i, hm⟩ => ⟨i, hm, hsound₂.1.creators i row.id hm⟩

/-- A listing that starts at any moment of a run shows the sightings of its alert but the hidden
ones, the newest first; and unless its requester has created the alert, it shows none that was
dismissed before it started and no trace of a dismissal. -/
theorem findByAlert_lists (h₀ : w₀.ReviewReady) {c₁ c₂ : ReviewConfig ι} {i : ι} {alertId : ℕ}
    {requesterId : Option ℕ} {dtos : List SightingResponseDto}
    (hreq : req i = .list alertId requesterId)
    (h₁ : Reaches (reviewSetting fails) (reviewPool O w₀ req) c₁)
    (hstart : c₁.pool i = (req i).process O)
    (h₂ : Reaches (reviewSetting fails) c₁ c₂) (hret : c₂.pool i = .ret (.listed dtos)) :
    Lists alertId requesterId c₁.state i dtos c₂.toSnapshot := by
  have hsound₁ := (reviewPool_sound O fails req h₀).reaches h₁
  have hlist : Safe (reviewProtocol req w₀ fails).contract i
      (Reviewed c₁.state i (.list alertId requesterId)) (c₁.pool i) c₁.toSnapshot := by
    rw [hstart, hreq]
    exact safe_list ⟨le_rfl, fun _ h => h⟩
  have hpost := ((hsound₁.update hlist).reaches h₂).result hret
  rwa [Function.update_self] at hpost

end Runs

section Reported

/-- An alert of user 7 with two sightings. -/
def dismissingWorld : World where
  alerts := Table.empty.insertNew { (default : Alert) with id := 1, creator_id := 7 }
  sightings :=
    (Table.empty.insertNew { (default : Sighting) with id := 0, alert_id := 1 }).insertNew
      { (default : Sighting) with id := 1, alert_id := 1 }
  nextSighting := 2
  now := 5

theorem dismissingWorld_reviewReady : dismissingWorld.ReviewReady := by
  have hrows : dismissingWorld.sightings.rows =
      [{ (default : Sighting) with id := 0, alert_id := 1 },
        { (default : Sighting) with id := 1, alert_id := 1 }] := rfl
  constructor <;> rw [hrows] <;> intro row hrow <;>
    rcases List.mem_cons.1 hrow with rfl | hrow
  · exact Nat.zero_lt_two
  · rw [List.mem_singleton.1 hrow]
    exact Nat.one_lt_two
  · exact ⟨rfl, rfl, nofun⟩
  · rw [List.mem_singleton.1 hrow]
    exact ⟨rfl, rfl, nofun⟩

/-- The creator dismisses one of the sightings while somebody else lists the sightings. -/
def dismissAndList : Bool → ReviewRequest
  | false => .dismiss 0 "not my pet" 7
  | true => .list 1 (some 8)

def dismissedRun : ReviewConfig Bool :=
  (reviewPool .insertion dismissingWorld dismissAndList).schedule ReviewMark.of
    [false, false, false]

theorem reaches_review (c : ReviewConfig Bool) (is : List Bool) :
    Reaches (reviewSetting fun _ => False) c (c.schedule ReviewMark.of is) :=
  Reaches.schedule (fun _ _ _ => trivial) is c

theorem dismissals_final_listed :
    DismissalsFinal dismissAndList dismissingWorld dismissedRun
      (dismissedRun.schedule ReviewMark.of [true, true]) :=
  dismissals_final dismissingWorld_reviewReady (reaches_review _ _) (reaches_review _ _)

def listedRun : ReviewConfig Bool := dismissedRun.schedule ReviewMark.of [true, true]

/-- The listing that starts after the dismissal shows the other sighting. -/
theorem findByAlert_lists_dismissed :
    ∃ dtos, dtos.map SightingResponseDto.id = [1] ∧
      Lists 1 (some 8) dismissedRun.state true dtos listedRun.toSnapshot := by
  have hreq : dismissAndList true = .list 1 (some 8) := rfl
  obtain ⟨dtos, hdtos, hids⟩ : ∃ dtos, listedRun.pool true = .ret (.listed dtos) ∧
      dtos.map SightingResponseDto.id = [1] := ⟨_, rfl, by decide +kernel⟩
  exact ⟨dtos, hids, findByAlert_lists dismissingWorld_reviewReady hreq (reaches_review _ _) rfl
    (reaches_review _ _) hdtos⟩

end Reported

end FifiAlert
