import FifiAlert.Concurrency.Since
import FifiAlert.Sighting.SightingPhotos
import FifiAlert.Store.Pages

/-!
# Dismissed sightings

The creator of an alert may dismiss a sighting. A dismissal is for good, it is the creator's, and
from then on the others are not shown the sighting; whatever they are shown has no trace of a
dismissal.
-/

namespace FifiAlert

open Concurrency Store

inductive ReviewCall where
  | dateNow
  | alertFindUnique (id : ℕ)
  | sightingFindMany (alertId : ℕ) (withDismissed : Bool)
  | sightingFindWithAlert (id : ℕ)
  | sightingDismiss (id : ℕ) (date : Time) (reason : String)

abbrev ReviewProcess := Process World ReviewCall AppError

namespace Sighting

/-- The columns of a dismissal. -/
def dismiss (date : Time) (reason : String) (now : Time) (s : Sighting) : Sighting :=
  { s with
    dismissed := true, dismissed_at := some date, dismissed_reason := some reason
    updated_at := now }

theorem dismiss_id (date : Time) (reason : String) (now : Time) (s : Sighting) :
    (s.dismiss date reason now).id = s.id := rfl

end Sighting

def ReviewCall.effect : ReviewCall → World → World
  | sightingDismiss id date reason, w =>
      { w with
        sightings := w.sightings.updateMany (fun s => s.id = id)
          (Sighting.dismiss date reason w.now) (Sighting.dismiss_id date reason w.now) }
  | _, w => w

def ReviewCall.read {α : Type} (l : ReviewCall) (g : World → α) : ReviewProcess α :=
  Process.query l (.prisma .other) g

/-- `sighting.findUnique` with the creator of the alert. -/
structure SightingWithAlert where
  sighting : Sighting
  creator_id : ℕ

def World.findSightingWithAlert (w : World) (id : ℕ) : Option SightingWithAlert :=
  (w.sightings.find? id).bind fun sighting =>
    (w.alerts.find? sighting.alert_id).map fun alert => ⟨sighting, alert.creator_id⟩

namespace SightingService

open ReviewCall

/-- The rows that a listing selects, the newest first. -/
def listedSightings (O : RowOrder) (alertId : ℕ) (withDismissed : Bool) (w : World) :
    List Sighting :=
  O.sort (fun a b => b.sighting_time ≤ a.sighting_time)
    (w.sightings.findMany fun s => s.alert_id = alertId && (withDismissed || !s.dismissed))

def findByAlert (O : RowOrder) (alertId : ℕ) (requesterId : Option ℕ) :
    ReviewProcess (List SightingResponseDto) := do
  let alert ← read (.alertFindUnique alertId) fun w => w.alerts.find? alertId
  match alert with
  | none => .raise (.notFound ("Alert with ID " ++ toString alertId ++ " not found"))
  | some alert =>
    let isCreator := decide (requesterId = some alert.creator_id)
    let sightings ← read (.sightingFindMany alertId isCreator)
      (listedSightings O alertId isCreator)
    return sightings.map mapToResponseDto

/-- `sighting.update`, which answers with the row. -/
def updateDismissed (sightingId : ℕ) (date : Time) (reason : String) :
    ReviewProcess SightingResponseDto :=
  let update := ReviewCall.sightingDismiss sightingId date reason
  Process.atomic update (.prisma .other) fun w =>
    (match (update.effect w).sightings.find? sightingId with
      | some updated => .ok (mapToResponseDto updated)
      | none => .error (.prisma .P2025), update.effect w)

def dismiss (sightingId : ℕ) (reason : String) (requesterId : ℕ) :
    ReviewProcess SightingResponseDto := do
  let sighting ← read (.sightingFindWithAlert sightingId) fun w =>
    w.findSightingWithAlert sightingId
  match sighting with
  | none => .raise (.notFound ("Sighting with ID " ++ toString sightingId ++ " not found"))
  | some found =>
    if found.creator_id ≠ requesterId then
      .raise (.forbidden "Only the alert creator can dismiss sightings")
    else if found.sighting.dismissed then
      .raise (.badRequest ["Sighting is already dismissed"])
    else do
      let date ← read .dateNow World.now
      updateDismissed sightingId date reason

end SightingService

inductive ReviewRequest where
  | list (alertId : ℕ) (requesterId : Option ℕ)
  | dismiss (sightingId : ℕ) (reason : String) (requesterId : ℕ)

inductive ReviewAnswer where
  | listed (sightings : List SightingResponseDto)
  | dismissed (sighting : SightingResponseDto)

def ReviewRequest.process (O : RowOrder) : ReviewRequest → ReviewProcess ReviewAnswer
  | list alertId requesterId =>
      ReviewAnswer.listed <$> SightingService.findByAlert O alertId requesterId
  | dismiss sightingId reason requesterId =>
      ReviewAnswer.dismissed <$> SightingService.dismiss sightingId reason requesterId

/-- The notable calls: a thread read who created an alert, it read a sighting that it may dismiss,
it read the clock, or it dismissed a sighting. -/
inductive ReviewMark (ι : Type*) where
  | alert (thread : ι) (creator_id : ℕ)
  | sighting (thread : ι) (found : SightingWithAlert)
  | clock (thread : ι) (time : Time)
  | dismissed (thread : ι) (id : ℕ)

namespace ReviewMark

variable {ι : Type*}

def of (i : ι) (l : ReviewCall) (w : World) : Option (ReviewMark ι) :=
  match l with
  | .dateNow => some (clock i w.now)
  | .alertFindUnique id => (w.alerts.find? id).map fun alert => .alert i alert.creator_id
  | .sightingFindWithAlert id => (w.findSightingWithAlert id).map (.sighting i)
  | .sightingDismiss id _ _ => some (.dismissed i id)
  | _ => none

end ReviewMark

abbrev ReviewSnapshot (ι : Type*) := Snapshot World (ReviewMark ι)

/-- The columns of a dismissal are set together, at a time that is past. -/
structure Sighting.Reviewed (now : Time) (s : Sighting) : Prop where
  date : s.dismissed_at.isSome = s.dismissed
  reason : s.dismissed_reason.isSome = s.dismissed
  past : ∀ date ∈ s.dismissed_at, date ≤ now

/-- Two rows agree on the alert and on the dismissal. -/
structure Sighting.SameReview (s s' : Sighting) : Prop where
  id : s'.id = s.id
  alert_id : s'.alert_id = s.alert_id
  dismissed : s'.dismissed = s.dismissed
  dismissed_at : s'.dismissed_at = s.dismissed_at
  dismissed_reason : s'.dismissed_reason = s.dismissed_reason

/-- A row that was just reported. -/
structure Sighting.Fresh (w : World) (s : Sighting) : Prop where
  id : w.nextSighting ≤ s.id
  dismissed : s.dismissed = false
  dismissed_at : s.dismissed_at = none
  dismissed_reason : s.dismissed_reason = none

/-- Others report sightings, add photos to them and delete them, and time passes. -/
structure ReviewsKept (w w' : World) : Prop where
  now : w.now ≤ w'.now
  next : w.nextSighting ≤ w'.nextSighting
  rows : ∀ s' ∈ w'.sightings.rows, s'.id < w'.nextSighting ∧
    ((∃ s ∈ w.sightings.rows, s.SameReview s') ∨ s'.Fresh w)

section Others

variable {w w' : World}

theorem Sighting.sameReview_refl (s : Sighting) : s.SameReview s := ⟨rfl, rfl, rfl, rfl, rfl⟩

/-- Calls that leave the sightings alone. -/
theorem ReviewsKept.of_same (hfresh : ∀ s ∈ w.sightings.rows, s.id < w.nextSighting)
    (hsightings : w'.sightings = w.sightings) (hnext : w'.nextSighting = w.nextSighting)
    (hnow : w.now ≤ w'.now) : ReviewsKept w w' where
  now := hnow
  next := hnext.ge
  rows := by
    rw [hsightings, hnext]
    exact fun s hs => ⟨hfresh s hs, .inl ⟨s, hs, s.sameReview_refl⟩⟩

/-- The report of a sighting. -/
theorem reviewsKept_insert (hfresh : ∀ s ∈ w.sightings.rows, s.id < w.nextSighting)
    (dto : CreateSightingDto) (reporterId : ℕ) (sighting_time : Time) :
    ReviewsKept w ((SightingCall.sightingInsert dto reporterId sighting_time).effect w) := by
  rw [SightingCall.effect]
  split
  · refine ⟨le_rfl, Nat.le_succ _, fun s hs => ?_⟩
    rcases Table.mem_of_mem_insertNew hs with hold | rfl
    · exact ⟨(hfresh s hold).trans (Nat.lt_succ_self _), .inl ⟨s, hold, s.sameReview_refl⟩⟩
    · exact ⟨Nat.lt_succ_self _, .inr ⟨le_rfl, rfl, rfl, rfl⟩⟩
  · exact .of_same hfresh rfl rfl le_rfl

/-- The photos of a sighting. -/
theorem reviewsKept_photos (hfresh : ∀ s ∈ w.sightings.rows, s.id < w.nextSighting) (id : ℕ)
    (photos : List String) (photo_url : Option String) :
    ReviewsKept w ((SightingPhotoCall.sightingUpdate id photos photo_url).effect w) := by
  refine ⟨le_rfl, le_rfl, fun s hs => ?_⟩
  obtain ⟨before, hbefore, rfl⟩ := List.mem_map.1 hs
  split
  · exact ⟨hfresh before hbefore, .inl ⟨before, hbefore, ⟨rfl, rfl, rfl, rfl, rfl⟩⟩⟩
  · exact ⟨hfresh before hbefore, .inl ⟨before, hbefore, before.sameReview_refl⟩⟩

end Others

/-- A state to start from. -/
structure World.ReviewReady (w : World) : Prop where
  fresh : ∀ s ∈ w.sightings.rows, s.id < w.nextSighting
  reviewed : ∀ s ∈ w.sightings.rows, s.Reviewed w.now

/-- The sighting is dismissed, it is gone, or it is one of another alert. -/
structure HiddenFrom (alertId id : ℕ) (w : World) : Prop where
  drawn : id < w.nextSighting
  hidden : ∀ s ∈ w.sightings.rows, s.id = id → s.alert_id = alertId → s.dismissed = true

/-- The thread is asked for the dismissal by the creator of the alert, and has seen both. -/
def ByCreator {ι : Type*} (req : ι → ReviewRequest) (i : ι) (id : ℕ)
    (marks : List (ReviewMark ι)) : Prop :=
  ∃ found reason, req i = .dismiss id reason found.creator_id ∧ .sighting i found ∈ marks ∧
    found.sighting.id = id ∧ found.sighting.dismissed = false

def ReviewPermits {ι : Type*} (req : ι → ReviewRequest) (i : ι) (l : ReviewCall)
    (s : ReviewSnapshot ι) : Prop :=
  match l with
  | .sightingDismiss id date _ => ByCreator req i id s.marks ∧ .clock i date ∈ s.marks
  | _ => True

/-- The dismissals in the table go back to the start or to the creators of the alerts. -/
structure ReviewInv {ι : Type*} (req : ι → ReviewRequest) (w₀ : World) (s : ReviewSnapshot ι) :
    Prop where
  ready : s.state.ReviewReady
  clock : ∀ i time, .clock i time ∈ s.marks → time ≤ s.state.now
  creators : ∀ i id, .dismissed i id ∈ s.marks → ByCreator req i id s.marks
  origin : ∀ row ∈ s.state.sightings.rows, row.dismissed = true →
    (∃ row₀ ∈ w₀.sightings.rows, row₀.id = row.id ∧ row₀.dismissed = true) ∨
      ∃ i, .dismissed i row.id ∈ s.marks

section Calls

variable {ι : Type*} {req : ι → ReviewRequest} {w₀ w w' : World} {i : ι} {l : ReviewCall}
  {s : ReviewSnapshot ι}

/-- What a call makes of the rows. -/
theorem mem_reviewEffect {row : Sighting} (h : row ∈ (l.effect w).sightings.rows) :
    row ∈ w.sightings.rows ∨ ∃ before ∈ w.sightings.rows, ∃ id date reason,
      l = .sightingDismiss id date reason ∧ before.id = id ∧
        row = before.dismiss date reason w.now := by
  cases l with
  | sightingDismiss id date reason =>
      obtain ⟨before, hbefore, rfl⟩ := List.mem_map.1 h
      split
      next hid => exact .inr ⟨before, hbefore, id, date, reason, rfl, of_decide_eq_true hid, rfl⟩
      next => exact .inl hbefore
  | _ => exact .inl h

theorem now_reviewEffect (l : ReviewCall) (w : World) : (l.effect w).now = w.now := by
  cases l <;> rfl

theorem next_reviewEffect (l : ReviewCall) (w : World) :
    (l.effect w).nextSighting = w.nextSighting := by
  cases l <;> rfl

theorem Sighting.Reviewed.mono {row : Sighting} {t t' : Time} (h : row.Reviewed t)
    (ht : t ≤ t') : row.Reviewed t' :=
  ⟨h.date, h.reason, fun date hdate => (h.past date hdate).trans ht⟩

theorem Sighting.Reviewed.of_same {row row' : Sighting} {t : Time} (h : row.Reviewed t)
    (hsame : row.SameReview row') : row'.Reviewed t := by
  obtain ⟨hdate, hreason, hpast⟩ := h
  refine ⟨?_, ?_, ?_⟩
  · rw [hsame.dismissed_at, hsame.dismissed, hdate]
  · rw [hsame.dismissed_reason, hsame.dismissed, hreason]
  · rw [hsame.dismissed_at]
    exact hpast

theorem HiddenFrom.effect {alertId id : ℕ} (h : HiddenFrom alertId id w) (l : ReviewCall) :
    HiddenFrom alertId id (l.effect w) := by
  refine ⟨(next_reviewEffect l w).symm ▸ h.drawn, fun row hrow hid halert => ?_⟩
  rcases mem_reviewEffect hrow with hold | ⟨before, -, id', date, reason, -, -, rfl⟩
  · exact h.hidden row hold hid halert
  · rfl

theorem HiddenFrom.kept {alertId id : ℕ} (h : HiddenFrom alertId id w) (hw : ReviewsKept w w') :
    HiddenFrom alertId id w' := by
  refine ⟨h.drawn.trans_le hw.next, fun row hrow hid halert => ?_⟩
  rcases (hw.rows row hrow).2 with ⟨before, hbefore, hsame⟩ | hfresh
  · rw [hsame.dismissed]
    exact h.hidden before hbefore (hsame.id.symm.trans hid) (hsame.alert_id.symm.trans halert)
  · exact absurd (hid ▸ h.drawn) (Nat.not_lt.2 hfresh.id)

theorem ByCreator.mono {id : ℕ} {marks marks' : List (ReviewMark ι)}
    (h : ByCreator req i id marks) (hsub : marks ⊆ marks') : ByCreator req i id marks' := by
  obtain ⟨found, reason, hreq, hseen, hrest⟩ := h
  exact ⟨found, reason, hreq, hsub hseen, hrest⟩

theorem ReviewInv.env (h : ReviewInv req w₀ s) (hw : ReviewsKept s.state w) :
    ReviewInv req w₀ ⟨w, s.marks⟩ where
  ready := by
    refine ⟨fun row hrow => (hw.rows row hrow).1, fun row hrow => ?_⟩
    rcases (hw.rows row hrow).2 with ⟨before, hbefore, hsame⟩ | hfresh
    · exact ((h.ready.reviewed before hbefore).mono hw.now).of_same hsame
    · refine ⟨?_, ?_, ?_⟩
      · rw [hfresh.dismissed_at, hfresh.dismissed, Option.isSome_none]
      · rw [hfresh.dismissed_reason, hfresh.dismissed, Option.isSome_none]
      · rw [hfresh.dismissed_at]
        exact nofun
  clock := fun i time hm => (h.clock i time hm).trans hw.now
  creators := h.creators
  origin := by
    intro row hrow hdismissed
    rcases (hw.rows row hrow).2 with ⟨before, hbefore, hsame⟩ | hfresh
    · rw [hsame.id]
      exact h.origin before hbefore (hsame.dismissed.symm.trans hdismissed)
    · rw [hfresh.dismissed] at hdismissed
      cases hdismissed

theorem mem_reviewMarks {m : ReviewMark ι} (h : ReviewMark.of i l w = some m) :
    (∀ j time, m = .clock j time → time = w.now) ∧
      ∀ j id, m = .dismissed j id → j = i ∧ ∃ date reason, l = .sightingDismiss id date reason := by
  cases l with
  | dateNow | sightingDismiss id date reason =>
      cases h
      simp
  | alertFindUnique id | sightingFindWithAlert id =>
      obtain ⟨found, -, rfl⟩ := Option.map_eq_some_iff.1 h
      simp
  | sightingFindMany alertId withDismissed => cases h

theorem ReviewInv.call (h : ReviewInv req w₀ s) (hper : ReviewPermits req i l s) :
    ReviewInv req w₀ (s.after ReviewMark.of i l l.effect) where
  ready := by
    refine ⟨fun row hrow => ?_, fun row hrow => ?_⟩
    · rw [Snapshot.state_after, next_reviewEffect]
      rcases mem_reviewEffect hrow with hold | ⟨before, hbefore, id, date, reason, -, -, rfl⟩
      · exact h.ready.fresh row hold
      · exact h.ready.fresh before hbefore
    · rw [Snapshot.state_after, now_reviewEffect]
      rcases mem_reviewEffect hrow with hold | ⟨before, hbefore, id, date, reason, rfl, -, rfl⟩
      · exact h.ready.reviewed row hold
      · refine ⟨rfl, rfl, fun date' hdate => ?_⟩
        rw [← Option.some.inj hdate]
        exact h.clock i date hper.2
  clock := by
    intro j time hm
    rw [Snapshot.state_after, now_reviewEffect]
    rcases Snapshot.mem_after.1 hm with hnew | hold
    · exact ((mem_reviewMarks hnew).1 j time rfl).le
    · exact h.clock j time hold
  creators := by
    intro j id hm
    have hsub : s.marks ⊆ (s.after ReviewMark.of i l l.effect).marks :=
      fun _ => Snapshot.mem_after_of_mem
    rcases Snapshot.mem_after.1 hm with hnew | hold
    · obtain ⟨rfl, date, reason, rfl⟩ := (mem_reviewMarks hnew).2 j id rfl
      exact hper.1.mono hsub
    · exact (h.creators j id hold).mono hsub
  origin := by
    intro row hrow hdismissed
    rcases mem_reviewEffect hrow with hold | ⟨before, hbefore, id, date, reason, rfl, rfl, rfl⟩
    · refine (h.origin row hold hdismissed).imp_right ?_
      exact fun ⟨j, hm⟩ => ⟨j, Snapshot.mem_after_of_mem hm⟩
    · exact .inr ⟨i, Snapshot.mem_after.2 (.inl rfl)⟩

end Calls

end FifiAlert
