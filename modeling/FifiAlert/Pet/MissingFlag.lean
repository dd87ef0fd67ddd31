import FifiAlert.Alert.CreationCalls
import FifiAlert.Alert.AlertClosing
import FifiAlert.Concurrency.Since

/-!
# The missing flag and the live alerts

Two services set the flag of a pet and three ways lead to clear it, each in a step of its own. A
pet with a live alert is flagged, or somebody has cleared the flag and has yet to resolve the
alert. The history says at which insertions the flag was set, at which clearings there was a live
alert, and which live alerts a found pet leads to; and it says when a flag was seen set, and when
no live alert was counted.
-/

namespace FifiAlert

open Concurrency Store

/-- The calls of the alert service and of the pet service. -/
inductive FlagCall where
  | alert (l : CreationCall)
  | pet (l : AlertCall)

def FlagCall.effect : FlagCall → World → World
  | alert l, w => l.effect w
  | pet l, w => l.effect w

abbrev FlagProcess := Process World FlagCall AppError

/-- A call that both services can make. -/
def FlagCall.alertCall? : FlagCall → Option AlertCall
  | alert (.alert l) => some l
  | alert _ => none
  | pet l => some l

/-- The pet is there, and not marked as missing. -/
def World.unflagged (w : World) (petId : ℕ) : Bool :=
  (w.pets.find? petId).any fun pet => !pet.isMissing

/-- There is a live alert of the pet under this id. -/
def World.isLive (w : World) (petId id : ℕ) : Bool :=
  (w.alerts.find? id).any fun a => a.pet_id = some petId && a.isActive

/-- The live alerts of the pet. -/
def World.liveIds (w : World) (petId : ℕ) : List ℕ :=
  (w.alerts.findMany fun a => a.pet_id = some petId && a.isActive).map Alert.id

theorem World.mem_liveIds {w : World} {petId id : ℕ} :
    id ∈ w.liveIds petId ↔ w.isLive petId id = true := by
  unfold World.liveIds World.isLive
  rw [List.mem_map, Option.any_eq_true]
  constructor
  · rintro ⟨a, ha, rfl⟩
    obtain ⟨hmem, hlive⟩ := Table.mem_findMany.1 ha
    exact ⟨a, Table.find?_of_mem hmem, hlive⟩
  · rintro ⟨a, ha, hlive⟩
    exact ⟨a, Table.mem_findMany.2 ⟨Table.mem_of_find? ha, hlive⟩, Table.key_of_find? ha⟩

/-- A pet with a live alert is flagged missing. -/
def World.FlaggedWhileLive (w : World) : Prop :=
  ∀ pet ∈ w.pets.rows, ∀ a ∈ w.alerts.rows, a.pet_id = some pet.id → a.status = .ACTIVE →
    pet.isMissing = true

instance (w : World) : Decidable w.FlaggedWhileLive :=
  inferInstanceAs (Decidable (∀ pet ∈ w.pets.rows, ∀ a ∈ w.alerts.rows, _ → _ → _))

theorem World.flaggedWhileLive_iff {w : World} :
    w.FlaggedWhileLive ↔
      ∀ petId id, w.isLive petId id = true → w.unflagged petId = false := by
  constructor
  · intro h petId id hlive
    obtain ⟨a, ha, hactive⟩ := (Option.any_eq_true _ _).1 hlive
    simp only [Bool.and_eq_true, decide_eq_true_eq, Alert.isActive] at hactive
    cases hpet : w.pets.find? petId with
    | none => simp [World.unflagged, hpet]
    | some pet =>
        have hid := Table.key_of_find? hpet
        have hmissing := h pet (Table.mem_of_find? hpet) a (Table.mem_of_find? ha)
          (hid.symm ▸ hactive.1) hactive.2
        simp [World.unflagged, hpet, hmissing]
  · intro h pet hpet a ha hof hactive
    have hlive : w.isLive pet.id a.id = true := by
      simp [World.isLive, Table.find?_of_mem ha, hof, hactive, Alert.isActive]
    simpa [World.unflagged, Table.find?_of_mem hpet] using h pet.id a.id hlive

/-- The notable calls: a flag was seen set, or was set; the live alerts of a pet were counted; an
alert was inserted; a flag was cleared for a cancelled alert, or for a found pet, which then has
its live alerts listed and settled. -/
inductive FlagMark (ι : Type*) where
  | saw (thread : ι) (petId : ℕ)
  | counted (thread : ι) (petId : ℕ) (live : Bool)
  | inserted (thread : ι) (petId : ℕ) (flagged : Bool)
  | cancelled (thread : ι) (petId : ℕ) (live : Bool)
  | cleared (thread : ι) (petId : ℕ) (live : Bool)
  | listed (thread : ι) (petId : ℕ) (ids : List ℕ)
  | settled (thread : ι)
  deriving DecidableEq

abbrev FlagSnapshot (ι : Type*) := Snapshot World (FlagMark ι)

namespace FlagMark

variable {ι : Type*}

def thread : FlagMark ι → ι
  | saw i _ => i
  | counted i _ _ => i
  | inserted i _ _ => i
  | cancelled i _ _ => i
  | cleared i _ _ => i
  | listed i _ _ => i
  | settled i => i

/-- The thread is past its clearing of the flag. -/
def isSettling : FlagMark ι → Bool
  | listed _ _ _ => true
  | settled _ => true
  | _ => false

/-- The mark of a clearing of the flag of a pet, and of no other. -/
def clearsOnly (petId : ℕ) : FlagMark ι → Bool
  | cleared _ p _ => p = petId
  | _ => true

end FlagMark

/-- The flag of the pet is set. -/
def World.flagged (w : World) (petId : ℕ) : Bool :=
  (w.pets.find? petId).any Pet.isMissing

/-- Is there a live alert of the pet? -/
def World.hasLive (w : World) (petId : ℕ) : Bool :=
  !(w.liveIds petId).isEmpty

/-- The marks of the calls. -/
def flagMark {ι : Type*} (i : ι) (l : FlagCall) (w : World) : Option (FlagMark ι) :=
  match l with
  | .alert (.alertInsert data) =>
    if w.takesAlert data then data.petId.map fun p => .inserted i p (!w.unflagged p) else none
  | .alert (.alert (.petFindUnique p)) => if w.flagged p then some (.saw i p) else none
  | .alert (.alert (.petUpdate p true)) => some (.saw i p)
  | .alert (.alert (.petUpdate p false)) => some (.cancelled i p (w.hasLive p))
  | .alert (.alert (.alertCountActive p)) => some (.counted i p (w.hasLive p))
  | .pet (.petUpdate p true) => some (.saw i p)
  | .pet (.petUpdate p false) => some (.cleared i p (w.hasLive p))
  | .pet (.alertFindActive p) => some (.listed i p (w.liveIds p))
  | .pet (.alertResolveMany _ _ _) => some (.settled i)
  | _ => none

/-- Each alert was inserted while its pet was flagged. -/
def InsertedFlagged {ι : Type*} (marks : List (FlagMark ι)) : Prop :=
  ∀ m ∈ marks, ∀ i p, m ≠ .inserted i p false

/-- No flag was cleared over a live alert for a cancelled one. -/
def CancelledLast {ι : Type*} (marks : List (FlagMark ι)) : Prop :=
  ∀ m ∈ marks, ∀ i p, m ≠ .cancelled i p true

/-- Whoever cleared the flag of a found pet over a live alert has resolved the live alerts, or
found none to resolve. -/
def FoundSettled {ι : Type*} (marks : List (FlagMark ι)) : Prop :=
  ∀ i p, .cleared i p true ∈ marks → .settled i ∈ marks ∨ .listed i p [] ∈ marks

theorem World.hasLive_of_isLive {w : World} {petId id : ℕ} (h : w.isLive petId id = true) :
    w.hasLive petId = true := by
  unfold World.hasLive
  rw [Bool.not_eq_true', List.isEmpty_eq_false_iff]
  exact List.ne_nil_of_mem (World.mem_liveIds.2 h)

section Effects

variable {w : World} {petId id : ℕ}

theorem pets_effect {l : AlertCall} (hl : ∀ p isMissing, l ≠ .petUpdate p isMissing) :
    (l.effect w).pets = w.pets := by
  cases l with
  | petUpdate p isMissing => exact absurd rfl (hl p isMissing)
  | snapshotCreate snapshot =>
      simp only [AlertCall.effect]
      split <;> rfl
  | _ => rfl

theorem unflagged_petUpdate (p : ℕ) (isMissing : Bool) :
    ((AlertCall.petUpdate p isMissing).effect w).unflagged petId =
      if petId = p then (w.pets.find? petId).isSome && !isMissing else w.unflagged petId := by
  unfold World.unflagged
  simp only [AlertCall.effect, Table.find?_updateMany_ite]
  split
  next => cases w.pets.find? petId <;> rfl
  next => rfl

/-- Only a clearing takes the flag of a pet. -/
theorem AlertCall.unflagged_effect {l : AlertCall} (hl : ∀ p, l ≠ .petUpdate p false)
    (h : (l.effect w).unflagged petId = true) : w.unflagged petId = true := by
  by_cases hupdate : ∃ p isMissing, l = .petUpdate p isMissing
  · obtain ⟨p, isMissing, rfl⟩ := hupdate
    rw [unflagged_petUpdate] at h
    split at h
    · cases isMissing with
      | false => exact absurd rfl (hl p)
      | true => simp at h
    · exact h
  · unfold World.unflagged at h ⊢
    rwa [pets_effect fun p isMissing heq => hupdate ⟨p, isMissing, heq⟩] at h

/-- No call makes an alert live, unless it writes that status. -/
theorem AlertCall.isLive_effect {l : AlertCall}
    (hl : ∀ id data, l = .alertUpdate id data → data.status ≠ some .ACTIVE)
    (h : (l.effect w).isLive petId id = true) : w.isLive petId id = true := by
  unfold World.isLive at h ⊢
  rw [AlertCall.find?_effect] at h
  cases hfind : w.alerts.find? id with
  | none => simp [hfind] at h
  | some a =>
      rw [hfind, Option.map_some, Option.any_some] at h
      rw [Option.any_some]
      cases l with
      | alertUpdate id' data =>
          have hstatus := hl id' data rfl
          simp only [AlertCall.onRow] at h
          split at h
          · have hactive : data.status.getD a.status = .ACTIVE → a.status = .ACTIVE := by
              intro heq
              cases hs : data.status with
              | none => simpa [hs] using heq
              | some s =>
                  rw [hs, Option.getD_some] at heq
                  exact absurd (hs.trans (congrArg some heq)) hstatus
            simp only [Alert.isActive, Bool.and_eq_true, decide_eq_true_eq] at h ⊢
            exact ⟨h.1, hactive h.2⟩
          · exact h
      | alertAppendPhotos id' photoUrls =>
          simp only [AlertCall.onRow] at h
          split at h <;> exact h
      | alertExpire =>
          simp only [AlertCall.onRow] at h
          split at h
          · simp [Alert.isActive] at h
          · exact h
      | alertResolveMany ids date notes =>
          simp only [AlertCall.onRow] at h
          split at h
          · simp [Alert.isActive] at h
          · exact h
      | _ => exact h

/-- What is resolved is not live any more. -/
theorem isLive_alertResolveMany {ids : List ℕ} {date : Time} {notes : String}
    (h : ((AlertCall.alertResolveMany ids date notes).effect w).isLive petId id = true) :
    id ∉ ids := by
  intro hmem
  unfold World.isLive at h
  rw [AlertCall.find?_effect] at h
  cases hfind : w.alerts.find? id with
  | none => simp [hfind] at h
  | some a =>
      have hid : a.id = id := Table.key_of_find? hfind
      have hcontains : ids.contains a.id = true := by rw [hid]; exact List.contains_iff_mem.2 hmem
      rw [hfind, Option.map_some, Option.any_some] at h
      simp only [AlertCall.onRow, hcontains, Bool.true_and] at h
      split at h
      · simp [Alert.isActive] at h
      next hactive => simp [hactive] at h

theorem NotificationCall.pets_effect (l : NotificationCall) : (l.effect w).pets = w.pets := by
  cases l with
  | notificationCreate data =>
      simp only [NotificationCall.effect]
      split <;> rfl
  | sendNotification push =>
      simp only [NotificationCall.effect, World.sendPush]
      split <;> rfl
  | _ => rfl

theorem NotificationCall.isLive_effect (l : NotificationCall) :
    (l.effect w).isLive petId id = w.isLive petId id := by
  cases l with
  | notificationCreate data =>
      simp only [NotificationCall.effect]
      split <;> rfl
  | sendNotification push =>
      simp only [NotificationCall.effect, World.sendPush]
      split <;> rfl
  | alertClaimStory id' date =>
      unfold World.isLive
      simp only [NotificationCall.effect, Table.find?_updateMany]
      cases w.alerts.find? id with
      | none => rfl
      | some a =>
          rw [Option.map_some, Option.any_some, Option.any_some]
          split <;> rfl
  | _ => rfl

theorem RateLimitCall.pets_effect (l : RateLimitCall) : (l.effect w).pets = w.pets := by
  cases l <;> rfl

theorem RateLimitCall.alerts_effect (l : RateLimitCall) : (l.effect w).alerts = w.alerts := by
  cases l <;> rfl

theorem World.unflagged_congr {w' : World} (h : w'.pets = w.pets) :
    w'.unflagged petId = w.unflagged petId := by
  rw [World.unflagged, h, World.unflagged]

theorem World.isLive_congr {w' : World} (h : w'.alerts = w.alerts) :
    w'.isLive petId id = w.isLive petId id := by
  rw [World.isLive, h, World.isLive]

/-- A new alert is live for its own pet. -/
theorem isLive_insertAlert {data : AlertInsert}
    (h : (w.insertAlert data).isLive petId id = true) :
    w.isLive petId id = true ∨ data.petId = some petId := by
  unfold World.isLive World.insertAlert at h
  obtain ⟨a, ha, hlive⟩ := (Option.any_eq_true _ _).1 h
  dsimp only at ha
  rcases Table.find?_of_insertNew ha with hold | ⟨-, -, rfl⟩
  · exact .inl ((Option.any_eq_true _ _).2 ⟨a, hold, hlive⟩)
  · exact .inr (of_decide_eq_true (Bool.and_eq_true_iff.1 hlive).1)

end Effects

end FifiAlert
