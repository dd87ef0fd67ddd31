import FifiAlert.Alert.AlertService
import FifiAlert.Concurrency.Since

/-!
# The protocol of the alert statuses

An alert is closed when it is resolved or cancelled. The writes of the expiry
and of a found pet carry the status in their `where` clause; `resolve` and
`cancel` read the alert and write by its id later. `OpenMeanwhile` is the condition
on what they read and on what others do between the read and the write, and the
protocol says what any number of requests do to the alerts when it holds: closed
alerts stay as they are, and every closing has somebody who did it.
-/

namespace FifiAlert

open Concurrency Store

/-- The status of an alert, if there is such an alert. -/
def World.alertStatus (w : World) (id : ℕ) : Option AlertStatus :=
  (w.alerts.find? id).map Alert.status

theorem World.alertStatus_eq_some_iff {w : World} {id : ℕ} {s : AlertStatus} :
    w.alertStatus id = some s ↔ ∃ row, w.alerts.find? id = some row ∧ row.status = s :=
  Option.map_eq_some_iff

theorem World.alertStatus_of_find? {w : World} {id : ℕ} {row : Alert}
    (h : w.alerts.find? id = some row) : w.alertStatus id = some row.status := by
  rw [alertStatus, h, Option.map_some]

/-- The final statuses. -/
def AlertStatus.isClosed : AlertStatus → Bool
  | RESOLVED => true
  | CANCELLED => true
  | _ => false

namespace AlertCall

/-- What a call does to an alert. -/
def onRow (now : Time) : AlertCall → Alert → Alert
  | alertUpdate id data, a => if a.id = id then data.apply now a else a
  | alertAppendPhotos id photoUrls, a =>
      if a.id = id then { a with pet_photos := a.pet_photos ++ photoUrls, updated_at := now }
      else a
  | alertExpire, a =>
      if a.isOverdue now then { a with status := .EXPIRED, updated_at := now } else a
  | alertResolveMany ids date notes, a =>
      if ids.contains a.id && a.isActive then
        { a with
          status := .RESOLVED, resolved_at := some date, notes := some notes,
          updated_at := now }
      else a
  | _, a => a

/-- No call adds an alert or removes one. -/
theorem find?_effect (l : AlertCall) (w : World) (id : ℕ) :
    (l.effect w).alerts.find? id = (w.alerts.find? id).map (l.onRow w.now) := by
  cases l with
  | snapshotCreate snapshot =>
      have hsame : ((snapshotCreate snapshot).effect w).alerts = w.alerts := by
        simp only [effect]
        split <;> rfl
      cases h : w.alerts.find? id <;> simp [hsame, onRow, h]
  | cdnUpload folder publicId outcome =>
      cases h : w.alerts.find? id <;> simp [effect, CloudinaryService.store, onRow, h]
  | _ => cases h : w.alerts.find? id <;> simp [effect, onAlerts, onRow, h]

theorem creator_id_onRow (l : AlertCall) (now : Time) (a : Alert) :
    (l.onRow now a).creator_id = a.creator_id := by
  cases l <;> simp only [onRow] <;> (try split) <;> rfl

end AlertCall

/-- Does the request close this alert with this status? -/
def AlertRequest.closes (id : ℕ) : AlertRequest → AlertStatus → Prop
  | onAlert alertId _ (.resolve _), s => alertId = id ∧ s = .RESOLVED
  | onAlert alertId _ (.cancel _), s => alertId = id ∧ s = .CANCELLED
  | _, _ => False

/-- The notable calls of a run: a request found an alert with a status, a status was written by
`resolve` or `cancel`, alerts were resolved for a found pet. -/
inductive AlertMark (ι : Type*) where
  | found (i : ι) (id : ℕ) (status : AlertStatus)
  | closed (i : ι) (id : ℕ) (status : AlertStatus)
  | foundAgain (ids : List ℕ)
  deriving DecidableEq

abbrev AlertSnapshot (ι : Type*) := Snapshot World (AlertMark ι)

namespace AlertMark

variable {ι : Type*}

/-- An update leaves a mark when it names a status and finds its row. -/
def of (i : ι) : AlertCall → World → Option (AlertMark ι)
  | .alertFindUnique id, w => (w.alertStatus id).map (found i id)
  | .alertUpdate id data, w =>
      if (w.alerts.find? id).isSome then data.status.map (closed i id) else none
  | .alertResolveMany ids _ _, w =>
      some (foundAgain ((w.alerts.findMany fun a => ids.contains a.id && a.isActive).map Alert.id))
  | _, _ => none

theorem of_eq_closed {i j : ι} {l : AlertCall} {w : World} {id : ℕ} {s : AlertStatus}
    (h : of i l w = some (closed j id s)) :
    i = j ∧ ∃ data row, l = .alertUpdate id data ∧ data.status = some s ∧
      w.alerts.find? id = some row := by
  cases l with
  | alertUpdate id' data =>
      simp only [of, Option.ite_none_right_eq_some, Option.map_eq_some_iff, closed.injEq,
        Option.isSome_iff_exists] at h
      obtain ⟨⟨row, hrow⟩, s', hs, rfl, rfl, rfl⟩ := h
      exact ⟨rfl, data, row, rfl, hs, hrow⟩
  | _ => simp [of] at h

theorem of_eq_found {i j : ι} {l : AlertCall} {w : World} {id : ℕ} {s : AlertStatus}
    (h : of i l w = some (found j id s)) : i = j := by
  cases l with
  | alertFindUnique id' =>
      simp only [of, Option.map_eq_some_iff, found.injEq] at h
      obtain ⟨_, -, hij, -⟩ := h
      exact hij
  | alertUpdate id' data => simp [of] at h
  | _ => simp [of] at h

variable [DecidableEq ι]

/-- The request finds the alert. -/
def isFound (i : ι) (id : ℕ) : AlertMark ι → Bool
  | found j id' _ => j = i && id' = id
  | _ => false

/-- The request finds the alert, and not as a cancelled one. -/
def isFoundUncancelled (i : ι) (id : ℕ) : AlertMark ι → Bool
  | found j id' status => j = i && id' = id && status ≠ .CANCELLED
  | _ => false

/-- The request finds the alert as a cancelled one, or somebody cancels it. -/
def isCancelled (i : ι) (id : ℕ) : AlertMark ι → Bool
  | found j id' status => j = i && id' = id && status = .CANCELLED
  | closed _ id' status => id' = id && status = .CANCELLED
  | foundAgain _ => false

/-- Somebody resolves the alert. -/
def isResolved (id : ℕ) : AlertMark ι → Bool
  | found _ _ _ => false
  | closed _ id' status => id' = id && status = .RESOLVED
  | foundAgain ids => ids.contains id

end AlertMark

section Conditions

variable {ι : Type*} [DecidableEq ι]

/-- The condition under which closed alerts stay closed: a `resolve` has not read the alert as
a cancelled one, and nobody has cancelled it since; nobody has resolved the alert since a `cancel`
has read it. -/
def OpenMeanwhile (i : ι) (l : AlertCall) (w : AlertSnapshot ι) : Prop :=
  match l with
  | .alertUpdate id data =>
      (data.status = some .RESOLVED →
        quietSince (AlertMark.isFoundUncancelled i id) (AlertMark.isCancelled i id) w.marks =
          true) ∧
      (data.status = some .CANCELLED →
        quietSince (AlertMark.isFound i id) (AlertMark.isResolved id) w.marks = true)
  | _ => True

instance (i : ι) (l : AlertCall) (w : AlertSnapshot ι) : Decidable (OpenMeanwhile i l w) := by
  unfold OpenMeanwhile
  cases l <;> infer_instance

/-- The alert is there, with another status. -/
def StatusNot (status : AlertStatus) (id : ℕ) (w : World) : Prop :=
  ∃ row, w.alerts.find? id = some row ∧ row.status ≠ status

/-- A `resolve` knows that nobody has cancelled the alert unless a mark says so. -/
def Uncancelled (i : ι) (id : ℕ) : AlertSnapshot ι → Prop :=
  KnownSince (AlertMark.isFoundUncancelled i id) (AlertMark.isCancelled i id)
    (StatusNot .CANCELLED id)

/-- A `cancel` knows that nobody has resolved the alert unless a mark says so. -/
def Unresolved (i : ι) (id : ℕ) : AlertSnapshot ι → Prop :=
  KnownSince (AlertMark.isFound i id) (AlertMark.isResolved id) (StatusNot .RESOLVED id)

/-- A status is written by a request that has read the alert. -/
def HasRead (i : ι) (l : AlertCall) (w : AlertSnapshot ι) : Prop :=
  match l with
  | .alertUpdate id data => (data.status = some .RESOLVED → Uncancelled i id w) ∧
      (data.status = some .CANCELLED → Unresolved i id w)
  | _ => True

/-- A resolving update does not meet a cancelled alert, a cancelling update does not meet a
resolved one. -/
def WriteMeetsOpen (l : AlertCall) (w : World) : Prop :=
  match l with
  | .alertUpdate id data => (data.status = some .RESOLVED → StatusNot .CANCELLED id w) ∧
      (data.status = some .CANCELLED → StatusNot .RESOLVED id w)
  | _ => True

/-- What was read open, and was not closed since, is open. -/
theorem HasRead.meetsOpen {i : ι} {l : AlertCall} {w : AlertSnapshot ι} (h : HasRead i l w)
    (hadm : OpenMeanwhile i l w) : WriteMeetsOpen l w.state := by
  cases l with
  | alertUpdate id data => exact ⟨fun hs => h.1 hs (hadm.1 hs), fun hs => h.2 hs (hadm.2 hs)⟩
  | _ => trivial

end Conditions

/-- Alerts persist with their creator and their status. -/
def AlertsKept (w w' : World) : Prop :=
  ∀ id row, w.alerts.find? id = some row → ∃ row', w'.alerts.find? id = some row' ∧
    row'.creator_id = row.creator_id ∧ row'.status = row.status

/-- The surroundings of the alert requests: everything may change, and alerts may
be added, but the creators and statuses of the alerts there are stay. -/
def alertSetting {ι : Type*} (fails : AlertCall → Prop)
    (admits : ι → AlertCall → AlertSnapshot ι → Prop) :
    Setting ι World AlertCall (AlertMark ι) where
  mark := AlertMark.of
  env := AlertsKept
  mayFail := fails
  admits := admits

/-- Who makes which call: a status is written by the request that closes with it,
several alerts are resolved for a found pet. -/
def AlertPermits {ι : Type*} (req : ι → AlertRequest) (i : ι) : AlertCall → Prop
  | .alertUpdate id data => ∀ s, data.status = some s → (req i).closes id s
  | .alertResolveMany _ _ _ => ∃ petId userId, req i = .markAsFound petId userId
  | _ => True

theorem AlertRequest.closes.isClosed {req : AlertRequest} {id : ℕ} {s : AlertStatus}
    (h : req.closes id s) : s.isClosed = true := by
  cases req with
  | onAlert alertId userId op =>
      cases op with
      | resolve dto => rw [h.2]; rfl
      | cancel dto => rw [h.2]; rfl
      | _ => exact h.elim
  | _ => exact h.elim

section Step

variable {ι : Type*} {req : ι → AlertRequest} {i : ι} {l : AlertCall} {w : AlertSnapshot ι}

/-- A permitted call that meets open alerts where it has to keeps the status of a
closed one. -/
theorem AlertPermits.status_kept (h : AlertPermits req i l) (hmeets : WriteMeetsOpen l w.state)
    {id : ℕ} {row : Alert} (hrow : w.state.alerts.find? id = some row)
    (hclosed : row.status.isClosed = true) : (l.onRow w.state.now row).status = row.status := by
  have hnot : row.isActive = false := by
    cases hs : row.status <;> simp_all [AlertStatus.isClosed, Alert.isActive]
  have hid := Table.key_of_find? hrow
  cases l with
  | alertUpdate id' data =>
      simp only [AlertCall.onRow]
      split
      next heq =>
        subst heq
        rw [hid] at h hmeets
        cases hs : data.status with
        | none => simp [AlertData.apply, hs]
        | some s =>
            have hs' := (h s hs).isClosed
            simp only [WriteMeetsOpen, StatusNot, hs, hrow, Option.some.injEq, ne_eq,
              exists_eq_left'] at hmeets
            simp only [AlertData.apply, hs, Option.getD_some]
            revert hclosed hs' hmeets
            cases row.status <;> cases s <;> simp [AlertStatus.isClosed]
      next => rfl
  | alertAppendPhotos id' photoUrls =>
      simp only [AlertCall.onRow]
      split <;> rfl
  | alertExpire => simp [AlertCall.onRow, Alert.isOverdue, hnot]
  | alertResolveMany ids date notes => simp [AlertCall.onRow, hnot]
  | _ => rfl

theorem AlertPermits.row_kept (h : AlertPermits req i l) (hmeets : WriteMeetsOpen l w.state)
    {id : ℕ} {row : Alert} (hrow : w.state.alerts.find? id = some row) :
    ∃ row', (l.effect w.state).alerts.find? id = some row' ∧
      row'.creator_id = row.creator_id ∧
      (row.status.isClosed = true → row'.status = row.status) := by
  refine ⟨l.onRow w.state.now row, ?_, l.creator_id_onRow _ row, h.status_kept hmeets hrow⟩
  rw [AlertCall.find?_effect, hrow, Option.map_some]

/-- A call that closes an open alert leaves a mark or is made for a found pet. -/
theorem AlertPermits.closed_by (h : AlertPermits req i l) {id : ℕ} {row : Alert}
    (hrow : w.state.alerts.find? id = some row) (hopen : row.status.isClosed = false)
    (hclosed : (l.onRow w.state.now row).status.isClosed = true) :
    (∃ s, AlertMark.of i l w.state = some (.closed i id s)) ∨
      ∃ petId userId, req i = .markAsFound petId userId := by
  have hid := Table.key_of_find? hrow
  cases l with
  | alertUpdate id' data =>
      simp only [AlertCall.onRow] at hclosed
      split at hclosed
      next heq =>
        rw [hid] at heq
        subst heq
        cases hs : data.status with
        | none => simp [AlertData.apply, hs, hopen] at hclosed
        | some s => exact .inl ⟨s, by simp [AlertMark.of, hrow, hs]⟩
      next => simp [hopen] at hclosed
  | alertAppendPhotos id' photoUrls =>
      simp only [AlertCall.onRow] at hclosed
      split at hclosed <;> simp [hopen] at hclosed
  | alertExpire =>
      simp only [AlertCall.onRow] at hclosed
      split at hclosed
      · cases hclosed
      · simp [hopen] at hclosed
  | alertResolveMany ids date notes => exact .inr h
  | _ => simp [AlertCall.onRow, hopen] at hclosed

end Step

/-- The invariant of the protocol. -/
structure AlertInv {ι : Type*} (req : ι → AlertRequest) (s₀ : World) (w : AlertSnapshot ι) :
    Prop where
  kept : ∀ id row, s₀.alerts.find? id = some row →
    ∃ row', w.state.alerts.find? id = some row' ∧ row'.creator_id = row.creator_id
  closedRow : ∀ j id s, .closed j id s ∈ w.marks →
    (req j).closes id s ∧ w.state.alertStatus id = some s
  accounted : ∀ id row₀ row, s₀.alerts.find? id = some row₀ → row₀.status.isClosed = false →
    w.state.alerts.find? id = some row → row.status.isClosed = true →
      (∃ j s, .closed j id s ∈ w.marks) ∨ ∃ j petId userId, req j = .markAsFound petId userId

theorem AlertInv.init {ι : Type*} (req : ι → AlertRequest) (s₀ : World) :
    AlertInv req s₀ (⟨s₀, []⟩ : AlertSnapshot ι) where
  kept := fun _ row h => ⟨row, h, rfl⟩
  closedRow := by simp
  accounted := by
    intro id row₀ row h hopen h' hclosed
    obtain rfl := Option.some.inj (h.symm.trans h')
    simp [hopen] at hclosed

theorem AlertInv.call {ι : Type*} {req : ι → AlertRequest} {s₀ : World} {i : ι}
    {l : AlertCall} {w : AlertSnapshot ι} (hinv : AlertInv req s₀ w) (hper : AlertPermits req i l)
    (hmeets : WriteMeetsOpen l w.state) : AlertInv req s₀ (w.after AlertMark.of i l l.effect) where
  kept := by
    intro id row hrow
    obtain ⟨row', hrow', hcreator⟩ := hinv.kept id row hrow
    obtain ⟨row'', hrow'', hcreator', -⟩ := hper.row_kept hmeets hrow'
    exact ⟨row'', hrow'', hcreator'.trans hcreator⟩
  closedRow := by
    intro j id s hm
    rcases Snapshot.mem_after.1 hm with hm | hm
    · obtain ⟨rfl, data, row, rfl, hs, hrow⟩ := AlertMark.of_eq_closed hm
      refine ⟨hper s hs, ?_⟩
      have hid := Table.key_of_find? hrow
      rw [Snapshot.state_after, World.alertStatus, AlertCall.find?_effect, hrow]
      simp [AlertCall.onRow, hid, AlertData.apply, hs]
    · obtain ⟨hcloses, hstatus⟩ := hinv.closedRow j id s hm
      refine ⟨hcloses, ?_⟩
      obtain ⟨row, hrow, rfl⟩ := World.alertStatus_eq_some_iff.1 hstatus
      obtain ⟨row', hrow', -, hstatus'⟩ := hper.row_kept hmeets hrow
      exact World.alertStatus_eq_some_iff.2 ⟨row', hrow', hstatus' hcloses.isClosed⟩
  accounted := by
    intro id row₀ row h₀ hopen₀ hrow hclosed
    obtain ⟨row', hrow', -⟩ := hinv.kept id row₀ h₀
    rw [Snapshot.state_after, AlertCall.find?_effect, hrow', Option.map_some,
      Option.some.injEq] at hrow
    subst hrow
    by_cases hopen : row'.status.isClosed = true
    · rcases hinv.accounted id row₀ row' h₀ hopen₀ hrow' hopen with ⟨j, s, hm⟩ | h
      · exact .inl ⟨j, s, Snapshot.mem_after_of_mem hm⟩
      · exact .inr h
    · rcases hper.closed_by hrow' (by simpa using hopen) hclosed with ⟨s, hm⟩ | h
      · exact .inl ⟨i, s, Snapshot.mem_after.2 (.inl hm)⟩
      · exact .inr ⟨i, h⟩

theorem AlertInv.env {ι : Type*} {req : ι → AlertRequest} {s₀ s s' : World}
    {m : List (AlertMark ι)} (henv : AlertsKept s s') (hinv : AlertInv req s₀ ⟨s, m⟩) :
    AlertInv req s₀ ⟨s', m⟩ where
  kept := by
    intro id row hrow
    obtain ⟨row', hrow', hcreator⟩ := hinv.kept id row hrow
    obtain ⟨row'', hrow'', hcreator', -⟩ := henv id row' hrow'
    exact ⟨row'', hrow'', hcreator'.trans hcreator⟩
  closedRow := by
    intro j id s hm
    obtain ⟨hcloses, hstatus⟩ := hinv.closedRow j id s hm
    obtain ⟨row, hrow, rfl⟩ := World.alertStatus_eq_some_iff.1 hstatus
    obtain ⟨row', hrow', -, hstatus'⟩ := henv id row hrow
    exact ⟨hcloses, World.alertStatus_eq_some_iff.2 ⟨row', hrow', hstatus'⟩⟩
  accounted := by
    intro id row₀ row h₀ hopen₀ hrow hclosed
    obtain ⟨row', hrow', -⟩ := hinv.kept id row₀ h₀
    obtain ⟨row'', hrow'', -, hstatus⟩ := henv id row' hrow'
    obtain rfl := Option.some.inj (hrow.symm.trans hrow'')
    exact hinv.accounted id row₀ row' h₀ hopen₀ hrow' (hstatus ▸ hclosed)

section Meanwhile

variable {ι : Type*} {status : AlertStatus} {id : ℕ} {w w' : World} {spoils : AlertMark ι → Bool}

/-- A call that gives an alert the status leaves a mark. -/
theorem StatusNot.call {j : ι} {l : AlertCall} (h : StatusNot status id w)
    (hmark : ∀ m, AlertMark.of j l w = some m → spoils m = false)
    (hclosed : ∀ j, spoils (.closed j id status) = true) (hexpired : status ≠ .EXPIRED)
    (hfound : status = .RESOLVED → ∀ ids, id ∈ ids → spoils (.foundAgain ids) = true) :
    StatusNot status id (l.effect w) := by
  obtain ⟨row, hrow, hstatus⟩ := h
  have hid := Table.key_of_find? hrow
  refine ⟨l.onRow w.now row, by rw [AlertCall.find?_effect, hrow, Option.map_some], ?_⟩
  cases l with
  | alertUpdate id' data =>
      simp only [AlertCall.onRow]
      split
      next heq =>
        obtain rfl : id' = id := heq.symm.trans hid
        cases hs : data.status with
        | none => simpa [AlertData.apply, hs] using hstatus
        | some s =>
            have hspoils := hmark (.closed j id' s) (by simp [AlertMark.of, hrow, hs])
            have hne : s ≠ status := fun heq =>
              absurd (heq ▸ hclosed j) (Bool.eq_false_iff.1 hspoils)
            simpa [AlertData.apply, hs] using hne
      next => exact hstatus
  | alertAppendPhotos id' photoUrls =>
      simp only [AlertCall.onRow]
      split <;> exact hstatus
  | alertExpire =>
      simp only [AlertCall.onRow]
      split
      · exact hexpired.symm
      · exact hstatus
  | alertResolveMany ids date notes =>
      simp only [AlertCall.onRow]
      split
      next hp =>
        intro heq
        have hrows : row ∈ w.alerts.findMany fun a => ids.contains a.id && a.isActive :=
          List.mem_filter.2 ⟨Table.mem_of_find? hrow, hp⟩
        have hmem := List.mem_map.2 ⟨row, hrows, hid⟩
        exact absurd (hfound heq.symm _ hmem) (Bool.eq_false_iff.1 (hmark _ rfl))
      next => exact hstatus
  | _ => exact hstatus

theorem StatusNot.env (h : StatusNot status id w) (henv : AlertsKept w w') :
    StatusNot status id w' := by
  obtain ⟨row, hrow, hstatus⟩ := h
  obtain ⟨row', hrow', -, hstatus'⟩ := henv id row hrow
  exact ⟨row', hrow', hstatus' ▸ hstatus⟩

end Meanwhile

/-- The protocol of the alert statuses. -/
def alertProtocol {ι : Type*} [DecidableEq ι] (req : ι → AlertRequest) (s₀ : World)
    (fails : AlertCall → Prop) : Protocol (alertSetting (ι := ι) fails OpenMeanwhile) where
  effect := AlertCall.effect
  permits := fun i l w => AlertPermits req i l ∧ HasRead i l w
  inv := AlertInv req s₀
  inv_call := fun hinv hper hadm => hinv.call hper.1 (hper.2.meetsOpen hadm)
  inv_env := fun henv hinv => hinv.env henv

section Lasting

variable {ι : Type*} [DecidableEq ι] {req : ι → AlertRequest} {s₀ : World}
  {fails : AlertCall → Prop} {i : ι} {id : ℕ}

theorem lasting_uncancelled : (alertProtocol req s₀ fails).Lasting i
    (AlertMark.isFoundUncancelled i id) (Uncancelled i id) := by
  refine .known (fun j l s _ _ _ hgood h => h.call hgood (fun _ => ?_) (by decide) nofun)
    (fun _ _ _ _ henv h => h.env henv) fun j l w m hm hask => ?_
  · simp [AlertMark.isCancelled]
  · cases m with
    | found k id' status =>
        obtain rfl := AlertMark.of_eq_found hm
        simp only [AlertMark.isFoundUncancelled, Bool.and_eq_true, decide_eq_true_eq] at hask
        exact hask.1.1
    | closed _ _ _ | foundAgain _ => cases hask

theorem lasting_unresolved : (alertProtocol req s₀ fails).Lasting i (AlertMark.isFound i id)
    (Unresolved i id) := by
  refine .known (fun j l s _ _ _ hgood h => h.call hgood (fun _ => ?_) (by decide)
    fun _ _ hmem => List.contains_iff_mem.2 hmem)
    (fun _ _ _ _ henv h => h.env henv) fun j l w m hm hask => ?_
  · simp [AlertMark.isResolved]
  · cases m with
    | found k id' status =>
        obtain rfl := AlertMark.of_eq_found hm
        simp only [AlertMark.isFound, Bool.and_eq_true, decide_eq_true_eq] at hask
        exact hask.1
    | closed _ _ _ | foundAgain _ => cases hask

end Lasting

end FifiAlert
