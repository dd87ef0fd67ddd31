import FifiAlert.Pet.FlaggedAlerts

/-!
# What a found pet reports

`markAsFound` lists the live alerts of the pet, resolves those of them that are still live, and
then publishes an event for every alert of the list. Other requests may close an alert of the list
before the update gets to it. So the events say what the update did exactly when it met all the
listed alerts live (`foundReports_iff`).
-/

namespace FifiAlert

open Concurrency Store AlertCall

/-- The notable calls: a resolving update with the state it met, and the event that an alert is
resolved. -/
inductive FoundMark (ι : Type*) where
  | updated (i : ι) (ids : List ℕ) (date : Time) (notes : String) (before : World)
  | published (i : ι) (alertId : ℕ)

namespace FoundMark

variable {ι : Type*}

def thread : FoundMark ι → ι
  | updated i _ _ _ _ => i
  | published i _ => i

def of (i : ι) : AlertCall → World → Option (FoundMark ι)
  | .alertResolveMany ids date notes, w => some (updated i ids date notes w)
  | .publish event, _ =>
      if event.newStatus = .RESOLVED then some (published i event.alertId) else none
  | _, _ => none

theorem thread_of (i : ι) (l : AlertCall) (w : World) (m : FoundMark ι)
    (h : of i l w = some m) : m.thread = i := by
  cases l with
  | alertResolveMany ids date notes =>
      cases h
      rfl
  | publish event =>
      simp only [of, Option.ite_none_right_eq_some] at h
      cases h.2
      rfl
  | _ => cases h

theorem of_publish {i : ι} {event : AlertStatusChangedEvent} {w : World}
    (h : event.newStatus = .RESOLVED) :
    of i (.publish event) w = some (published i event.alertId) := by
  simp [of, h]

/-- Does the event say that the alert is resolved? -/
def reports (id : ℕ) : FoundMark ι → Bool
  | updated _ _ _ _ _ => false
  | published _ alertId => alertId = id

/-- Did the update move the alert from `ACTIVE` to `RESOLVED`? -/
def moves (id : ℕ) : FoundMark ι → Bool
  | updated _ ids date notes before =>
      before.alertStatus id = some .ACTIVE &&
        ((alertResolveMany ids date notes).effect before).alertStatus id = some .RESOLVED
  | published _ _ => false

/-- Did the update meet an alert of its list that was not live any more? -/
def misses : FoundMark ι → Bool
  | updated _ ids _ _ before => ids.any fun id => before.alertStatus id ≠ some .ACTIVE
  | published _ _ => false

end FoundMark

/-- The resolving update moves exactly the live alerts among those it names. -/
theorem World.alertStatus_resolveMany {w : World} {ids : List ℕ} {date : Time} {notes : String}
    {id : ℕ} (hactive : w.alertStatus id = some .ACTIVE) :
    ((alertResolveMany ids date notes).effect w).alertStatus id = some .RESOLVED ↔ id ∈ ids := by
  obtain ⟨row, hrow, hstatus⟩ := World.alertStatus_eq_some_iff.1 hactive
  have hid : row.id = id := Table.key_of_find? hrow
  have hlive : row.isActive = true := decide_eq_true hstatus
  rw [World.alertStatus, AlertCall.find?_effect, hrow]
  by_cases h : id ∈ ids <;> simp [AlertCall.onRow, hid, hlive, hstatus, h]

section Course

variable {ι : Type*} {i : ι} {before : World} {ids done : List ℕ} {own : List (FoundMark ι)}

/-- The marks of a thread whose update named the alerts `ids` and met the state `before`, and that
has published the events of `done`. -/
def Course (i : ι) (before : World) (ids done : List ℕ) (own : List (FoundMark ι)) : Prop :=
  ∃ date notes, own = (done.map (.published i)).reverse ++ [.updated i ids date notes before]

theorem Course.published {id : ℕ} (h : Course i before ids done own) :
    Course i before ids (done ++ [id]) (.published i id :: own) := by
  obtain ⟨date, notes, rfl⟩ := h
  exact ⟨date, notes, by simp⟩

theorem Course.any_reports (h : Course i before ids done own) {id : ℕ} :
    own.any (FoundMark.reports id) = true ↔ id ∈ done := by
  obtain ⟨date, notes, rfl⟩ := h
  simp [FoundMark.reports]

theorem Course.any_moves (h : Course i before ids done own) {id : ℕ} :
    own.any (FoundMark.moves id) = true ↔ before.alertStatus id = some .ACTIVE ∧ id ∈ ids := by
  obtain ⟨date, notes, rfl⟩ := h
  have hupdate : FoundMark.moves id (FoundMark.updated i ids date notes before) = true ↔
      before.alertStatus id = some .ACTIVE ∧ id ∈ ids := by
    rw [FoundMark.moves, Bool.and_eq_true, decide_eq_true_eq, decide_eq_true_eq]
    exact and_congr_right World.alertStatus_resolveMany
  have hevents : done.any (FoundMark.moves id ∘ FoundMark.published i) = false := by
    simp [FoundMark.moves]
  rw [← hupdate, List.any_append, List.any_reverse, List.any_map, hevents]
  simp

theorem Course.any_misses (h : Course i before ids done own) :
    own.any FoundMark.misses = false ↔ ∀ id ∈ ids, before.alertStatus id = some .ACTIVE := by
  obtain ⟨date, notes, rfl⟩ := h
  simp [FoundMark.misses]

/-- So far the thread has followed the order of the code. -/
def Orderly (i : ι) (own : List (FoundMark ι)) : Prop :=
  own = [] ∨ ∃ before ids done, done <+: ids ∧ Course i before ids done own

/-- The thread has published an event for each alert of its update. -/
def ReportedAll (i : ι) (own : List (FoundMark ι)) : Prop :=
  own = [] ∨ ∃ before ids, Course i before ids ids own

/-- An alert is reported as resolved exactly when the update moved it. -/
def HonestReports (own : List (FoundMark ι)) : Prop :=
  ∀ id, own.any (FoundMark.reports id) = true ↔ own.any (FoundMark.moves id) = true

/-- What is published was moved, if the update met all its alerts live. -/
theorem Orderly.moved (h : Orderly i own) (hmisses : own.any FoundMark.misses = false) {id : ℕ}
    (hid : own.any (FoundMark.reports id) = true) : own.any (FoundMark.moves id) = true := by
  rcases h with rfl | ⟨before, ids, done, hdone, hcourse⟩
  · cases hid
  · have hmem : id ∈ ids := hdone.subset (hcourse.any_reports.1 hid)
    exact hcourse.any_moves.2 ⟨hcourse.any_misses.1 hmisses id hmem, hmem⟩

theorem ReportedAll.honestReports_iff (h : ReportedAll i own) :
    HonestReports own ↔ own.any FoundMark.misses = false := by
  rcases h with rfl | ⟨before, ids, hcourse⟩
  · simp [HonestReports]
  simp only [HonestReports, hcourse.any_reports, hcourse.any_moves, hcourse.any_misses]
  constructor
  · exact fun h id hid => ((h id).1 hid).1
  · exact fun h id => ⟨fun hid => ⟨h id hid, hid⟩, And.right⟩

end Course

/-- Is the request for a found pet? -/
def AlertRequest.finds : AlertRequest → Prop
  | .markAsFound _ _ => True
  | _ => False

section Protocol

variable {ι : Type*} [DecidableEq ι]

/-- The surroundings: anything may happen to the state. -/
def foundSetting (fails : AlertCall → Prop) : Setting ι World AlertCall (FoundMark ι) where
  mark := FoundMark.of
  env := fun _ _ => True
  mayFail := fails
  admits := fun _ _ _ => True

/-- Requests for found pets resolve once, and publish the alerts of their update in order. -/
def foundProtocol (req : ι → AlertRequest) (fails : AlertCall → Prop) :
    Protocol (foundSetting (ι := ι) fails) where
  effect := AlertCall.effect
  permits := fun i l s => (req i).finds → ∀ m, FoundMark.of i l s.state = some m →
    Orderly i (m :: s.own FoundMark.thread i)
  inv := fun s => ∀ i, (req i).finds → Orderly i (s.own FoundMark.thread i)
  inv_call := by
    intro i l s hinv hper _ j hj
    change Orderly j ((s.after FoundMark.of i l l.effect).own FoundMark.thread j)
    by_cases hij : i = j
    · subst hij
      rw [Snapshot.own_after_self FoundMark.thread_of]
      cases hm : FoundMark.of i l s.state with
      | none => exact hinv i hj
      | some m => exact hper hj m hm
    · rw [Snapshot.own_after_ne FoundMark.thread_of hij]
      exact hinv j hj
  inv_env := fun _ h => h

variable {req : ι → AlertRequest} {fails : AlertCall → Prop} {i : ι}
  {s : Snapshot World (FoundMark ι)}

/-- What the marks of a thread say lasts until it leaves another one. -/
theorem lasting_ownFound (A : List (FoundMark ι) → Prop) :
    (foundProtocol req fails).Lasting i (fun m => decide (m.thread = i))
      fun s => A (s.own FoundMark.thread i) :=
  .ownList FoundMark.thread_of A

abbrev FoundSafe {α : Type} (req : ι → AlertRequest) (fails : AlertCall → Prop) (i : ι)
    (p : AlertProcess α) (s : Snapshot World (FoundMark ι)) : Prop :=
  Safe (foundProtocol req fails).contract i
    (fun _ s' => ReportedAll i (s'.own FoundMark.thread i)) p s

/-- The loop over the events, from where it stands. -/
theorem publishAll_safe (hpublish : ∀ event, ¬ fails (.publish event)) {before : World}
    {ids done : List ℕ} {event : Alert → AlertStatusChangedEvent}
    (hid : ∀ alert, (event alert).alertId = alert.id)
    (hstatus : ∀ alert, (event alert).newStatus = .RESOLVED) {alerts : List Alert}
    (hids : ids = done ++ alerts.map Alert.id)
    (hs : Course i before ids done (s.own FoundMark.thread i)) :
    FoundSafe req fails i
      (Process.forEach alerts fun alert => write (.publish (event alert)) fun _ => ()) s := by
  induction alerts generalizing done s with
  | nil =>
      obtain rfl : ids = done := by simpa using hids
      exact Safe.ret fun s' hr _ => .inr ⟨before, ids, (lasting_ownFound _).stable hs hr⟩
  | cons alert alerts ih =>
      rw [Process.forEach_cons]
      refine Protocol.safe_call rfl fun s₁ hr hinv => ⟨fun _ => ?_, fun hf => (hpublish _ hf).elim⟩
      have hs₁ := (lasting_ownFound _).stable hs hr
      have hmark : FoundMark.of i (.publish (event alert)) s₁.state =
          some (.published i alert.id) := by
        rw [FoundMark.of_publish (hstatus alert), hid]
      have hnext : Course i before ids (done ++ [alert.id])
          (.published i alert.id :: s₁.own FoundMark.thread i) := hs₁.published
      have hafter : Course i before ids (done ++ [alert.id])
          ((s₁.after FoundMark.of i (.publish (event alert))
            (AlertCall.publish (event alert)).effect).own FoundMark.thread i) := by
        rw [Snapshot.own_after_self FoundMark.thread_of, hmark]
        exact hnext
      refine ⟨fun _ m hm => ?_, fun _ => ih (by simp [hids]) hafter⟩
      obtain rfl := Option.some.inj (hmark.symm.trans hm)
      exact .inr ⟨before, ids, done ++ [alert.id], ⟨alerts.map Alert.id, by simp [hids]⟩, hnext⟩

/-- A part of the code that leaves no mark. -/
theorem unmarked_bind {α β : Type} {p : AlertProcess α} {k : α → AlertProcess β}
    {R : AppError → Prop} (hs : s.own FoundMark.thread i = [])
    (hp : p.Confined (fun l next => next = l.effect ∧ ∀ w, FoundMark.of i l w = none) R)
    (h : ∀ a s₁, s₁.own FoundMark.thread i = [] → FoundSafe req fails i (k a) s₁) :
    FoundSafe req fails i (p >>= k) s := by
  refine (lasting_ownFound (· = [])).guarded_bind hs (hp.mono ?_ fun _ he => he)
    (fun a s₁ _ hs₁ => h a s₁ hs₁) fun _ _ _ _ hs₁ => .inl hs₁
  rintro l next ⟨hnext, hmark⟩
  refine ⟨hnext, fun _ _ m hm => ?_, fun w m hm => ?_⟩
  · cases (hmark _).symm.trans hm
  · cases (hmark w).symm.trans hm

theorem ret_safe {α : Type} {a : α} (hs : ReportedAll i (s.own FoundMark.thread i)) :
    FoundSafe req fails i (.ret a) s :=
  Safe.ret fun _ hr _ => (lasting_ownFound _).stable hs hr

theorem raise_safe {α : Type} {e : AppError} (hs : ReportedAll i (s.own FoundMark.thread i)) :
    FoundSafe req fails i (.raise e : AlertProcess α) s :=
  Safe.raise fun _ hr _ => (lasting_ownFound _).stable hs hr

theorem resolveActiveAlerts_found (hpublish : ∀ event, ¬ fails (.publish event)) {petId userId : ℕ}
    (hs : s.own FoundMark.thread i = []) :
    FoundSafe req fails i (PetService.resolveActiveAlerts petId userId) s := by
  unfold PetService.resolveActiveAlerts
  refine unmarked_bind hs (R := fun _ => True)
    (Process.confined_query ⟨rfl, fun _ => rfl⟩ trivial) fun activeAlerts s₁ hs₁ => ?_
  split
  · exact ret_safe (.inl hs₁)
  refine unmarked_bind hs₁ (R := fun _ => True)
    (Process.confined_query ⟨rfl, fun _ => rfl⟩ trivial) fun now s₂ hs₂ => ?_
  refine Protocol.safe_call rfl fun s₃ hr hinv => ?_
  have hs₃ := (lasting_ownFound (· = [])).stable hs₂ hr
  refine ⟨fun _ => ?_, fun _ => raise_safe (.inl hs₃)⟩
  let update : AlertCall :=
    .alertResolveMany (activeAlerts.map Alert.id) now PetService.AUTO_RESOLVED_NOTES
  have hstart : Course i s₃.state (activeAlerts.map Alert.id) []
      ((s₃.after FoundMark.of i update update.effect).own FoundMark.thread i) := by
    rw [Snapshot.own_after_self FoundMark.thread_of, hs₃]
    exact ⟨now, PetService.AUTO_RESOLVED_NOTES, rfl⟩
  refine ⟨fun _ m hm => ?_, fun _ =>
    publishAll_safe hpublish (fun _ => rfl) (fun _ => rfl) rfl hstart⟩
  rw [Snapshot.own_after_self FoundMark.thread_of] at hstart
  cases hm
  exact .inr ⟨_, _, [], List.nil_prefix, hstart⟩

theorem markAsFound_found (hpublish : ∀ event, ¬ fails (.publish event)) {petId userId : ℕ}
    (hs : s.own FoundMark.thread i = []) :
    FoundSafe req fails i (PetService.markAsFound petId userId) s := by
  unfold PetService.markAsFound
  refine unmarked_bind hs (R := fun _ => True) ?_ fun pet s₁ hs₁ => ?_
  · refine Process.Confined.bind (Process.confined_query ⟨rfl, fun _ => rfl⟩ trivial) fun pet => ?_
    cases pet with
    | none => trivial
    | some pet =>
        dsimp only
        split <;> trivial
  split
  · exact raise_safe (.inl hs₁)
  refine unmarked_bind hs₁ (R := fun _ => True)
    (Process.confined_atomic ⟨rfl, fun _ => rfl⟩ (fun _ _ _ => trivial) trivial) fun _ s₂ hs₂ => ?_
  refine Safe.bind (Safe.tryCatch (Safe.mono (resolveActiveAlerts_found hpublish hs₂) ?_))
  intro r s₃ _ hr
  cases r with
  | ok _ => exact ret_safe hr
  | error e => exact Safe.ret fun s₄ hr₄ _ => ret_safe ((lasting_ownFound _).stable hr hr₄)

/-- Each request follows the protocol; one for a found pet publishes an event for each alert of its
update. -/
theorem alertRequest_found (E : AlertEnv) (U : UploadEnv)
    (hpublish : ∀ event, ¬ fails (.publish event)) (hs : s.own FoundMark.thread i = []) :
    Safe (foundProtocol req fails).contract i
      (fun _ s' => (req i).finds → ReportedAll i (s'.own FoundMark.thread i))
      ((req i).process E U) s := by
  have hother {r : AlertRequest} (hreq : req i = r) (hr : ¬ r.finds) {p : AlertProcess Unit}
      (hp : AlertConfined req i (fun _ => True) p) :
      Safe (foundProtocol req fails).contract i
        (fun _ s' => r.finds → ReportedAll i (s'.own FoundMark.thread i)) p s := by
    refine Safe.mono (Protocol.safe_of_confined (J := fun _ => True) (R := fun _ => True)
      (hp.mono ?_ fun _ _ => trivial) (fun _ _ _ _ => trivial) trivial) ?_
    · exact fun l next hl => ⟨hl.1, fun _ hfinds => absurd (hreq ▸ hfinds) hr, fun _ _ => trivial⟩
    · exact fun _ _ _ _ hfinds => absurd hfinds hr
  cases hreq : req i with
  | onAlert alertId userId op => exact hother hreq id (op.process_confined E U hreq)
  | checkExpired => exact hother hreq id AlertService.checkExpired_confined
  | markAsFound petId userId =>
      exact Safe.map (Safe.mono (markAsFound_found hpublish hs) fun _ _ _ hr _ => hr)

/-- A pool of requests that has not started yet. -/
def foundPool (E : AlertEnv) (U : UploadEnv) (w : World) (req : ι → AlertRequest) :
    Config ι World AlertCall AppError Unit (FoundMark ι) :=
  .init w fun i => (req i).process E U

/-- Any requests in any interleaving, with any calls failing but the publishing: what a request for
a found pet publishes, it moved, while its update has met all its alerts live; and when it has
ended, the events say what the update did exactly when that is so. -/
theorem foundReports_iff (E : AlertEnv) (U : UploadEnv) (fails : AlertCall → Prop)
    (hpublish : ∀ event, ¬ fails (.publish event)) (w₀ : World) (req : ι → AlertRequest)
    {c : Config ι World AlertCall AppError Unit (FoundMark ι)}
    (h : Reaches (foundSetting fails) (foundPool E U w₀ req) c) {i : ι} {petId userId : ℕ}
    (hreq : req i = .markAsFound petId userId) :
    ((c.own FoundMark.thread i).any FoundMark.misses = false → ∀ id,
      (c.own FoundMark.thread i).any (FoundMark.reports id) = true →
        (c.own FoundMark.thread i).any (FoundMark.moves id) = true) ∧
    ∀ r, (c.pool i).result? = some r → (HonestReports (c.own FoundMark.thread i) ↔
      (c.own FoundMark.thread i).any FoundMark.misses = false) := by
  have hfinds : (req i).finds := by
    rw [hreq]
    trivial
  have hsound : Sound (foundProtocol req fails).contract
      (fun i _ s => (req i).finds → ReportedAll i (s.own FoundMark.thread i))
      (foundPool E U w₀ req) :=
    ⟨fun _ _ => .inl rfl, fun _ => alertRequest_found E U hpublish rfl⟩
  have hc := hsound.reaches h
  refine ⟨fun hmisses id hid => (hc.1 i hfinds).moved hmisses hid, fun r hr => ?_⟩
  have hreported : ReportedAll i (c.own FoundMark.thread i) := by
    cases hp : c.pool i with
    | ret a => exact hc.result hp hfinds
    | raise e => exact hc.exception hp hfinds
    | call l next rest fault =>
        rw [hp] at hr
        cases hr
  exact hreported.honestReports_iff

end Protocol

section Runs

def findAndCancel : Fin 2 → AlertRequest
  | 0 => .markAsFound 1 1
  | 1 => .onAlert 0 1 (.cancel {})

/-- The requests for the missing pet, in turn. -/
def foundInTurn (is : List (Fin 2)) :
    Config (Fin 2) World AlertCall AppError Unit (FoundMark (Fin 2)) :=
  (foundPool {} noUploads missingWorld findAndCancel).schedule FoundMark.of is

theorem reaches_foundInTurn (is : List (Fin 2)) :
    Reaches (foundSetting fun _ => False) (foundPool {} noUploads missingWorld findAndCancel)
      (foundInTurn is) :=
  Reaches.schedule (fun _ _ _ => trivial) _ _

/-- The pet is found while its alert is live. -/
theorem foundReports_iff_live :
    ((foundInTurn (List.replicate 10 0)).own FoundMark.thread 0).any (FoundMark.reports 0) = true ∧
      HonestReports ((foundInTurn (List.replicate 10 0)).own FoundMark.thread 0) := by
  refine ⟨by decide +kernel, ?_⟩
  refine ((foundReports_iff {} noUploads (fun _ => False) (fun _ h => h) missingWorld findAndCancel
    (reaches_foundInTurn (List.replicate 10 0)) (i := 0) rfl).2 (.ok ()) (by rfl)).2 ?_
  decide +kernel

/-- The alert is cancelled after `markAsFound` has listed it. -/
def cancelledAfterListing : List (Fin 2) :=
  List.replicate 3 0 ++ List.replicate 10 1 ++ List.replicate 5 0

/-- Every call goes through, the alert stays cancelled, and it is published as resolved. -/
theorem not_honestReports :
    Reaches (foundSetting fun _ => False) (foundPool {} noUploads missingWorld findAndCancel)
        (foundInTurn cancelledAfterListing) ∧
      (∀ i, ((foundInTurn cancelledAfterListing).pool i).result? = some (.ok ())) ∧
      (foundInTurn cancelledAfterListing).state.alertStatus 0 = some .CANCELLED ∧
      ¬ HonestReports ((foundInTurn cancelledAfterListing).own FoundMark.thread 0) := by
  refine ⟨reaches_foundInTurn _, by decide +kernel, by decide +kernel, fun h => ?_⟩
  revert h
  have hreported : ((foundInTurn cancelledAfterListing).own FoundMark.thread 0).any
      (FoundMark.reports 0) = true := by decide +kernel
  have hmoved : ((foundInTurn cancelledAfterListing).own FoundMark.thread 0).any
      (FoundMark.moves 0) = false := by decide +kernel
  exact fun h => Bool.false_ne_true (hmoved.symm.trans ((h 0).1 hreported))

end Runs

end FifiAlert
