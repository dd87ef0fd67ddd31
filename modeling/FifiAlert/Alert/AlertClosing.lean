import FifiAlert.Alert.AlertProtocol

/-!
# Closing alerts

The code of the alert requests follows the protocol of the alert statuses. Most
requests only have to make permitted calls (`AlertConfined`); `resolve` and
`cancel` are walked in the order of their code, because their answer says
whether they closed the alert.
-/

namespace FifiAlert

open Concurrency Store AlertCall

/-- Every call of the process is permitted to thread `i`, and every exception it
lets out satisfies `R`. -/
abbrev AlertConfined {ι : Type*} (req : ι → AlertRequest) (i : ι) (R : AppError → Prop)
    {α : Type} (p : AlertProcess α) : Prop :=
  p.Confined (fun l next => next = l.effect ∧ AlertPermits req i l) R

section Confined

variable {ι : Type*} {req : ι → AlertRequest} {i : ι} {α : Type}

theorem confined_read {l : AlertCall} {g : World → α} (hl : id = l.effect)
    (hper : AlertPermits req i l) : AlertConfined req i (fun _ => True) (read l g) :=
  Process.confined_query ⟨hl, hper⟩ trivial

theorem confined_write {l : AlertCall} {g : World → α}
    (hper : AlertPermits req i l) :
    AlertConfined req i (fun _ => True) (write l g) :=
  Process.confined_modify ⟨rfl, hper⟩ trivial

theorem confined_writeIf {l : AlertCall} {code : PrismaError} {p : World → Bool}
    (hper : AlertPermits req i l) :
    AlertConfined req i (fun _ => True) (writeIf l code p) :=
  Process.confined_atomic ⟨rfl, hper⟩ (fun _ _ _ => trivial) trivial

/-- A process whose exceptions are all answered lets none out. -/
theorem confined_caught {p : AlertProcess α} {a : α}
    (hp : AlertConfined req i (fun _ => True) p) :
    AlertConfined req i (fun _ => False) (p.tryCatch fun _ => .ret a) :=
  hp.tryCatch fun _ _ => trivial

namespace AlertService

theorem findById_confined (alertId : ℕ) (requesterId : Option ℕ) :
    AlertConfined req i (fun _ => True) (findById alertId requesterId) :=
  Process.Confined.bind (confined_read (by rfl) (by trivial)) fun _ => trivial

theorem findOwned_confined (alertId userId : ℕ) (action : String) :
    AlertConfined req i (fun _ => True) (findOwned alertId userId action) := by
  refine Process.Confined.bind (confined_read (by rfl) (by trivial)) fun row => ?_
  cases row with
  | none => trivial
  | some row =>
      dsimp only
      split <;> trivial

theorem update_confined (alertId userId : ℕ) (dto : UpdateAlertDto) :
    AlertConfined req i (fun _ => True) (update alertId userId dto) := by
  refine Process.Confined.bind (findOwned_confined alertId userId "update") fun row => ?_
  refine Process.Confined.bind (confined_read (by rfl) (by trivial)) fun now => ?_
  refine Process.Confined.bind (confined_writeIf ?_) fun _ => findById_confined alertId _
  intro s hs
  simp [updateData] at hs

theorem renew_confined (alertId userId : ℕ) :
    AlertConfined req i (fun _ => True) (renew alertId userId) := by
  refine Process.Confined.bind (findOwned_confined alertId userId "renew") fun row => ?_
  split
  · trivial
  split
  · trivial
  refine Process.Confined.bind (confined_read (by rfl) (by trivial)) fun now => ?_
  refine Process.Confined.bind (confined_read (by rfl) (by trivial)) fun updatedAt => ?_
  refine Process.Confined.bind (confined_writeIf ?_) fun _ => findById_confined alertId _
  intro s hs
  simp at hs

theorem addPhotos_confined (alertId userId : ℕ) (photoUrls : List String) :
    AlertConfined req i (fun _ => True) (addPhotos alertId userId photoUrls) := by
  refine Process.Confined.bind (findById_confined alertId _) fun alert => ?_
  cases alert with
  | none => trivial
  | some alert => exact Process.Confined.bind (confined_read (by rfl) (by trivial)) fun _ =>
      confined_write (by trivial)

theorem checkExpired_confined :
    AlertConfined req i (fun _ => True) checkExpired := by
  refine Process.Confined.tryCatch (T := fun _ => True) ?_ fun _ _ => trivial
  refine Process.Confined.bind (confined_write (by trivial)) fun expired => ?_
  split
  · trivial
  · refine Process.Confined.bind (confined_read (by rfl) (by trivial)) fun occurredAt => ?_
    exact Process.Confined.forEach fun alert _ => confined_write (by trivial)

theorem upsertForResolvedAlert_confined (E : AlertEnv) (alertId : ℕ) (pet : Pet)
    (thankYouMessage : Option String) (resolvedAt : Time) :
    AlertConfined req i (fun _ => True)
      (upsertForResolvedAlert E alertId pet thankYouMessage resolvedAt) := by
  refine Process.Confined.bind (confined_read (by rfl) (by trivial)) fun neighboursNotified => ?_
  refine Process.Confined.bind (confined_read (by rfl) (by trivial)) fun sightingsReported => ?_
  exact Process.Confined.bind (confined_write (by trivial)) fun _ => confined_writeIf (by trivial)

theorem sendAlertResolvedEmail_confined (alert : AlertResponseDto) :
    AlertConfined req i (fun _ => True) (sendAlertResolvedEmail alert) := by
  refine Process.Confined.bind (confined_read (by rfl) (by trivial)) fun user => ?_
  cases user with
  | none => trivial
  | some user =>
      dsimp only
      split
      · trivial
      · exact Process.Confined.tryCatch (confined_write (by trivial)) fun _ _ => trivial

theorem freezeSnapshot_confined (E : AlertEnv) (row : AlertRow) (dto : ResolveAlertDto)
    (resolvedAt : Time) :
    AlertConfined req i (fun _ => False) (freezeSnapshot E row dto resolvedAt) := by
  unfold freezeSnapshot
  split
  · split
    · exact confined_caught (.map _ (upsertForResolvedAlert_confined ..))
    · trivial
  · trivial

theorem afterResolve_confined (E : AlertEnv) (row : AlertRow) (userId : ℕ)
    (dto : ResolveAlertDto) (resolvedAt : Time) (resolutionNotes : String) :
    AlertConfined req i (fun _ => True)
      (afterResolve E row userId dto resolvedAt resolutionNotes) := by
  refine Process.Confined.bind ((freezeSnapshot_confined ..).mono (fun _ _ => id) nofun)
    fun snapshotWritten => ?_
  refine Process.Confined.bind (confined_read (by rfl) (by trivial)) fun occurredAt => ?_
  refine Process.Confined.bind (confined_write (by trivial)) fun _ => ?_
  extract_lets rest
  have hrest : ∀ u, AlertConfined req i (fun _ => True) (rest u) := by
    intro _
    refine Process.Confined.bind (findById_confined _ _) fun resolvedAlert => ?_
    cases resolvedAlert with
    | none => trivial
    | some alert =>
        exact Process.Confined.bind
          ((sendAlertResolvedEmail_confined alert).tryCatch fun _ _ => trivial) fun _ => trivial
  split
  · exact Process.Confined.bind ((confined_write (by trivial)).tryCatch fun _ _ => trivial)
      hrest
  · exact hrest ()

theorem resolve_confined (E : AlertEnv) {alertId userId : ℕ} {dto : ResolveAlertDto}
    (hreq : req i = .onAlert alertId userId (.resolve dto)) :
    AlertConfined req i (fun _ => True) (resolve E alertId userId dto) := by
  refine Process.Confined.bind (findOwned_confined alertId userId "resolve") fun row => ?_
  dsimp only
  split
  · trivial
  · refine Process.Confined.bind (confined_read (by rfl) (by trivial)) fun resolvedAt => ?_
    refine Process.Confined.bind (confined_writeIf fun s hs => ?_) fun _ =>
      afterResolve_confined ..
    cases hs
    rw [hreq]
    exact ⟨rfl, rfl⟩

theorem clearMissingFlag_confined (petId : ℕ) :
    AlertConfined req i (fun _ => True) (clearMissingFlag petId) := by
  refine Process.Confined.bind (confined_read (by rfl) (by trivial)) fun otherActive => ?_
  split
  · exact confined_writeIf (by trivial)
  · trivial

theorem cancel_confined {alertId userId : ℕ} {dto : CancelAlertDto}
    (hreq : req i = .onAlert alertId userId (.cancel dto)) :
    AlertConfined req i (fun _ => True) (cancel alertId userId dto) := by
  refine Process.Confined.bind (findOwned_confined alertId userId "cancel") fun row => ?_
  dsimp only
  split
  · trivial
  · refine Process.Confined.bind (confined_read (by rfl) (by trivial)) fun cancelledAt => ?_
    refine Process.Confined.bind (confined_writeIf fun s hs => ?_) fun _ => ?_
    · cases hs
      rw [hreq]
      exact ⟨rfl, rfl⟩
    refine Process.Confined.bind (confined_write (by trivial)) fun _ => ?_
    cases row.alert.pet_id with
    | none => exact findById_confined alertId _
    | some petId =>
        dsimp only
        split
        · exact findById_confined alertId _
        · exact Process.Confined.bind
            ((clearMissingFlag_confined petId).tryCatch fun _ _ => trivial)
            fun _ => findById_confined alertId _

end AlertService

theorem allowsUploads_alert : UploadService.AllowsUploads (ℓ := AlertCall)
    fun l next => next = l.effect ∧ AlertPermits req i l where
  dateNow := ⟨rfl, trivial⟩
  randomUUID := ⟨rfl, trivial⟩
  cdnUpload := fun _ _ _ => ⟨rfl, trivial⟩

theorem AlertController.uploadPhotos_confined (U : UploadEnv) (id userId : ℕ)
    (files : List UploadedFile) :
    AlertConfined req i (fun _ => True) (AlertController.uploadPhotos U id userId files) := by
  refine Process.Confined.bind (allowsUploads_alert.uploadImages ..) fun photoUrls => ?_
  exact Process.Confined.bind (AlertService.addPhotos_confined ..) fun _ => trivial

theorem AlertOp.process_confined (E : AlertEnv) (U : UploadEnv) {alertId userId : ℕ} {op : AlertOp}
    (hreq : req i = .onAlert alertId userId op) :
    AlertConfined req i (fun _ => True) (op.process E U alertId userId) := by
  cases op with
  | update dto => exact (AlertService.update_confined alertId userId dto).map _
  | resolve dto => exact (AlertService.resolve_confined E hreq).map _
  | cancel dto => exact (AlertService.cancel_confined hreq).map _
  | renew => exact (AlertService.renew_confined alertId userId).map _
  | uploadPhotos files => exact (AlertController.uploadPhotos_confined U alertId userId files).map _

theorem PetService.resolveActiveAlerts_confined {petId userId : ℕ}
    (hreq : req i = .markAsFound petId userId) :
    AlertConfined req i (fun _ => True) (PetService.resolveActiveAlerts petId userId) := by
  refine Process.Confined.bind (confined_read (by rfl) (by trivial)) fun activeAlerts => ?_
  split
  · trivial
  · refine Process.Confined.bind (confined_read (by rfl) (by trivial)) fun now => ?_
    refine Process.Confined.bind (confined_write ⟨petId, userId, hreq⟩) fun _ => ?_
    exact Process.Confined.forEach fun alert _ => confined_write (by trivial)

theorem PetService.markAsFound_confined {petId userId : ℕ}
    (hreq : req i = .markAsFound petId userId) :
    AlertConfined req i (fun _ => True) (PetService.markAsFound petId userId) := by
  refine Process.Confined.bind ?_ fun pet => ?_
  · refine Process.Confined.bind (confined_read (by rfl) (by trivial)) fun pet => ?_
    cases pet with
    | none => trivial
    | some pet =>
        dsimp only
        split <;> trivial
  · split
    · trivial
    · refine Process.Confined.bind (confined_writeIf (by trivial)) fun _ => ?_
      refine Process.Confined.bind ?_ fun _ => trivial
      exact (PetService.resolveActiveAlerts_confined hreq).tryCatch fun _ _ => trivial

end Confined

/-- What interference keeps for thread `i`: the marks, what it has read, and the alerts with
their creators and final statuses. It leaves no closing mark of the thread. -/
structure AlertLater {ι : Type*} [DecidableEq ι] (i : ι) (w w' : AlertSnapshot ι) : Prop where
  marks : ∀ m ∈ w.marks, m ∈ w'.marks
  closings : ∀ id s, .closed i id s ∈ w'.marks → .closed i id s ∈ w.marks
  uncancelled : ∀ id, Uncancelled i id w → Uncancelled i id w'
  unresolved : ∀ id, Unresolved i id w → Unresolved i id w'
  rows : ∀ id row, w.state.alerts.find? id = some row →
    ∃ row', w'.state.alerts.find? id = some row' ∧ row'.creator_id = row.creator_id ∧
      (row.status.isClosed = true → row'.status = row.status)

section Walk

variable {ι : Type*} [DecidableEq ι] {req : ι → AlertRequest} {s₀ : World}
  {fails : AlertCall → Prop} {i : ι}

theorem AlertLater.trans {w₁ w₂ w₃ : AlertSnapshot ι} (h : AlertLater i w₁ w₂)
    (h' : AlertLater i w₂ w₃) : AlertLater i w₁ w₃ where
  marks := fun m hm => h'.marks m (h.marks m hm)
  closings := fun id s hm => h.closings id s (h'.closings id s hm)
  uncancelled := fun id hu => h'.uncancelled id (h.uncancelled id hu)
  unresolved := fun id hu => h'.unresolved id (h.unresolved id hu)
  rows := by
    intro id row hrow
    obtain ⟨row', hrow', hcreator, hclosed⟩ := h.rows id row hrow
    obtain ⟨row'', hrow'', hcreator', hclosed'⟩ := h'.rows id row' hrow'
    refine ⟨row'', hrow'', hcreator'.trans hcreator, fun hc => ?_⟩
    exact (hclosed' (hclosed hc ▸ hc)).trans (hclosed hc)

theorem AlertLater.of_step {w w' : AlertSnapshot ι}
    (h : (alertProtocol req s₀ fails).Interference i w w') : AlertLater i w w' := by
  have hsingle := Relation.ReflTransGen.single h
  cases h with
  | call j hij hc =>
      cases hc with
      | mk l _ hper hadm =>
          exact
            { marks := fun _ => Snapshot.mem_after_of_mem
              closings := fun id s hm => (Snapshot.mem_after.1 hm).resolve_left fun hm =>
                hij (AlertMark.of_eq_closed hm).1
              uncancelled := fun _ hu => lasting_uncancelled.stable hu hsingle
              unresolved := fun _ hu => lasting_unresolved.stable hu hsingle
              rows := fun _ _ hrow => AlertPermits.row_kept hper.1 (hper.2.meetsOpen hadm) hrow }
  | env henv _ =>
      exact
        { marks := fun _ => id
          closings := fun _ _ => id
          uncancelled := fun _ hu => lasting_uncancelled.stable hu hsingle
          unresolved := fun _ hu => lasting_unresolved.stable hu hsingle
          rows := fun id row hrow => by
            obtain ⟨row', hrow', hcreator, hstatus⟩ := henv id row hrow
            exact ⟨row', hrow', hcreator, fun _ => hstatus⟩ }

theorem AlertLater.of_interference {w w' : AlertSnapshot ι}
    (h : Relation.ReflTransGen ((alertProtocol req s₀ fails).Interference i) w w') :
    AlertLater i w w' := by
  induction h with
  | refl =>
      exact ⟨fun _ => id, fun _ _ => id, fun _ => id, fun _ => id, fun _ row hrow =>
        ⟨row, hrow, rfl, fun _ => rfl⟩⟩
  | tail _ hs ih => exact ih.trans (.of_step hs)

variable (req s₀ fails i)

/-- Safety under the contract of the alert protocol. -/
abbrev AlertSafe {α : Type} (Q : Except AppError α → AlertSnapshot ι → Prop)
    (p : AlertProcess α) (w : AlertSnapshot ι) : Prop :=
  Safe (alertProtocol req s₀ fails).contract i Q p w

/-- After the closing write: its mark is there, and only a failing call can
still raise. -/
def Closed {α : Type} (m : AlertMark ι) (r : Except AppError α) (w : AlertSnapshot ι) : Prop :=
  m ∈ w.marks ∧ ∀ e, r = .error e → ∃ l, fails l

/-- No alert of this id was there for this user. -/
def Stranger (id userId : ℕ) : Prop :=
  ∀ row, s₀.alerts.find? id = some row → row.creator_id ≠ userId

/-- How a request that closes an alert ends: it made the closing write, or it
did not and there is a reason. -/
def ClosePost {α : Type} (id userId : ℕ) (s : AlertStatus) :
    Except AppError α → AlertSnapshot ι → Prop
  | .ok _, w => .closed i id s ∈ w.marks
  | .error _, w => (∃ l, fails l) ∨ Stranger s₀ id userId ∨
      ((∀ id s, .closed i id s ∉ w.marks) ∧
        (s = .RESOLVED → w.state.alertStatus id = some .RESOLVED))

variable {req s₀ fails i} {α β : Type} {Q : Except AppError β → AlertSnapshot ι → Prop}
  {m : AlertMark ι} {w : AlertSnapshot ι}

/-- A read, in the order of the code. -/
theorem alert_read {l : AlertCall} {g : World → α} {k : α → AlertProcess β}
    (hmark : ∀ s, AlertMark.of i l s = none)
    (h : ∀ w', AlertLater i w w' → AlertInv req s₀ w' →
      AlertSafe req s₀ fails i Q (k (g w'.state)) w')
    (herr : (∃ l, fails l) → ∀ e w', AlertLater i w w' → Q (.error e) w') :
    AlertSafe req s₀ fails i Q (read l g >>= k) w :=
  Safe.query_bind hmark (fun w' hr hi _ => h w' (.of_interference hr) hi)
    fun hl => Safe.raise fun w' hr _ => herr ⟨l, hl⟩ _ w' (.of_interference hr)

theorem closed_ret {b : β} (hm : m ∈ w.marks) :
    AlertSafe req s₀ fails i (Closed fails m) (.ret b) w :=
  Safe.ret fun _ hr _ => ⟨(AlertLater.of_interference hr).marks m hm, by simp⟩

/-- What the expiry is permitted to do is permitted to everybody: it names no status. -/
theorem permits_of_expiry {l : AlertCall} (h : AlertPermits (fun _ : ι => .checkExpired) i l)
    (w : AlertSnapshot ι) : (alertProtocol req s₀ fails).permits i l w := by
  cases l with
  | alertUpdate id data => exact ⟨fun s hs => (h s hs).elim, fun hs => (h _ hs).elim,
      fun hs => (h _ hs).elim⟩
  | alertResolveMany ids date notes =>
      obtain ⟨_, _, hreq⟩ := h
      cases hreq
  | _ => exact ⟨trivial, trivial⟩

theorem closed_call {l : AlertCall} {next : World → World} {rest : World → AlertProcess β}
    {e : AppError} (hnext : next = l.effect)
    (hper : AlertPermits (fun _ : ι => .checkExpired) i l) (hm : m ∈ w.marks)
    (h : ∀ s w', m ∈ w'.marks → AlertSafe req s₀ fails i (Closed fails m) (rest s) w') :
    AlertSafe req s₀ fails i (Closed fails m) (.call l next rest (.raise e)) w := by
  refine Protocol.safe_call hnext fun w' hr _ => ?_
  have hlater := AlertLater.of_interference hr
  refine ⟨fun _ => ⟨permits_of_expiry hper w', fun _ => ?_⟩,
    fun hf => Safe.raise fun w'' hr' _ => ?_⟩
  · exact h _ _ (Snapshot.mem_after_of_mem (hlater.marks m hm))
  · exact ⟨(hlater.trans (.of_interference hr')).marks m hm, fun _ _ => ⟨l, hf⟩⟩

theorem closed_read {l : AlertCall} {g : World → α} {k : α → AlertProcess β}
    (hl : id = l.effect) (hper : AlertPermits (fun _ : ι => .checkExpired) i l) (hm : m ∈ w.marks)
    (h : ∀ a w', m ∈ w'.marks → AlertSafe req s₀ fails i (Closed fails m) (k a) w') :
    AlertSafe req s₀ fails i (Closed fails m) (read l g >>= k) w :=
  closed_call hl hper hm fun s w' hm' => h (g s) w' hm'

theorem closed_write {l : AlertCall} {g : World → α} {k : α → AlertProcess β}
    (hper : AlertPermits (fun _ : ι => .checkExpired) i l) (hm : m ∈ w.marks)
    (h : ∀ a w', m ∈ w'.marks → AlertSafe req s₀ fails i (Closed fails m) (k a) w') :
    AlertSafe req s₀ fails i (Closed fails m) (write l g >>= k) w :=
  closed_call rfl hper hm fun s w' hm' => h (g s) w' hm'

/-- A part of the code that lets no exception out. -/
theorem closed_confined {p : AlertProcess α} {k : α → AlertProcess β}
    (hp : AlertConfined (fun _ : ι => .checkExpired) i (fun _ => False) p) (hm : m ∈ w.marks)
    (h : ∀ a w', m ∈ w'.marks → AlertSafe req s₀ fails i (Closed fails m) (k a) w') :
    AlertSafe req s₀ fails i (Closed fails m) (p >>= k) w := by
  have hsafe := Protocol.safe_of_confined (P := alertProtocol req s₀ fails) (i := i)
    (J := fun w => m ∈ w.marks)
    (hp.mono (fun _ _ hl => ⟨hl.1, permits_of_expiry hl.2, fun _ => Snapshot.mem_after_of_mem⟩)
      fun _ => id)
    (fun _ _ hm hr => (AlertLater.of_interference hr).marks m hm) hm
  refine Safe.bind (hsafe.mono fun r w' _ hr => ?_)
  cases r with
  | ok a => exact h a w' hr.1
  | error e => exact (hr.2 e rfl).elim

/-- The closing write. -/
theorem closing_update {id userId : ℕ} {data : AlertData} {s : AlertStatus}
    {k : Unit → AlertProcess β} (hs : data.status = some s) (hcloses : (req i).closes id s)
    (hread : HasRead i (.alertUpdate id data) w)
    (h : ∀ w', .closed i id s ∈ w'.marks → AlertSafe req s₀ fails i Q (k ()) w')
    (herr : (∃ l, fails l) ∨ Stranger s₀ id userId → ∀ e w', Q (.error e) w') :
    AlertSafe req s₀ fails i Q (AlertService.updateAlert id data >>= k) w := by
  refine Protocol.safe_call rfl fun w' hr hinv => ⟨fun _ => ⟨⟨?_, ?_⟩, fun _ => ?_⟩, fun hf => ?_⟩
  · intro s' hs'
    obtain rfl := Option.some.inj (hs.symm.trans hs')
    exact hcloses
  · have hlater := AlertLater.of_interference hr
    exact ⟨fun hs' => hlater.uncancelled id (hread.1 hs'),
      fun hs' => hlater.unresolved id (hread.2 hs')⟩
  · cases hrow : w'.state.alerts.find? id with
    | none =>
        simp only [hrow]
        refine Safe.raise fun w'' _ _ => herr (.inr fun row hrow₀ => ?_) _ w''
        obtain ⟨row', hrow', -⟩ := AlertInv.kept hinv id row hrow₀
        cases hrow.symm.trans hrow'
    | some row =>
        simp only [hrow]
        refine h _ (Snapshot.mem_after.2 (.inl ?_))
        simp [alertSetting, AlertMark.of, hrow, hs]
  · exact Safe.raise fun w'' _ _ => herr (.inl ⟨_, hf⟩) _ w''

/-- What a request knows of the alert that it has found. -/
structure FoundAlert (i : ι) (id : ℕ) (row : AlertRow) (w w' : AlertSnapshot ι) : Prop where
  key : row.alert.id = id
  closings : ∀ id s, .closed i id s ∈ w'.marks → .closed i id s ∈ w.marks
  closed : row.alert.status.isClosed = true → w'.state.alertStatus id = some row.alert.status
  uncancelled : Uncancelled i id w'
  unresolved : row.alert.status ≠ .RESOLVED → Unresolved i id w'

/-- What was found stays found under interference. -/
theorem FoundAlert.later {id : ℕ} {row : AlertRow} {w w₁ w₂ : AlertSnapshot ι}
    (h : FoundAlert i id row w w₁) (hl : AlertLater i w₁ w₂) : FoundAlert i id row w w₂ where
  key := h.key
  closings := fun id s hm => h.closings id s (hl.closings id s hm)
  closed := by
    intro hclosed
    obtain ⟨row', hrow', hs⟩ := World.alertStatus_eq_some_iff.1 (h.closed hclosed)
    obtain ⟨row'', hrow'', -, hs'⟩ := hl.rows id row' hrow'
    exact World.alertStatus_eq_some_iff.2 ⟨row'', hrow'', (hs' (hs ▸ hclosed)).trans hs⟩
  uncancelled := hl.uncancelled id h.uncancelled
  unresolved := fun hs => hl.unresolved id (h.unresolved hs)

/-- What the read itself shows. -/
theorem FoundAlert.of_read {id : ℕ} {alert : Alert} {row : AlertRow} {w₁ : AlertSnapshot ι}
    (hl : AlertLater i w w₁) (hrow : w₁.state.alerts.find? id = some alert)
    (halert : row.alert = alert) :
    FoundAlert i id row w (w₁.after AlertMark.of i (.alertFindUnique id) (AlertCall.effect
      (.alertFindUnique id))) := by
  have hmark : AlertMark.of i (.alertFindUnique id) w₁.state =
      some (.found i id alert.status) := by
    simp [AlertMark.of, World.alertStatus_of_find? hrow]
  subst halert
  constructor
  · exact Table.key_of_find? hrow
  · intro id' s hm
    rcases Snapshot.mem_after.1 hm with hm | hm
    · cases hmark.symm.trans hm
    · exact hl.closings id' s hm
  · exact fun _ => World.alertStatus_of_find? hrow
  · intro hquiet
    refine ⟨row.alert, hrow, fun hcancelled => ?_⟩
    simp [Snapshot.after, hmark, quietSince, AlertMark.isFoundUncancelled,
      AlertMark.isCancelled, hcancelled] at hquiet
  · exact fun hs => .of ⟨row.alert, hrow, hs⟩

/-- The read of an alert, which leaves a mark. -/
theorem alert_find {id : ℕ} {g : World → α} {k : α → AlertProcess β}
    (h : ∀ w', AlertLater i w w' → AlertInv req s₀ w' → AlertSafe req s₀ fails i Q
      (k (g w'.state)) (w'.after AlertMark.of i (.alertFindUnique id)
        (AlertCall.effect (.alertFindUnique id))))
    (herr : (∃ l, fails l) → ∀ e w', Q (.error e) w') :
    AlertSafe req s₀ fails i Q (read (.alertFindUnique id) g >>= k) w :=
  Protocol.safe_call rfl fun w' hr hinv =>
    ⟨fun _ => ⟨⟨trivial, trivial⟩, fun _ => h w' (.of_interference hr) hinv⟩,
      fun hf => Safe.raise fun w'' _ _ => herr ⟨_, hf⟩ _ w''⟩

/-- The ownership check: it hands over the row it found, and otherwise fails for a
reason. -/
theorem findOwned_safe {id userId : ℕ} {action : String} {k : AlertRow → AlertProcess β}
    (h : ∀ row w', FoundAlert i id row w w' → AlertSafe req s₀ fails i Q (k row) w')
    (herr : (∃ l, fails l) ∨ Stranger s₀ id userId → ∀ e w', Q (.error e) w') :
    AlertSafe req s₀ fails i Q (AlertService.findOwned id userId action >>= k) w := by
  unfold AlertService.findOwned
  rw [Process.bind_assoc]
  refine alert_find (fun w₁ hl₁ hi₁ => ?_) fun hf e w' => herr (.inl hf) e w'
  cases hrow : w₁.state.alerts.find? id with
  | none =>
      simp only [World.findAlert, hrow, Option.map_none]
      refine Safe.raise fun w' _ _ => herr (.inr fun row hrow₀ => ?_) _ w'
      obtain ⟨row', hrow', -⟩ := hi₁.kept id row hrow₀
      cases hrow.symm.trans hrow'
  | some alert =>
      simp only [World.findAlert, hrow, Option.map_some]
      split
      next hne =>
          refine Safe.raise fun w' _ _ => herr (.inr fun row hrow₀ => ?_) _ w'
          obtain ⟨row', hrow', hcreator⟩ := hi₁.kept id row hrow₀
          obtain rfl := Option.some.inj (hrow.symm.trans hrow')
          exact hcreator ▸ hne
      next => exact h _ _ (.of_read hl₁ hrow rfl)

theorem findById_closed {alertId : ℕ} {requesterId : Option ℕ}
    {k : Option AlertResponseDto → AlertProcess β} (hm : m ∈ w.marks)
    (h : ∀ a w', m ∈ w'.marks → AlertSafe req s₀ fails i (Closed fails m) (k a) w') :
    AlertSafe req s₀ fails i (Closed fails m)
      (AlertService.findById alertId requesterId >>= k) w := by
  unfold AlertService.findById
  rw [Process.bind_assoc]
  exact closed_read (by rfl) trivial hm fun row w' hm' => h _ w' hm'

theorem afterResolve_closed (E : AlertEnv) (row : AlertRow) (userId : ℕ)
    (dto : ResolveAlertDto) (resolvedAt : Time) (resolutionNotes : String) (hm : m ∈ w.marks) :
    AlertSafe req s₀ fails i (Closed fails m)
      (AlertService.afterResolve E row userId dto resolvedAt resolutionNotes) w := by
  unfold AlertService.afterResolve
  refine closed_confined (AlertService.freezeSnapshot_confined ..) hm fun written w₁ hm₁ => ?_
  refine closed_read (by rfl) trivial hm₁ fun occurredAt w₂ hm₂ => ?_
  refine closed_write trivial hm₂ fun _ w₃ hm₃ => ?_
  extract_lets rest
  have hrest : ∀ u (w₄ : AlertSnapshot ι), m ∈ w₄.marks →
      AlertSafe req s₀ fails i (Closed fails m) (rest u) w₄ := by
    intro _ w₄ hm₄
    refine findById_closed hm₄ fun resolvedAlert w₅ hm₅ => ?_
    cases resolvedAlert with
    | none => exact closed_ret hm₅
    | some alert =>
        exact closed_confined (confined_caught (AlertService.sendAlertResolvedEmail_confined _))
          hm₅ fun _ w₆ hm₆ => closed_ret hm₆
  split
  · exact closed_confined (confined_caught (confined_write (by trivial))) hm₃ hrest
  · exact hrest () w₃ hm₃

/-- After its write a closing request satisfies its postcondition. -/
theorem Closed.closePost {id userId : ℕ} {s : AlertStatus} {p : AlertProcess α}
    (h : AlertSafe req s₀ fails i (Closed fails (.closed i id s)) p w) :
    AlertSafe req s₀ fails i (ClosePost s₀ fails i id userId s) p w := by
  refine h.mono fun r w' _ hr => ?_
  cases r with
  | ok a => exact hr.1
  | error e => exact .inl (hr.2 e rfl)

theorem resolve_safe (E : AlertEnv) {id userId : ℕ} {dto : ResolveAlertDto}
    (hreq : req i = .onAlert id userId (.resolve dto)) (hnone : ∀ id s, .closed i id s ∉ w.marks) :
    AlertSafe req s₀ fails i (ClosePost s₀ fails i id userId .RESOLVED)
      (AlertService.resolve E id userId dto) w := by
  have herr : (∃ l, fails l) ∨ Stranger s₀ id userId → ∀ (e : AppError) (w' : AlertSnapshot ι),
      ClosePost s₀ fails i id userId .RESOLVED
        (.error e : Except AppError (Option AlertResponseDto)) w' :=
    fun h _ _ => h.elim .inl fun hs => .inr (.inl hs)
  unfold AlertService.resolve
  refine findOwned_safe (fun row w₁ hfound => ?_) herr
  split
  next hresolved =>
      refine Safe.raise fun w' hr _ => .inr (.inr ⟨fun id s hm => ?_, fun _ => ?_⟩)
      · exact hnone id s ((hfound.later (.of_interference hr)).closings id s hm)
      · rw [← hresolved]
        exact (hfound.later (.of_interference hr)).closed (by rw [hresolved]; rfl)
  next =>
      refine alert_read (fun _ => rfl) (fun w₂ hl _ => ?_) fun hf e w' _ => herr (.inl hf) e w'
      refine closing_update rfl (by rw [hreq]; exact ⟨rfl, rfl⟩)
        ⟨fun _ => (hfound.later hl).uncancelled, nofun⟩ (fun w₃ hm => ?_) herr
      exact Closed.closePost (afterResolve_closed E row userId dto _ _ hm)

theorem cancel_safe {id userId : ℕ} {dto : CancelAlertDto}
    (hreq : req i = .onAlert id userId (.cancel dto)) (hnone : ∀ id s, .closed i id s ∉ w.marks) :
    AlertSafe req s₀ fails i (ClosePost s₀ fails i id userId .CANCELLED)
      (AlertService.cancel id userId dto) w := by
  have herr : (∃ l, fails l) ∨ Stranger s₀ id userId → ∀ (e : AppError) (w' : AlertSnapshot ι),
      ClosePost s₀ fails i id userId .CANCELLED
        (.error e : Except AppError (Option AlertResponseDto)) w' :=
    fun h _ _ => h.elim .inl fun hs => .inr (.inl hs)
  unfold AlertService.cancel
  refine findOwned_safe (fun row w₁ hfound => ?_) herr
  split
  next =>
      refine Safe.raise fun w' hr _ => .inr (.inr ⟨fun id s hm => ?_, by simp⟩)
      exact hnone id s ((hfound.later (.of_interference hr)).closings id s hm)
  next hopen =>
      refine alert_read (fun _ => rfl) (fun w₂ hl _ => ?_) fun hf e w' _ => herr (.inl hf) e w'
      refine closing_update rfl (by rw [hreq]; exact ⟨rfl, rfl⟩)
        ⟨nofun, fun _ => (hfound.later hl).unresolved fun hresolved => hopen ?_⟩
        (fun w₃ hm => ?_) herr
      · rw [hresolved]
        decide
      refine Closed.closePost (closed_write trivial hm fun _ w₄ hm₄ => ?_)
      split
      · split
        · exact findById_closed hm₄ fun _ w₅ hm₅ => closed_ret hm₅
        · exact closed_confined (confined_caught (AlertService.clearMissingFlag_confined _)) hm₄
            fun _ w₅ hm₅ => findById_closed hm₅ fun _ w₆ hm₆ => closed_ret hm₆
      · exact findById_closed hm₄ fun _ w₅ hm₅ => closed_ret hm₅

end Walk

end FifiAlert
