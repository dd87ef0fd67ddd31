import FifiAlert.Alert.AlertCreation

/-!
# The calls of a creation

What `AlertService.create` asks of the services, in whatever states its calls find them and
whichever of them fail. It rewrites no alert that is there, the only flag it writes is a set one,
and it hands no email over: the text of the email is taken from `alert.pet`, which no response of
`findById` has.
-/

namespace FifiAlert

open Concurrency Store

namespace AlertService

/-- The response for an alert as its reader gets it. -/
def response (alertId : ℕ) (requesterId : Option ℕ) (w : World) : Option AlertResponseDto :=
  (w.findAlert alertId).map fun row =>
    applyViewerRedaction (mapToResponseDto row requesterId) requesterId

theorem findById_eq (alertId : ℕ) (requesterId : Option ℕ) :
    findById alertId requesterId =
      Process.query (.alertFindUnique alertId) (.prisma .other) (response alertId requesterId) :=
  rfl

/-- No response has a `pet`. -/
theorem pet_response {alertId : ℕ} {requesterId : Option ℕ} {w : World} {alert : AlertResponseDto}
    (h : response alertId requesterId w = some alert) : alert.pet = none := by
  obtain ⟨row, -, rfl⟩ := Option.map_eq_some_iff.1 h
  cases requesterId <;> rfl

end AlertService

/-- The calls that a creation can make. -/
def CreationCall.IsOfCreate : CreationCall → Prop
  | alert .dateNow => True
  | alert (.petFindUnique _) => True
  | alert (.petUpdate _ true) => True
  | alert (.publish _) => True
  | alert (.alertFindUnique _) => True
  | alert (.userFindUnique _) => True
  | alert _ => False
  | rateLimit _ => True
  | notification (.queueAdd _) => True
  | notification _ => False
  | alertInsert _ => True

/-- A process whose calls are such calls, each with its effect. -/
abbrev CallsOfCreate {α : Type} (p : CreationProcess α) : Prop :=
  p.Confined (fun l next => next = l.effect ∧ l.IsOfCreate) fun _ => True

section Calls

variable {α : Type}

/-- The alert service's part of such a process. -/
abbrev AlertCallsOfCreate (p : AlertProcess α) : Prop :=
  p.Confined (fun l next => next = l.effect ∧ (CreationCall.alert l).IsOfCreate) fun _ => True

theorem AlertCallsOfCreate.relabel {p : AlertProcess α} (hp : AlertCallsOfCreate p) :
    CallsOfCreate (p.relabel .alert) := by
  refine Process.Confined.relabel (hp.mono ?_ fun _ => id)
  rintro l next ⟨rfl, hl⟩
  exact ⟨rfl, hl⟩

theorem callsOfCreate_read {l : AlertCall} {g : World → α} (hl : (CreationCall.alert l).IsOfCreate)
    (heffect : id = l.effect) : AlertCallsOfCreate (AlertCall.read l g) :=
  Process.confined_query ⟨heffect, hl⟩ trivial

theorem callsOfCreate_caught {p : AlertProcess α} {a : α} (hp : AlertCallsOfCreate p) :
    AlertCallsOfCreate (p.tryCatch fun _ => .ret a) :=
  hp.tryCatch fun _ _ => trivial

namespace AlertService

theorem checkAlertCreationLimit_confined (L : RateLimits) (userId : ℕ) :
    (RateLimitService.checkAlertCreationLimit L userId).Confined (fun l next => next = l.effect)
      fun _ => True := by
  have hsend : ∀ {α : Type} (l : RateLimitCall) (g : World → α), (l.send g).Confined
      (fun l next => next = l.effect) fun _ => True :=
    fun l g => Process.confined_modify rfl trivial
  unfold RateLimitService.checkAlertCreationLimit
  refine (hsend _ _).bind fun now => ?_
  refine Process.Confined.tryCatch ((hsend _ _).bind fun timestamps => ?_) fun _ => id
  unfold RateLimitService.checkWindows
  dsimp only
  split
  · trivial
  split
  · trivial
  split
  · trivial
  unfold RateLimitService.recordAlertCreation
  exact (hsend _ _).bind fun _ => (hsend _ _).bind fun _ => hsend _ _

theorem checkAlertCreationLimit_calls (L : RateLimits) (userId : ℕ) :
    CallsOfCreate
      ((RateLimitService.checkAlertCreationLimit L userId).relabel CreationCall.rateLimit) := by
  refine Process.Confined.relabel
    ((checkAlertCreationLimit_confined L userId).mono ?_ fun _ => id)
  rintro l next rfl
  exact ⟨rfl, trivial⟩

theorem flagPet_calls (userId : ℕ) (dto : CreateAlertDto) :
    AlertCallsOfCreate (flagPet userId dto) := by
  unfold flagPet
  cases dto.petId.filter Js.Json.isTruthy with
  | none => trivial
  | some petId =>
      dsimp only
      cases petId.int32? with
      | none => trivial
      | some petId =>
          refine (callsOfCreate_read (by trivial) (by rfl)).bind fun pet => ?_
          cases pet with
          | none => trivial
          | some pet =>
              dsimp only
              split
              · trivial
              split
              · exact Process.confined_atomic ⟨rfl, trivial⟩ (fun _ _ _ => trivial) trivial
              · trivial

theorem insertAlert_calls (C : AlertCreationEnv) (userId : ℕ) (dto : CreateAlertDto)
    (expiresAt : Time) : CallsOfCreate (insertAlert C userId dto expiresAt) := by
  unfold insertAlert
  cases insertData C userId dto expiresAt with
  | error e => trivial
  | ok data => exact Process.confined_atomic ⟨rfl, trivial⟩ (fun _ _ _ => trivial) trivial

theorem logPet_calls (dto : CreateAlertDto) : CallsOfCreate (logPet dto) := by
  unfold logPet
  cases properties dto.pet "name" <;> trivial

theorem publishActivated_calls (userId : ℕ) (dto : CreateAlertDto) (alertId : ℕ) :
    AlertCallsOfCreate (publishActivated userId dto alertId) :=
  (callsOfCreate_read (by trivial) (by rfl)).bind fun _ =>
    callsOfCreate_caught (Process.confined_modify ⟨rfl, trivial⟩ trivial)

theorem queueAlertNotifications_calls (alertId : ℕ) :
    CallsOfCreate ((NotificationService.queueAlertNotifications alertId).relabel
      CreationCall.notification) := by
  unfold NotificationService.queueAlertNotifications NotificationCall.write
  exact Process.Confined.relabel (Process.Confined.forEach fun wave _ =>
    Process.confined_modify ⟨rfl, trivial⟩ trivial)

theorem sendAlertCreatedEmail_calls {alert : AlertResponseDto} (h : alert.pet = none) :
    AlertCallsOfCreate (sendAlertCreatedEmail alert) := by
  unfold sendAlertCreatedEmail
  refine (callsOfCreate_read (by trivial) (by rfl)).bind fun user => ?_
  rw [h]
  cases user <;> trivial

theorem afterCreate_calls (userId : ℕ) (dto : CreateAlertDto) (alertId : ℕ) :
    CallsOfCreate (afterCreate userId dto alertId) := by
  unfold afterCreate
  refine (publishActivated_calls userId dto alertId).relabel.bind fun _ => ?_
  refine Process.Confined.bind
    ((queueAlertNotifications_calls alertId).tryCatch fun _ _ => trivial) fun _ => ?_
  rw [findById_eq, Process.relabel_query]
  refine Process.confined_query_bind ⟨rfl, trivial⟩ trivial fun w => ?_
  cases hresponse : response alertId (some userId) w with
  | none => trivial
  | some alert =>
      have hemail := sendAlertCreatedEmail_calls (pet_response hresponse)
      exact Process.Confined.bind (hemail.relabel.tryCatch fun _ _ => trivial) fun _ => trivial

theorem create_calls (C : AlertCreationEnv) (userId : ℕ) (dto : CreateAlertDto) :
    CallsOfCreate (create C userId dto) := by
  unfold create
  refine (logPet_calls dto).bind fun _ => ?_
  refine (checkAlertCreationLimit_calls _ userId).bind fun _ => ?_
  refine (flagPet_calls userId dto).relabel.bind fun _ => ?_
  refine Process.Confined.bind (callsOfCreate_read (by trivial) (by rfl)).relabel fun now => ?_
  exact (insertAlert_calls C userId dto _).bind fun alertId => afterCreate_calls userId dto alertId

end AlertService

end Calls

end FifiAlert
