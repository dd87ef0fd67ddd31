import FifiAlert.Invitation.InvitationService

/-!
# The calls of the invitation requests

Which calls each operation makes. Only `create` and `resend` store a token, so what is
shown of all other calls is shown of the other operations, and of the steps around the
transaction of these two.
-/

namespace FifiAlert

open Concurrency Store InvitationCall

/-- The calls that leave the tokens of the invitations as they are. -/
def InvitationCall.storesNothing : InvitationCall → Prop
  | invitationCreate _ => False
  | invitationResend _ _ _ _ _ => False
  | _ => True

/-- The calls that leave the books of the deliveries alone, too, and withdraw nothing. -/
def InvitationCall.isPlain : InvitationCall → Prop
  | invitationCreate _ => False
  | invitationResend _ _ _ _ _ => False
  | invitationRevoke _ _ => False
  | sendLogSent _ => False
  | deliveryFailed _ _ _ => False
  | _ => True

theorem InvitationCall.isPlain.storesNothing {l : InvitationCall} (h : l.isPlain) :
    l.storesNothing := by
  cases l with
  | invitationCreate _ | invitationResend _ _ _ _ _ => exact h.elim
  | _ => trivial

/-- The calls that look up the time and the sends. -/
def InvitationCall.isLookup : InvitationCall → Prop
  | dateNow => True
  | sendLogCount _ _ => True
  | sendLogFindLast _ => True
  | _ => False

theorem InvitationCall.isLookup.isPlain {l : InvitationCall} (h : l.isLookup) : l.isPlain := by
  cases l with
  | dateNow | sendLogCount _ _ | sendLogFindLast _ => trivial
  | _ => exact h.elim

theorem InvitationCall.isLookup.storesNothing {l : InvitationCall} (h : l.isLookup) :
    l.storesNothing :=
  h.isPlain.storesNothing

/-- The calls of a delivery: it reads, hands over the message, and keeps the books of its own
send. -/
def InvitationCall.delivers (d : Delivery) : InvitationCall → Prop
  | userFindUnique _ => True
  | dateNow => True
  | sendMail _ => True
  | sendLogSent logId => logId = d.logId
  | deliveryFailed logId _ invitation => logId = d.logId ∧ invitation = d.invitation
  | _ => False

theorem InvitationCall.delivers.storesNothing {d : Delivery} {l : InvitationCall}
    (h : l.delivers d) : l.storesNothing := by
  cases l with
  | invitationCreate _ | invitationResend _ _ _ _ _ => exact h.elim
  | _ => trivial

/-- The requests other than an invitation, a withdrawal, a resend and a delivery. -/
def InvitationRequest.isPlain : InvitationRequest → Prop
  | create _ _ => False
  | revoke _ _ => False
  | resend _ _ => False
  | deliver _ => False
  | _ => True

/-- Every call of the process has its effect and satisfies `P`. -/
abbrev InvitationConfined (E : InvitationEnv) (P : InvitationCall → Prop) {α : Type}
    (p : InvitationProcess α) : Prop :=
  p.Confined (fun l next => next = l.effect E ∧ P l) fun _ => True

namespace InvitationService

section Calls

variable {E : InvitationEnv} {P : InvitationCall → Prop} {α : Type}

theorem confined_read {l : InvitationCall} {g : World → α} (hread : id = l.effect E)
    (hl : P l) : InvitationConfined E P (read l g) :=
  Process.confined_query ⟨hread, hl⟩ trivial

theorem confined_write {l : InvitationCall} {g : World → α} (hl : P l) :
    InvitationConfined E P (write E l g) :=
  Process.confined_modify ⟨rfl, hl⟩ trivial

theorem confined_writeOr {l : InvitationCall} {g : World → Except PrismaError α} (hl : P l) :
    InvitationConfined E P (writeOr E l g) :=
  Process.confined_atomic ⟨rfl, hl⟩ (fun _ _ _ => trivial) trivial

theorem assertConfigured_confined : InvitationConfined E P (assertConfigured E) := by
  unfold assertConfigured
  split <;> trivial

theorem onUniqueViolation_confined (e : AppError) :
    InvitationConfined E P (onUniqueViolation e : InvitationProcess α) := by
  unfold onUniqueViolation
  split <;> trivial

theorem isActiveLocale_confined (hP : ∀ code, P (.isActiveCode code)) (locale : Option String) :
    InvitationConfined E P (isActiveLocale locale) := by
  cases locale with
  | none => trivial
  | some code => exact confined_read (by rfl) (hP code)

theorem mintInviteToken_confined (hP : P .randomBytes) :
    InvitationConfined E P (mintInviteToken E) :=
  Process.Confined.bind (confined_write hP) fun _ => trivial

theorem queueDelivery_confined (delivery : Delivery) (hP : P (.setImmediate delivery)) :
    InvitationConfined E P (queueDelivery E delivery) :=
  confined_write hP

theorem enforceSendLimits_confined (hP : ∀ l : InvitationCall, l.isLookup → P l)
    (senderUserId : ℕ) :
    InvitationConfined E P (enforceSendLimits E senderUserId) := by
  refine Process.Confined.bind (confined_read (by rfl) (hP _ trivial)) fun now => ?_
  refine Process.Confined.bind (confined_read (by rfl) (hP _ trivial)) fun daily => ?_
  split
  · trivial
  split
  · refine Process.Confined.bind (confined_read (by rfl) (hP _ trivial)) fun hourly => ?_
    split <;> trivial
  · trivial

theorem enforceCooldown_confined (hP : ∀ l : InvitationCall, l.isLookup → P l)
    (row : Invitation) :
    InvitationConfined E P (enforceCooldown E row) := by
  refine Process.Confined.bind (confined_read (by rfl) (hP _ trivial)) fun lastSend => ?_
  split
  · trivial
  · refine Process.Confined.bind (confined_read (by rfl) (hP _ trivial)) fun now => ?_
    split <;> trivial

variable (hP : ∀ l : InvitationCall, l.isPlain → P l)
include hP

theorem of_isLookup (l : InvitationCall) (hl : l.isLookup) : P l := hP l hl.isPlain

theorem create_confined (hdraft : ∀ draft : Invitation, draft.acceptedVia = none →
      draft.acceptedAt = none → draft.convertedUserId = none → P (.invitationCreate draft))
    (sender : ITokenUser) (dto : CreateInvitationDto) :
    InvitationConfined E P (create E sender dto) := by
  refine Process.Confined.bind assertConfigured_confined fun _ => ?_
  refine Process.Confined.bind (isActiveLocale_confined (fun _ => hP _ trivial) _) fun active => ?_
  dsimp only
  split
  · trivial
  refine Process.Confined.bind (confined_read (by rfl) (hP _ trivial)) fun existingUser => ?_
  split
  · trivial
  refine Process.Confined.bind (confined_read (by rfl) (hP _ trivial)) fun pending => ?_
  split
  · trivial
  refine Process.Confined.bind (enforceSendLimits_confined (of_isLookup hP) _) fun _ => ?_
  refine Process.Confined.bind (mintInviteToken_confined (hP _ trivial)) fun rawToken => ?_
  refine Process.Confined.bind (confined_read (by rfl) (hP _ trivial)) fun now => ?_
  refine Process.Confined.bind ?_ fun created => ?_
  · exact Process.Confined.tryCatch (confined_writeOr (hdraft _ rfl rfl rfl)) fun e _ =>
      onUniqueViolation_confined e
  · exact Process.Confined.bind (queueDelivery_confined _ (hP _ trivial)) fun _ => trivial

theorem preview_confined (rawToken : String) :
    InvitationConfined E P (preview E rawToken) := by
  refine Process.Confined.bind assertConfigured_confined fun _ => ?_
  dsimp only
  split
  · trivial
  refine Process.Confined.bind (confined_read (by rfl) (hP _ trivial)) fun found => ?_
  split
  · trivial
  split
  · trivial
  refine Process.Confined.bind (confined_read (by rfl) (hP _ trivial)) fun now => ?_
  split <;> trivial

theorem findOwned_confined (senderUserId id : ℕ) :
    InvitationConfined E P (findOwned senderUserId id) := by
  refine Process.Confined.bind (confined_read (by rfl) (hP _ trivial)) fun row => ?_
  split <;> trivial

theorem revoke_confined (hrevoke : ∀ id date, P (.invitationRevoke id date))
    (senderUserId id : ℕ) : InvitationConfined E P (revoke E senderUserId id) := by
  refine Process.Confined.bind assertConfigured_confined fun _ => ?_
  refine Process.Confined.bind (findOwned_confined hP _ _) fun row => ?_
  split
  · trivial
  · exact Process.Confined.bind (confined_read (by rfl) (hP _ trivial)) fun date =>
      confined_writeOr (hrevoke _ _)

theorem resend_confined (hresend : ∀ id tokenHash date expiresAt senderUserId,
      P (.invitationResend id tokenHash date expiresAt senderUserId)) (senderUserId id : ℕ) :
    InvitationConfined E P (resend E senderUserId id) := by
  refine Process.Confined.bind assertConfigured_confined fun _ => ?_
  refine Process.Confined.bind (findOwned_confined hP _ _) fun row => ?_
  split
  · trivial
  refine Process.Confined.bind (confined_read (by rfl) (hP _ trivial)) fun registered => ?_
  split
  · trivial
  refine Process.Confined.bind (enforceCooldown_confined (of_isLookup hP) row) fun _ => ?_
  refine Process.Confined.bind (enforceSendLimits_confined (of_isLookup hP) _) fun _ => ?_
  refine Process.Confined.bind (mintInviteToken_confined (hP _ trivial)) fun rawToken => ?_
  refine Process.Confined.bind (confined_read (by rfl) (hP _ trivial)) fun now => ?_
  refine Process.Confined.bind ?_ fun updated => ?_
  · exact Process.Confined.tryCatch (confined_writeOr (hresend _ _ _ _ _)) fun e _ =>
      onUniqueViolation_confined e
  · exact Process.Confined.bind (queueDelivery_confined _ (hP _ trivial)) fun _ => trivial

theorem sweepExpired_confined (senderUserId : Option ℕ) :
    InvitationConfined E P (sweepExpired E senderUserId) :=
  Process.Confined.bind (confined_read (by rfl) (hP _ trivial)) fun _ =>
    confined_write (hP _ trivial)

theorem acceptByToken_confined (rawToken : String) (userId : ℕ) :
    InvitationConfined E P (acceptByToken E rawToken userId) :=
  Process.Confined.bind (confined_read (by rfl) (hP _ trivial)) fun _ =>
    confined_write (hP _ trivial)

theorem acceptByEmail_confined (email : String) (userId : ℕ) :
    InvitationConfined E P (acceptByEmail E email userId) :=
  Process.Confined.bind (confined_read (by rfl) (hP _ trivial)) fun _ =>
    confined_write (hP _ trivial)

theorem plainRequest_confined {r : InvitationRequest} (hr : r.isPlain) :
    InvitationConfined E P (r.process E) := by
  cases r with
  | create _ _ | revoke _ _ | resend _ _ | deliver _ => exact hr.elim
  | preview rawToken => exact .map _ (preview_confined hP rawToken)
  | sweepExpired senderUserId => exact .map _ (sweepExpired_confined hP senderUserId)
  | acceptByToken rawToken userId => exact .map _ (acceptByToken_confined hP rawToken userId)
  | acceptByEmail email userId => exact .map _ (acceptByEmail_confined hP email userId)

omit hP in
theorem deliver_confined {d : Delivery} (hP : ∀ l : InvitationCall, l.delivers d → P l) :
    InvitationConfined E P (deliver E d) := by
  refine Process.Confined.bind (confined_read (by rfl) (hP _ trivial)) fun sender => ?_
  refine Process.Confined.tryCatch (T := fun _ => True) ?_ fun e _ => ?_
  · refine Process.Confined.bind ?_ fun _ =>
      Process.Confined.bind (confined_writeOr (hP _ rfl)) fun _ => trivial
    unfold send
    refine Process.Confined.bind (confined_read (by rfl) (hP _ trivial)) fun now => ?_
    split
    · trivial
    · exact confined_write (hP _ trivial)
  · exact Process.Confined.bind (confined_writeOr (hP _ ⟨rfl, rfl⟩)) fun _ => trivial

end Calls

end InvitationService

open InvitationService in
theorem InvitationRequest.process_confined (E : InvitationEnv) (r : InvitationRequest) :
    InvitationConfined E (fun _ => True) (r.process E) := by
  cases r with
  | create sender dto =>
      exact .map _ (create_confined (fun _ _ => trivial) (fun _ _ _ _ => trivial) sender dto)
  | revoke senderUserId id =>
      exact .map _ (revoke_confined (fun _ _ => trivial) (fun _ _ => trivial) senderUserId id)
  | resend senderUserId id =>
      exact .map _ (resend_confined (fun _ _ => trivial) (fun _ _ _ _ _ => trivial) senderUserId
        id)
  | deliver delivery => exact .map _ (deliver_confined fun _ _ => trivial)
  | _ => exact plainRequest_confined (fun _ _ => trivial) trivial

end FifiAlert
