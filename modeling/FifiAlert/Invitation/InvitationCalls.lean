import FifiAlert.Concurrency.Process
import FifiAlert.Errors
import FifiAlert.Invitation.InvitationText
import FifiAlert.World

/-!
# The calls of the invitation service

The statements of `InvitationService`, as labels with their arguments, and what
each of them does to the shared state. A transaction is one call.
-/

namespace FifiAlert

open Concurrency Store

/-- What is put into the template of the message. -/
structure InvitationTemplateData where
  subject : String
  bodyHtml : String
  chrome : InvitationText.InvitationChrome
  receivedBecause : String
  year : ℤ

/-- The configuration of the service, the hash of a token, the token minted from
the `n`-th draw of random bytes, the lower case of a string, the year of a date,
and the rendering of the template. -/
structure InvitationEnv where
  baseUrl : String := ""
  ttlDays : ℕ := 30
  dailyLimit : ℕ := 20
  resendCooldownMinutes : ℕ := 60
  globalHourlyLimit : ℕ := 500
  mailFrom : String := ""
  hashToken : String → String
  mintToken : ℕ → String
  toLowerCase : String → String
  getFullYear : Time → ℤ
  loadTemplate : InvitationTemplateData → Except AppError String

/-- `enabled`: `INVITE_BASE_URL` is set. -/
def InvitationEnv.enabled (E : InvitationEnv) : Bool :=
  E.baseUrl ≠ ""

inductive InvitationCall where
  | dateNow
  | isActiveCode (code : String)
  | userFindByEmail (email : String)
  | userFindUnique (id : ℕ)
  | invitationFindPending (senderUserId : ℕ) (recipientEmail : String)
  | invitationFindOwned (id senderUserId : ℕ)
  | invitationFindByToken (tokenHash : String)
  | sendLogCount (senderUserId : Option ℕ) (after : Time)
  | sendLogFindLast (invitationId : ℕ)
  | randomBytes
  | invitationCreate (invitation : Invitation)
  | invitationResend (id : ℕ) (tokenHash : String) (date expiresAt : Time) (senderUserId : ℕ)
  | invitationRevoke (id : ℕ) (date : Time)
  | invitationSweep (senderUserId : Option ℕ) (date : Time)
  | invitationAcceptByToken (tokenHash : String) (date : Time) (userId : ℕ)
  | invitationAcceptByEmail (recipientEmail : String) (date : Time) (userId : ℕ)
  | sendLogSent (logId : ℕ)
  | deliveryFailed (logId : ℕ) (message : String) (invitation : Invitation)
  | sendMail (mail : InvitationMail)
  | setImmediate (delivery : Delivery)

namespace Invitation

def isPending (row : Invitation) : Bool := row.status = .PENDING

/-- `data` of an acceptance. -/
def accept (via : InvitationAcceptedVia) (date : Time) (userId : ℕ) (row : Invitation) :
    Invitation :=
  { row with
    status := .ACCEPTED, acceptedVia := some via, acceptedAt := some date,
    convertedUserId := some userId }

theorem accept_id (via : InvitationAcceptedVia) (date : Time) (userId : ℕ) (row : Invitation) :
    (row.accept via date userId).id = row.id := rfl

/-- `data` of a resend. -/
def resent (tokenHash : String) (date expiresAt : Time) (row : Invitation) : Invitation :=
  { row with tokenHash, status := .PENDING, sentAt := date, expiresAt }

theorem resent_id (tokenHash : String) (date expiresAt : Time) (row : Invitation) :
    (row.resent tokenHash date expiresAt).id = row.id := rfl

/-- The partial unique index: one pending invitation for a sender and an
address. -/
def pendingTo (senderUserId : ℕ) (recipientEmail : String) (row : Invitation) : Bool :=
  row.senderUserId = senderUserId && row.recipientEmail = recipientEmail && row.isPending

/-- The `where` clause of an acceptance, apart from what names the rows. -/
def isOpen (date : Time) (row : Invitation) : Bool :=
  row.isPending && date < row.expiresAt

end Invitation

namespace InvitationCall

/-- Does another row stand in the way of writing this one? -/
def uniqueViolation (t : Invitations) (row : Invitation) : Bool :=
  t.rows.any fun other => other.id ≠ row.id &&
    (other.tokenHash = row.tokenHash ||
      (row.isPending && other.pendingTo row.senderUserId row.recipientEmail))

/-- The row that a resend leaves, when it goes through. -/
def resentRow (id : ℕ) (tokenHash : String) (date expiresAt : Time) (t : Invitations) :
    Except PrismaError Invitation :=
  match t.find? id with
  | none => .error .P2025
  | some row =>
    let row' := row.resent tokenHash date expiresAt
    if uniqueViolation t row' then .error .P2002 else .ok row'

/-- A resend that goes through rewrites a row that is there. -/
theorem resentRow_eq_ok {t : Invitations} {id : ℕ} {tokenHash : String} {date expiresAt : Time}
    {row : Invitation} (h : resentRow id tokenHash date expiresAt t = .ok row) :
    ∃ v, t.find? id = some v ∧ row = v.resent tokenHash date expiresAt := by
  unfold resentRow at h
  split at h
  · cases h
  · rename_i v hv
    dsimp only at h
    split at h
    · cases h
    · cases h
      exact ⟨v, hv, rfl⟩

theorem id_of_resentRow {t : Invitations} {id : ℕ} {tokenHash : String} {date expiresAt : Time}
    {row : Invitation} (h : resentRow id tokenHash date expiresAt t = .ok row) : row.id = id := by
  obtain ⟨v, hv, hrow⟩ := resentRow_eq_ok h
  have hkey : v.id = id := Table.key_of_find? hv
  rw [hrow, Invitation.resent_id, hkey]

/-- The log row of a send. -/
def queuedLog (E : InvitationEnv) (logId : ℕ) (row : Invitation) (senderUserId : ℕ)
    (date : Time) : InvitationSendLog where
  id := logId
  invitationId := row.id
  senderUserId := senderUserId
  recipientHash := E.hashToken row.recipientEmail
  sentAt := date

/-- What a call does to the invitations. -/
def onInvitations (l : InvitationCall) (w : World) : Invitations :=
  match l with
  | invitationCreate invitation =>
      let row := { invitation with id := w.nextInvitation }
      if uniqueViolation w.invitations row then w.invitations else w.invitations.insertNew row
  | invitationResend id tokenHash date expiresAt _ =>
      match resentRow id tokenHash date expiresAt w.invitations with
      | .ok _ =>
          w.invitations.updateMany (fun r => r.id = id) (Invitation.resent tokenHash date expiresAt)
            (Invitation.resent_id tokenHash date expiresAt)
      | .error _ => w.invitations
  | invitationRevoke id date =>
      w.invitations.updateMany (fun r => r.id = id) fun r =>
        { r with status := .REVOKED, revokedAt := some date }
  | invitationSweep senderUserId date =>
      w.invitations.updateMany
        (fun r => r.isPending && r.expiresAt < date && senderUserId.all (r.senderUserId = ·))
        fun r => { r with status := .EXPIRED }
  | invitationAcceptByToken tokenHash date userId =>
      w.invitations.updateMany (fun r => r.tokenHash = tokenHash && r.isOpen date)
        (Invitation.accept .TOKEN date userId) (Invitation.accept_id .TOKEN date userId)
  | invitationAcceptByEmail recipientEmail date userId =>
      w.invitations.updateMany (fun r => r.recipientEmail = recipientEmail && r.isOpen date)
        (Invitation.accept .EMAIL date userId) (Invitation.accept_id .EMAIL date userId)
  | deliveryFailed logId _ invitation =>
      if (w.invitationSendLogs.find? logId).isSome then
        w.invitations.updateMany
          (fun r => r.id = invitation.id && r.isPending && r.tokenHash = invitation.tokenHash)
          fun r => { r with status := .EXPIRED }
      else w.invitations
  | _ => w.invitations

/-- What a call does to the send log and the counters of both tables. -/
def onLogs (E : InvitationEnv) (l : InvitationCall) (w : World) : World :=
  match l with
  | invitationCreate invitation =>
      let row := { invitation with id := w.nextInvitation }
      if uniqueViolation w.invitations row then w
      else
        { w with
          invitationSendLogs := w.invitationSendLogs.insertNew
            (queuedLog E w.nextSendLog row row.senderUserId row.sentAt)
          nextInvitation := w.nextInvitation + 1
          nextSendLog := w.nextSendLog + 1 }
  | invitationResend id tokenHash date expiresAt senderUserId =>
      match resentRow id tokenHash date expiresAt w.invitations with
      | .ok row =>
          { w with
            invitationSendLogs := w.invitationSendLogs.insertNew
              (queuedLog E w.nextSendLog row senderUserId date)
            nextSendLog := w.nextSendLog + 1 }
      | .error _ => w
  | sendLogSent logId =>
      { w with
        invitationSendLogs := w.invitationSendLogs.updateMany (fun r => r.id = logId) fun r =>
          { r with outcome := .sent } }
  | deliveryFailed logId message _ =>
      { w with
        invitationSendLogs := w.invitationSendLogs.updateMany (fun r => r.id = logId) fun r =>
          { r with outcome := .failed, error := some message } }
  | randomBytes => { w with nextInviteToken := w.nextInviteToken + 1 }
  | sendMail mail => { w with invitationMails := w.invitationMails ++ [mail] }
  | setImmediate delivery => { w with deliveries := w.deliveries ++ [delivery] }
  | _ => w

/-- What a call does to the shared state. -/
def effect (E : InvitationEnv) (l : InvitationCall) (w : World) : World :=
  { onLogs E l w with invitations := onInvitations l w }

end InvitationCall

abbrev InvitationProcess := Process World InvitationCall AppError

/-- A call that reads the shared state. -/
def InvitationCall.read {α : Type} (l : InvitationCall) (g : World → α) : InvitationProcess α :=
  Process.query l (.prisma .other) g

/-- A call that writes and answers from the state it found. -/
def InvitationCall.write {α : Type} (E : InvitationEnv) (l : InvitationCall) (g : World → α) :
    InvitationProcess α :=
  Process.modify l (.prisma .other) (l.effect E) g

/-- A call that writes, or fails for a reason found in the state. -/
def InvitationCall.writeOr {α : Type} (E : InvitationEnv) (l : InvitationCall)
    (g : World → Except PrismaError α) : InvitationProcess α :=
  Process.atomic l (.prisma .other) fun w => ((g w).mapError .prisma, l.effect E w)

end FifiAlert
