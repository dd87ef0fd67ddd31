import FifiAlert.Invitation.InvitationCalls

/-!
# The invitation service

Inviting somebody by email: create and send, withdraw, resend, validate a link,
and record that the recipient joined. The message itself is sent by a delivery
that is put off until the request has been answered.
-/

namespace FifiAlert

open Concurrency Store InvitationCall InvitationText

/-- The sender, as the access token names them. -/
structure ITokenUser where
  id : ℕ
  email : Option String := none

structure CreateInvitationDto where
  recipientEmail : String
  recipientName : Option String := none
  message : Option String := none
  locale : String
  subject : String
  body : String

/-- An invitation as its sender sees it. -/
structure InvitationDto where
  id : String
  recipientEmail : String
  recipientName : Option String
  locale : String
  status : InvitationStatus
  createdAt : Time
  sentAt : Time
  expiresAt : Time
  acceptedAt : Option Time
  acceptedVia : Option InvitationAcceptedVia
  deriving DecidableEq

/-- What an invite link shows to the person who opens it. -/
structure InvitationPreviewDto where
  recipientEmail : String
  recipientName : Option String
  locale : String
  senderName : String
  deriving DecidableEq

def DAY_MS : ℤ := 24 * 60 * 60 * 1000
def HOUR_MS : ℤ := 60 * 60 * 1000

/-- Longest raw token taken from clients. -/
def INVITE_TOKEN_MAX_LENGTH : ℕ := 256

def isPlausibleInviteToken (value : String) : Bool :=
  0 < value.length && value.length ≤ INVITE_TOKEN_MAX_LENGTH &&
    value.toList.all fun c => c.isAlphanum || c = '_' || c = '-'

/-- `LanguageService.normalizeCode` on a string. -/
def normalizeCode (E : InvitationEnv) (value : String) : Option String :=
  let primary := (E.toLowerCase (String.ofList (Js.trim value.toList))).toList.takeWhile
    fun c => c ≠ '-' && c ≠ '_'
  if 2 ≤ primary.length ∧ primary.length ≤ 8 ∧ primary.all Char.isLower then
    some (String.ofList primary)
  else none

def toInvitationDto (row : Invitation) : InvitationDto where
  id := toString row.id
  recipientEmail := row.recipientEmail
  recipientName := row.recipientName
  locale := row.locale
  status := row.status
  createdAt := row.createdAt
  sentAt := row.sentAt
  expiresAt := row.expiresAt
  acceptedAt := row.acceptedAt
  acceptedVia := row.acceptedVia

/-- The `select` of a user's names. -/
def User.names (user : User) : SenderNameSource where
  firstName := some user.firstName
  lastName := some user.lastName
  name := some user.name

namespace InvitationService

def assertConfigured (E : InvitationEnv) : InvitationProcess Unit :=
  if !E.enabled then .raise (.serviceUnavailable "Invitations not configured") else return ()

def alreadyRegistered : AppError := .conflict "Recipient already has an account"

def invitePending : AppError := .conflict "An invitation to this address is already pending"

/-- The `catch` clause around the transactions: a unique violation is a pending
invitation. -/
def onUniqueViolation {α : Type} (e : AppError) : InvitationProcess α :=
  match e with
  | .prisma .P2002 => .raise invitePending
  | e => .raise e

def sweepExpired (E : InvitationEnv) (senderUserId : Option ℕ) : InvitationProcess Unit := do
  let now ← read .dateNow World.now
  write E (.invitationSweep senderUserId now) fun _ => ()

/-- How many sends did not fail at the provider, of one sender or of all, after a
moment. -/
def countSends (senderUserId : Option ℕ) (after : Time) (w : World) : ℕ :=
  w.invitationSendLogs.count fun r =>
    senderUserId.all (r.senderUserId = ·) && after < r.sentAt && r.outcome ≠ .failed

def enforceSendLimits (E : InvitationEnv) (senderUserId : ℕ) : InvitationProcess Unit := do
  let now ← read .dateNow World.now
  let daily ← read (.sendLogCount (some senderUserId) (now - DAY_MS))
    (countSends (some senderUserId) (now - DAY_MS))
  if daily ≥ E.dailyLimit then
    .raise (.tooManyRequests "Daily invitation limit reached")
  else if E.globalHourlyLimit > 0 then
    let hourly ← read (.sendLogCount none (now - HOUR_MS)) (countSends none (now - HOUR_MS))
    if hourly ≥ E.globalHourlyLimit then
      .raise (.tooManyRequests "Invitations are temporarily unavailable, try again later")
    else return ()
  else return ()

def mintInviteToken (E : InvitationEnv) : InvitationProcess String := do
  let n ← write E .randomBytes World.nextInviteToken
  return E.mintToken n

/-- `setImmediate`: the delivery runs in a later turn. -/
def queueDelivery (E : InvitationEnv) (delivery : Delivery) : InvitationProcess Unit :=
  write E (.setImmediate delivery) fun _ => ()

/-- Every rule that the texts of a new invitation break. -/
def createErrors (E : InvitationEnv) (sender : ITokenUser) (dto : CreateInvitationDto)
    (locale : Option String) (active : Bool) (recipientEmail : String) : List String :=
  let subject := normalizeText dto.subject.toList
  let body := normalizeText dto.body.toList
  (if locale.isNone || !active then ["locale must be a supported language code"] else []) ++
  plainTextErrors "subject" subject 1 200 ++
  plainTextErrors "body" body 1 4000 ++
  (if countPlaceholders body ≠ 1 then
    ["body must contain exactly one " ++ INVITE_LINK_PLACEHOLDER] else []) ++
  (if recipientEmail = E.toLowerCase (sender.email.getD "") then
    ["recipientEmail must not be your own address"] else [])

/-- The row that `create` inserts; the database numbers it. -/
def newInvitation (E : InvitationEnv) (sender : ITokenUser) (dto : CreateInvitationDto)
    (locale recipientEmail rawToken : String) (now : Time) : Invitation where
  id := 0
  senderUserId := sender.id
  recipientEmail := recipientEmail
  recipientName := dto.recipientName
  locale := locale
  subject := String.ofList (normalizeText dto.subject.toList)
  body := String.ofList (normalizeText dto.body.toList)
  message := dto.message
  tokenHash := E.hashToken rawToken
  createdAt := now
  sentAt := now
  expiresAt := now + E.ttlDays * DAY_MS

/-- Only a code that could be read is looked up. -/
def isActiveLocale (locale : Option String) : InvitationProcess Bool :=
  match locale with
  | some code => read (.isActiveCode code) fun w => w.activeLanguages.contains code
  | none => .ret false

def create (E : InvitationEnv) (sender : ITokenUser) (dto : CreateInvitationDto) :
    InvitationProcess InvitationDto := do
  assertConfigured E
  let locale := normalizeCode E dto.locale
  let active ← isActiveLocale locale
  let recipientEmail := E.toLowerCase (String.ofList (Js.trim dto.recipientEmail.toList))
  let errors := createErrors E sender dto locale active recipientEmail
  if !errors.isEmpty then .raise (.badRequest errors)
  else
    let existingUser ← read (.userFindByEmail recipientEmail) fun w =>
      w.users.rows.any fun u => u.email = recipientEmail
    if existingUser then .raise alreadyRegistered
    else
      let pending ← read (.invitationFindPending sender.id recipientEmail) fun w =>
        w.invitations.rows.any (Invitation.pendingTo sender.id recipientEmail)
      if pending then .raise invitePending
      else
        enforceSendLimits E sender.id
        let rawToken ← mintInviteToken E
        let now ← read .dateNow World.now
        let draft := newInvitation E sender dto (locale.getD "") recipientEmail rawToken now
        let (invitation, logId) ←
          (writeOr E (.invitationCreate draft) fun w =>
            let row := { draft with id := w.nextInvitation }
            if uniqueViolation w.invitations row then .error .P2002
            else .ok (row, w.nextSendLog)).tryCatch onUniqueViolation
        queueDelivery E ⟨invitation, rawToken,
          String.ofList (Js.trim dto.recipientEmail.toList), logId⟩
        return toInvitationDto invitation

/-- Who sent the invitation that a link leads to. -/
def senderOf (w : World) (row : Invitation) : SenderNameSource :=
  ((w.users.find? row.senderUserId).map User.names).getD {}

def preview (E : InvitationEnv) (rawToken : String) : InvitationProcess InvitationPreviewDto := do
  assertConfigured E
  let notFound : AppError := .notFound "Invitation not found or no longer valid"
  if !isPlausibleInviteToken rawToken then .raise notFound
  else
    let found ← read (.invitationFindByToken (E.hashToken rawToken)) fun w =>
      (w.invitations.rows.find? fun r => r.tokenHash = E.hashToken rawToken).map fun row =>
        (row, senderOf w row)
    match found with
    | none => .raise notFound
    | some (row, sender) =>
      if row.status ≠ .PENDING then .raise notFound
      else
        let now ← read .dateNow World.now
        if row.expiresAt ≤ now then .raise notFound
        else
          return { recipientEmail := row.recipientEmail, recipientName := row.recipientName
                   locale := row.locale, senderName := senderDisplayName sender }

/-- The row, for its sender only. -/
def findOwned (senderUserId id : ℕ) : InvitationProcess Invitation := do
  let row ← read (.invitationFindOwned id senderUserId) fun w =>
    (w.invitations.find? id).filter fun r => r.senderUserId = senderUserId
  match row with
  | none => .raise (.notFound "Invitation not found")
  | some row => return row

def revoke (E : InvitationEnv) (senderUserId id : ℕ) : InvitationProcess Unit := do
  assertConfigured E
  let row ← findOwned senderUserId id
  if row.status ≠ .PENDING then
    .raise (.unprocessableEntity "Only pending invitations can be withdrawn")
  else
    let date ← read .dateNow World.now
    writeOr E (.invitationRevoke row.id date) fun w =>
      if (w.invitations.find? row.id).isSome then .ok () else .error .P2025

/-- The wait after a send that left the building. -/
def enforceCooldown (E : InvitationEnv) (row : Invitation) : InvitationProcess Unit := do
  let lastSend ← read (.sendLogFindLast row.id) fun w =>
    (w.invitationSendLogs.findMany fun r => r.invitationId = row.id).foldl
      (fun last r => match last with
        | some l => if l.sentAt < r.sentAt ∨ (l.sentAt = r.sentAt ∧ l.id < r.id) then some r
            else some l
        | none => some r) (none : Option InvitationSendLog)
  if lastSend.map InvitationSendLog.outcome = some .failed then return ()
  else
    let now ← read .dateNow World.now
    if now - row.sentAt < E.resendCooldownMinutes * 60 * 1000 then
      .raise (.tooManyRequests "Please wait before resending this invitation")
    else return ()

def resend (E : InvitationEnv) (senderUserId id : ℕ) : InvitationProcess InvitationDto := do
  assertConfigured E
  let row ← findOwned senderUserId id
  if row.status = .ACCEPTED ∨ row.status = .REVOKED then
    .raise (.unprocessableEntity "Invitation can no longer be resent")
  else
    let registered ← read (.userFindByEmail row.recipientEmail) fun w =>
      w.users.rows.any fun u => u.email = row.recipientEmail
    if registered then .raise alreadyRegistered
    else
      enforceCooldown E row
      enforceSendLimits E senderUserId
      let rawToken ← mintInviteToken E
      let now ← read .dateNow World.now
      let expiresAt := now + E.ttlDays * DAY_MS
      let (invitation, logId) ←
        (writeOr E (.invitationResend row.id (E.hashToken rawToken) now expiresAt senderUserId)
          fun w => (resentRow row.id (E.hashToken rawToken) now expiresAt w.invitations).map
            fun row' => (row', w.nextSendLog)).tryCatch onUniqueViolation
      queueDelivery E ⟨invitation, rawToken, invitation.recipientEmail, logId⟩
      return toInvitationDto invitation

def buildInviteAcceptUrl (baseUrl rawToken : String) : String :=
  baseUrl ++ "/accept-invite?token=" ++ String.ofList (Js.encodeURIComponent rawToken.toList)

/-- What `deliver` puts into the template. -/
def templateData (invitation : Invitation) (link senderName : String) (year : ℤ) :
    InvitationTemplateData :=
  let chrome := getInvitationChrome invitation.locale
  { subject := String.ofList (escapeHtml invitation.subject.toList)
    bodyHtml := String.ofList (renderInvitationHtmlBody invitation.body.toList link.toList)
    chrome
    receivedBecause := String.ofList (escapeHtml (Js.replace chrome.receivedBecause.toList
      "\x7bsenderName\x7d".toList senderName.toList))
    year }

/-- `send`: hand the rendered message to the provider. -/
def send (E : InvitationEnv) (d : Delivery) (senderName : String) : InvitationProcess Unit := do
  let link := buildInviteAcceptUrl E.baseUrl d.rawToken
  let now ← read .dateNow World.now
  match E.loadTemplate (templateData d.invitation link senderName (E.getFullYear now)) with
  | .error e => .raise e
  | .ok html =>
    write E (.sendMail
      { sender := E.mailFrom, recipient := d.toAddress, subject := d.invitation.subject, html
        text := String.ofList
          (renderInvitationTextBody d.invitation.body.toList link.toList) }) fun _ => ()

def deliver (E : InvitationEnv) (d : Delivery) : InvitationProcess Bool := do
  let sender ← read (.userFindUnique d.invitation.senderUserId) fun w => senderOf w d.invitation
  Process.tryCatch
    (do
      send E d (senderDisplayName sender)
      writeOr E (.sendLogSent d.logId) fun w =>
        if (w.invitationSendLogs.find? d.logId).isSome then .ok () else .error .P2025
      return true)
    fun e => do
      let message := String.ofList (e.message.toList.take 500)
      writeOr E (.deliveryFailed d.logId message d.invitation) fun w =>
        if (w.invitationSendLogs.find? d.logId).isSome then .ok () else .error .P2025
      return false

/-- The rows an acceptance changes. -/
def countOpen (p : Invitation → Bool) (now : Time) (w : World) : ℕ :=
  w.invitations.count fun r => p r && r.isOpen now

def acceptByToken (E : InvitationEnv) (rawToken : String) (userId : ℕ) : InvitationProcess ℕ := do
  let now ← read .dateNow World.now
  write E (.invitationAcceptByToken (E.hashToken rawToken) now userId)
    (countOpen (fun r => r.tokenHash = E.hashToken rawToken) now)

def acceptByEmail (E : InvitationEnv) (email : String) (userId : ℕ) : InvitationProcess ℕ := do
  let now ← read .dateNow World.now
  let recipientEmail := E.toLowerCase (String.ofList (Js.trim email.toList))
  write E (.invitationAcceptByEmail recipientEmail now userId)
    (countOpen (fun r => r.recipientEmail = recipientEmail) now)

end InvitationService

/-- What can happen to invitations. -/
inductive InvitationRequest where
  | create (sender : ITokenUser) (dto : CreateInvitationDto)
  | preview (rawToken : String)
  | revoke (senderUserId id : ℕ)
  | resend (senderUserId id : ℕ)
  | deliver (delivery : Delivery)
  | sweepExpired (senderUserId : Option ℕ)
  | acceptByToken (rawToken : String) (userId : ℕ)
  | acceptByEmail (email : String) (userId : ℕ)

inductive InvitationAnswer where
  | invitation (dto : InvitationDto)
  | preview (dto : InvitationPreviewDto)
  | delivered (sent : Bool)
  | count (n : ℕ)
  | done
  deriving DecidableEq

/-- The process that serves a request. -/
def InvitationRequest.process (E : InvitationEnv) :
    InvitationRequest → InvitationProcess InvitationAnswer
  | create sender dto => .invitation <$> InvitationService.create E sender dto
  | preview rawToken => .preview <$> InvitationService.preview E rawToken
  | revoke senderUserId id => (fun _ => .done) <$> InvitationService.revoke E senderUserId id
  | resend senderUserId id => .invitation <$> InvitationService.resend E senderUserId id
  | deliver delivery => .delivered <$> InvitationService.deliver E delivery
  | sweepExpired senderUserId =>
      (fun _ => .done) <$> InvitationService.sweepExpired E senderUserId
  | acceptByToken rawToken userId => .count <$> InvitationService.acceptByToken E rawToken userId
  | acceptByEmail email userId => .count <$> InvitationService.acceptByEmail E email userId

end FifiAlert
