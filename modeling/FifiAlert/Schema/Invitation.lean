import FifiAlert.Schema.Auth

/-!
# Invitations

An invitation belongs to its sender and carries the hash of the one token that
accepts it. Every send leaves a row in the send log, and a delivery that the
server has scheduled carries the raw token.
-/

namespace FifiAlert

open Store

inductive InvitationStatus where
  | PENDING
  | ACCEPTED
  | EXPIRED
  | REVOKED
  deriving DecidableEq, Inhabited

inductive InvitationAcceptedVia where
  | TOKEN
  | EMAIL
  deriving DecidableEq, Inhabited

structure Invitation where
  id : ℕ
  senderUserId : ℕ
  recipientEmail : String
  recipientName : Option String := none
  locale : String := "en"
  subject : String := ""
  body : String := ""
  message : Option String := none
  tokenHash : String
  status : InvitationStatus := .PENDING
  acceptedVia : Option InvitationAcceptedVia := none
  createdAt : Time := 0
  sentAt : Time := 0
  expiresAt : Time := 0
  acceptedAt : Option Time := none
  revokedAt : Option Time := none
  convertedUserId : Option ℕ := none
  deriving DecidableEq, Inhabited

inductive SendOutcome where
  | queued
  | sent
  | failed
  deriving DecidableEq, Inhabited

structure InvitationSendLog where
  id : ℕ
  invitationId : ℕ
  senderUserId : ℕ
  recipientHash : String
  sentAt : Time := 0
  outcome : SendOutcome := .queued
  error : Option String := none
  deriving DecidableEq, Inhabited

/-- The arguments of a delivery that was scheduled. -/
structure Delivery where
  invitation : Invitation
  rawToken : String
  toAddress : String
  logId : ℕ
  deriving DecidableEq, Inhabited

structure InvitationMail where
  sender : String
  recipient : String
  subject : String
  html : String
  text : String
  deriving DecidableEq, Inhabited

abbrev Invitations := Table Invitation Invitation.id
abbrev InvitationSendLogs := Table InvitationSendLog InvitationSendLog.id

end FifiAlert
