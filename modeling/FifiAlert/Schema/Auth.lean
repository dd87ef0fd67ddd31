import FifiAlert.Js.Json
import FifiAlert.Store.Table

/-!
# Users, roles and sessions

The rows behind authentication, with the columns the program reads or writes.
An access or refresh session is stored under the hash of its token, a
better-auth session under the token itself.
-/

namespace FifiAlert

open Store

/-- Milliseconds since the epoch. -/
abbrev Time := ℤ

structure User where
  id : ℕ
  name : String := ""
  firstName : String := ""
  lastName : String := ""
  email : String
  emailVerified : Bool := false
  image : Option String := none
  createdAt : Time := 0
  updatedAt : Time := 0
  banned : Bool := false
  banReason : Option String := none
  banExpires : Option Time := none
  settings : Option Js.Json := none
  «meta» : Option Js.Json := none
  deriving Inhabited

/-- How a user can sign in: a password, or a provider. -/
structure Account where
  id : ℕ
  accountId : String := ""
  providerId : String
  userId : ℕ
  accessToken : Option String := none
  refreshToken : Option String := none
  idToken : Option String := none
  accessTokenExpiresAt : Option Time := none
  refreshTokenExpiresAt : Option Time := none
  scope : Option String := none
  password : Option String := none
  deriving DecidableEq, Inhabited

structure Role where
  id : ℕ
  slug : String := ""
  level : ℤ := 0
  name : String := ""
  active : Bool := true
  deriving DecidableEq, Inhabited

structure Gate where
  id : ℕ
  slug : String := ""
  name : String := ""
  active : Bool := true
  deriving DecidableEq, Inhabited

/-- An assignment of a role to a user. -/
structure UserRole where
  id : ℕ
  user_id : ℕ
  role_id : ℕ
  deriving DecidableEq, Inhabited

structure UserGate where
  id : ℕ
  user_id : ℕ
  gate_id : ℕ
  deriving DecidableEq, Inhabited

inductive TokenType where
  | session
  | access
  | refresh
  deriving DecidableEq, Inhabited

structure Session where
  token : String
  tokenType : TokenType := .session
  userId : ℕ
  expiresAt : Time
  ipAddress : Option String := none
  userAgent : Option String := none
  revoked : Bool := false
  revokedAt : Option Time := none
  replacementCiphertext : Option String := none
  deriving DecidableEq, Inhabited

/-- A row of better-auth for a link it sent out. -/
structure Verification where
  id : String
  identifier : String
  value : String
  expiresAt : Time := 0
  deriving DecidableEq, Inhabited

/-- An authenticator that a user has registered. -/
structure Passkey where
  id : String
  userId : ℕ
  credentialId : String
  publicKey : List UInt8 := []
  counter : ℕ := 0
  transports : List String := []
  aaguid : String := ""
  deviceType : String := ""
  backedUp : Bool := false
  name : String := ""
  createdAt : Time := 0
  lastUsedAt : Option Time := none
  deriving DecidableEq, Inhabited

inductive PasskeyChallengeType where
  | register
  | login
  deriving DecidableEq, Inhabited

/-- A challenge under its key in Redis, until it expires or is consumed. -/
structure StoredPasskeyChallenge where
  challengeId : String
  challenge : String
  type : PasskeyChallengeType
  userId : Option ℕ := none
  expiresAt : Time
  deriving DecidableEq, Inhabited

abbrev Users := Table User User.id
abbrev Accounts := Table Account Account.id
abbrev Roles := Table Role Role.id
abbrev Gates := Table Gate Gate.id
abbrev UserRoles := Table UserRole UserRole.id
abbrev UserGates := Table UserGate UserGate.id
abbrev Sessions := Table Session Session.token
abbrev Verifications := Table Verification Verification.id
abbrev Passkeys := Table Passkey Passkey.id
abbrev PasskeyChallenges := Table StoredPasskeyChallenge StoredPasskeyChallenge.challengeId

end FifiAlert
