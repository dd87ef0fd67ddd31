import FifiAlert.Auth.AuthController

/-!
# Logging in

The three ways to a pair of tokens besides a rotation: a password, the token of
a social provider, a passkey. Each ends in `LoginIssuerService.issueTokens`,
after the checks of its own. Whether an assertion of a passkey is good, and which
user a provider token stands for, is for the libraries to say.
-/

namespace FifiAlert

open Concurrency Store

structure LoginDto where
  email : String
  password : String

structure PasskeyLoginVerifyDto where
  challengeId : String
  response : Js.Json

structure IPasskeyConfig where
  enabled : Bool
  rpId : String
  origins : List String

/-- What `verifyAuthenticationResponse` finds out about an assertion. -/
structure VerifiedAuthenticationResponse where
  verified : Bool
  newCounter : ℕ
  credentialBackedUp : Bool

/-- What the logins rely on beyond the tables. -/
structure LoginEnv extends AuthEnv where
  toLowerCase : String → String
  isSocialProviderConfigured : String → Bool
  passkeyConfig : IPasskeyConfig
  verifyAuthenticationResponse : IPasskeyConfig → (response : Js.Json) →
    (expectedChallenge : String) → Passkey → Except AppError VerifiedAuthenticationResponse

/-- The pair a login answers with, and for whom. -/
abbrev LoginProcess := AuthProcess IRotatedTokens

/-- `user.findUnique` by address, with the credential account among the accounts. -/
def World.findUserByEmail (w : World) (email : String) : Option (User × Option Account) :=
  (w.users.rows.find? fun u => u.email = email).map fun u => (u, w.credentialAccount u.id)

def DEFAULT_ROLE_SLUG : String := "user"

def World.defaultRole (w : World) : Option Role :=
  w.roles.rows.find? fun r => r.slug = DEFAULT_ROLE_SLUG && r.active

/-- `userRole.createMany` of one row; an assignment that is there already is skipped. -/
def World.assignRole (userId roleId : ℕ) (w : World) : World :=
  if w.userRoles.rows.any fun r => r.user_id = userId && r.role_id = roleId then w
  else
    { w with
      userRoles :=
        w.userRoles.insertNew { id := w.nextUserRole, user_id := userId, role_id := roleId }
      nextUserRole := w.nextUserRole + 1 }

/-- The challenge under this id, while it has not expired. -/
def World.challenge (w : World) (challengeId : String) : Option StoredPasskeyChallenge :=
  (w.passkeyChallenges.find? challengeId).filter fun c => w.now < c.expiresAt

def World.passkeyOf (w : World) (credentialId : String) : Option Passkey :=
  w.passkeys.rows.find? fun p => p.credentialId = credentialId

def Passkey.used (info : VerifiedAuthenticationResponse) (now : Time) (passkey : Passkey) :
    Passkey :=
  { passkey with
    counter := info.newCounter, lastUsedAt := some now, backedUp := info.credentialBackedUp }

theorem Passkey.used_id (info : VerifiedAuthenticationResponse) (now : Time) (passkey : Passkey) :
    (passkey.used info now).id = passkey.id := rfl

namespace UserService

/-- `findOne` by id with roles and gates. -/
def findWithRoles (userId : ℕ) : AuthProcess (Option UserWithRoles) :=
  Process.query (.userFindWithRoles userId) (.prisma .other) fun w => w.findUserWithRoles userId

/-- `assignRolesToUser` for one role: both rows have to exist. -/
def assignRole (userId roleId : ℕ) : AuthProcess Unit :=
  Process.atomic (.userRoleCreate userId roleId) (.prisma .other) fun w =>
    if (w.users.find? userId).isSome && (w.roles.find? roleId).isSome then
      (.ok (), w.assignRole userId roleId)
    else (.error (.prisma .other), w)

/-- `assignDefaultRole`. -/
def assignDefaultRole (userId : ℕ) : AuthProcess Unit := do
  let defaultRole ←
    Process.query (.roleFindFirst DEFAULT_ROLE_SLUG) (.prisma .other) World.defaultRole
  match defaultRole with
  | none =>
    .raise (.notFound ("Default role \"" ++ DEFAULT_ROLE_SLUG ++
      "\" not found or inactive. Please create it."))
  | some role => assignRole userId role.id

end UserService

namespace AuthController

def EMAIL_NOT_VERIFIED_MESSAGE : String :=
  "Please verify your email address before logging in. " ++
    "We sent a new verification link to your email."

/-- `requestVerificationEmail`; a failure is logged only. -/
def requestVerificationEmail (A : AuthEnv) (email : String) : AuthProcess Unit :=
  (betterAuth (.sendVerificationEmail email)
    (A.betterAuth.sendVerificationEmail email)).tryCatch fun _ => return ()

/-- An address that is not verified gets a new link, and no tokens. -/
def refuseUnverified (A : AuthEnv) (email : String) : LoginProcess := do
  requestVerificationEmail A email
  .raise (.forbidden EMAIL_NOT_VERIFIED_MESSAGE)

/-- The password is right, but the address is not verified. -/
def awaitsVerification (A : AuthEnv) (password : String) : Option (User × Option Account) → Bool
  | none => false
  | some (user, account) =>
    !user.emailVerified && (account.bind fun a => Js.truthy a.password).any fun hash =>
      A.verifyPassword hash password

/-- `login` after the user has been read with roles and gates. -/
def issueVerified (A : AuthEnv) (email : String) (ipAddress userAgent : Option String) :
    Option UserWithRoles → LoginProcess
  | none => .raise (.unauthorized "User not found")
  | some user =>
    if !user.user.emailVerified then refuseUnverified A email
    else tokenService (TokenService.issueTokens A.token user ipAddress userAgent)

/-- `login` after better-auth has signed the user in. -/
def issueSignedIn (A : AuthEnv) (email : String) (ipAddress userAgent : Option String) :
    Option ℕ → LoginProcess
  | none => .raise (.unauthorized "Invalid credentials")
  | some userId => do
    let user ← UserService.findWithRoles userId
    issueVerified A email ipAddress userAgent user

/-- `login` under the address in lower case. -/
def loginAs (A : AuthEnv) (normalizedEmail password : String)
    (ipAddress userAgent : Option String) : LoginProcess := do
  let existingUser ← Process.query (.userFindByEmail normalizedEmail) (.prisma .other) fun w =>
    w.findUserByEmail normalizedEmail
  if awaitsVerification A password existingUser then refuseUnverified A normalizedEmail
  else do
    let result ← betterAuth (.signInEmail normalizedEmail password)
      (A.betterAuth.signInEmail normalizedEmail password)
    issueSignedIn A normalizedEmail ipAddress userAgent result

/-- The `catch` of `login`: which check refused is not told. -/
def loginFailed : AppError → LoginProcess
  | .unauthorized message => .raise (.unauthorized message)
  | .refreshTokenReuse userId => .raise (.refreshTokenReuse userId)
  | .forbidden message => .raise (.forbidden message)
  | .emailNotVerified email => .raise (.emailNotVerified email)
  | _ => .raise (.unauthorized "Invalid credentials")

/-- `login`. -/
def login (A : LoginEnv) (loginDto : LoginDto) (ipAddress userAgent : Option String) :
    LoginProcess :=
  (loginAs A.toAuthEnv (A.toLowerCase loginDto.email) loginDto.password ipAddress
    userAgent).tryCatch loginFailed

/-- `mapSocialSignInError`. -/
def mapSocialSignInError (A : LoginEnv) (provider : String) (error : AppError) : AppError :=
  let message := (A.toLowerCase error.message).toList
  let has (part : String) := Js.includes message part.toList
  if has "email not found" || has "email is required" then
    .badRequest [provider ++ " did not share an email address for this account. " ++
      "Grant the email permission and try again."]
  else if has "not linked" || has "unable to link" then
    .conflict ("An account with this email already exists and could not be linked " ++
      "automatically. Sign in with your password first.")
  else if has "provider not found" then
    .serviceUnavailable (provider ++ " sign-in is not configured")
  else .unauthorized ("Could not verify the " ++ provider ++ " token")

/-- The `meta` of a user who has just signed up. -/
def firstTime : List (String × Js.Json) := [("meta", .obj [("firstTime", .bool true)])]

/-- What `signup` does for a new user, after a first social sign-in. -/
def completeSignup (A : AuthEnv) (N : NestedWrites) (userId : ℕ) :
    AuthProcess (Option UserWithRoles) := do
  let _ ← (UserService.update A.user N userId firstTime).relabel AuthCall.user
  UserService.assignDefaultRole userId
  UserService.findWithRoles userId

def issueFound (A : AuthEnv) (ipAddress userAgent : Option String) :
    Option UserWithRoles → LoginProcess
  | none => .raise (.unauthorized "User not found")
  | some user => tokenService (TokenService.issueTokens A.token user ipAddress userAgent)

/-- `socialLogin` after the user has been read: without a role they are new. -/
def issueSocial (A : AuthEnv) (N : NestedWrites) (userId : ℕ)
    (ipAddress userAgent : Option String) : Option UserWithRoles → LoginProcess
  | none => .raise (.unauthorized "User not found")
  | some user =>
    if user.roles.isEmpty then do
      let completed ← completeSignup A N userId
      issueFound A ipAddress userAgent completed
    else tokenService (TokenService.issueTokens A.token user ipAddress userAgent)

/-- `socialLogin` after better-auth has verified the token. -/
def issueSocialSignedIn (A : AuthEnv) (N : NestedWrites) (ipAddress userAgent : Option String) :
    Option ℕ → LoginProcess
  | none => .raise (.unauthorized "Social sign-in failed")
  | some userId => do
    let user ← UserService.findWithRoles userId
    issueSocial A N userId ipAddress userAgent user

/-- `socialLogin`. -/
def socialLogin (A : LoginEnv) (N : NestedWrites) (dto : SocialLoginDto)
    (ipAddress userAgent : Option String) : LoginProcess :=
  if !A.isSocialProviderConfigured dto.provider then
    .raise (.serviceUnavailable (dto.provider ++ " sign-in is not configured"))
  else do
    let result ← (betterAuth (.signInSocial dto) (A.betterAuth.signInSocial dto)).tryCatch
      fun error => .raise (mapSocialSignInError A dto.provider error)
    issueSocialSignedIn A.toAuthEnv N ipAddress userAgent result

end AuthController

namespace PasskeyService

def notConfigured : String := "passkeys not configured"
def unknownChallenge : String := "unknown or expired challenge"
def verificationFailed : String := "verification failed"
def unknownCredential : String := "unknown credential"

/-- `PasskeyChallengeStore.consume`: the challenge is read and deleted at once. -/
def consume (challengeId : String) : AuthProcess (Option StoredPasskeyChallenge) :=
  if challengeId = "" then return none
  else
    Process.modify (.challengeConsume challengeId) (.error "Redis") (fun w =>
      { w with
        passkeyChallenges :=
          w.passkeyChallenges.deleteMany fun c => c.challengeId = challengeId })
      fun w => w.challenge challengeId

/-- The counter and the time of use are written to the row. -/
def recordUse (passkey : Passkey) (info : VerifiedAuthenticationResponse) : AuthProcess Unit :=
  Process.atomic (.passkeyUpdate passkey.id info.newCounter info.credentialBackedUp)
      (.prisma .other) fun w =>
    (match w.passkeys.find? passkey.id with
      | some _ => .ok ()
      | none => .error (.prisma .P2025),
      { w with
        passkeys := w.passkeys.updateMany (fun p => p.id = passkey.id) (Passkey.used info w.now)
          (Passkey.used_id info w.now) })

/-- The check of the owner, before the row is written. -/
def acceptOwner (passkey : Passkey) (info : VerifiedAuthenticationResponse) :
    Option User → AuthProcess ℕ
  | none => .raise (.unauthorized "User not found")
  | some owner =>
    if !owner.emailVerified then .raise (.emailNotVerified owner.email)
    else do
      recordUse passkey info
      return passkey.userId

/-- `finishLogin` after the passkey has been read. -/
def acceptAssertion (A : LoginEnv) (stored : StoredPasskeyChallenge) (response : Js.Json) :
    Option Passkey → AuthProcess ℕ
  | none => .raise (.unauthorized unknownCredential)
  | some passkey =>
    match A.verifyAuthenticationResponse A.passkeyConfig response stored.challenge passkey with
    | .error _ => .raise (.unauthorized verificationFailed)
    | .ok info =>
      if !info.verified then .raise (.unauthorized verificationFailed)
      else do
        let owner ← Process.query (.user (.userFindUnique passkey.userId)) (.prisma .other)
          fun w => w.users.find? passkey.userId
        acceptOwner passkey info owner

/-- The credential that a response names. -/
def credentialId (response : Js.Json) : Option String :=
  match response.get? "id" with
  | some (.str id) => Js.truthy (some id)
  | _ => none

/-- `finishLogin` after the challenge has been consumed. -/
def answerChallenge (A : LoginEnv) (response : Js.Json) :
    Option StoredPasskeyChallenge → AuthProcess ℕ
  | none => .raise (.badRequest [unknownChallenge])
  | some stored =>
    if stored.type ≠ .login then .raise (.badRequest [unknownChallenge])
    else
      match credentialId response with
      | none => .raise (.unauthorized unknownCredential)
      | some id => do
        let passkey ← Process.query (.passkeyFindUnique id) (.prisma .other) fun w =>
          w.passkeyOf id
        acceptAssertion A stored response passkey

/-- `finishLogin`: the user that the passkey belongs to. -/
def finishLogin (A : LoginEnv) (input : PasskeyLoginVerifyDto) : AuthProcess ℕ :=
  if !A.passkeyConfig.enabled then .raise (.serviceUnavailable notConfigured)
  else do
    let stored ← consume input.challengeId
    answerChallenge A input.response stored

end PasskeyService

namespace PasskeyController

/-- The owner of an unverified address gets a new link. -/
def resendVerification (A : AuthEnv) (error : AppError) : AuthProcess ℕ :=
  match error with
  | .emailNotVerified email => do
    AuthController.requestVerificationEmail A email
    .raise error
  | _ => .raise error

/-- `loginVerify`. -/
def loginVerify (A : LoginEnv) (body : PasskeyLoginVerifyDto)
    (ipAddress userAgent : Option String) : LoginProcess := do
  let userId ← (PasskeyService.finishLogin A body).tryCatch (resendVerification A.toAuthEnv)
  let user ← UserService.findWithRoles userId
  AuthController.issueFound A.toAuthEnv ipAddress userAgent user

end PasskeyController

end FifiAlert
