import FifiAlert.Auth.SessionCalls
import FifiAlert.User.UserUpdate

/-!
# Passwords in the authentication controller

`resetPassword` and `updatePassword`, with the resolution of the caller. Each
endpoint of better-auth that the controller calls is a parameter, and one atomic
call: what it answers or throws, and what it does to the shared state.
-/

namespace FifiAlert

open Concurrency Store

structure SocialLoginDto where
  provider : String
  token : String
  accessToken : Option String := none
  nonce : Option String := none
  inviteToken : Option String := none

/-- The endpoints of better-auth. Each that names a user answers with the id:
`resetPassword` with the user whose password it wrote, `getSession`,
`signInEmail` and `signInSocial` with the user of the session, if there is one. -/
structure BetterAuth where
  signedOut : SignOut
  resetPassword : (newPassword token : String) → World → Except AppError ℕ × World
  getSession : (cookie : String) → World → Except AppError (Option ℕ) × World
  signInEmail : (email password : String) → World → Except AppError (Option ℕ) × World
  signInSocial : SocialLoginDto → World → Except AppError (Option ℕ) × World
  sendVerificationEmail : (email : String) → World → Except AppError Unit × World

/-- What the controller relies on beyond the tables. -/
structure AuthEnv where
  token : TokenEnv
  user : UserEnv
  betterAuth : BetterAuth
  verifyPassword : (hash password : String) → Bool

/-- The atomic calls of the authentication controllers. -/
inductive AuthCall where
  | session (l : SessionCall)
  | user (l : UserCall)
  | verificationFindFirst (identifier : String)
  | verificationDeleteMany (identifier : String)
  | resetPassword (newPassword token : String)
  | getSession (cookie : String)
  | signInEmail (email password : String)
  | signInSocial (dto : SocialLoginDto)
  | sendVerificationEmail (email : String)
  | userFindByEmail (email : String)
  | userFindWithRoles (id : ℕ)
  | roleFindFirst (slug : String)
  | userRoleCreate (userId roleId : ℕ)
  | challengeConsume (challengeId : String)
  | passkeyFindUnique (credentialId : String)
  | passkeyUpdate (id : String) (newCounter : ℕ) (backedUp : Bool)

abbrev AuthProcess := Process World AuthCall AppError

structure UpdatePasswordDto where
  currentPassword : String
  newPassword : String

structure UpdatePasswordResponse where
  message : String
  revokedSessions : ℕ
  deriving DecidableEq

/-- Who makes a request, and with which access token, if with one. -/
structure Caller where
  userId : ℕ
  accessToken : Option String
  deriving DecidableEq

namespace AuthController

/-- An endpoint of better-auth, as one call. -/
def betterAuth {α : Type} (l : AuthCall) (f : World → Except AppError α × World) :
    AuthProcess α :=
  Process.atomic l (.prisma .other) f

/-- The token service, from the controller. -/
def tokenService {α : Type} (p : TokenProcess α) : AuthProcess α :=
  p.relabel fun l => .session (.token l)

/-- The owner of a bearer token; whatever is wrong with it, the answer is the same. -/
def callerOfBearer (A : AuthEnv) (accessToken : String) : AuthProcess Caller :=
  Process.tryCatch
    (do
      let decoded ←
        (TokenService.validateAccessToken A.token A.betterAuth.signedOut accessToken).relabel
          AuthCall.session
      return { userId := decoded.id, accessToken := some accessToken })
    fun _ => .raise (.unauthorized "Invalid or expired access token")

/-- The owner of a cookie session. -/
def callerOfCookie (A : AuthEnv) (cookie : String) : AuthProcess Caller := do
  let session ← betterAuth (.getSession cookie) (A.betterAuth.getSession cookie)
  match session with
  | some userId => return { userId, accessToken := none }
  | none => .raise (.unauthorized "Not authenticated")

/-- `resolveCallerUserId`. -/
def resolveCallerUserId (A : AuthEnv) (req : AuthHeaders) : AuthProcess Caller :=
  match bearerFromRequest req with
  | some accessToken => callerOfBearer A accessToken
  | none =>
    match Js.truthy req.cookie with
    | some cookie => callerOfCookie A cookie
    | none => .raise (.unauthorized "Not authenticated")

def resetIdentifier (token : String) : String := "reset-password:" ++ token

/-- The id in the value of a verification row: `Number`, if it is a positive integer. -/
def ownerOf (verification : Verification) : Option ℕ :=
  ((Js.Number verification.value).filter fun q : ℚ => q.den = 1 ∧ 0 < q).map fun q => q.num.toNat

end AuthController

/-- The user that a reset token belongs to, by `verification.findFirst`. -/
def World.resetOwner (w : World) (token : String) : Option ℕ :=
  (w.verifications.rows.find? fun v =>
    v.identifier = AuthController.resetIdentifier token).bind AuthController.ownerOf

namespace AuthController

/-- The lookup of the owner; its failure is logged only. -/
def lookUpOwner (token : String) : AuthProcess (Option ℕ) :=
  (Process.query (.verificationFindFirst (resetIdentifier token)) (.prisma .other) fun w =>
    w.resetOwner token).tryCatch fun _ => return none

/-- The reset token is used up; a failure is logged only. -/
def consumeResetToken (token : String) : AuthProcess Unit :=
  (Process.modify (.verificationDeleteMany (resetIdentifier token)) (.prisma .other)
    (fun w =>
      { w with
        verifications :=
          w.verifications.deleteMany fun v => v.identifier = resetIdentifier token })
    fun _ => ()).tryCatch fun _ => return ()

/-- The owner is signed out everywhere, when the lookup found one. -/
def revokeOwner (A : AuthEnv) : Option ℕ → AuthProcess Unit
  | some userId => do
    let _ ← tokenService (TokenService.revokeAllUserTokens A.token userId none)
    return ()
  | none => return ()

/-- `resetPassword`. -/
def resetPassword (A : AuthEnv) (newPassword token : String) : AuthProcess String :=
  Process.tryCatch
    (do
      let userId ← lookUpOwner token
      let _ ← betterAuth (.resetPassword newPassword token)
        (A.betterAuth.resetPassword newPassword token)
      consumeResetToken token
      revokeOwner A userId
      return "Password has been reset successfully")
    fun _ => .raise (.badRequest ["Invalid or expired reset token"])

def setPassword (account : Account) (newHash : String) : AuthProcess Unit :=
  Process.modify (.user (.accountSetPassword account.id newHash)) (.prisma .other)
    (fun w =>
      { w with
        accounts := w.accounts.updateMany (fun a => a.id = account.id)
          (Account.setPassword newHash) (Account.setPassword_id newHash) })
    fun _ => ()

/-- The check of the old password and the write of the new one. -/
def replacePassword (A : AuthEnv) (updateDto : UpdatePasswordDto) :
    Option Account → AuthProcess Unit
  | none => .raise (.badRequest ["This account does not use password authentication"])
  | some account =>
    match Js.truthy account.password with
    | none => .raise (.badRequest ["This account does not use password authentication"])
    | some password =>
      if !A.verifyPassword password updateDto.currentPassword then
        .raise (.unauthorized "Current password is incorrect")
      else
        match A.user.hashPassword (.str updateDto.newPassword) with
        | .error e => .raise e
        | .ok newHash => setPassword account newHash

/-- The `catch` of `updatePassword`. -/
def updateFailed {α : Type} : AppError → AuthProcess α
  | .unauthorized message => .raise (.unauthorized message)
  | .refreshTokenReuse userId => .raise (.refreshTokenReuse userId)
  | .badRequest message => .raise (.badRequest message)
  | _ => .raise (.badRequest ["Failed to update password"])

/-- `updatePassword`. -/
def updatePassword (A : AuthEnv) (updateDto : UpdatePasswordDto) (req : AuthHeaders) :
    AuthProcess UpdatePasswordResponse :=
  Process.tryCatch
    (do
      let caller ← resolveCallerUserId A req
      let credentialAccount ←
        Process.query (.user (.accountFindCredential caller.userId)) (.prisma .other)
          fun w => w.credentialAccount caller.userId
      replacePassword A updateDto credentialAccount
      let revokedSessions ← tokenService
        (TokenService.revokeAllUserTokens A.token caller.userId caller.accessToken)
      return { message := "Password has been updated successfully", revokedSessions })
    updateFailed

end AuthController

end FifiAlert
