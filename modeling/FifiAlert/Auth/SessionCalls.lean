import FifiAlert.Auth.TokenService
import FifiAlert.Js.Text

/-!
# The other users of the session table

Besides the token service proper these functions read or write the rows of the
session table: the validation of a token, which also lifts an expired ban, the
two cleanup jobs, the revocation of one row by an administrator, and the logout.
`SessionCall` lists their atomic calls next to those of the token service.
-/

namespace FifiAlert

open Concurrency Store

/-- The calls of the token service, and those of the functions of this module.
A row of the session table is named by its token. -/
inductive SessionCall where
  | token (l : TokenCall)
  | sessionFindWithUser (tokenHash : String)
  | userUnban (id : ℕ)
  | sessionDropStale (graceCutoff : Time)
  | sessionDeleteExpired (now : Time)
  | sessionDeleteRevoked (thirtyDaysAgo : Time)
  | userUnbanExpired (now : Time)
  | sessionRevokeById (tokenHash : String) (date : Time)
  | signOut (cookie : Option String)

/-- Which row of the session table better-auth drops when it signs out the cookie
session of a request. -/
abbrev SignOut := Option String → Session → Bool

def User.unban (date : Time) (user : User) : User :=
  { user with banned := false, banReason := none, banExpires := none, updatedAt := date }

theorem User.unban_id (date : Time) (user : User) : (user.unban date).id = user.id := rfl

/-- The `where` clause of the job that lifts expired bans. -/
def User.banExpired (now : Time) (user : User) : Bool :=
  user.banned && user.banExpires.any fun t => t < now

/-- The user is banned, for good or until a time to come. -/
def World.BanInForce (w : World) (userId : ℕ) : Prop :=
  ∃ user, w.users.find? userId = some user ∧ user.banned = true ∧
    ∀ banExpires, user.banExpires = some banExpires → w.now < banExpires

namespace Session

/-- The `where` clause of the update that drops replacement pairs. -/
def staleReplacement (graceCutoff : Time) (s : Session) : Bool :=
  s.replacementCiphertext.isSome && s.revokedAt.any fun t => t < graceCutoff

def dropReplacement (s : Session) : Session :=
  { s with replacementCiphertext := none }

theorem dropReplacement_token (s : Session) : s.dropReplacement.token = s.token := rfl

def expired (now : Time) (s : Session) : Bool :=
  s.expiresAt < now

/-- The `where` clause of the deletion of old revoked rows. -/
def longRevoked (thirtyDaysAgo : Time) (s : Session) : Bool :=
  s.revoked && s.revokedAt.any fun t => t < thirtyDaysAgo

end Session

namespace SessionCall

/-- What a call does to the shared state. -/
def effect (signedOut : SignOut) : SessionCall → World → World
  | token l, w => l.effect w
  | sessionFindWithUser _, w => w
  | userUnban id, w =>
      { w with
        users := w.users.updateMany (fun u => u.id = id) (User.unban w.now) (User.unban_id w.now) }
  | sessionDropStale graceCutoff, w =>
      { w with
        sessions := w.sessions.updateMany (Session.staleReplacement graceCutoff)
          Session.dropReplacement Session.dropReplacement_token }
  | sessionDeleteExpired now, w =>
      { w with sessions := w.sessions.deleteMany (Session.expired now) }
  | sessionDeleteRevoked thirtyDaysAgo, w =>
      { w with sessions := w.sessions.deleteMany (Session.longRevoked thirtyDaysAgo) }
  | userUnbanExpired now, w =>
      { w with
        users := w.users.updateMany (User.banExpired now) (User.unban w.now)
          (User.unban_id w.now) }
  | sessionRevokeById tokenHash date, w =>
      { w with
        sessions := w.sessions.updateMany (fun s => s.token = tokenHash) (Session.revoke date)
          (Session.revoke_token date) }
  | signOut cookie, w => { w with sessions := w.sessions.deleteMany (signedOut cookie) }

/-- No call moves the clock. -/
theorem now_effect (signedOut : SignOut) (l : SessionCall) (w : World) :
    (l.effect signedOut w).now = w.now := by
  cases l with
  | token l => cases l <;> rfl
  | _ => rfl

end SessionCall

abbrev SessionProcess := Process World SessionCall AppError

namespace SessionCall

/-- A call that reads the shared state. -/
def read {α : Type} (l : SessionCall) (g : World → α) : SessionProcess α :=
  Process.query l (.prisma .other) g

def dateNow : SessionProcess Time := read (.token .dateNow) World.now

end SessionCall

/-- `session.findUnique` with `include: { user: … }`. -/
def World.findSessionWithUser (w : World) (token : String) :
    Option (Session × Option UserWithRoles) :=
  (w.sessions.find? token).map fun session => (session, w.findUserWithRoles session.userId)

namespace TokenService

structure ITokenUser where
  id : ℕ
  email : String
  name : String
  roles : List Role
  gates : List Gate

/-- `user.update` of the columns of a ban: the row has to exist. -/
def unbanUser (signedOut : SignOut) (userId : ℕ) : SessionProcess Unit :=
  Process.atomic (.userUnban userId) (.prisma .other) fun w =>
    (match w.users.find? userId with
      | some _ => .ok ()
      | none => .error (.prisma .P2025), (SessionCall.userUnban userId).effect signedOut w)

/-- The ban check of `validateAccessToken`: a ban that has expired is lifted. -/
def checkBan (signedOut : SignOut) (userId : ℕ) (user : User) : SessionProcess Unit :=
  if !user.banned then return ()
  else
    match user.banExpires with
    | none => .raise (.unauthorized "User account is banned")
    | some banExpires => do
      let date ← SessionCall.dateNow
      if banExpires > date then .raise (.unauthorized "User account is banned")
      else unbanUser signedOut userId

def tokenUser (user : UserWithRoles) : ITokenUser where
  id := user.user.id
  email := user.user.email
  name := user.user.name
  roles := user.roles.filter Role.active
  gates := user.gates.filter Gate.active

/-- `validateAccessToken` after the row and its user have been read. -/
def acceptSession (signedOut : SignOut) :
    Option (Session × Option UserWithRoles) → SessionProcess ITokenUser
  | none => .raise (.unauthorized "Token has been revoked")
  | some (session, user?) =>
    if session.revoked then .raise (.unauthorized "Token has been revoked")
    else
      match user? with
      | none => .raise (.error "Cannot read properties of null")
      | some user => do
        checkBan signedOut session.userId user.user
        return tokenUser user

/-- The `catch` of the two validations: an `UnauthorizedException` is thrown again. -/
def rethrow {α : Type} (message : String) : AppError → SessionProcess α
  | .unauthorized e => .raise (.unauthorized e)
  | _ => .raise (.unauthorized message)

/-- `validateAccessToken`. -/
def validateAccessToken (E : TokenEnv) (signedOut : SignOut) (token : String) :
    SessionProcess ITokenUser :=
  Process.tryCatch
    (do
      let date ← SessionCall.dateNow
      match E.verify token date with
      | none => .raise (.error "invalid token")
      | some payload =>
        if payload.type ≠ .access then .raise (.unauthorized "Invalid token type")
        else do
          let session ← SessionCall.read (.sessionFindWithUser (E.hashToken token)) fun w =>
            w.findSessionWithUser (E.hashToken token)
          acceptSession signedOut session)
    (rethrow "Invalid or expired token")

section Confined

variable {P : SessionCall → (World → World) → Prop} {signedOut : SignOut}

theorem checkBan_confined (hdate : P (.token .dateNow) id)
    (hunban : ∀ id, P (.userUnban id) ((SessionCall.userUnban id).effect signedOut))
    (userId : ℕ) (user : User) :
    (checkBan signedOut userId user).Confined P fun _ => True := by
  unfold checkBan
  split
  · trivial
  cases user.banExpires with
  | none => trivial
  | some banExpires =>
      refine (Process.confined_query hdate trivial).bind fun date => ?_
      split
      · trivial
      · exact Process.confined_atomic (hunban userId) (fun _ _ _ => trivial) trivial

theorem acceptSession_confined (hdate : P (.token .dateNow) id)
    (hunban : ∀ id, P (.userUnban id) ((SessionCall.userUnban id).effect signedOut))
    (found : Option (Session × Option UserWithRoles)) :
    (acceptSession signedOut found).Confined P fun _ => True := by
  cases found with
  | none => trivial
  | some pair =>
      obtain ⟨session, user?⟩ := pair
      unfold acceptSession
      dsimp only
      split
      · trivial
      cases user? with
      | none => trivial
      | some user => exact (checkBan_confined hdate hunban _ _).bind fun _ => trivial

/-- Validating an access token reads, and may lift a ban. -/
theorem validateAccessToken_confined (hdate : P (.token .dateNow) id)
    (hfind : ∀ tokenHash, P (.sessionFindWithUser tokenHash) id)
    (hunban : ∀ id, P (.userUnban id) ((SessionCall.userUnban id).effect signedOut))
    (E : TokenEnv) (token : String) :
    (validateAccessToken E signedOut token).Confined P fun _ => True := by
  unfold validateAccessToken
  apply Process.Confined.tryCatch (T := fun _ => True)
  · refine (Process.confined_query hdate trivial).bind fun date => ?_
    cases E.verify token date with
    | none => trivial
    | some payload =>
        dsimp only
        split
        · trivial
        · exact (Process.confined_query (hfind _) trivial).bind fun found =>
            acceptSession_confined hdate hunban found
  · intro e _
    cases e <;> trivial

end Confined

/-- `validateRefreshToken` after the row has been read. -/
def acceptRefresh (payload : IJwtPayload) : Option Session → SessionProcess ℕ
  | none => .raise (.unauthorized "Refresh token has been revoked")
  | some session =>
    if session.revoked then .raise (.unauthorized "Refresh token has been revoked")
    else return payload.sub

/-- `validateRefreshToken`. -/
def validateRefreshToken (E : TokenEnv) (token : String) : SessionProcess ℕ :=
  Process.tryCatch
    (do
      let date ← SessionCall.dateNow
      match E.verify token date with
      | none => .raise (.error "invalid token")
      | some payload =>
        if payload.type ≠ .refresh then .raise (.unauthorized "Invalid token type")
        else do
          let session ← SessionCall.read (.token (.sessionFindUnique (E.hashToken token)))
            fun w => w.sessions.find? (E.hashToken token)
          acceptRefresh payload session)
    (rethrow "Invalid or expired refresh token")

/-- `cleanupExpiredTokens` of the token service itself. -/
def cleanupExpiredTokens (signedOut : SignOut) : SessionProcess ℕ := do
  let date ← SessionCall.dateNow
  Process.modify (.sessionDeleteExpired date) (.prisma .other)
    ((SessionCall.sessionDeleteExpired date).effect signedOut)
    fun w => w.sessions.count (Session.expired date)

end TokenService

structure TokenCleanupResult where
  expiredDeleted : ℕ
  revokedDeleted : ℕ
  totalDeleted : ℕ
  deriving DecidableEq

namespace TokenCleanupService

def HOUR_MS : Time := 60 * 60 * 1000
def THIRTY_DAYS_MS : Time := 30 * 24 * 60 * 60 * 1000

/-- `cleanupExpiredTokens`. -/
def cleanupExpiredTokens (signedOut : SignOut) : SessionProcess TokenCleanupResult := do
  let now ← SessionCall.dateNow
  Process.modify (.sessionDropStale (now - HOUR_MS)) (.prisma .other)
    ((SessionCall.sessionDropStale (now - HOUR_MS)).effect signedOut) fun _ => ()
  let expiredDeleted ← Process.modify (.sessionDeleteExpired now) (.prisma .other)
    ((SessionCall.sessionDeleteExpired now).effect signedOut)
    fun w => w.sessions.count (Session.expired now)
  let revokedDeleted ← Process.modify (.sessionDeleteRevoked (now - THIRTY_DAYS_MS))
    (.prisma .other)
    ((SessionCall.sessionDeleteRevoked (now - THIRTY_DAYS_MS)).effect signedOut)
    fun w => w.sessions.count (Session.longRevoked (now - THIRTY_DAYS_MS))
  let result : TokenCleanupResult :=
    { expiredDeleted, revokedDeleted, totalDeleted := expiredDeleted + revokedDeleted }
  return result

/-- `cleanupExpiredBans`. -/
def cleanupExpiredBans (signedOut : SignOut) : SessionProcess ℕ := do
  let now ← SessionCall.dateNow
  Process.modify (.userUnbanExpired now) (.prisma .other)
    ((SessionCall.userUnbanExpired now).effect signedOut)
    fun w => (w.users.findMany (User.banExpired now)).length

theorem cleanupExpiredBans_confined {P : SessionCall → (World → World) → Prop}
    {signedOut : SignOut} (hdate : P (.token .dateNow) id)
    (hunban : ∀ now, P (.userUnbanExpired now)
      ((SessionCall.userUnbanExpired now).effect signedOut)) :
    (cleanupExpiredBans signedOut).Confined P fun _ => True := by
  unfold cleanupExpiredBans
  exact (Process.confined_query hdate trivial).bind fun now =>
    Process.confined_modify (hunban now) trivial

end TokenCleanupService

namespace AdminController

/-- `revokeSession`: the row has to exist; it may be revoked already. -/
def revokeSession (signedOut : SignOut) (token : String) : SessionProcess Unit := do
  let date ← SessionCall.dateNow
  Process.atomic (.sessionRevokeById token date) (.prisma .other) fun w =>
    (match w.sessions.find? token with
      | some _ => .ok ()
      | none => .error (.prisma .P2025),
      (SessionCall.sessionRevokeById token date).effect signedOut w)

end AdminController

/-- The headers of a request that the authentication controller reads. -/
structure AuthHeaders where
  authorization : Option String := none
  cookie : Option String := none

namespace AuthController

/-- `bearerFromRequest`. -/
def bearerFromRequest (req : AuthHeaders) : Option String :=
  match Js.truthy req.authorization with
  | none => none
  | some header =>
    match Js.splitOn [' '] header.toList with
    | scheme :: token :: _ =>
      if scheme.map Char.toLower = "bearer".toList ∧ token ≠ [] then some (String.ofList token)
      else none
    | _ => none

/-- A call whose failure is logged only. -/
def bestEffort {α : Type} (p : SessionProcess α) : SessionProcess (Option α) :=
  (some <$> p).tryCatch fun _ => return none

/-- The user of the bearer token, if it is still valid. -/
def identify (E : TokenEnv) (signedOut : SignOut) :
    Option String → SessionProcess (Option TokenService.ITokenUser)
  | none => return none
  | some token => bestEffort (TokenService.validateAccessToken E signedOut token)

/-- Revoke one token of the pair, if it was given. -/
def revokeGiven (E : TokenEnv) : Option String → SessionProcess Unit
  | none => return ()
  | some token => do
    let _ ← bestEffort ((TokenService.revokeToken E token).relabel .token)
    return ()

/-- `logout`: the caller as far as known, for the log. -/
def logout (E : TokenEnv) (signedOut : SignOut) (req : AuthHeaders)
    (refreshToken : Option String) : SessionProcess (Option ℕ) := do
  let user ← identify E signedOut (bearerFromRequest req)
  revokeGiven E (bearerFromRequest req)
  revokeGiven E (Js.truthy refreshToken)
  let _ ← bestEffort
    (Process.modify (.signOut req.cookie) (.prisma .other)
      ((SessionCall.signOut req.cookie).effect signedOut) fun _ => ())
  return user.map TokenService.ITokenUser.id

end AuthController

end FifiAlert
