import FifiAlert.Concurrency.Process
import FifiAlert.Errors
import FifiAlert.World

/-!
# The token service

Access and refresh tokens are JWTs kept as rows of the session table. A refresh
token is used once: `rotateRefreshToken` revokes its row, mints a new pair and
remembers the pair, encrypted, on the consumed row, so that a duplicate
presentation within the grace window gets the same answer.

Every function is a process whose atomic calls are the statements on the
database, the clock and the random source. `TokenCall` lists them with their
arguments; `TokenCall.effect` is what a call does to the shared state.
-/

namespace FifiAlert

open Concurrency Store

def DEFAULT_ACCESS_EXPIRATION : String := "15m"
def DEFAULT_REFRESH_EXPIRATION : String := "30d"
def DEFAULT_REFRESH_REUSE_GRACE_SECONDS : ℕ := 300
def REPLAY_WAIT_ATTEMPTS : ℕ := 6
def REPLAY_WAIT_DELAY_MS : ℕ := 250
def REPLACEMENT_SETTLE_MS : Time := 5000

structure IRotatedTokens where
  userId : ℚ
  accessToken : String
  accessExpiresAt : Time
  refreshToken : String
  refreshExpiresAt : Time
  deriving DecidableEq, Inhabited

/-- `jti` numbers the unique ids in the order in which they were drawn. -/
structure IJwtPayload where
  sub : ℕ
  email : String
  roles : List Role
  gates : List Gate
  type : TokenType
  jti : ℕ
  deriving DecidableEq, Inhabited

/-- The cryptography, the JWT library, the conversion of dates to strings and
the environment variables. `sign` takes the payload, the lifetime in seconds and
the time of signing; `gcmSeal` encrypts a JSON text under an initialization
vector, and `gcmOpen` is `none` for a blob that is malformed or was sealed
with another key. -/
structure TokenEnv where
  hashToken : String → String
  sign : IJwtPayload → ℕ → Time → String
  verify : String → Time → Option IJwtPayload
  gcmSeal : ℕ → Js.Json → String
  gcmOpen : String → Option Js.Json
  toISOString : Time → String
  newDate : String → Time
  JWT_ACCESS_EXPIRATION : Option String := none
  JWT_REFRESH_EXPIRATION : Option String := none
  REFRESH_TOKEN_REUSE_GRACE_SECONDS : Option String := none

/-- The atomic calls of the token service, with their arguments. -/
inductive TokenCall where
  | dateNow
  | randomUUID
  | randomBytes
  | sleep (ms : ℕ)
  | userFindUnique (id : ℕ)
  | sessionFindUnique (token : String)
  | sessionClaim (token : String) (date : Time)
  | sessionRevoke (token : String) (date : Time)
  | sessionCreate (row : Session)
  | sessionUnrevoke (token : String) (expiresAt : Time)
      (ipAddress userAgent : Option String)
  | sessionStoreReplacement (token : String) (pair : IRotatedTokens) (blob : String)
  | sessionDropReplacements (userId : ℕ)
  | sessionRevokeAll (userId : ℕ) (exceptHash : Option String) (date : Time)

namespace Session

/-- The `where` clause of the updates that revoke one token. -/
def live (token : String) (s : Session) : Bool :=
  s.token = token && !s.revoked

def revoke (date : Time) (s : Session) : Session :=
  { s with revoked := true, revokedAt := some date }

theorem revoke_token (date : Time) (s : Session) : (s.revoke date).token = s.token := rfl

/-- The `where` clause of the update that revokes all tokens of a user. -/
def liveOf (userId : ℕ) (exceptHash : Option String) (s : Session) : Bool :=
  s.userId = userId && !s.revoked && exceptHash.all fun k => s.token ≠ k

end Session

/-- An update by token counts one row when it finds the row unrevoked. -/
theorem count_live (t : Sessions) (k : String) :
    t.count (Session.live k) = if (t.find? k).any fun s => !s.revoked then 1 else 0 :=
  t.count_key k fun s => !s.revoked

namespace TokenCall

/-- What a call does to the shared state. -/
def effect : TokenCall → World → World
  | dateNow, w => w
  | randomUUID, w => { w with nextUUID := w.nextUUID + 1 }
  | randomBytes, w => { w with nextIv := w.nextIv + 1 }
  | sleep _, w => w
  | userFindUnique _, w => w
  | sessionFindUnique _, w => w
  | sessionClaim token date, w =>
      { w with
        sessions := w.sessions.updateMany (Session.live token) (Session.revoke date)
          (Session.revoke_token date) }
  | sessionRevoke token date, w =>
      { w with
        sessions := w.sessions.updateMany (Session.live token) (Session.revoke date)
          (Session.revoke_token date) }
  | sessionCreate row, w => { w with sessions := w.sessions.insertNew row }
  | sessionUnrevoke token expiresAt ipAddress userAgent, w =>
      { w with sessions := w.sessions.updateMany (fun s => s.token = token) fun s =>
          { s with expiresAt, ipAddress, userAgent, revoked := false } }
  | sessionStoreReplacement token _ blob, w =>
      { w with sessions := w.sessions.updateMany (fun s => s.token = token) fun s =>
          { s with replacementCiphertext := some blob } }
  | sessionDropReplacements userId, w =>
      { w with
        sessions := w.sessions.updateMany
          (fun s => s.userId = userId && s.replacementCiphertext.isSome) fun s =>
          { s with replacementCiphertext := none } }
  | sessionRevokeAll userId exceptHash date, w =>
      { w with
        sessions :=
          w.sessions.updateMany (Session.liveOf userId exceptHash) (Session.revoke date)
            (Session.revoke_token date) }

end TokenCall

abbrev TokenProcess := Process World TokenCall AppError

namespace TokenService

/-- A call that reads the shared state. -/
def read {α : Type} (l : TokenCall) (g : World → α) : TokenProcess α :=
  Process.query l (.prisma .other) g

/-- A call that writes and answers from the state it found. -/
def write {α : Type} (l : TokenCall) (g : World → α) : TokenProcess α :=
  Process.modify l (.prisma .other) l.effect g

/-- `session.update`: the row has to exist. -/
def updateSession (l : TokenCall) (token : String) : TokenProcess Unit :=
  Process.atomic l (.prisma .other) fun w =>
    (match w.sessions.find? token with
      | some _ => .ok ()
      | none => .error (.prisma .P2025), l.effect w)

/-- `session.create`: the token has to be new. -/
def createSession (row : Session) : TokenProcess Unit :=
  Process.atomic (.sessionCreate row) (.prisma .other) fun w =>
    (match w.sessions.find? row.token with
      | some _ => .error (.prisma .P2002)
      | none => .ok (), (TokenCall.sessionCreate row).effect w)

def dateNow : TokenProcess Time := read .dateNow World.now

/-- The units of `durationToSeconds`. -/
def unitSeconds : Char → Option ℕ
  | 's' => some 1
  | 'm' => some 60
  | 'h' => some (60 * 60)
  | 'd' => some (24 * 60 * 60)
  | _ => none

/-- `durationToSeconds`: the pattern `^([1-9]\d*)([smhd])$`. -/
def durationToSeconds (duration : String) : Except AppError ℕ :=
  let invalid := .error (.error ("Invalid duration format: " ++ duration))
  match duration.toList.reverse with
  | [] => invalid
  | u :: rest =>
    match unitSeconds u, Js.digits 10 rest.reverse, rest.reverse with
    | some seconds, some value, c :: _ => if c = '0' then invalid else .ok (value * seconds)
    | _, _, _ => invalid

theorem durationToSeconds_error {duration : String} {e : AppError}
    (h : durationToSeconds duration = .error e) : e.isReuse = false := by
  unfold durationToSeconds at h
  split at h
  · cases h
    rfl
  split at h
  next =>
      split at h
      · cases h
        rfl
      · cases h
  next =>
      cases h
      rfl

/-- `reuseGraceSeconds`: the default when the variable is unset, empty, or not a
non-negative integer. -/
def reuseGraceSeconds (E : TokenEnv) : ℚ :=
  match Js.truthy E.REFRESH_TOKEN_REUSE_GRACE_SECONDS with
  | none => DEFAULT_REFRESH_REUSE_GRACE_SECONDS
  | some raw =>
    match Js.Number raw with
    | some parsed =>
      if parsed.den ≠ 1 ∨ parsed < 0 then DEFAULT_REFRESH_REUSE_GRACE_SECONDS else parsed
    | none => DEFAULT_REFRESH_REUSE_GRACE_SECONDS

def encryptReplacement (E : TokenEnv) (iv : ℕ) (pair : IRotatedTokens) : String :=
  E.gcmSeal iv <| .obj
    [("userId", .num pair.userId),
      ("accessToken", .str pair.accessToken),
      ("accessExpiresAt", .str (E.toISOString pair.accessExpiresAt)),
      ("refreshToken", .str pair.refreshToken),
      ("refreshExpiresAt", .str (E.toISOString pair.refreshExpiresAt))]

def decryptReplacement (E : TokenEnv) (blob : String) : Option IRotatedTokens := do
  let parsed ← E.gcmOpen blob
  match parsed.get? "userId", parsed.get? "accessToken", parsed.get? "refreshToken",
      parsed.get? "accessExpiresAt", parsed.get? "refreshExpiresAt" with
  | some (.num userId), some (.str accessToken), some (.str refreshToken),
      some (.str accessExpiresAt), some (.str refreshExpiresAt) =>
    some
      { userId, accessToken, refreshToken
        accessExpiresAt := E.newDate accessExpiresAt
        refreshExpiresAt := E.newDate refreshExpiresAt }
  | _, _, _, _, _ => none

/-- `storeTokenInSession`. -/
def storeTokenInSession (E : TokenEnv) (token : String) (userId : ℕ)
    (tokenType : TokenType) (expiresAt : Time) (ipAddress userAgent : Option String) :
    TokenProcess Unit :=
  let storedToken := if tokenType = .session then token else E.hashToken token
  (createSession
    { token := storedToken, tokenType, userId, expiresAt, ipAddress, userAgent }).tryCatch
    fun error =>
      if error = .prisma .P2002 then
        updateSession (.sessionUnrevoke storedToken expiresAt ipAddress userAgent) storedToken
      else .raise error

/-- The common body of `generateAccessToken` and `generateRefreshToken`: one
duration gives both the `exp` claim and the expiry of the row. -/
def generateToken (E : TokenEnv) (duration : String) (payload : ℕ → IJwtPayload)
    (ipAddress userAgent : Option String) : TokenProcess (String × Time) := do
  match durationToSeconds duration with
  | .error e => .raise e
  | .ok expiresInSeconds =>
    let date ← dateNow
    let expiresAt := date + expiresInSeconds * 1000
    let jti ← write .randomUUID World.nextUUID
    let iat ← dateNow
    let token := E.sign (payload jti) expiresInSeconds iat
    storeTokenInSession E token (payload jti).sub (payload jti).type expiresAt
      ipAddress userAgent
    return (token, expiresAt)

def generateAccessToken (E : TokenEnv) (user : UserWithRoles)
    (ipAddress userAgent : Option String) : TokenProcess (String × Time) :=
  generateToken E (Js.orDefault E.JWT_ACCESS_EXPIRATION DEFAULT_ACCESS_EXPIRATION)
    (fun jti =>
      { sub := user.user.id, email := user.user.email, roles := user.roles,
        gates := user.gates, type := .access, jti })
    ipAddress userAgent

def generateRefreshToken (E : TokenEnv) (user : UserWithRoles)
    (ipAddress userAgent : Option String) : TokenProcess (String × Time) :=
  generateToken E (Js.orDefault E.JWT_REFRESH_EXPIRATION DEFAULT_REFRESH_EXPIRATION)
    (fun jti =>
      { sub := user.user.id, email := user.user.email, roles := [], gates := [],
        type := .refresh, jti })
    ipAddress userAgent

/-- `replayReplacement`: the stored pair, while its refresh token is live. -/
def replayReplacement (E : TokenEnv) (ciphertext : String) (userId : ℕ) :
    TokenProcess (Option IRotatedTokens) :=
  match decryptReplacement E ciphertext with
  | none => return none
  | some pair =>
    if pair.userId ≠ userId then return none
    else do
      let child ← read (.sessionFindUnique (E.hashToken pair.refreshToken)) fun w =>
        w.sessions.find? (E.hashToken pair.refreshToken)
      match child with
      | none => return none
      | some child =>
        if child.tokenType ≠ .refresh then return none
        else if child.revoked then return none
        else do
          let date ← dateNow
          if child.expiresAt ≤ date then return none else return some pair

/-- The loop of `awaitReplacement`, with `left` more reads allowed. -/
def awaitLoop (E : TokenEnv) (tokenHash : String) (userId : ℕ) (wait : Bool) :
    (left : ℕ) → (ciphertext : Option String) → TokenProcess (Option IRotatedTokens)
  | left, ciphertext =>
    match Js.truthy ciphertext with
    | some blob => replayReplacement E blob userId
    | none =>
      if !wait then return none
      else match left with
        | 0 => return none
        | left + 1 => do
          read (.sleep REPLAY_WAIT_DELAY_MS) fun _ => ()
          let again ← read (.sessionFindUnique tokenHash) fun w => w.sessions.find? tokenHash
          awaitLoop E tokenHash userId wait left (again.bind Session.replacementCiphertext)

def awaitReplacement (E : TokenEnv) (tokenHash : String) (userId : ℕ)
    (initial : Option String) (wait : Bool) : TokenProcess (Option IRotatedTokens) :=
  awaitLoop E tokenHash userId wait REPLAY_WAIT_ATTEMPTS initial

/-- `revokeToken`. -/
def revokeToken (E : TokenEnv) (token : String) : TokenProcess Bool := do
  let date ← dateNow
  let count ← write (.sessionRevoke (E.hashToken token) date) fun w =>
    w.sessions.count (Session.live (E.hashToken token))
  return decide (0 < count)

/-- `revokeAllUserTokens`. -/
def revokeAllUserTokens (E : TokenEnv) (userId : ℕ) (exceptToken : Option String) :
    TokenProcess ℕ := do
  write (.sessionDropReplacements userId) fun _ => ()
  let exceptHash := (Js.truthy exceptToken).map E.hashToken
  let date ← dateNow
  write (.sessionRevokeAll userId exceptHash date) fun w =>
    w.sessions.count (Session.liveOf userId exceptHash)

/-- `rotateRefreshToken` after a read that found the row revoked: a replay
within the grace window, a reuse outside it. -/
def replayOrDetectReuse (E : TokenEnv) (tokenHash : String) (session : Session) :
    TokenProcess IRotatedTokens := do
  let graceMs := reuseGraceSeconds E * 1000
  let revokedAtMs := session.revokedAt.getD 0
  let date ← dateNow
  if ((date - revokedAtMs : ℤ) : ℚ) ≤ graceMs then
    let settledAt ← dateNow
    let replay ← awaitReplacement E tokenHash session.userId session.replacementCiphertext
      (decide (settledAt - revokedAtMs < REPLACEMENT_SETTLE_MS))
    match replay with
    | some pair => return pair
    | none => .raise (.unauthorized "Refresh token already used")
  else
    let _ ← revokeAllUserTokens E session.userId none
    .raise (.refreshTokenReuse session.userId)

/-- `rotateRefreshToken` remembers the pair on the consumed row. A failure to do so is logged
only. -/
def storeReplacement (E : TokenEnv) (tokenHash : String) (rotated : IRotatedTokens) :
    TokenProcess Unit :=
  let store : TokenProcess Unit := do
    let iv ← write .randomBytes World.nextIv
    updateSession
      (.sessionStoreReplacement tokenHash rotated (encryptReplacement E iv rotated)) tokenHash
  store.tryCatch fun _ => .ret ()

/-- `rotateRefreshToken` after a successful claim: mint a pair and remember it. -/
def mintReplacement (E : TokenEnv) (tokenHash : String) (session : Session)
    (ipAddress userAgent : Option String) : TokenProcess IRotatedTokens := do
  let user? ← read (.userFindUnique session.userId) fun w => w.findUserWithRoles session.userId
  match user? with
  | none => .raise (.unauthorized "User not found")
  | some user =>
    let access ← generateAccessToken E user ipAddress userAgent
    let refresh ← generateRefreshToken E user ipAddress userAgent
    let rotated : IRotatedTokens :=
      { userId := user.user.id, accessToken := access.1, accessExpiresAt := access.2,
        refreshToken := refresh.1, refreshExpiresAt := refresh.2 }
    storeReplacement E tokenHash rotated
    return rotated

/-- `rotateRefreshToken` after a read that found the row unrevoked. -/
def claimAndMint (E : TokenEnv) (tokenHash : String) (session : Session)
    (ipAddress userAgent : Option String) : TokenProcess IRotatedTokens := do
  let date ← dateNow
  let count ← write (.sessionClaim tokenHash date) fun w =>
    w.sessions.count (Session.live tokenHash)
  if count = 0 then
    let replay ← awaitReplacement E tokenHash session.userId none true
    match replay with
    | some pair => return pair
    | none => .raise (.unauthorized "Refresh token already used")
  else mintReplacement E tokenHash session ipAddress userAgent

/-- `rotateRefreshToken`. -/
def rotateRefreshToken (E : TokenEnv) (rawToken : String)
    (ipAddress userAgent : Option String) : TokenProcess IRotatedTokens := do
  let date ← dateNow
  match E.verify rawToken date with
  | none => .raise (.unauthorized "Invalid or expired refresh token")
  | some payload =>
    if payload.type ≠ .refresh then .raise (.unauthorized "Invalid token type")
    else
      let tokenHash := E.hashToken rawToken
      let session? ← read (.sessionFindUnique tokenHash) fun w => w.sessions.find? tokenHash
      match session? with
      | none => .raise (.unauthorized "Invalid or expired refresh token")
      | some session =>
        if session.tokenType ≠ .refresh then
          .raise (.unauthorized "Invalid or expired refresh token")
        else if session.revoked then replayOrDetectReuse E tokenHash session
        else claimAndMint E tokenHash session ipAddress userAgent

/-- `LoginIssuerService.issueTokens`: the pair a login ends with. -/
def issueTokens (E : TokenEnv) (user : UserWithRoles) (ipAddress userAgent : Option String) :
    TokenProcess IRotatedTokens := do
  let access ← generateAccessToken E user ipAddress userAgent
  let refresh ← generateRefreshToken E user ipAddress userAgent
  let issued : IRotatedTokens :=
    { userId := user.user.id, accessToken := access.1, accessExpiresAt := access.2,
      refreshToken := refresh.1, refreshExpiresAt := refresh.2 }
  return issued

section Confined

variable {P : TokenCall → (World → World) → Prop} (hP : ∀ l, P l l.effect)

include hP

theorem storeTokenInSession_confined (E : TokenEnv) (token : String) (userId : ℕ)
    (tokenType : TokenType) (expiresAt : Time) (ipAddress userAgent : Option String) :
    (storeTokenInSession E token userId tokenType expiresAt ipAddress userAgent).Confined P
      fun _ => True := by
  unfold storeTokenInSession
  apply Process.Confined.tryCatch (T := fun _ => True)
  · exact Process.confined_atomic (hP _) (fun _ _ _ => trivial) trivial
  · intro error _
    split
    · exact Process.confined_atomic (hP _) (fun _ _ _ => trivial) trivial
    · trivial

theorem generateToken_confined (E : TokenEnv) (duration : String) (payload : ℕ → IJwtPayload)
    (ipAddress userAgent : Option String) :
    (generateToken E duration payload ipAddress userAgent).Confined P fun _ => True := by
  unfold generateToken
  cases durationToSeconds duration with
  | error e => trivial
  | ok expiresInSeconds =>
      refine (Process.confined_query (hP .dateNow) trivial).bind fun date => ?_
      refine (Process.confined_modify (hP .randomUUID) trivial).bind fun jti => ?_
      refine (Process.confined_query (hP .dateNow) trivial).bind fun iat => ?_
      exact (storeTokenInSession_confined hP E _ _ _ _ _ _).bind fun _ => trivial

/-- Issuing a pair makes calls of the token service only. -/
theorem issueTokens_confined (E : TokenEnv) (user : UserWithRoles)
    (ipAddress userAgent : Option String) :
    (issueTokens E user ipAddress userAgent).Confined P fun _ => True := by
  unfold issueTokens
  refine (generateToken_confined hP E _ _ _ _).bind fun access => ?_
  exact (generateToken_confined hP E _ _ _ _).bind fun refresh => trivial

end Confined

end TokenService

end FifiAlert
