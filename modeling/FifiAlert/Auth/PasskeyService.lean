import FifiAlert.Auth.LoginFlows

/-!
# Passkey ceremonies

The two ceremonies of WebAuthn: `startRegistration` and `finishRegistration`, `startLogin` and
`finishLogin`. The start mints a challenge and keeps it in Redis for five minutes, the finish
consumes it. What the options hold and whether a response is good is for the library to say.
-/

namespace FifiAlert

open Concurrency Store

def PASSKEY_CHALLENGE_TTL_SECONDS : Time := 5 * 60
def PASSKEY_NAME_MAX_LENGTH : ℕ := 64
def CEREMONY_TIMEOUT_MS : ℕ := 60000
def SUPPORTED_ALGORITHM_IDS : List ℤ := [-7, -257]

/-- The options of `generateRegistrationOptions`. -/
structure RegistrationOptions where
  rpName : String
  rpID : String
  userID : List UInt8
  userName : String
  userDisplayName : String
  timeout : ℕ := CEREMONY_TIMEOUT_MS
  attestationType : String := "none"
  excludeCredentials : List (String × List String)
  residentKey : String := "required"
  requireResidentKey : Bool := true
  userVerification : String := "preferred"
  supportedAlgorithmIDs : List ℤ := SUPPORTED_ALGORITHM_IDS

/-- The options of `generateAuthenticationOptions`: no credential is named. -/
structure AuthenticationOptions where
  rpID : String
  timeout : ℕ := CEREMONY_TIMEOUT_MS
  userVerification : String := "preferred"
  allowCredentials : List (String × List String) := []

/-- What the library makes of the options, with the challenge that is part of it. -/
structure CeremonyOptions where
  challenge : String
  options : List (String × Js.Json)

structure RegisteredCredential where
  id : String
  publicKey : List UInt8
  counter : ℕ
  transports : Option (List String) := none

structure RegistrationInfo where
  credential : RegisteredCredential
  aaguid : String
  credentialDeviceType : String
  credentialBackedUp : Bool

/-- What `verifyRegistrationResponse` finds out about an attestation. -/
structure VerifiedRegistrationResponse where
  verified : Bool
  registrationInfo : Option RegistrationInfo

/-- What the ceremonies rely on: the library, random bytes as base64url and as row ids, and the
format of a date. -/
structure PasskeyEnv extends LoginEnv where
  rpName : String
  generateRegistrationOptions : (randomBytes : ℕ) → RegistrationOptions → CeremonyOptions
  generateAuthenticationOptions : (randomBytes : ℕ) → AuthenticationOptions → CeremonyOptions
  verifyRegistrationResponse : IPasskeyConfig → (response : Js.Json) →
    (expectedChallenge : String) → Except AppError VerifiedRegistrationResponse
  base64url : (randomBytes : ℕ) → String
  cuid : ℕ → String
  toISOString : Time → String

structure PasskeyOptionsResponse where
  challengeId : String
  options : List (String × Js.Json)

structure PasskeyRegisterDto where
  challengeId : String
  name : Option String := none
  response : Js.Json

structure PasskeyDto where
  id : String
  name : String
  createdAt : String
  lastUsedAt : Option String
  aaguid : String
  deviceType : String
  backedUp : Bool
  transports : List String
  deriving DecidableEq

/-- The data of `passkey.create`. -/
structure PasskeyData where
  userId : ℕ
  credentialId : String
  publicKey : List UInt8
  counter : ℕ
  transports : List String
  aaguid : String
  deviceType : String
  backedUp : Bool
  name : String

/-- The atomic calls of the ceremonies. -/
inductive PasskeyCall where
  | auth (l : AuthCall)
  | challengeSet (challenge : String) (type : PasskeyChallengeType) (userId : Option ℕ)
  | passkeyFindMany (userId : ℕ)
  | passkeyCreate (data : PasskeyData)

abbrev PasskeyProcess := Process World PasskeyCall AppError

/-- The id of a challenge. -/
def PasskeyEnv.challengeId (A : PasskeyEnv) (randomBytes : ℕ) : String :=
  "c_" ++ A.base64url randomBytes

/-- `SET key value EX ttl` under a new id. -/
def World.storeChallenge (A : PasskeyEnv) (challenge : String) (type : PasskeyChallengeType)
    (userId : Option ℕ) (w : World) : World :=
  let challengeId := A.challengeId w.nextChallenge
  { w with
    passkeyChallenges :=
      (w.passkeyChallenges.deleteMany fun c => c.challengeId = challengeId).insertNew
        { challengeId, challenge, type, userId
          expiresAt := w.now + PASSKEY_CHALLENGE_TTL_SECONDS * 1000 }
    nextChallenge := w.nextChallenge + 1 }

/-- The row that `passkey.create` adds. -/
def PasskeyData.row (data : PasskeyData) (id : String) (createdAt : Time) : Passkey :=
  { id, userId := data.userId, credentialId := data.credentialId, publicKey := data.publicKey
    counter := data.counter, transports := data.transports, aaguid := data.aaguid
    deviceType := data.deviceType, backedUp := data.backedUp, name := data.name, createdAt }

/-- `passkey.create`: the user has to exist, and a credential is registered once. -/
def World.createPasskey (A : PasskeyEnv) (data : PasskeyData) (w : World) :
    Except AppError Passkey × World :=
  let row := data.row (A.cuid w.nextPasskey) w.now
  if (w.users.find? data.userId).isNone then (.error (.prisma .other), w)
  else if (w.passkeyOf data.credentialId).isSome || (w.passkeys.find? row.id).isSome then
    (.error (.prisma .P2002), w)
  else
    (.ok row, { w with passkeys := w.passkeys.insertNew row, nextPasskey := w.nextPasskey + 1 })

namespace PasskeyService

def alreadyRegistered : String := "credential already registered"

/-- `PasskeyChallengeStore.create`. -/
def createChallenge (A : PasskeyEnv) (challenge : String) (type : PasskeyChallengeType)
    (userId : Option ℕ) : PasskeyProcess String :=
  Process.modify (.challengeSet challenge type userId) (.error "Redis")
    (World.storeChallenge A challenge type userId) fun w => A.challengeId w.nextChallenge

def randomBytes : PasskeyProcess ℕ :=
  (TokenService.write .randomBytes World.nextIv).relabel fun l => .auth (.session (.token l))

/-- `startRegistration` after the user has been read. -/
def offerRegistration (A : PasskeyEnv) (userId : ℕ) :
    Option User → PasskeyProcess PasskeyOptionsResponse
  | none => .raise (.unauthorized "User not found")
  | some user => do
    let existing ← Process.query (.passkeyFindMany userId) (.prisma .other) fun w =>
      w.passkeys.findMany fun p => p.userId = userId
    let bytes ← randomBytes
    let options := A.generateRegistrationOptions bytes
      { rpName := A.rpName, rpID := A.passkeyConfig.rpId
        userID := (toString user.id).toUTF8.toList
        userName := user.email
        userDisplayName := Js.orDefault (some user.name) user.email
        excludeCredentials := existing.map fun p => (p.credentialId, p.transports) }
    let challengeId ← createChallenge A options.challenge .register (some userId)
    return { challengeId, options := options.options }

/-- `startRegistration`. -/
def startRegistration (A : PasskeyEnv) (userId : ℕ) : PasskeyProcess PasskeyOptionsResponse :=
  if !A.passkeyConfig.enabled then .raise (.serviceUnavailable notConfigured)
  else do
    let user ← Process.query (.auth (.user (.userFindUnique userId))) (.prisma .other) fun w =>
      w.users.find? userId
    offerRegistration A userId user

/-- `startLogin`. -/
def startLogin (A : PasskeyEnv) : PasskeyProcess PasskeyOptionsResponse :=
  if !A.passkeyConfig.enabled then .raise (.serviceUnavailable notConfigured)
  else do
    let bytes ← randomBytes
    let options := A.generateAuthenticationOptions bytes { rpID := A.passkeyConfig.rpId }
    let challengeId ← createChallenge A options.challenge .login none
    return { challengeId
             options := (options.options.filter fun f => f.1 ≠ "allowCredentials") ++
               [("allowCredentials", .arr [])] }

/-- `normalisePasskeyName`. -/
def normalisePasskeyName (A : PasskeyEnv) (name : Option String) : PasskeyProcess String :=
  let trimmed := Js.trim (name.getD "").toList
  if trimmed ≠ [] then return String.ofList (Js.utf16Take PASSKEY_NAME_MAX_LENGTH trimmed)
  else do
    let date ← TokenService.dateNow.relabel fun l => .auth (.session (.token l))
    return "Passkey " ++ String.ofList ((A.toISOString date).toList.take 10)

/-- `toPasskeyDto`. -/
def toPasskeyDto (A : PasskeyEnv) (row : Passkey) : PasskeyDto where
  id := row.id
  name := row.name
  createdAt := A.toISOString row.createdAt
  lastUsedAt := row.lastUsedAt.map A.toISOString
  aaguid := row.aaguid
  deviceType := row.deviceType
  backedUp := row.backedUp
  transports := row.transports

/-- `[...transports]` for a value of the response: it has to be a list of strings. -/
def spreadTransports : Option Js.Json → Except AppError (List String)
  | none | some .null => .ok []
  | some (.arr elems) => elems.mapM fun
    | .str s => .ok s
    | _ => .error (.prisma .other)
  | some (.str s) => .ok (s.toList.map fun c => String.singleton c)
  | some _ => .error (.error "Spread syntax requires ...iterable[Symbol.iterator] to be a function")

/-- `credential.transports ?? response.response?.transports ?? []`. -/
def transportsOf (credential : RegisteredCredential) (response : Js.Json) :
    Except AppError (List String) :=
  match credential.transports with
  | some transports => .ok transports
  | none => spreadTransports ((response.get? "response").bind fun r => r.get? "transports")

/-- `finishRegistration` when the credential is new. -/
def insertCredential (A : PasskeyEnv) (userId : ℕ) (input : PasskeyRegisterDto)
    (info : RegistrationInfo) : PasskeyProcess PasskeyDto :=
  Process.tryCatch
    (match transportsOf info.credential input.response with
      | .error e => .raise e
      | .ok transports => do
        let name ← normalisePasskeyName A input.name
        let data : PasskeyData :=
          { userId, credentialId := info.credential.id, publicKey := info.credential.publicKey
            counter := info.credential.counter, transports, aaguid := info.aaguid
            deviceType := info.credentialDeviceType, backedUp := info.credentialBackedUp, name }
        let row ← Process.atomic (.passkeyCreate data) (.prisma .other) (World.createPasskey A data)
        return toPasskeyDto A row)
    fun error =>
      if error = .prisma .P2002 then .raise (.conflict alreadyRegistered) else .raise error

/-- `finishRegistration` after the response has been verified. -/
def registerCredential (A : PasskeyEnv) (userId : ℕ) (input : PasskeyRegisterDto) :
    Option RegistrationInfo → PasskeyProcess PasskeyDto
  | none => .raise (.badRequest [verificationFailed])
  | some info => do
    let duplicate ← Process.query (.auth (.passkeyFindUnique info.credential.id)) (.prisma .other)
      fun w => w.passkeyOf info.credential.id
    if duplicate.isSome then .raise (.conflict alreadyRegistered)
    else insertCredential A userId input info

/-- The check of `finishRegistration`: a challenge of this kind, for this user. -/
def issuedTo (userId : ℕ) (stored : Option StoredPasskeyChallenge) :
    Option StoredPasskeyChallenge :=
  stored.filter fun c => c.type = .register && c.userId = some userId

/-- `finishRegistration` after the challenge has been consumed. -/
def answerRegistration (A : PasskeyEnv) (userId : ℕ) (input : PasskeyRegisterDto)
    (stored : Option StoredPasskeyChallenge) : PasskeyProcess PasskeyDto :=
  match issuedTo userId stored with
  | none => .raise (.badRequest [unknownChallenge])
  | some stored =>
    match A.verifyRegistrationResponse A.passkeyConfig input.response stored.challenge with
    | .error _ => .raise (.badRequest [verificationFailed])
    | .ok verification =>
      registerCredential A userId input
        (if verification.verified then verification.registrationInfo else none)

/-- `finishRegistration`. -/
def finishRegistration (A : PasskeyEnv) (userId : ℕ) (input : PasskeyRegisterDto) :
    PasskeyProcess PasskeyDto :=
  if !A.passkeyConfig.enabled then .raise (.serviceUnavailable notConfigured)
  else do
    let stored ← (consume input.challengeId).relabel PasskeyCall.auth
    answerRegistration A userId input stored

end PasskeyService

/-- A request to one of the four entry points. -/
inductive PasskeyRequest where
  | startRegistration (userId : ℕ)
  | finishRegistration (userId : ℕ) (input : PasskeyRegisterDto)
  | startLogin
  | finishLogin (input : PasskeyLoginVerifyDto)

inductive PasskeyAnswer where
  | options (response : PasskeyOptionsResponse)
  | registered (passkey : PasskeyDto)
  | loggedIn (userId : ℕ)

open PasskeyService in
/-- What the service does with a request. -/
def PasskeyRequest.process (A : PasskeyEnv) : PasskeyRequest → PasskeyProcess PasskeyAnswer
  | startRegistration userId => .options <$> PasskeyService.startRegistration A userId
  | finishRegistration userId input =>
    .registered <$> PasskeyService.finishRegistration A userId input
  | startLogin => .options <$> PasskeyService.startLogin A
  | finishLogin input =>
    .loggedIn <$> (PasskeyService.finishLogin A.toLoginEnv input).relabel PasskeyCall.auth

end FifiAlert
