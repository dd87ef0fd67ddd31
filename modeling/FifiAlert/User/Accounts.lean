import FifiAlert.Admin.BanUser
import FifiAlert.Auth.LoginFlows

/-!
# Accounts

Where users come from and how their addresses change: the signup, the creation
by an administrator, the change of an address. The rows of users and the links
that are mailed belong to better-auth, as `src/auth.ts` configures it: each of
its endpoints is a parameter, and one atomic call.
-/

namespace FifiAlert

open Concurrency Store

/-- `account.accountLinking.trustedProviders`. -/
def trustedProviders : List String := ["google", "facebook"]

/-- `user.changeEmail.updateEmailWithoutVerification`. -/
def updateEmailWithoutVerification : Bool := false

def TEMPORARY_SESSION_TTL_MS : Time := 5 * 60 * 1000
def TEMPORARY_SESSION_USER_AGENT : String := "fifi-alert-server/temporary-session"

structure SignupDto where
  firstName : String
  lastName : String
  email : String
  password : String
  image : Option String := none
  inviteToken : Option String := none

structure CreateUserDto where
  firstName : String
  lastName : String
  email : String
  password : String
  roles : Option (List String) := none
  image : Option String := none
  emailVerified : Option Bool := none

structure SignUpEmailBody where
  email : String
  password : String
  name : String
  image : Option String

/-- The user that `signUpEmail` answers with. -/
structure SignedUpUser where
  id : ℕ
  email : String
  name : String
  deriving DecidableEq

structure SignupResponse where
  message : String
  user : SignedUpUser
  deriving DecidableEq

inductive UserRegisteredSource where
  | signup
  | social
  deriving DecidableEq

structure IUserRegisteredPayload where
  user : SignedUpUser
  firstName : Option String
  lastName : Option String
  source : UserRegisteredSource
  inviteToken : Option String
  deriving DecidableEq

/-- What the functions about accounts rely on beyond the tables: the endpoints of
better-auth that write an account, and the cookie of a session of better-auth. -/
structure AccountEnv extends LoginEnv where
  nested : NestedWrites
  dateValue : Option Time → Js.Json
  signUpEmail : SignUpEmailBody → World → Except AppError (Option SignedUpUser) × World
  changeEmail : (cookie newEmail : String) → World → Except AppError Unit × World
  verifyEmail : (token : String) → World → Except AppError Unit × World
  sessionToken : (randomBytes : ℕ) → String
  buildSessionCookie : (sessionToken : String) → String

/-- What the administration relies on. -/
def AccountEnv.toAdminEnv (A : AccountEnv) : AdminEnv where
  token := A.token
  user := A.user
  nested := A.nested
  signedOut := A.betterAuth.signedOut
  dateValue := A.dateValue

/-- The atomic calls of the functions about accounts. -/
inductive AccountCall where
  | auth (l : AuthCall)
  | signUpEmail (body : SignUpEmailBody)
  | changeEmail (cookie newEmail : String)
  | verifyEmail (token : String)
  | roleFindMany (slugs : List String)
  | userRoleCreateMany (userId : ℕ) (roleIds : List ℕ)
  | sessionDeleteMany (token : String)
  | userRegistered (payload : IUserRegisteredPayload)

abbrev AccountProcess := Process World AccountCall AppError

/-- The calls of the administration among them. -/
def AccountCall.admin : AdminCall → AccountCall
  | .session l => auth (.session l)
  | .user l => auth (.user l)

/-- `${firstName} ${lastName}`, trimmed. -/
def fullName (firstName lastName : String) : String :=
  String.ofList (Js.trim (firstName ++ " " ++ lastName).toList)

/-- The names of a new user, as columns. -/
def namesOf (firstName lastName : String) : List (String × Js.Json) :=
  [("firstName", .str firstName), ("lastName", .str lastName)]

namespace UserService

/-- `[^\s@]+`. -/
def isMailAtom (cs : List Char) : Bool :=
  !cs.isEmpty && cs.all fun c => !Js.isWhiteSpace c && c ≠ '@'

/-- The pattern `^[^\s@]+@[^\s@]+\.[^\s@]+$`: a dot inside what follows the only `@`. -/
def emailRegex (cs : List Char) : Bool :=
  match Js.splitOn ['@'] cs with
  | [name, domain] =>
    isMailAtom name && isMailAtom domain && (domain.drop 1).dropLast.contains '.'
  | _ => false

/-- The text is empty or blank. -/
def isBlank (s : String) : Bool := (Js.trim s.toList).isEmpty

/-- `validateCreateUserData`: what is wrong first. -/
def validateCreateUserData (E : UserEnv) (data : CreateUserDto) : Except AppError Unit :=
  if isBlank data.email then .error (.badRequest ["Email is required"])
  else if isBlank data.password then .error (.badRequest ["Password is required"])
  else if isBlank data.firstName then .error (.badRequest ["First name is required"])
  else if isBlank data.lastName then .error (.badRequest ["Last name is required"])
  else if !emailRegex data.email.toList then .error (.badRequest ["Invalid email format"])
  else if Js.utf16Length data.password.toList < E.minPasswordLength then
    .error (.badRequest ["Password must be at least " ++ toString E.minPasswordLength ++
      " characters long"])
  else .ok ()

/-- `resolveRoles` without a slug: the default role. -/
def defaultRoles : AccountProcess (List Role) := do
  let defaultRole ←
    Process.query (.auth (.roleFindFirst DEFAULT_ROLE_SLUG)) (.prisma .other) World.defaultRole
  match defaultRole with
  | none =>
    .raise (.notFound ("Default role \"" ++ DEFAULT_ROLE_SLUG ++
      "\" not found or inactive. Please create it."))
  | some role => return [role]

/-- `resolveRoles`: every slug has to name an active role. -/
def resolveRoles (roleSlugs : List String) : AccountProcess (List Role) :=
  if roleSlugs.isEmpty then defaultRoles
  else do
    let roles ← Process.query (.roleFindMany roleSlugs) (.prisma .other) fun w =>
      w.roles.findMany fun r => roleSlugs.contains r.slug && r.active
    let missingSlugs := roleSlugs.filter fun slug => !(roles.map Role.slug).contains slug
    if missingSlugs.isEmpty then return roles
    else .raise (.notFound ("The following roles were not found: " ++
      ", ".intercalate missingSlugs))

/-- `assignRolesToUser`: an assignment that is there already is skipped; the rows
it refers to have to exist. -/
def assignRolesToUser (userId : ℕ) (roleIds : List ℕ) : AccountProcess Unit :=
  Process.atomic (.userRoleCreateMany userId roleIds) (.prisma .other) fun w =>
    if roleIds.all fun roleId => (w.users.find? userId).isSome && (w.roles.find? roleId).isSome then
      (.ok (), roleIds.foldl (fun w roleId => w.assignRole userId roleId) w)
    else (.error (.prisma .other), w)

/-- The `user.update` of `store`. -/
def completeUser (A : AccountEnv) (id : ℕ) (data : List (String × Js.Json)) :
    AccountProcess Unit :=
  Process.atomic (.auth (.user (.userUpdate id data))) (.prisma .other) fun w =>
    match userUpdate A.user A.nested id data w with
    | .error e => (.error e, w)
    | .ok w' => (.ok (), w')

/-- What better-auth does not store of a user that an administrator creates. -/
def createdColumns (data : CreateUserDto) : List (String × Js.Json) :=
  namesOf data.firstName data.lastName ++
    ("emailVerified", .bool (data.emailVerified.getD false)) :: AuthController.firstTime

/-- `store` after better-auth has created the user. -/
def storeCreated (A : AccountEnv) (data : CreateUserDto) (rolesToAssign : List Role) :
    Option SignedUpUser → AccountProcess (Option UserWithRoles)
  | none => .raise (.badRequest ["Failed to create user via Better Auth"])
  | some user => do
    completeUser A user.id (createdColumns data)
    assignRolesToUser user.id (rolesToAssign.map Role.id)
    (findWithRoles user.id).relabel .auth

/-- The `catch` of `store`. -/
def storeFailed {α : Type} : AppError → AccountProcess α
  | .conflict message => .raise (.conflict message)
  | .badRequest message => .raise (.badRequest message)
  | .notFound message => .raise (.notFound message)
  | error => .raise (.badRequest ["Failed to create user: " ++ error.message])

/-- The `try` block of `store`. -/
def createUser (A : AccountEnv) (data : CreateUserDto) (rolesToAssign : List Role) :
    AccountProcess (Option UserWithRoles) :=
  let body : SignUpEmailBody :=
    { email := A.toLowerCase data.email, password := data.password,
      name := fullName data.firstName data.lastName, image := data.image }
  Process.tryCatch
    (do
      let signUpResult ← Process.atomic (.signUpEmail body) (.prisma .other) (A.signUpEmail body)
      storeCreated A data rolesToAssign signUpResult)
    storeFailed

/-- `store` after the address has been looked up. -/
def storeUnlessTaken (A : AccountEnv) (data : CreateUserDto) :
    Option (User × Option Account) → AccountProcess (Option UserWithRoles)
  | some _ => .raise (.conflict ("A user with email \"" ++ data.email ++ "\" already exists"))
  | none => do
    let rolesToAssign ← resolveRoles (data.roles.getD [])
    createUser A data rolesToAssign

/-- `store`. -/
def store (A : AccountEnv) (data : CreateUserDto) : AccountProcess (Option UserWithRoles) :=
  match validateCreateUserData A.user data with
  | .error e => .raise e
  | .ok _ => do
    let email := A.toLowerCase data.email
    let existingUser ← Process.query (.auth (.userFindByEmail email)) (.prisma .other) fun w =>
      w.findUserByEmail email
    storeUnlessTaken A data existingUser

end UserService

namespace AuthController

/-- `emitUserRegistered`; a token that is empty or too long is dropped. -/
def emitUserRegistered (user : SignedUpUser) (firstName lastName : Option String)
    (source : UserRegisteredSource) (inviteToken : Option String) : AccountProcess Unit :=
  let payload : IUserRegisteredPayload :=
    { user, firstName, lastName, source
      inviteToken := (Js.truthy inviteToken).filter fun token =>
        Js.utf16Length token.toList ≤ 256 }
  (Process.modify (.userRegistered payload) (.error "emit") id fun _ => ()).tryCatch
    fun _ => return ()

/-- `signup` after better-auth has created the user. -/
def completeRegistration (A : AccountEnv) (signupDto : SignupDto) :
    Option SignedUpUser → AccountProcess SignupResponse
  | none => .raise (.badRequest ["Failed to create user"])
  | some user => do
    let _ ← (UserService.update A.user A.nested user.id
      (namesOf signupDto.firstName signupDto.lastName ++ firstTime)).relabel fun l =>
        .auth (.user l)
    (UserService.assignDefaultRole user.id).relabel .auth
    emitUserRegistered user (some signupDto.firstName) (some signupDto.lastName) .signup
      signupDto.inviteToken
    (requestVerificationEmail A.toAuthEnv (A.toLowerCase signupDto.email)).relabel .auth
    return { message :=
               "Signup successful. Please verify your email address before logging in.",
             user }

/-- The `catch` of `signup`. -/
def signupFailed {α : Type} (A : AccountEnv) (error : AppError) : AccountProcess α :=
  match error with
  | .badRequest message => .raise (.badRequest message)
  | _ =>
    let message := (A.toLowerCase error.message).toList
    if Js.includes message "exist".toList || Js.includes message "duplicate".toList then
      .raise (.badRequest ["User with this email already exists"])
    else .raise (.badRequest ["Failed to create user"])

/-- `signup`. -/
def signup (A : AccountEnv) (signupDto : SignupDto) : AccountProcess SignupResponse :=
  let body : SignUpEmailBody :=
    { email := A.toLowerCase signupDto.email, password := signupDto.password,
      name := fullName signupDto.firstName signupDto.lastName, image := signupDto.image }
  Process.tryCatch
    (do
      let result ← Process.atomic (.signUpEmail body) (.prisma .other) (A.signUpEmail body)
      completeRegistration A signupDto result)
    (signupFailed A)

/-- The end of `withTemporaryBetterAuthSession`; a failure is ignored. -/
def dropTemporarySession (token : String) : AccountProcess Unit :=
  (Process.modify (.sessionDeleteMany token) (.prisma .other)
    (fun w => { w with sessions := w.sessions.deleteMany fun s => s.token = token })
    fun _ => ()).tryCatch fun _ => return ()

/-- `withTemporaryBetterAuthSession`: the session is deleted whatever happens. -/
def withTemporaryBetterAuthSession (A : AccountEnv) (userId : ℕ)
    (fn : String → AccountProcess Unit) : AccountProcess Unit := do
  let bytes ← (TokenService.write .randomBytes World.nextIv).relabel fun l =>
    .auth (.session (.token l))
  let date ← TokenService.dateNow.relabel fun l => .auth (.session (.token l))
  let token := A.sessionToken bytes
  (TokenService.createSession
    { token, userId, expiresAt := date + TEMPORARY_SESSION_TTL_MS,
      userAgent := some TEMPORARY_SESSION_USER_AGENT }).relabel fun l =>
    .auth (.session (.token l))
  (fn (A.buildSessionCookie token)).tryCatch fun e => do
    dropTemporarySession token
    .raise e
  dropTemporarySession token

/-- `callBetterAuthAs`. -/
def callBetterAuthAs (A : AccountEnv) (req : AuthHeaders) (userId : ℕ)
    (fn : String → AccountProcess Unit) : AccountProcess Unit :=
  match bearerFromRequest req, Js.truthy req.cookie with
  | none, some cookie => fn cookie
  | _, _ => withTemporaryBetterAuthSession A userId fn

/-- `changeEmail`. -/
def changeEmail (A : AccountEnv) (newEmail : String) (req : AuthHeaders) :
    AccountProcess String := do
  let caller ← (resolveCallerUserId A.toAuthEnv req).relabel .auth
  let address := A.toLowerCase newEmail
  Process.tryCatch
    (do
      callBetterAuthAs A req caller.userId fun cookie =>
        Process.atomic (.changeEmail cookie address) (.prisma .other) (A.changeEmail cookie address)
      return "A confirmation link has been sent to your current email address.")
    fun error => .raise (.badRequest [error.message])

end AuthController

namespace BetterAuth

/-- `GET /api/auth/verify-email`, where every link that is mailed leads. -/
def verifyEmail (A : AccountEnv) (token : String) : AccountProcess Unit :=
  Process.atomic (.verifyEmail token) (.prisma .other) (A.verifyEmail token)

end BetterAuth

end FifiAlert
