import FifiAlert.Concurrency.Process
import FifiAlert.Errors
import FifiAlert.Js.ColumnInput
import FifiAlert.World

/-!
# Updating a user

`PUT /users/:id`: the controller asks who is calling, the service splits off the
password, lets through the fields that the model of a user has, and hands them to
the database client. The body is any JSON object, since nothing validates it.
-/

namespace FifiAlert

open Concurrency Store Js

/-- The columns of a user that an update names, with their values, and the
relations it writes to. -/
structure UserUpdateInput where
  name : Option String := none
  firstName : Option String := none
  lastName : Option String := none
  email : Option String := none
  emailVerified : Option Bool := none
  image : Option (Option String) := none
  updatedAt : Option Time := none
  banned : Option Bool := none
  banReason : Option (Option String) := none
  banExpires : Option (Option Time) := none
  settings : Option (Option Json) := none
  «meta» : Option (Option Json) := none
  relations : List (String × Json) := []

/-- The shortest password, the hash of a password, and what the database client
takes an input for a column of each type to mean: `none` when it refuses it. -/
structure UserEnv where
  minPasswordLength : ℕ := 4
  hashPassword : Json → Except AppError String
  string : Json → Option String
  nullableString : Json → Option (Option String)
  boolean : Json → Option Bool
  dateTime : Json → Option Time
  nullableDateTime : Json → Option (Option Time)
  nullableJson : Json → Option (Option Json)

/-- How the database client carries out the relation operations in an update of a
user. -/
abbrev NestedWrites := ℕ → List (String × Json) → World → Except AppError World

namespace UserUpdateInput

/-- Write the named columns of a row. -/
def apply (u : UserUpdateInput) (now : Time) (user : User) : User where
  id := user.id
  name := u.name.getD user.name
  firstName := u.firstName.getD user.firstName
  lastName := u.lastName.getD user.lastName
  email := u.email.getD user.email
  emailVerified := u.emailVerified.getD user.emailVerified
  image := u.image.getD user.image
  createdAt := user.createdAt
  updatedAt := u.updatedAt.getD now
  banned := u.banned.getD user.banned
  banReason := u.banReason.getD user.banReason
  banExpires := u.banExpires.getD user.banExpires
  settings := u.settings.getD user.settings
  «meta» := u.«meta».getD user.«meta»

theorem apply_id (u : UserUpdateInput) (now : Time) (user : User) :
    (u.apply now user).id = user.id := rfl

end UserUpdateInput

namespace PrismaModelFields

def VALID_RELATION_OPERATIONS : List String :=
  ["create", "createMany", "connect", "connectOrCreate", "disconnect", "delete", "deleteMany",
    "update", "updateMany", "upsert", "set"]

def getUserScalarFields : List String :=
  ["id", "name", "firstName", "lastName", "email", "emailVerified", "image", "createdAt",
    "updatedAt", "banned", "banReason", "banExpires", "settings", "meta"]

def getUserRelationFields : List String := ["roles", "sessions", "accounts"]

def getUserImmutableFields : List String := ["id", "createdAt"]

def updatableScalarFields : List String :=
  getUserScalarFields.filter fun field => !getUserImmutableFields.contains field

/-- Is the value an object with the key of a relation operation? -/
def isValidPrismaRelationObject : Json → Bool
  | .obj fields => fields.any fun field => VALID_RELATION_OPERATIONS.contains field.1
  | _ => false

/-- Keep the columns that may be updated and the relations with an operation. -/
def sanitizeUpdateData (data : List (String × Json)) : List (String × Json) :=
  (updatableScalarFields.filterMap fun field => (data.lookup field).map fun v => (field, v)) ++
    getUserRelationFields.filterMap fun relation =>
      ((data.lookup relation).filter isValidPrismaRelationObject).map fun v => (relation, v)

end PrismaModelFields

open PrismaModelFields

/-- The validation of the `data` of `user.update`. -/
def parseUserUpdate (E : UserEnv) (data : List (String × Json)) : Option UserUpdateInput := do
  let name ← column E.string data "name"
  let firstName ← column E.string data "firstName"
  let lastName ← column E.string data "lastName"
  let email ← column E.string data "email"
  let emailVerified ← column E.boolean data "emailVerified"
  let image ← column E.nullableString data "image"
  let updatedAt ← column E.dateTime data "updatedAt"
  let banned ← column E.boolean data "banned"
  let banReason ← column E.nullableString data "banReason"
  let banExpires ← column E.nullableDateTime data "banExpires"
  let settings ← column E.nullableJson data "settings"
  let metadata ← column E.nullableJson data "meta"
  return { name, firstName, lastName, email, emailVerified, image, updatedAt, banned, banReason
           banExpires, settings, «meta» := metadata
           relations := data.filter fun field => getUserRelationFields.contains field.1 }

/-- Another user has the address that the update names. -/
def emailTaken (u : UserUpdateInput) (id : ℕ) (w : World) : Bool :=
  u.email.any fun email => w.users.rows.any fun other => other.id ≠ id && other.email = email

/-- The row after an update of its columns, before any relation is written. -/
def setColumns (u : UserUpdateInput) (id : ℕ) (w : World) : World :=
  { w with users := w.users.updateMany (fun r => r.id = id) (u.apply w.now) (u.apply_id w.now) }

/-- `user.update`. -/
def userUpdate (E : UserEnv) (N : NestedWrites) (id : ℕ) (data : List (String × Json))
    (w : World) : Except AppError World :=
  match parseUserUpdate E data with
  | none => .error (.prisma .other)
  | some u =>
    if emailTaken u id w then .error (.prisma .P2002)
    else if (w.users.find? id).isNone then .error (.prisma .P2025)
    else if u.relations.isEmpty then .ok (setColumns u id w)
    else N id u.relations (setColumns u id w)

inductive UserCall where
  | userFindUnique (id : ℕ)
  | accountFindCredential (userId : ℕ)
  | accountSetPassword (id : ℕ) (hashedPassword : String)
  | userUpdate (id : ℕ) (data : List (String × Json))

abbrev UserProcess := Process World UserCall AppError

def Account.setPassword (hashedPassword : String) (account : Account) : Account :=
  { account with password := some hashedPassword }

theorem Account.setPassword_id (hashedPassword : String) (account : Account) :
    (account.setPassword hashedPassword).id = account.id := rfl

/-- The account that holds the password of a user. -/
def World.credentialAccount (w : World) (userId : ℕ) : Option Account :=
  w.accounts.rows.find? fun a => a.userId = userId && a.providerId = "credential"

/-- `a < n` for a JSON value on the left, compared as a number. -/
def lessThan (v : Json) (n : ℕ) : Bool :=
  match v with
  | .num q => q < n
  | .str s => (Number s).any fun q : ℚ => q < n
  | .bool b => (if b then 1 else 0) < n
  | .null => 0 < n
  | _ => false

/-- `newPassword.length < minPasswordLength`; a value without a length is never
too short. -/
def isTooShort (newPassword : Json) (minPasswordLength : ℕ) : Bool :=
  match newPassword with
  | .str s => utf16Length s.toList < minPasswordLength
  | .arr elems => elems.length < minPasswordLength
  | .obj fields => (fields.lookup "length").any fun v => lessThan v minPasswordLength
  | _ => false

namespace UserService

def updateUserPassword (E : UserEnv) (userId : ℕ) (newPassword : Json) : UserProcess Unit := do
  if isTooShort newPassword E.minPasswordLength then
    .raise (.badRequest ["Password must be at least " ++ toString E.minPasswordLength ++
      " characters long"])
  else
    let credentialAccount ← Process.query (.accountFindCredential userId) (.prisma .other)
      fun w => w.credentialAccount userId
    match credentialAccount with
    | none =>
      .raise (.badRequest ["Cannot update password: User does not have a credential account. " ++
        "This user may have signed up using a social provider."])
    | some account =>
      match E.hashPassword newPassword with
      | .error e => .raise e
      | .ok hashedPassword =>
        Process.modify (.accountSetPassword account.id hashedPassword) (.prisma .other)
          (fun w =>
            { w with
              accounts := w.accounts.updateMany (fun a => a.id = account.id)
                (Account.setPassword hashedPassword) (Account.setPassword_id hashedPassword) })
          fun _ => ()

/-- The password that a body asks for, if any. -/
def givenPassword (userData : List (String × Json)) : Option Json :=
  (userData.lookup "password").filter fun v =>
    match v with
    | .null => false
    | .str s => s ≠ ""
    | _ => true

/-- The password is stored with the credential account, apart from the row. -/
def handlePassword (E : UserEnv) (userId : ℕ) (password : Option Json) : UserProcess Unit :=
  match password with
  | some newPassword => updateUserPassword E userId newPassword
  | none => return ()

/-- The write of the sanitised data. When there is nothing to update, the row that
was read is the answer. -/
def writeUpdate (E : UserEnv) (N : NestedWrites) (id : ℕ) (sanitizedData : List (String × Json))
    (existingUser : User) : UserProcess User :=
  if sanitizedData.isEmpty then return existingUser
  else
    Process.atomic (.userUpdate id sanitizedData) (.prisma .other) fun w =>
      match userUpdate E N id sanitizedData w with
      | .error e => (.error e, w)
      | .ok w' => (.ok ((w'.users.find? id).getD existingUser), w')

def update (E : UserEnv) (N : NestedWrites) (id : ℕ) (userData : List (String × Json)) :
    UserProcess User := do
  let existingUser ← Process.query (.userFindUnique id) (.prisma .other) fun w => w.users.find? id
  match existingUser with
  | none => .raise (.notFound "User not found with the provided identifier")
  | some user =>
    handlePassword E user.id (givenPassword userData)
    writeUpdate E N id
      (sanitizeUpdateData (userData.filter fun field => field.1 ≠ "password")) user

end UserService

/-- The session of the caller: who they are and the slugs of their roles. -/
structure CallerSession where
  userId : Option ℕ
  roles : List (Option String) := []

namespace UserController

def CROSS_USER_UPDATE_ROLES : List String := ["admin", "manager"]

def hasCrossUserUpdateRole (session : CallerSession) : Bool :=
  session.roles.any fun slug =>
    match truthy slug with
    | some slug => CROSS_USER_UPDATE_ROLES.contains slug
    | none => false

def update (E : UserEnv) (N : NestedWrites) (id : ℕ) (updateUserDto : List (String × Json))
    (session : CallerSession) : UserProcess User :=
  let canManageUsers := hasCrossUserUpdateRole session
  if session.userId ≠ some id ∧ !canManageUsers then
    .raise (.forbidden "You do not have permission to update this user")
  else if !canManageUsers ∧ (updateUserDto.lookup "emailVerified").isSome then
    .raise (.forbidden "You do not have permission to update email verification status")
  else UserService.update E N id updateUserDto

end UserController

end FifiAlert
