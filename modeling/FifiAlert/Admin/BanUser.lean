import FifiAlert.Auth.SessionCalls
import FifiAlert.User.Privileges

/-!
# Banning a user

`banUser` and `unbanUser` of the administration, which write the three columns of
a ban through the update of the user service. A ban lasts until its `banExpires`,
or for good when there is none.
-/

namespace Js

/-- The time of `new Date(ms)`: whole milliseconds, `none` for an invalid date. -/
def timeClip (ms : ℚ) : Option ℤ :=
  if -8640000000000000 ≤ ms ∧ ms ≤ 8640000000000000 then some (ms.num.tdiv ms.den) else none

end Js

namespace FifiAlert

open Concurrency Store Js

/-- What the administration relies on beyond the tables. `dateValue` is a `Date`
as the database client gets it. -/
structure AdminEnv where
  token : TokenEnv
  user : UserEnv
  nested : NestedWrites
  signedOut : SignOut
  dateValue : Option Time → Json

/-- The atomic calls of the functions that write a ban. -/
inductive AdminCall where
  | session (l : SessionCall)
  | user (l : UserCall)

abbrev AdminProcess := Process World AdminCall AppError

structure BanUserResponse where
  message : String
  userId : ℕ
  banReason : String
  banExpires : String
  deriving DecidableEq

structure UnbanUserResponse where
  message : String
  userId : ℕ
  deriving DecidableEq

/-- `findOne` by id, without relations. -/
def UserService.findOne (id : ℕ) : UserProcess (Option User) :=
  Process.query (.userFindUnique id) (.prisma .other) fun w => w.users.find? id

namespace AdminController

/-- The columns of a ban, as `update` gets them. -/
def banColumns (banned : Bool) (banReason banExpires : Json) : List (String × Json) :=
  [("banned", .bool banned), ("banReason", banReason), ("banExpires", banExpires)]

/-- When a ban that was asked for ends: not at all without a number of minutes, or with 0. -/
def banEnd (expiresInMinutes : Option ℚ) : AdminProcess (Option (Option Time)) :=
  match expiresInMinutes.filter fun minutes => minutes ≠ 0 with
  | none => return none
  | some minutes => do
    let date ← SessionCall.dateNow.relabel .session
    return some (timeClip (date + minutes * 60 * 1000))

/-- The answer of `banUser`. -/
def banned (A : AdminEnv) (userId : ℕ) (banReason : String) :
    Option (Option Time) → AdminProcess BanUserResponse
  | none =>
    return { message := "User banned successfully", userId, banReason, banExpires := "permanent" }
  | some (some banExpires) =>
    return { message := "User banned successfully", userId, banReason,
             banExpires := orDefault (some (A.token.toISOString banExpires)) "permanent" }
  | some none => .raise (.error "Invalid time value")

/-- `banUser`. -/
def banUser (A : AdminEnv) (userId : ℕ) (reason : Option String) (expiresInMinutes : Option ℚ) :
    AdminProcess BanUserResponse := do
  let user ← (UserService.findOne userId).relabel .user
  match user with
  | none => .raise (.error "User not found")
  | some _ => do
    let banExpires ← banEnd expiresInMinutes
    let banReason := orDefault reason "Banned by administrator"
    let _ ← (UserService.update A.user A.nested userId (banColumns true (.str banReason)
      ((banExpires.map A.dateValue).getD .null))).relabel AdminCall.user
    banned A userId banReason banExpires

/-- `unbanUser`. -/
def unbanUser (A : AdminEnv) (userId : ℕ) : AdminProcess UnbanUserResponse := do
  let user ← (UserService.findOne userId).relabel .user
  match user with
  | none => .raise (.error "User not found")
  | some _ => do
    let _ ← (UserService.update A.user A.nested userId
      (banColumns false .null .null)).relabel AdminCall.user
    return { message := "User unbanned successfully", userId }

end AdminController

/-- What a call does to the shared state. -/
def UserCall.effect (E : UserEnv) (N : NestedWrites) : UserCall → World → World
  | userFindUnique _, w => w
  | accountFindCredential _, w => w
  | accountSetPassword id hashedPassword, w =>
      { w with
        accounts := w.accounts.updateMany (fun a => a.id = id)
          (Account.setPassword hashedPassword) (Account.setPassword_id hashedPassword) }
  | userUpdate id data, w =>
      match FifiAlert.userUpdate E N id data w with
      | .error _ => w
      | .ok w' => w'

/-- The update of a user reads the row, writes the password if one is given, and the sanitised
data. -/
theorem UserService.update_confined {P : UserCall → (World → World) → Prop} {E : UserEnv}
    {N : NestedWrites} {id : ℕ} {body : List (String × Json)}
    (hfind : ∀ userId, P (.userFindUnique userId) fun w => w)
    (haccount : ∀ userId, P (.accountFindCredential userId) fun w => w)
    (hpassword : ∀ accountId hashed, P (.accountSetPassword accountId hashed)
      ((UserCall.accountSetPassword accountId hashed).effect E N))
    (hupdate : P (.userUpdate id (sanitizedBody body))
      ((UserCall.userUpdate id (sanitizedBody body)).effect E N)) :
    (UserService.update E N id body).Confined P fun _ => True := by
  have hhandle : ∀ userId password,
      (UserService.handlePassword E userId password).Confined P fun _ => True := by
    intro userId password
    cases password with
    | none => trivial
    | some newPassword =>
        unfold UserService.handlePassword UserService.updateUserPassword
        dsimp only
        split
        · trivial
        refine (Process.confined_query (haccount userId) trivial).bind fun account => ?_
        cases account with
        | none => trivial
        | some account =>
            cases E.hashPassword newPassword with
            | error e => trivial
            | ok hashed => exact Process.confined_modify (hpassword account.id hashed) trivial
  have hwrite : ∀ user,
      (UserService.writeUpdate E N id (sanitizedBody body) user).Confined P fun _ => True := by
    intro user
    unfold UserService.writeUpdate
    split
    · trivial
    have hnext : (fun w => (match userUpdate E N id (sanitizedBody body) w with
        | .error e => ((.error e, w) : Except AppError User × World)
        | .ok w' => (.ok ((w'.users.find? id).getD user), w')).2) =
          (UserCall.userUpdate id (sanitizedBody body)).effect E N := by
      funext w
      cases hw : userUpdate E N id (sanitizedBody body) w <;> simp [UserCall.effect, hw]
    exact Process.confined_atomic (hnext ▸ hupdate) (fun _ _ _ => trivial) trivial
  unfold UserService.update
  refine (Process.confined_query (hfind id) trivial).bind fun existingUser => ?_
  cases existingUser with
  | none => trivial
  | some user => exact (hhandle _ _).bind fun _ => hwrite user

def AdminCall.effect (A : AdminEnv) : AdminCall → World → World
  | session l => l.effect A.signedOut
  | user l => l.effect A.user A.nested

section Ban

/-- The ban of a user: until when, `some none` for good. -/
def User.ban (user : User) : Option (Option Time) :=
  if user.banned then some user.banExpires else none

def World.banOf (w : World) (id : ℕ) : Option (Option Time) :=
  (w.users.find? id).bind User.ban

/-- Has a ban with this end run out? -/
def banOver (now : Time) (banExpires : Option Time) : Bool :=
  banExpires.any fun t => t ≤ now

theorem World.banInForce_iff {w : World} {id : ℕ} :
    w.BanInForce id ↔
      ∃ banExpires, w.banOf id = some banExpires ∧ banOver w.now banExpires = false := by
  unfold World.BanInForce World.banOf
  cases hrow : w.users.find? id with
  | none => simp
  | some user =>
      cases hban : user.banned with
      | false => simp [User.ban, hban]
      | true => cases hends : user.banExpires <;> simp [User.ban, hban, hends, banOver]

theorem banOf_updateMany {w : World} {p : User → Bool} {f : User → User}
    {hf : ∀ user, (f user).id = user.id} (id : ℕ) :
    ({ w with users := w.users.updateMany p f hf } : World).banOf id =
      (w.users.find? id).bind fun user => User.ban (if p user then f user else user) := by
  unfold World.banOf
  rw [Table.find?_updateMany]
  cases w.users.find? id <;> rfl

theorem User.ban_unban (date : Time) (user : User) : (user.unban date).ban = none := rfl

/-- The three columns reach the database client as they are. -/
theorem sanitizedBody_banColumns (banned : Bool) (banReason banExpires : Json) :
    sanitizedBody (AdminController.banColumns banned banReason banExpires) =
      AdminController.banColumns banned banReason banExpires := rfl

/-- An update of the three columns, when it succeeds, sets the ban of this user and no other. -/
theorem userUpdate_banColumns {E : UserEnv} (hbool : ∀ b, E.boolean (.bool b) = some b)
    {N : NestedWrites} {id : ℕ} {banned : Bool} {banReason banExpires : Json} {w w' : World}
    (h : userUpdate E N id (AdminController.banColumns banned banReason banExpires) w = .ok w') :
    w'.now = w.now ∧
      (∃ ends, w'.banOf id = if banned then some ends else none) ∧
      ∀ other, other ≠ id → w'.banOf other = w.banOf other := by
  unfold userUpdate at h
  cases hparse : parseUserUpdate E (AdminController.banColumns banned banReason banExpires) with
  | none =>
      rw [hparse] at h
      cases h
  | some u =>
      obtain ⟨-, hbanned, -, -, hrelations⟩ := parseUserUpdate_eq_some hparse
      have hset : u.banned = some banned := by
        have hcolumn : column E.boolean
            (AdminController.banColumns banned banReason banExpires) "banned" =
            some (some banned) := congrArg (Option.map some) (hbool banned)
        exact Option.some.inj (hbanned.symm.trans hcolumn)
      have hempty : u.relations.isEmpty = true := by
        rw [hrelations]
        rfl
      rw [hparse] at h
      simp only [hempty, if_true] at h
      split at h
      · cases h
      split at h
      · cases h
      next hfound =>
          obtain rfl := Except.ok.inj h
          refine ⟨rfl, ?_, fun other hother => ?_⟩
          · cases hrow : w.users.find? id with
            | none => simp [hrow] at hfound
            | some user =>
                refine ⟨u.banExpires.getD user.banExpires, ?_⟩
                have hid : user.id = id := Table.key_of_find? hrow
                rw [setColumns, banOf_updateMany, hrow, Option.bind_some,
                  if_pos (decide_eq_true hid)]
                simp [User.ban, UserUpdateInput.apply, hset]
          · rw [setColumns, banOf_updateMany]
            unfold World.banOf
            cases hrow : w.users.find? other with
            | none => rfl
            | some user =>
                have hid : user.id = other := Table.key_of_find? hrow
                have hne : ¬ decide (user.id = id) = true := by simpa [hid] using hother
                rw [Option.bind_some, Option.bind_some, if_neg hne]

end Ban

end FifiAlert
