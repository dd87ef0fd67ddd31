import FifiAlert.User.UserUpdate

/-!
# What a user may not give themselves

The privileges of a user are the role assignments, the ban, the verification of
the email, the sessions and the accounts. `PUT /users/:id` guards one of them,
the verification; the sanitiser lets through the ban columns and every relation
operation. So a request of a user without a managing role leaves the privileges
alone exactly when it is refused, or names no relation operation and only the ban
that the row has already.
-/

namespace FifiAlert

open Concurrency Store Js PrismaModelFields

/-- The privileges of a user, as the database has them. A password is not one. -/
structure Privileges where
  roles : List UserRole
  flags : Option (Bool × Option String × Option Time × Bool)
  sessions : List Session
  accounts : List Account

/-- `banned`, `banReason`, `banExpires` and `emailVerified`. -/
def User.flags (user : User) : Bool × Option String × Option Time × Bool :=
  (user.banned, user.banReason, user.banExpires, user.emailVerified)

def Account.withoutPassword (account : Account) : Account :=
  { account with password := none }

def World.privileges (w : World) (id : ℕ) : Privileges where
  roles := w.userRoles.findMany fun r => r.user_id = id
  flags := (w.users.find? id).map User.flags
  sessions := w.sessions.findMany fun s => s.userId = id
  accounts := (w.accounts.findMany fun a => a.userId = id).map Account.withoutPassword

/-- The request fails, or the privileges are what they were. -/
def KeepsPrivileges (p : UserProcess User) (id : ℕ) (w : World) : Prop :=
  (∃ e, (p.run w).1 = .error e) ∨ (p.run w).2.privileges id = w.privileges id

section Lookup

variable {β : Type}

/-- Looking up a key in an object made of chosen keys. -/
theorem lookup_chosen (keys : List String) (get : String → Option β) (k : String) :
    (keys.filterMap fun key => (get key).map fun v => (key, v)).lookup k =
      if k ∈ keys then get k else none := by
  induction keys with
  | nil => rfl
  | cons key keys ih =>
      by_cases hk : k = key
      · subst hk
        cases hget : get k with
        | none => simp [hget, ih]
        | some v => simp [hget]
      · cases hget : get key with
        | none => simp [hget, ih, hk]
        | some v => simp [hget, ih, hk, List.lookup_cons, beq_eq_false_iff_ne.2 hk]

theorem lookup_omitted (fields : List (String × β)) {k key : String} (hk : k ≠ key) :
    (fields.filter fun field => field.1 ≠ key).lookup k = fields.lookup k := by
  induction fields with
  | nil => rfl
  | cons field fields ih =>
      obtain ⟨name, v⟩ := field
      by_cases hname : name = key
      · subst hname
        simpa [List.lookup_cons, beq_eq_false_iff_ne.2 hk] using ih
      · rw [List.filter_cons_of_pos (by simpa using hname), List.lookup_cons, List.lookup_cons, ih]

end Lookup

section Sanitize

variable (body : List (String × Json))

/-- The `data` that reaches the database client. -/
def sanitizedBody : List (String × Json) :=
  sanitizeUpdateData (body.filter fun field => field.1 ≠ "password")

theorem ne_of_updatable : ∀ key ∈ updatableScalarFields,
    key ≠ "password" ∧ key ∉ getUserRelationFields := by
  decide

/-- A column that may be updated goes through as it is. -/
theorem lookup_sanitizedBody {key : String} (hkey : key ∈ updatableScalarFields) :
    (sanitizedBody body).lookup key = body.lookup key := by
  obtain ⟨hne, hrel⟩ := ne_of_updatable key hkey
  unfold sanitizedBody sanitizeUpdateData
  rw [List.lookup_append, lookup_chosen, lookup_chosen, if_pos hkey, if_neg hrel, Option.or_none,
    lookup_omitted body hne]

/-- No relation of the body carries an operation. -/
def NoRelationWrite : Prop :=
  ∀ relation ∈ getUserRelationFields,
    (body.lookup relation).filter isValidPrismaRelationObject = none

theorem relations_isEmpty_iff :
    ((sanitizedBody body).filter fun field =>
      getUserRelationFields.contains field.1).isEmpty = true ↔ NoRelationWrite body := by
  have hscalar : ((updatableScalarFields.filterMap fun field =>
      ((body.filter fun f => f.1 ≠ "password").lookup field).map fun v => (field, v)).filter
        fun field => getUserRelationFields.contains field.1) = [] := by
    rw [List.filter_eq_nil_iff]
    intro field hfield
    obtain ⟨key, hkey, hv⟩ := List.mem_filterMap.1 hfield
    obtain ⟨v, -, rfl⟩ := Option.map_eq_some_iff.1 hv
    simpa using (ne_of_updatable key hkey).2
  have hpassword : ∀ relation ∈ getUserRelationFields, relation ≠ "password" := by decide
  unfold sanitizedBody sanitizeUpdateData NoRelationWrite
  rw [List.filter_append, hscalar, List.nil_append, List.isEmpty_iff, List.filter_eq_nil_iff]
  constructor
  · intro h relation hrelation
    rw [Option.eq_none_iff_forall_ne_some]
    intro v hv
    refine h (relation, v) (List.mem_filterMap.2 ⟨relation, hrelation, ?_⟩)
      (by simpa using hrelation)
    rw [lookup_omitted body (hpassword relation hrelation), hv, Option.map_some]
  · intro h field hfield
    obtain ⟨relation, hrelation, hv⟩ := List.mem_filterMap.1 hfield
    rw [lookup_omitted body (hpassword relation hrelation), h relation hrelation] at hv
    cases hv

end Sanitize

section Columns

variable {α : Type} {meaning : Json → Option α} {data : List (String × Json)} {key : String}

/-- An accepted column keeps the old value exactly when it is not named or named
with that value. -/
theorem column_getD_eq_iff {x : Option α} (h : column meaning data key = some x) (old : α) :
    x.getD old = old ↔ ∀ v, data.lookup key = some v → meaning v = some old := by
  unfold column at h
  cases hv : data.lookup key with
  | none =>
      simp only [hv, Option.some.injEq] at h
      simp [← h]
  | some v =>
      simp only [hv, Option.map_eq_some_iff] at h
      obtain ⟨a, ha, rfl⟩ := h
      simp [ha]

theorem column_eq_none {x : Option α} (h : column meaning data key = some x)
    (hkey : data.lookup key = none) : x = none := by
  simpa [column, hkey] using h.symm

/-- What an accepted update says about the address and the privileges. -/
theorem columns_of_parseUserUpdate {E : UserEnv} {u : UserUpdateInput}
    (h : parseUserUpdate E data = some u) :
    column E.string data "email" = some u.email ∧
      column E.boolean data "emailVerified" = some u.emailVerified ∧
      column E.boolean data "banned" = some u.banned ∧
      column E.nullableString data "banReason" = some u.banReason ∧
      column E.nullableDateTime data "banExpires" = some u.banExpires ∧
      u.relations = data.filter fun field => getUserRelationFields.contains field.1 := by
  unfold parseUserUpdate at h
  obtain ⟨name, -, h⟩ := Option.bind_eq_some_iff.1 h
  obtain ⟨firstName, -, h⟩ := Option.bind_eq_some_iff.1 h
  obtain ⟨lastName, -, h⟩ := Option.bind_eq_some_iff.1 h
  obtain ⟨email, hemail, h⟩ := Option.bind_eq_some_iff.1 h
  obtain ⟨emailVerified, hverified, h⟩ := Option.bind_eq_some_iff.1 h
  obtain ⟨image, -, h⟩ := Option.bind_eq_some_iff.1 h
  obtain ⟨updatedAt, -, h⟩ := Option.bind_eq_some_iff.1 h
  obtain ⟨banned, hbanned, h⟩ := Option.bind_eq_some_iff.1 h
  obtain ⟨banReason, hreason, h⟩ := Option.bind_eq_some_iff.1 h
  obtain ⟨banExpires, hexpires, h⟩ := Option.bind_eq_some_iff.1 h
  obtain ⟨settings, -, h⟩ := Option.bind_eq_some_iff.1 h
  obtain ⟨metadata, -, h⟩ := Option.bind_eq_some_iff.1 h
  obtain rfl := Option.some.inj h
  exact ⟨hemail, hverified, hbanned, hreason, hexpires, rfl⟩

theorem parseUserUpdate_eq_some {E : UserEnv} {u : UserUpdateInput}
    (h : parseUserUpdate E data = some u) :
    column E.boolean data "emailVerified" = some u.emailVerified ∧
      column E.boolean data "banned" = some u.banned ∧
      column E.nullableString data "banReason" = some u.banReason ∧
      column E.nullableDateTime data "banExpires" = some u.banExpires ∧
      u.relations = data.filter fun field => getUserRelationFields.contains field.1 :=
  (columns_of_parseUserUpdate h).2

theorem parseUserUpdate_email {E : UserEnv} {u : UserUpdateInput}
    (h : parseUserUpdate E data = some u) : column E.string data "email" = some u.email :=
  (columns_of_parseUserUpdate h).1

end Columns

section Update

variable {E : UserEnv} {w : World} {id : ℕ} {body : List (String × Json)}

/-- The ban columns that the body names have the values of the row. -/
def KeepsBan (E : UserEnv) (w : World) (id : ℕ) (body : List (String × Json)) : Prop :=
  ∀ user, w.users.find? id = some user →
    (∀ v, body.lookup "banned" = some v → E.boolean v = some user.banned) ∧
    (∀ v, body.lookup "banReason" = some v → E.nullableString v = some user.banReason) ∧
    (∀ v, body.lookup "banExpires" = some v → E.nullableDateTime v = some user.banExpires)

/-- The password, if one is given, is long enough, has an account to go to, and
can be hashed. -/
def PasswordAccepted (E : UserEnv) (w : World) (userId : ℕ) (password : Option Json) : Prop :=
  ∀ p, password = some p → isTooShort p E.minPasswordLength = false ∧
    (w.credentialAccount userId).isSome = true ∧ (E.hashPassword p).isOk = true

/-- The database client refuses the update: a value of the wrong type, or an
address that somebody else has. -/
def DataRefused (E : UserEnv) (w : World) (id : ℕ) (body : List (String × Json)) : Prop :=
  ∀ u, parseUserUpdate E (sanitizedBody body) = some u → emailTaken u id w = true

/-- The request is refused: it is about somebody else, it names the verification,
there is no such user, or the password or the data are not accepted. -/
def UpdateRefused (E : UserEnv) (w : World) (session : CallerSession) (id : ℕ)
    (body : List (String × Json)) : Prop :=
  session.userId ≠ some id ∨ (body.lookup "emailVerified").isSome = true ∨
    w.users.find? id = none ∨
    ¬ PasswordAccepted E w id (UserService.givenPassword body) ∨ DataRefused E w id body

theorem privileges_setPassword (w : World) (p : Account → Bool) (hashedPassword : String)
    (id : ℕ) :
    ({ w with accounts := w.accounts.updateMany p (Account.setPassword hashedPassword)
                (Account.setPassword_id hashedPassword) } : World).privileges id =
      w.privileges id := by
  unfold World.privileges
  rw [Table.map_findMany_updateMany] <;> intro _ <;> rfl

theorem updateUserPassword_run (E : UserEnv) (w : World) (userId : ℕ) (p : Json) :
    ∃ r accounts, (UserService.updateUserPassword E userId p).run w = (r, { w with accounts }) ∧
      (r.isOk = true ↔ PasswordAccepted E w userId (some p)) ∧
      ∀ id, ({ w with accounts } : World).privileges id = w.privileges id := by
  have haccepted : PasswordAccepted E w userId (some p) ↔
      isTooShort p E.minPasswordLength = false ∧
        (w.credentialAccount userId).isSome = true ∧ (E.hashPassword p).isOk = true := by
    simp [PasswordAccepted]
  rw [haccepted]
  unfold UserService.updateUserPassword
  by_cases hshort : isTooShort p E.minPasswordLength = true
  · rw [if_pos hshort]
    have hrefused : ¬ (isTooShort p E.minPasswordLength = false ∧
        (w.credentialAccount userId).isSome = true ∧ (E.hashPassword p).isOk = true) :=
      fun h => by cases hshort.symm.trans h.1
    exact ⟨.error _, w.accounts, rfl, iff_of_false Bool.false_ne_true hrefused, fun _ => rfl⟩
  rw [if_neg hshort]
  cases haccount : w.credentialAccount userId with
  | none =>
      rw [Process.run_query_bind, haccount]
      exact ⟨.error _, w.accounts, rfl,
        iff_of_false Bool.false_ne_true fun h => Bool.false_ne_true h.2.1, fun _ => rfl⟩
  | some account =>
      rw [Process.run_query_bind, haccount]
      cases E.hashPassword p with
      | error e => exact ⟨.error e, w.accounts, rfl, by simp, fun _ => rfl⟩
      | ok hashed => exact ⟨.ok (), _, rfl, by simp [hshort], privileges_setPassword w _ hashed⟩

/-- The password step touches nothing but the password. -/
theorem handlePassword_run (E : UserEnv) (w : World) (userId : ℕ) (password : Option Json) :
    ∃ r accounts, (UserService.handlePassword E userId password).run w =
        (r, { w with accounts }) ∧
      (r.isOk = true ↔ PasswordAccepted E w userId password) ∧
      ∀ id, ({ w with accounts } : World).privileges id = w.privileges id := by
  cases password with
  | none => exact ⟨.ok (), w.accounts, rfl, by simp [PasswordAccepted], fun _ => rfl⟩
  | some p => exact updateUserPassword_run E w userId p

theorem find?_setColumns (u : UserUpdateInput) {user : User}
    (hrow : w.users.find? id = some user) :
    (setColumns u id w).users.find? id = some (u.apply w.now user) := by
  have hfind : (setColumns u id w).users.find? id = if id = id then _ else _ :=
    Table.find?_updateMany_key (u.apply w.now) (u.apply_id w.now) hrow
  rw [hfind, if_pos rfl]

/-- Writing columns changes no privilege but the flags. -/
theorem setColumns_privileges {u : UserUpdateInput} {user : User}
    (hrow : w.users.find? id = some user) (hverified : u.emailVerified = none) :
    (setColumns u id w).privileges id = w.privileges id ↔
      u.banned.getD user.banned = user.banned ∧ u.banReason.getD user.banReason = user.banReason ∧
        u.banExpires.getD user.banExpires = user.banExpires := by
  have hflags : ((setColumns u id w).users.find? id).map User.flags =
      some (u.banned.getD user.banned, u.banReason.getD user.banReason,
        u.banExpires.getD user.banExpires, user.emailVerified) := by
    rw [find?_setColumns u hrow, Option.map_some, User.flags, UserUpdateInput.apply, hverified,
      Option.getD_none]
  have hbefore : (w.users.find? id).map User.flags = some user.flags := by
    rw [hrow, Option.map_some]
  unfold World.privileges
  rw [Privileges.mk.injEq, hflags, hbefore]
  constructor
  · rintro ⟨-, h, -⟩
    simpa [User.flags] using h
  · intro h
    exact ⟨rfl, by simp [User.flags, h], rfl, rfl⟩

/-- A write that a relation operation may lead to: it comes back to the row of the
user and sets the ban. -/
def setBan (banned : Bool) : NestedWrites := fun id _ w =>
  .ok { w with users := w.users.updateMany (fun r => r.id = id) fun r => { r with banned } }

theorem setBan_privileges {u : UserUpdateInput} {user : User}
    (hrow : w.users.find? id = some user) (relations : List (String × Json)) :
    ∃ w', setBan (!user.banned) id relations (setColumns u id w) = .ok w' ∧
      w'.privileges id ≠ w.privileges id := by
  refine ⟨_, rfl, fun h => ?_⟩
  have hid := Table.key_of_find? hrow
  have hflags := congrArg Privileges.flags h
  simp [World.privileges, setColumns, hrow, hid, UserUpdateInput.apply, User.flags] at hflags

/-- The write of a sanitised body keeps the privileges under any client exactly when
the client refuses it or it touches none. -/
theorem writeUpdate_keeps_iff (E : UserEnv) {user : User} (hrow : w.users.find? id = some user)
    (hverified : body.lookup "emailVerified" = none) :
    (∀ N, KeepsPrivileges (UserService.writeUpdate E N id (sanitizedBody body) user) id w) ↔
      DataRefused E w id body ∨ (NoRelationWrite body ∧ KeepsBan E w id body) := by
  have hban : KeepsBan E w id body ↔
      (∀ v, (sanitizedBody body).lookup "banned" = some v → E.boolean v = some user.banned) ∧
      (∀ v, (sanitizedBody body).lookup "banReason" = some v →
        E.nullableString v = some user.banReason) ∧
      (∀ v, (sanitizedBody body).lookup "banExpires" = some v →
        E.nullableDateTime v = some user.banExpires) := by
    rw [lookup_sanitizedBody body (by decide), lookup_sanitizedBody body (by decide),
      lookup_sanitizedBody body (by decide)]
    simp [KeepsBan, hrow]
  rw [hban]
  have hrelations := relations_isEmpty_iff body
  have hverified' : (sanitizedBody body).lookup "emailVerified" = none := by
    rw [lookup_sanitizedBody body (by decide), hverified]
  unfold UserService.writeUpdate KeepsPrivileges DataRefused
  by_cases hempty : (sanitizedBody body).isEmpty = true
  · have hnil : sanitizedBody body = [] := List.isEmpty_iff.1 hempty
    rw [← hrelations, hnil]
    simp
  simp only [hempty, Bool.false_eq_true, if_false, Process.run_atomic]
  cases hparse : parseUserUpdate E (sanitizedBody body) with
  | none => simp [userUpdate, hparse]
  | some u =>
      obtain ⟨hv, hb, hr, he, hu⟩ := parseUserUpdate_eq_some hparse
      rw [← hu] at hrelations
      rw [← hrelations, ← column_getD_eq_iff hb, ← column_getD_eq_iff hr, ← column_getD_eq_iff he,
        ← setColumns_privileges hrow (column_eq_none hv hverified')]
      by_cases htaken : emailTaken u id w = true
      · simp [userUpdate, hparse, htaken]
      · by_cases hempty : u.relations.isEmpty = true
        · simp [userUpdate, hparse, htaken, hrow, hempty]
        · simp only [userUpdate, hparse, htaken, hrow, hempty, Option.some.injEq, forall_eq',
            Bool.false_eq_true, if_false, Option.isNone_some, false_and, or_self, iff_false,
            not_forall]
          obtain ⟨w', hw', hne⟩ := setBan_privileges (u := u) hrow u.relations
          refine ⟨setBan (!user.banned), ?_⟩
          rw [hw']
          simpa using hne

/-- The service, for a user who is there. -/
theorem update_keeps_iff {user : User} (hrow : w.users.find? id = some user)
    (hverified : body.lookup "emailVerified" = none) :
    (∀ N, KeepsPrivileges (UserService.update E N id body) id w) ↔
      (¬ PasswordAccepted E w id (UserService.givenPassword body) ∨ DataRefused E w id body) ∨
        (NoRelationWrite body ∧ KeepsBan E w id body) := by
  have hid := Table.key_of_find? hrow
  obtain ⟨r, accounts, hpassword, hok, hprivileges⟩ :=
    handlePassword_run E w user.id (UserService.givenPassword body)
  rw [hid] at hok hpassword
  cases r with
  | error e =>
      have hrun : ∀ N, (UserService.update E N id body).run w =
          (.error e, { w with accounts }) := by
        intro N
        unfold UserService.update
        rw [Process.run_query_bind, hrow]
        dsimp only
        rw [hid, Process.run_bind_error hpassword]
      have hrefused : ¬ PasswordAccepted E w id (UserService.givenPassword body) := by
        rw [← hok]
        simp
      exact iff_of_true (fun N => .inl ⟨e, by rw [hrun]⟩) (.inl (.inl hrefused))
  | ok _ =>
      have haccepted : PasswordAccepted E w id (UserService.givenPassword body) := hok.1 rfl
      have hrun : ∀ N, (UserService.update E N id body).run w =
          (UserService.writeUpdate E N id (sanitizedBody body) user).run { w with accounts } := by
        intro N
        unfold UserService.update
        rw [Process.run_query_bind, hrow]
        dsimp only
        rw [hid, Process.run_bind_ok hpassword]
        rfl
      have hrow' : ({ w with accounts } : World).users.find? id = some user := hrow
      have hwrite := writeUpdate_keeps_iff E hrow' hverified
      simp only [KeepsPrivileges, hprivileges] at hwrite
      simp only [KeepsPrivileges, hrun, haccepted, not_true_eq_false, false_or]
      exact hwrite

/-- A request of a user without a managing role fails or leaves their privileges
alone, however the database client carries out relation operations, exactly when
it is refused, or its body carries no relation operation and names no ban but the
one the row has. -/
theorem update_keepsPrivileges_iff (E : UserEnv) (w : World) (session : CallerSession)
    (hrole : UserController.hasCrossUserUpdateRole session = false) (id : ℕ)
    (body : List (String × Json)) :
    (∀ N, KeepsPrivileges (UserController.update E N id body session) id w) ↔
      UpdateRefused E w session id body ∨ (NoRelationWrite body ∧ KeepsBan E w id body) := by
  unfold UpdateRefused
  by_cases hcaller : session.userId = some id
  swap
  · have hraise : ∀ N, UserController.update E N id body session =
        .raise (.forbidden "You do not have permission to update this user") := by
      intro N
      simp [UserController.update, hrole, hcaller]
    simp [KeepsPrivileges, hraise, hcaller]
  cases hverified : body.lookup "emailVerified" with
  | some v =>
      have hraise : ∀ N, UserController.update E N id body session = .raise (.forbidden
          "You do not have permission to update email verification status") := by
        intro N
        simp [UserController.update, hrole, hcaller, hverified]
      simp [KeepsPrivileges, hraise]
  | none =>
      have hservice : ∀ N, UserController.update E N id body session =
          UserService.update E N id body := by
        intro N
        simp [UserController.update, hrole, hcaller, hverified]
      simp only [hservice, hcaller, ne_eq, not_true_eq_false, Option.isSome_none,
        Bool.false_eq_true, false_or]
      cases hrow : w.users.find? id with
      | none => simp [KeepsPrivileges, UserService.update, hrow]
      | some user => simpa using update_keeps_iff hrow hverified

/-- Strings, booleans and null have their own meaning, dates are numbers. -/
def plainUserEnv : UserEnv where
  hashPassword := fun _ => .ok "hash"
  string := fun v => match v with
    | .str s => some s
    | _ => none
  nullableString := fun v => match v with
    | .str s => some (some s)
    | .null => some none
    | _ => none
  boolean := fun v => match v with
    | .bool b => some b
    | _ => none
  dateTime := fun v => match v with
    | .num q => some q.floor
    | _ => none
  nullableDateTime := fun v => match v with
    | .num q => some (some q.floor)
    | .null => some none
    | _ => none
  nullableJson := fun v => match v with
    | .null => some none
    | v => some (some v)

/-- A relation operation on `roles` gives the role 1 to the user. -/
def grantRole : NestedWrites := fun id relations w =>
  if (relations.lookup "roles").isSome then
    .ok { w with userRoles := w.userRoles.insertNew { id := 1, user_id := id, role_id := 1 } }
  else .ok w

/-- User 1 is banned and has no role. -/
def bannedWorld : World where
  users := Table.empty.insertNew { id := 1, email := "a@b.c", banned := true }
  roles := Table.empty.insertNew { id := 1, slug := "admin", level := 10 }

/-- Changing the first name changes no privilege. -/
theorem update_keepsPrivileges_iff_firstName :
    ¬ ∃ N, ¬ KeepsPrivileges
      (UserController.update plainUserEnv N 1 [("firstName", .str "Eva")] { userId := some 1 })
      1 bannedWorld :=
  not_exists_not.2
    ((update_keepsPrivileges_iff plainUserEnv bannedWorld { userId := some 1 } (by decide) 1
      [("firstName", .str "Eva")]).2
        (.inr ⟨by unfold NoRelationWrite; decide, fun user _ => by simp [List.lookup_cons]⟩))

/-- User 1 lifts their own ban, and gives themselves a role. -/
theorem update_raises_privileges :
    let session : CallerSession := { userId := some 1 }
    let unban : List (String × Json) := [("banned", .bool false)]
    let grant : List (String × Json) :=
      [("roles", .obj [("create", .obj [("role_id", .num 1)])])]
    let request := fun body => UserController.update plainUserEnv grantRole 1 body session
    ((request unban).run bannedWorld).1.isOk = true ∧
      ((((request unban).run bannedWorld).2.users.find? 1).map User.banned = some false) ∧
      ¬ KeepsPrivileges (request unban) 1 bannedWorld ∧
      ((request grant).run bannedWorld).1.isOk = true ∧
      (((request grant).run bannedWorld).2.privileges 1).roles.map UserRole.role_id = [1] ∧
      ¬ KeepsPrivileges (request grant) 1 bannedWorld := by
  intro session unban grant request
  have hunban : ((request unban).run bannedWorld).1.isOk = true := by decide +kernel
  have hgrant : ((request grant).run bannedWorld).1.isOk = true := by decide +kernel
  have hbanned : (((request unban).run bannedWorld).2.users.find? 1).map User.banned =
      some false := by decide +kernel
  have hroles : (((request grant).run bannedWorld).2.privileges 1).roles.map UserRole.role_id =
      [1] := by decide +kernel
  refine ⟨hunban, hbanned, ?_, hgrant, hroles, ?_⟩
  · rintro (⟨e, he⟩ | h)
    · rw [he] at hunban
      simp at hunban
    · have hflags := congrArg Privileges.flags h
      have hfst : ((((request unban).run bannedWorld).2.users.find? 1).map User.banned) =
          (bannedWorld.users.find? 1).map User.banned := by
        have := congrArg (Option.map Prod.fst) hflags
        simpa [World.privileges, User.flags, Function.comp_def] using this
      rw [hbanned] at hfst
      revert hfst
      decide +kernel
  · rintro (⟨e, he⟩ | h)
    · rw [he] at hgrant
      simp at hgrant
    · rw [h] at hroles
      revert hroles
      decide +kernel

end Update

end FifiAlert
