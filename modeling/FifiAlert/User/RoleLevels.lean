import FifiAlert.Errors
import FifiAlert.Js.Reduce
import FifiAlert.World
import Mathlib.Order.Bounds.Basic

/-!
# The levels of the roles of a user

`userMaxLevel` reduces the assignments of a user from the level 0. `userMinLevel` has no initial
value: its callback takes the first assignment for the accumulator, returns a level, and asks that
level for its role in the next call. So it returns the least level if and only if there are two
assignments. The reduction of the example controller keeps a role for the accumulator and is right
for every list that is not empty.
-/

namespace FifiAlert

open Store

/-- A row of `UserRole`, with its role when the query included that. -/
structure RoleAssignment extends UserRole where
  role : Option Role := none
  deriving DecidableEq, Inhabited

/-- A user as a query loads it: the assignments are there when it included them. -/
structure LoadedUser extends User where
  roles : Option (List RoleAssignment) := none

/-- `(5).role.level` and `r.role.level` without a role. -/
def readLevelOfUndefined : AppError :=
  .error "Cannot read properties of undefined (reading 'level')"

def reduceOfEmptyArray : AppError := .error "Reduce of empty array with no initial value"

namespace RoleAssignment

def level? (r : RoleAssignment) : Option ℤ := r.role.map Role.level

/-- `r.role.level`. -/
def roleLevel (r : RoleAssignment) : Except AppError ℤ :=
  match r.role with
  | none => .error readLevelOfUndefined
  | some role => .ok role.level

theorem roleLevel_eq_ok_iff {r : RoleAssignment} {level : ℤ} :
    r.roleLevel = .ok level ↔ r.level? = some level := by
  cases hrole : r.role with
  | none => simp [roleLevel, level?, hrole]
  | some role => simp [roleLevel, level?, hrole]

theorem exists_level? {r : RoleAssignment} (hrole : r.role.isSome = true) :
    ∃ level, r.level? = some level := by
  obtain ⟨role, hrole⟩ := Option.isSome_iff_exists.1 hrole
  exact ⟨role.level, by rw [level?, hrole, Option.map_some]⟩

end RoleAssignment

/-- The levels of the roles that are assigned. -/
def assignedLevels (roles : List RoleAssignment) : List ℤ := roles.filterMap RoleAssignment.level?

theorem mem_assignedLevels {roles : List RoleAssignment} {level : ℤ} :
    level ∈ assignedLevels roles ↔ ∃ r ∈ roles, r.level? = some level := List.mem_filterMap

/-- What a reduction of assignments without an initial value passes on: the first assignment, then
what the callback returned. -/
inductive LevelValue where
  | number (level : ℤ)
  | assignment (r : RoleAssignment)
  deriving DecidableEq

namespace LevelValue

/-- `min.role.level`. -/
def roleLevel : LevelValue → Except AppError ℤ
  | number _ => .error readLevelOfUndefined
  | assignment r => r.roleLevel

/-- `level === value`. -/
def isLevel (value : LevelValue) (level : ℤ) : Bool := value = number level

end LevelValue

/-- The assignments of `user.findUnique` with `include: { roles: { include: { role: true } } }`. -/
def World.findAssignments (w : World) (id : ℕ) : Option (List RoleAssignment) :=
  (w.users.find? id).map fun _ =>
    (w.userRoles.findMany fun r => r.user_id = id).map fun r =>
      { r with role := w.roles.find? r.role_id }

namespace UserService

/-- The callback of `userMaxLevel`. -/
def higherLevel (max : ℤ) (r : RoleAssignment) : ℤ :=
  match r.role with
  | none => max
  | some role => if role.level > max then role.level else max

/-- The assignments are loaded when the user has none with them, and then reduced. -/
def userMaxLevel (w : World) (user : LoadedUser) : Except AppError ℤ :=
  match user.roles with
  | some roles => .ok (roles.foldl higherLevel 0)
  | none =>
      match w.findAssignments user.id with
      | some roles => .ok (roles.foldl higherLevel 0)
      | none => .error (.error "Cannot read properties of null (reading 'roles')")

/-- `user['roles'].find((r) => isLevel(r.role.level))`. -/
def findRole (user : LoadedUser) (isLevel : ℤ → Bool) :
    Except AppError (Option RoleAssignment) :=
  match user.roles with
  | some roles => roles.findM? fun r => do return isLevel (← r.roleLevel)
  | none => .error (.error "Cannot read properties of undefined (reading 'find')")

/-- The level is not awaited: no number is the promise of one. -/
def userMaxRole (user : LoadedUser) : Except AppError (Option RoleAssignment) :=
  findRole user fun _ => false

/-- The callback of `userMinLevel`. -/
def lowerLevel (min : LevelValue) (r : RoleAssignment) : Except AppError LevelValue := do
  let level ← r.roleLevel
  let minLevel ← min.roleLevel
  return .number (if level < minLevel then level else minLevel)

def userMinLevel (user : LoadedUser) : Except AppError LevelValue :=
  match user.roles with
  | some roles => Js.reduce reduceOfEmptyArray .assignment lowerLevel roles
  | none => .ok (.number 0)

def userMinRole (user : LoadedUser) : Except AppError (Option RoleAssignment) := do
  let minLevel ← userMinLevel user
  findRole user minLevel.isLevel

section MaxLevel

variable {user : LoadedUser} {roles : List RoleAssignment}

theorem foldl_higherLevel (roles : List RoleAssignment) (m : ℤ) :
    roles.foldl higherLevel m = (assignedLevels roles).foldl max m := by
  induction roles generalizing m with
  | nil => rfl
  | cons r roles ih =>
      rw [List.foldl_cons, ih]
      cases hrole : r.role with
      | none =>
          have hlevel : r.level? = none := by rw [RoleAssignment.level?, hrole, Option.map_none]
          rw [assignedLevels, assignedLevels, List.filterMap_cons_none hlevel]
          simp only [higherLevel, hrole]
      | some role =>
          have hlevel : r.level? = some role.level := by
            rw [RoleAssignment.level?, hrole, Option.map_some]
          rw [assignedLevels, assignedLevels, List.filterMap_cons_some hlevel, List.foldl_cons]
          simp only [higherLevel, hrole, gt_iff_lt, max_def_lt]

/-- The greatest of the levels and 0 is returned, whether or not the assignments came with the
user. -/
theorem userMaxLevel_isGreatest {w : World}
    (hroles : user.roles.or (w.findAssignments user.id) = some roles) :
    ∃ level, userMaxLevel w user = .ok level ∧
      IsGreatest {l | l ∈ 0 :: assignedLevels roles} level := by
  have hmax : userMaxLevel w user = .ok (roles.foldl higherLevel 0) := by
    cases hloaded : user.roles with
    | some loaded =>
        rw [hloaded, Option.some_or] at hroles
        cases hroles
        simp only [userMaxLevel, hloaded]
    | none =>
        rw [hloaded, Option.none_or] at hroles
        simp only [userMaxLevel, hloaded, hroles]
  refine ⟨_, hmax, ?_⟩
  rw [foldl_higherLevel]
  exact List.max?_eq_some_iff.1 List.max?_cons'

end MaxLevel

section FindRole

variable {user : LoadedUser} {roles : List RoleAssignment} {isLevel : ℤ → Bool}

/-- The search reads the levels up to the first it looks for. -/
theorem findRole_eq (hroles : user.roles = some roles)
    (hrole : ∀ r ∈ roles, r.role.isSome = true) :
    findRole user isLevel = .ok (roles.find? fun r => r.level?.any isLevel) := by
  simp only [findRole, hroles]
  clear hroles
  induction roles with
  | nil => rfl
  | cons r roles ih =>
      obtain ⟨level, hlevel⟩ := RoleAssignment.exists_level? (hrole r List.mem_cons_self)
      have hread := RoleAssignment.roleLevel_eq_ok_iff.2 hlevel
      have htail := ih fun r hr => hrole r (List.mem_cons_of_mem _ hr)
      rw [List.findM?, hread, List.find?_cons, hlevel]
      cases his : isLevel level with
      | true => simp [his, bind, Except.bind, pure, Except.pure]
      | false => simpa [his, bind, Except.bind, pure, Except.pure] using htail

/-- No assignment is found for the greatest level. -/
theorem userMaxRole_eq_none (hroles : user.roles = some roles)
    (hrole : ∀ r ∈ roles, r.role.isSome = true) : userMaxRole user = .ok none := by
  rw [userMaxRole, findRole_eq hroles hrole, List.find?_eq_none.2]
  intro r _
  cases r.level? <;> simp

/-- An assignment is found for every level in the list that `userMinLevel` returns. -/
theorem userMinRole_eq_some {level : ℤ} (hroles : user.roles = some roles)
    (hrole : ∀ r ∈ roles, r.role.isSome = true)
    (hlevel : userMinLevel user = .ok (.number level)) (hmem : level ∈ assignedLevels roles) :
    ∃ r ∈ roles, userMinRole user = .ok (some r) ∧ r.level? = some level := by
  have hfind : userMinRole user =
      .ok (roles.find? fun r => r.level?.any (LevelValue.number level).isLevel) := by
    rw [userMinRole, hlevel]
    exact findRole_eq hroles hrole
  have hany (r : RoleAssignment) :
      r.level?.any (LevelValue.number level).isLevel = true ↔ r.level? = some level := by
    cases r.level? with
    | none => simp
    | some l => simp [LevelValue.isLevel, eq_comm]
  obtain ⟨r, hr, hrlevel⟩ := mem_assignedLevels.1 hmem
  have hsome : (roles.find? fun r =>
      r.level?.any (LevelValue.number level).isLevel).isSome = true :=
    List.find?_isSome.2 ⟨r, hr, (hany r).2 hrlevel⟩
  obtain ⟨found, hfound⟩ := Option.isSome_iff_exists.1 hsome
  have hfoundLevel := List.find?_some hfound
  exact ⟨found, List.mem_of_find?_eq_some hfound, by rw [hfind, hfound],
    (hany found).1 hfoundLevel⟩

end FindRole

section MinLevel

variable {user : LoadedUser} {a b c : RoleAssignment} {l : List RoleAssignment}

theorem lowerLevel_assignment {m n : ℤ} (ha : a.level? = some m) (hb : b.level? = some n) :
    lowerLevel (.assignment a) b = .ok (.number (min n m)) := by
  rw [lowerLevel, RoleAssignment.roleLevel_eq_ok_iff.2 hb, LevelValue.roleLevel,
    RoleAssignment.roleLevel_eq_ok_iff.2 ha, min_def_lt]
  rfl

/-- A level that the callback returned has no role. -/
theorem lowerLevel_number (level : ℤ) (r : RoleAssignment) :
    lowerLevel (.number level) r = .error readLevelOfUndefined := by
  cases hrole : r.role with
  | none => simp only [lowerLevel, RoleAssignment.roleLevel, hrole]; rfl
  | some role => simp only [lowerLevel, RoleAssignment.roleLevel, hrole]; rfl

theorem userMinLevel_singleton (hroles : user.roles = some [a]) :
    userMinLevel user = .ok (.assignment a) := by
  simp only [userMinLevel, hroles, Js.reduce_singleton]

theorem userMinLevel_pair {m n : ℤ} (hroles : user.roles = some [a, b]) (ha : a.level? = some m)
    (hb : b.level? = some n) : userMinLevel user = .ok (.number (min n m)) := by
  simp only [userMinLevel, hroles]
  rw [Js.reduce_pair, lowerLevel_assignment ha hb]

theorem userMinLevel_three {m n : ℤ} (hroles : user.roles = some (a :: b :: c :: l))
    (ha : a.level? = some m) (hb : b.level? = some n) :
    userMinLevel user = .error readLevelOfUndefined := by
  simp only [userMinLevel, hroles]
  exact Js.reduce_eq_error (lowerLevel_assignment ha hb) (lowerLevel_number _ c) l

end MinLevel

end UserService

/-- `userMinLevel` returns the least of the levels, and `userMinRole` an assignment with it. -/
def FindsLeastLevel (user : LoadedUser) (roles : List RoleAssignment) : Prop :=
  ∃ level, UserService.userMinLevel user = .ok (.number level) ∧
    IsLeast {l | l ∈ assignedLevels roles} level ∧
      ∃ r ∈ roles, UserService.userMinRole user = .ok (some r) ∧ r.level? = some level

section FindsLeastLevel

variable {user : LoadedUser} {roles : List RoleAssignment}

theorem not_findsLeastLevel_singleton {a : RoleAssignment} (hroles : user.roles = some [a]) :
    ¬ FindsLeastLevel user [a] := by
  rintro ⟨level, hlevel, -⟩
  rw [UserService.userMinLevel_singleton hroles] at hlevel
  cases hlevel

theorem not_findsLeastLevel_three {a b c : RoleAssignment} {l : List RoleAssignment} {m n : ℤ}
    (hroles : user.roles = some (a :: b :: c :: l)) (ha : a.level? = some m)
    (hb : b.level? = some n) : ¬ FindsLeastLevel user (a :: b :: c :: l) := by
  rintro ⟨level, hlevel, -⟩
  rw [UserService.userMinLevel_three hroles ha hb] at hlevel
  cases hlevel

theorem findsLeastLevel_pair {a b : RoleAssignment} (hroles : user.roles = some [a, b])
    (hrole : ∀ r ∈ [a, b], r.role.isSome = true) : FindsLeastLevel user [a, b] := by
  obtain ⟨m, ha⟩ := RoleAssignment.exists_level? (hrole a (by simp))
  obtain ⟨n, hb⟩ := RoleAssignment.exists_level? (hrole b (by simp))
  have hlevel := UserService.userMinLevel_pair hroles ha hb
  have hlevels : assignedLevels [a, b] = [m, n] := by simp [assignedLevels, ha, hb]
  have hleast : IsLeast {l | l ∈ assignedLevels [a, b]} (min n m) := by
    have hpair : {l | l ∈ assignedLevels [a, b]} = {n, m} := by
      ext l
      simp [hlevels, or_comm]
    rw [hpair]
    exact isLeast_pair
  exact ⟨min n m, hlevel, hleast, UserService.userMinRole_eq_some hroles hrole hlevel hleast.1⟩

/-- For a list of assignments with their roles, the least level is found if and only if there are
two of them. -/
theorem findsLeastLevel_iff_length_eq_two (hroles : user.roles = some roles) (hne : roles ≠ [])
    (hrole : ∀ r ∈ roles, r.role.isSome = true) :
    FindsLeastLevel user roles ↔ roles.length = 2 := by
  rcases roles with _ | ⟨a, _ | ⟨b, _ | ⟨c, l⟩⟩⟩
  · exact absurd rfl hne
  · simpa using not_findsLeastLevel_singleton hroles
  · simpa using findsLeastLevel_pair hroles hrole
  · obtain ⟨m, ha⟩ := RoleAssignment.exists_level? (hrole a (by simp))
    obtain ⟨n, hb⟩ := RoleAssignment.exists_level? (hrole b (by simp))
    simpa using not_findsLeastLevel_three hroles ha hb

end FindsLeastLevel

/-- An assignment of a role with the level to the user 1. -/
def assigned (id : ℕ) (level : ℤ) : RoleAssignment :=
  { id, user_id := 1, role_id := id, role := some { id, level } }

def assignedUser (roles : List RoleAssignment) : LoadedUser :=
  { id := 1, email := "ann@example.com", roles := some roles }

/-- The lower level of two roles is found. -/
theorem findsLeastLevel_of_two_roles :
    FindsLeastLevel (assignedUser [assigned 1 50, assigned 2 10])
      [assigned 1 50, assigned 2 10] :=
  (findsLeastLevel_iff_length_eq_two rfl (by simp) (by decide)).2 rfl

/-- With one role its assignment is returned for the level, and no assignment has that level. With
three roles the second call of the callback throws. -/
theorem not_findsLeastLevel_of_one_role_or_three :
    UserService.userMinLevel (assignedUser [assigned 1 10]) = .ok (.assignment (assigned 1 10)) ∧
      UserService.userMinRole (assignedUser [assigned 1 10]) = .ok none ∧
      ¬ FindsLeastLevel (assignedUser [assigned 1 10]) [assigned 1 10] ∧
      UserService.userMinLevel (assignedUser [assigned 1 10, assigned 2 50, assigned 3 99]) =
        .error readLevelOfUndefined ∧
      ¬ FindsLeastLevel (assignedUser [assigned 1 10, assigned 2 50, assigned 3 99])
        [assigned 1 10, assigned 2 50, assigned 3 99] :=
  ⟨UserService.userMinLevel_singleton rfl, rfl, not_findsLeastLevel_singleton rfl,
    UserService.userMinLevel_three rfl rfl rfl, not_findsLeastLevel_three rfl rfl rfl⟩

namespace ExampleController

/-- `highestRole` of `getUserProfile`: the role with the lowest level. -/
def highestRole (user : UserWithRoles) : Except AppError Role :=
  Js.reduce reduceOfEmptyArray id
    (fun prev current => .ok (if current.level < prev.level then current else prev)) user.roles

/-- A role with the lowest level is found in every list that is not empty. -/
theorem highestRole_level_le {user : UserWithRoles} (hroles : user.roles ≠ []) :
    ∃ role ∈ user.roles, highestRole user = .ok role ∧
      ∀ other ∈ user.roles, role.level ≤ other.level := by
  obtain ⟨role, hbest, hreduce⟩ :=
    Js.reduce_eq_argmin reduceOfEmptyArray Role.level (fun _ _ => rfl) hroles
  exact ⟨role, List.argmin_mem hbest, hreduce, fun other hother =>
    List.le_of_mem_argmin hother hbest⟩

end ExampleController

end FifiAlert
