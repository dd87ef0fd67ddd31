import FifiAlert.Concurrency.Process
import FifiAlert.Errors
import FifiAlert.Store.Assoc
import FifiAlert.World

/-!
# The search for users

`findMany` sends a filter to the database and answers with a page. A filter has conditions under
keys, and a row passes when it meets them all. Each bound on the level of a role is written under
the key `roles`, in place of what stood there. So the search is conjunctive if and only if what was
written over holds of every user that what was sent lets through.
-/

namespace FifiAlert

open Concurrency Store

/-- What the database client takes the value under a key of a filter to ask of a user. -/
abbrev UserCondition := World → User → Bool

/-- `Prisma.UserWhereInput`. -/
abbrev UserWhereInput := Assoc String UserCondition

namespace UserWhereInput

/-- The user meets the conditions under all keys. -/
def admits (filter : UserWhereInput) (w : World) (user : User) : Bool :=
  filter.rows.all fun entry => entry.2 w user

theorem admits_iff {filter : UserWhereInput} {w : World} {user : User} :
    filter.admits w user = true ↔ ∀ key c, filter.get key = some c → c w user = true := by
  simp only [admits, List.all_eq_true, ← Assoc.mem_rows_iff]
  exact ⟨fun h key c hc => h (key, c) hc, fun h entry hentry => h entry.1 entry.2 hentry⟩

/-- A key that is set again has the new condition only. -/
theorem admits_set_iff {filter : UserWhereInput} {w : World} {user : User} {key : String}
    {c : UserCondition} :
    UserWhereInput.admits (filter.set key c) w user = true ↔
      (∀ key' c', key' ≠ key → filter.get key' = some c' → c' w user = true) ∧
        c w user = true := by
  rw [admits_iff]
  simp only [Assoc.get_set]
  constructor
  · intro h
    refine ⟨fun key' c' hne hc' => h key' c' (by rw [if_neg (Ne.symm hne), hc']), ?_⟩
    exact h key c (if_pos rfl)
  · rintro ⟨hothers, hc⟩ key' c' hget
    by_cases hkey : key = key'
    · rw [if_pos hkey] at hget
      exact Option.some.inj hget ▸ hc
    · rw [if_neg hkey] at hget
      exact hothers key' c' (Ne.symm hkey) hget

end UserWhereInput

/-- What is asked for of a relation: its rows, or its rows with a relation of theirs. -/
inductive IncludeValue where
  | rows
  | nested (relation : String)
  deriving DecidableEq

def GLOBAL_NESTED_INCLUDES : List (String × IncludeValue) :=
  [("roles", .nested "role"), ("gates", .nested "gate")]

abbrev IncludeObject := Assoc String IncludeValue

def buildIncludeObject (includes : List String) : IncludeObject :=
  includes.foldl
    (fun includeObject relation =>
      includeObject.set relation ((GLOBAL_NESTED_INCLUDES.lookup relation).getD .rows))
    .empty

inductive OrderDir where
  | asc
  | desc
  deriving DecidableEq

/-- `Prisma.UserFindManyArgs`. -/
structure UserFindManyArgs where
  filter : UserWhereInput
  take : ℕ
  skip : ℕ
  orderBy : String × OrderDir
  «include» : Option IncludeObject := none

structure PaginationMeta where
  pages : Option ℕ
  page : Option ℕ
  count : ℕ
  limit : ℕ
  offset : ℕ
  deriving DecidableEq

/-- `IPaginatedResponse`. -/
structure PaginatedResponse (α : Type) where
  data : List α
  «meta» : PaginationMeta

/-- `Math.ceil(a / b)`, `none` for what is not a finite number. -/
def ceilDiv? (a b : ℕ) : Option ℕ :=
  if b = 0 then none else some ((a + b - 1) / b)

def formatResultToPaginatedResponse {α : Type} (result : List α) (count limit offset : ℕ) :
    PaginatedResponse α where
  data := result
  «meta» :=
    { pages := ceilDiv? count limit
      page := (ceilDiv? offset limit).map (· + 1)
      count, limit, offset }

/-- What the search relies on: which relations and columns the database client knows, and how the
database sorts rows by a column. -/
structure UserSearchEnv where
  hasRelations : IncludeObject → Bool
  hasColumn : String → Bool
  sorted : String → OrderDir → List User → List User
  hasColumn_id : hasColumn "id" = true
  sorted_perm : ∀ column dir users, (sorted column dir users).Perm users

inductive UserSearchCall where
  | userFindMany (query : UserFindManyArgs)
  | userCount (filter : UserWhereInput)

abbrev UserSearchProcess := Process World UserSearchCall AppError

/-- `user.findMany`, on a query that the client takes. -/
def UserSearchEnv.rows (E : UserSearchEnv) (query : UserFindManyArgs) (w : World) : List User :=
  ((E.sorted query.orderBy.1 query.orderBy.2 (w.users.findMany (query.filter.admits w))).drop
    query.skip).take query.take

def UserSearchEnv.takes (E : UserSearchEnv) (query : UserFindManyArgs) : Bool :=
  E.hasColumn query.orderBy.1 && query.include.all E.hasRelations

namespace UserService

/-- `{ some: { role: { level } } }`. -/
def someRole (level : ℤ → Bool) : UserCondition := fun w user =>
  w.userRoles.rows.any fun r =>
    r.user_id = user.id && (w.roles.find? r.role_id).any fun role => level role.level

/-- `{ some: { role: { level: { lte: maxLevel } } } }`. -/
def levelAtMost (maxLevel : ℤ) : UserCondition :=
  someRole fun level => level ≤ maxLevel

/-- `{ some: { role: { level: { gte: minLevel } } } }`. -/
def levelAtLeast (minLevel : ℤ) : UserCondition :=
  someRole fun level => minLevel ≤ level

/-- The filter that `findMany` sends. -/
def searchFilter (data : UserWhereInput) (maxLevel minLevel : Option ℤ) : UserWhereInput :=
  let filter := match maxLevel with
    | none => data
    | some maxLevel => data.set "roles" (levelAtMost maxLevel)
  match minLevel with
  | none => filter
  | some minLevel => filter.set "roles" (levelAtLeast minLevel)

def searchQuery (data : UserWhereInput) (limit offset : ℕ) (includes : List String)
    (orderBy : String) (orderDir : OrderDir) (maxLevel minLevel : Option ℤ) : UserFindManyArgs :=
  let includeObject := buildIncludeObject includes
  { filter := searchFilter data maxLevel minLevel
    take := limit
    skip := offset
    orderBy := (orderBy, orderDir)
    «include» := if includeObject.rows.isEmpty then none else some includeObject }

def findMany (E : UserSearchEnv) (data : UserWhereInput) (limit : ℕ := 10) (offset : ℕ := 0)
    (includes : List String := []) (orderBy : String := "id") (orderDir : OrderDir := .asc)
    (maxLevel minLevel : Option ℤ := none) : UserSearchProcess (PaginatedResponse User) := do
  let query := searchQuery data limit offset includes orderBy orderDir maxLevel minLevel
  let results ← Process.atomic (.userFindMany query) (.prisma .other) fun w =>
    (if E.takes query then .ok (E.rows query w) else .error (.prisma .other), w)
  let countResult ← Process.query (.userCount query.filter) (.prisma .other) fun w =>
    w.users.count (query.filter.admits w)
  return formatResultToPaginatedResponse results countResult limit offset

/-- The user is on some page of a search with these filters. -/
def Selects (E : UserSearchEnv) (w : World) (data : UserWhereInput) (maxLevel minLevel : Option ℤ)
    (user : User) : Prop :=
  ∃ limit offset includes orderBy orderDir page,
    (findMany E data limit offset includes orderBy orderDir maxLevel minLevel).run w =
      (.ok page, w) ∧ user ∈ page.data

/-- A bound on the level selects among the users that are selected without it. -/
structure SearchConjunctive (E : UserSearchEnv) (w : World) (data : UserWhereInput)
    (maxLevel minLevel : Option ℤ) : Prop where
  unbounded : ∀ user, Selects E w data maxLevel minLevel user → Selects E w data none none user
  either : maxLevel.isSome = true → minLevel.isSome = true →
    ∀ user, Selects E w data maxLevel minLevel user →
      Selects E w data maxLevel none user ∧ Selects E w data none minLevel user

/-- What is asked for under the key `roles`, in the order in which it is written there. -/
def roleConditions (data : UserWhereInput) (maxLevel minLevel : Option ℤ) : List UserCondition :=
  (data.get "roles").toList ++ maxLevel.toList.map levelAtMost ++ minLevel.toList.map levelAtLeast

/-- The user meets the conditions of the caller under the other keys. -/
def MeetsOthers (data : UserWhereInput) (w : World) (user : User) : Prop :=
  ∀ key c, key ≠ "roles" → data.get key = some c → c w user = true

/-- Every user of the table that meets the conditions under the other keys and the last one under
`roles` meets all that were written there. -/
def NoneLost (w : World) (data : UserWhereInput) (maxLevel minLevel : Option ℤ) : Prop :=
  ∀ user ∈ w.users.rows, MeetsOthers data w user →
    (∀ c, (roleConditions data maxLevel minLevel).getLast? = some c → c w user = true) →
      ∀ c ∈ roleConditions data maxLevel minLevel, c w user = true

variable {E : UserSearchEnv} {w : World} {data : UserWhereInput} {maxLevel minLevel : Option ℤ}
  {user : User}

/-- What is sent asks for the other conditions of the caller and for the last one under `roles`. -/
theorem admits_searchFilter_iff :
    (searchFilter data maxLevel minLevel).admits w user = true ↔
      MeetsOthers data w user ∧
        ∀ c, (roleConditions data maxLevel minLevel).getLast? = some c → c w user = true := by
  have hset : ∀ (filter : UserWhereInput) (c : UserCondition),
      (∀ key c', key ≠ "roles" → (filter.get key = some c' ↔ data.get key = some c')) →
        (UserWhereInput.admits (filter.set "roles" c) w user = true ↔
          MeetsOthers data w user ∧ c w user = true) := by
    intro filter c hothers
    rw [UserWhereInput.admits_set_iff]
    refine and_congr_left' (forall_congr' fun key => forall_congr' fun c' => ?_)
    exact forall_congr' fun hkey => by rw [hothers key c' hkey]
  cases minLevel with
  | some minLevel =>
      have hlast : (roleConditions data maxLevel (some minLevel)).getLast? =
          some (levelAtLeast minLevel) := by simp [roleConditions]
      rw [hlast]
      simp only [Option.some.injEq, forall_eq']
      unfold searchFilter
      cases maxLevel with
      | none => exact hset data _ fun _ _ _ => Iff.rfl
      | some maxLevel =>
          refine hset (data.set "roles" (levelAtMost maxLevel)) _ fun key c' hkey => ?_
          rw [Assoc.get_set, if_neg (Ne.symm hkey)]
  | none =>
      cases maxLevel with
      | some maxLevel =>
          have hlast : (roleConditions data (some maxLevel) none).getLast? =
              some (levelAtMost maxLevel) := by simp [roleConditions]
          rw [hlast]
          simp only [Option.some.injEq, forall_eq']
          exact hset data _ fun _ _ _ => Iff.rfl
      | none =>
          have hlast : (roleConditions data none none).getLast? = data.get "roles" := by
            cases h : data.get "roles" <;> simp [roleConditions, h]
          rw [hlast]
          have hsent : searchFilter data none none = data := rfl
          rw [hsent, UserWhereInput.admits_iff]
          constructor
          · exact fun h => ⟨fun key c _ hc => h key c hc, h "roles"⟩
          · rintro ⟨hothers, hroles⟩ key c hc
            by_cases hkey : key = "roles"
            · exact hroles c (hkey ▸ hc)
            · exact hothers key c hkey hc

/-- A search that the client takes answers with a page of the users that its filter lets
through. -/
theorem run_findMany {limit offset : ℕ} {includes : List String} {orderBy : String}
    {orderDir : OrderDir} {page : PaginatedResponse User} :
    (findMany E data limit offset includes orderBy orderDir maxLevel minLevel).run w =
        (.ok page, w) ↔
      E.takes (searchQuery data limit offset includes orderBy orderDir maxLevel minLevel) = true ∧
      formatResultToPaginatedResponse
        (E.rows (searchQuery data limit offset includes orderBy orderDir maxLevel minLevel) w)
        (w.users.count ((searchFilter data maxLevel minLevel).admits w)) limit offset = page := by
  unfold findMany
  rw [Process.run_bind, Process.run_atomic]
  by_cases htakes :
      E.takes (searchQuery data limit offset includes orderBy orderDir maxLevel minLevel) = true
  · simp only [htakes, if_true, true_and]
    exact ⟨fun h => Except.ok.inj (congrArg Prod.fst h), fun h => h ▸ rfl⟩
  · rw [if_neg htakes]
    exact ⟨fun h => (by cases congrArg Prod.fst h), fun h => absurd h.1 htakes⟩

/-- The pages of a search have the users that its filter lets through. -/
theorem selects_iff :
    Selects E w data maxLevel minLevel user ↔
      user ∈ w.users.rows ∧ (searchFilter data maxLevel minLevel).admits w user = true := by
  rw [← Table.mem_findMany]
  constructor
  · rintro ⟨limit, offset, includes, orderBy, orderDir, page, hrun, huser⟩
    obtain ⟨-, rfl⟩ := run_findMany.1 hrun
    exact (E.sorted_perm _ _ _).mem_iff.1 (List.mem_of_mem_drop (List.mem_of_mem_take huser))
  · intro huser
    refine ⟨w.users.rows.length, 0, [], "id", .asc, _, run_findMany.2 ⟨?_, rfl⟩, ?_⟩
    · exact Bool.and_eq_true_iff.2 ⟨E.hasColumn_id, rfl⟩
    · have hlength := (E.sorted_perm "id" .asc
        (w.users.findMany ((searchFilter data maxLevel minLevel).admits w))).length_eq
      have hle : (w.users.findMany ((searchFilter data maxLevel minLevel).admits w)).length ≤
          w.users.rows.length := List.length_filter_le _ _
      have hsorted := (E.sorted_perm "id" .asc
        (w.users.findMany ((searchFilter data maxLevel minLevel).admits w))).mem_iff.2 huser
      rwa [← List.take_of_length_le (hlength.trans_le hle)] at hsorted

/-- With one condition under `roles` at most, none is lost. -/
theorem noneLost_of_length_le_one (hone : (roleConditions data maxLevel minLevel).length ≤ 1) :
    NoneLost w data maxLevel minLevel := by
  intro user _ _ hlast c hc
  match hconditions : roleConditions data maxLevel minLevel, hone with
  | [], _ => simp [hconditions] at hc
  | [c'], _ =>
      rw [hconditions] at hc hlast
      exact hlast c (List.mem_singleton.1 hc ▸ rfl)

theorem mem_roleConditions_iff {c : UserCondition} :
    c ∈ roleConditions data maxLevel minLevel ↔
      data.get "roles" = some c ∨ (∃ level, maxLevel = some level ∧ levelAtMost level = c) ∨
        ∃ level, minLevel = some level ∧ levelAtLeast level = c := by
  simp [roleConditions]

/-- Who meets all that is asked for is selected. -/
theorem selects_of_forall (huser : user ∈ w.users.rows) (hothers : MeetsOthers data w user)
    (hall : ∀ c ∈ roleConditions data maxLevel minLevel, c w user = true) :
    Selects E w data maxLevel minLevel user :=
  selects_iff.2 ⟨huser, admits_searchFilter_iff.2
    ⟨hothers, fun c hc => hall c (List.mem_of_getLast? hc)⟩⟩

/-- Who is selected meets the condition that was written last. -/
theorem Selects.last (h : Selects E w data maxLevel minLevel user) {c : UserCondition}
    (hc : (roleConditions data maxLevel minLevel).getLast? = some c) : c w user = true :=
  (admits_searchFilter_iff.1 (selects_iff.1 h).2).2 c hc

theorem SearchConjunctive.noneLost (hconj : SearchConjunctive E w data maxLevel minLevel) :
    NoneLost w data maxLevel minLevel := by
  intro user huser hothers hlast c hc
  have hselected : Selects E w data maxLevel minLevel user :=
    selects_iff.2 ⟨huser, admits_searchFilter_iff.2 ⟨hothers, hlast⟩⟩
  rcases mem_roleConditions_iff.1 hc with hroles | ⟨maxLevel, rfl, rfl⟩ | ⟨minLevel, rfl, rfl⟩
  · exact (hconj.unbounded user hselected).last (by simp [roleConditions, hroles])
  · cases minLevel with
    | none => exact hselected.last (by simp [roleConditions])
    | some minLevel =>
        exact (hconj.either rfl rfl user hselected).1.last (by simp [roleConditions])
  · exact hselected.last (by simp [roleConditions])

theorem NoneLost.searchConjunctive (hnone : NoneLost w data maxLevel minLevel) :
    SearchConjunctive E w data maxLevel minLevel := by
  have hselects : ∀ user, Selects E w data maxLevel minLevel user → ∀ maxLevel' minLevel',
      (∀ c ∈ roleConditions data maxLevel' minLevel', c ∈ roleConditions data maxLevel minLevel) →
        Selects E w data maxLevel' minLevel' user := by
    intro user hselected maxLevel' minLevel' hsub
    obtain ⟨huser, hadmits⟩ := selects_iff.1 hselected
    obtain ⟨hothers, hlast⟩ := admits_searchFilter_iff.1 hadmits
    exact selects_of_forall huser hothers fun c hc =>
      hnone user huser hothers hlast c (hsub c hc)
  have hroles : ∀ c, data.get "roles" = some c → c ∈ roleConditions data maxLevel minLevel :=
    fun c hc => mem_roleConditions_iff.2 (.inl hc)
  refine ⟨fun user hselected => hselects user hselected _ _ fun c hc => hroles c ?_,
    fun _ _ user hselected => ⟨hselects user hselected _ _ fun c hc => ?_,
      hselects user hselected _ _ fun c hc => ?_⟩⟩
  · simpa [mem_roleConditions_iff] using hc
  · rcases mem_roleConditions_iff.1 hc with hget | hmax | ⟨_, hmin, _⟩
    · exact hroles c hget
    · exact mem_roleConditions_iff.2 (.inr (.inl hmax))
    · cases hmin
  · rcases mem_roleConditions_iff.1 hc with hget | ⟨_, hmax, _⟩ | hmin
    · exact hroles c hget
    · cases hmax
    · exact mem_roleConditions_iff.2 (.inr (.inr hmin))

/-- The search is conjunctive on a table if and only if no condition that was written over is
missed there. -/
theorem searchConjunctive_iff (E : UserSearchEnv) (w : World) (data : UserWhereInput)
    (maxLevel minLevel : Option ℤ) :
    SearchConjunctive E w data maxLevel minLevel ↔ NoneLost w data maxLevel minLevel :=
  ⟨SearchConjunctive.noneLost, NoneLost.searchConjunctive⟩

/-- A table with one user, whose role has level 20. -/
def memberTable : World where
  users := Table.empty.insertNew { id := 1, email := "ann@example.com" }
  roles := Table.empty.insertNew { id := 3, slug := "user", level := 20 }
  userRoles := Table.empty.insertNew { id := 1, user_id := 1, role_id := 3 }

/-- A client that takes every relation and column, over a database that leaves rows in place. -/
def tableOrder : UserSearchEnv where
  hasRelations := fun _ => true
  hasColumn := fun _ => true
  sorted := fun _ _ users => users
  hasColumn_id := rfl
  sorted_perm := fun _ _ users => .refl users

/-- A search for levels from 5 to 10 selects the user with level 20. -/
theorem not_searchConjunctive :
    ¬ SearchConjunctive tableOrder memberTable .empty (some 10) (some 5) := by
  intro hconj
  have hothers : MeetsOthers .empty memberTable { id := 1, email := "ann@example.com" } :=
    fun key c _ hc => by cases hc
  have hlast : levelAtLeast 5 memberTable { id := 1, email := "ann@example.com" } = true := by
    decide
  have hlost := hconj.noneLost { id := 1, email := "ann@example.com" } (.head _) hothers
    (fun c hc => Option.some.inj hc ▸ hlast) (levelAtMost 10) (.head _)
  exact absurd hlost (by decide)

end UserService

end FifiAlert
