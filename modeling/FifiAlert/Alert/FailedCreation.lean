import FifiAlert.Alert.CreationCalls

/-!
# Creations that fail

A creation writes to three stores one after the other and undoes nothing: the limiter's keys, the
flag of the pet, the row of the alert. So a creation that fails leaves no row, and it leaves the
flag as it was unless it fails at the insertion, after it has flagged the pet.
-/

namespace FifiAlert

open Concurrency Store Js

/-- The commands of a limit check at a time, besides the clock. -/
def RateLimitService.commands (L : RateLimits) (userId : ℕ) (now : Time) : List RateLimitCall :=
  [.zrangebyscore (limitKey userId), .zadd (limitKey userId) now (toString now),
    .zremrangebyscore (limitKey userId) (now - L.weekly.windowMs),
    .expire (limitKey userId) (Rat.ceil (L.weekly.windowMs / 1000) + 86400)]

/-- The timestamps that the limiter has of a user. -/
def World.creationTimes (w : World) (userId : ℕ) : List (Option Time) :=
  ((w.redis (RateLimitService.limitKey userId)).live w.now).set.members.map Js.parseInt

/-- The limiter lets a creation pass: its commands are answered, and no window is full. -/
structure AdmitsCreation (L : RateLimits) (fails : RateLimitCall → Bool) (userId : ℕ) (w : World) :
    Prop where
  answered : ∀ l ∈ RateLimitService.commands L userId w.now, fails l = false
  underLimits : ∀ window ∈ L.windows,
    (RateLimitService.countInWindow (w.creationTimes userId) w.now
      window.windowMs : ℤ) < window.count

/-- The request flags this pet: it is the user's and has no flag yet. -/
structure FlagsPet (fails : CreationCall → Bool) (userId : ℕ) (dto : CreateAlertDto) (w : World)
    (pet : Pet) : Prop where
  ofPet : dto.ofPet = some pet.id
  found : w.pets.find? pet.id = some pet
  owner : pet.userId = userId
  unflagged : pet.isMissing = false
  isRead : fails (.alert (.petFindUnique pet.id)) = false
  isWritten : fails (.alert (.petUpdate pet.id true)) = false

/-- The row cannot be inserted: the body has no location or no contact, a column does not take its
value, the statement fails, or the row refers to nobody. -/
def InsertionFails (E : AlertCreationEnv) (fails : CreationCall → Bool) (userId : ℕ)
    (dto : CreateAlertDto) (w : World) : Prop :=
  ∀ data, AlertService.insertData E userId dto (w.now + 7 * MS_PER_DAY) = .ok data →
    fails (.alertInsert data) = true ∨ w.takesAlert data = false

/-- The body has a pet, whose name the first line can read. -/
def CreateAlertDto.HasPet (dto : CreateAlertDto) : Prop := dto.pet ≠ none ∧ dto.pet ≠ some .null

/-- The tables that an alert refers to, the alerts and the time are what they were. -/
structure KeysOnly (w w' : World) : Prop where
  now : w'.now = w.now
  users : w'.users = w.users
  pets : w'.pets = w.pets
  alerts : w'.alerts = w.alerts

theorem KeysOnly.refl (w : World) : KeysOnly w w := ⟨rfl, rfl, rfl, rfl⟩

theorem KeysOnly.trans {w w₁ w' : World} (h : KeysOnly w w₁) (h' : KeysOnly w₁ w') :
    KeysOnly w w' :=
  ⟨h'.now.trans h.now, h'.users.trans h.users, h'.pets.trans h.pets, h'.alerts.trans h.alerts⟩

namespace AlertService

/-- `create` from the pet to the insertion. -/
def insertFlagged (E : AlertCreationEnv) (userId : ℕ) (dto : CreateAlertDto) :
    CreationProcess ℕ := do
  (flagPet userId dto).relabel .alert
  let now ← (AlertCall.read .dateNow World.now).relabel .alert
  insertAlert E userId dto (now + 7 * MS_PER_DAY)

/-- `create` up to the insertion. -/
def createInserted (E : AlertCreationEnv) (userId : ℕ) (dto : CreateAlertDto) :
    CreationProcess ℕ := do
  logPet dto
  (RateLimitService.checkAlertCreationLimit (RateLimitService.limits E.rateLimit) userId).relabel
    .rateLimit
  insertFlagged E userId dto

theorem create_eq (E : AlertCreationEnv) (userId : ℕ) (dto : CreateAlertDto) :
    create E userId dto = createInserted E userId dto >>= afterCreate userId dto := by
  simp only [create, createInserted, insertFlagged, Process.bind_assoc]

section Parts

variable {w : World} {userId : ℕ}

/-- The commands of the limiter write to its own keys. -/
theorem rateLimit_runWith_kept (L : RateLimits) (fails : RateLimitCall → Bool) (userId : ℕ)
    (w : World) :
    KeysOnly w ((RateLimitService.checkAlertCreationLimit L userId).runWith fails w).2 := by
  have hcalls := checkAlertCreationLimit_confined L userId
  refine (hcalls.mono (fun l next hnext w => ?_) fun _ => id).runWith_kept KeysOnly.refl
    (fun _ _ _ => KeysOnly.trans) fails w
  subst hnext
  cases l <;> exact ⟨rfl, rfl, rfl, rfl⟩

theorem isOk_send_bind {α β : Type} (fails : RateLimitCall → Bool) (l : RateLimitCall)
    (g : World → α) (k : α → RateLimitProcess β) (w : World) :
    ((l.send g >>= k).runWith fails w).1.isOk = true ↔
      fails l = false ∧ ((k (g w)).runWith fails (l.effect w)).1.isOk = true := by
  rw [RateLimitCall.send, Process.runWith_bind, Process.runWith_modify]
  cases fails l <;> simp

theorem isOk_send {α : Type} (fails : RateLimitCall → Bool) (l : RateLimitCall) (g : World → α)
    (w : World) : ((l.send g).runWith fails w).1.isOk = true ↔ fails l = false := by
  rw [RateLimitCall.send, Process.runWith_modify]
  cases fails l <;> simp

/-- The limit check ends well exactly when the limiter lets the creation pass. -/
theorem rateLimit_isOk_iff {L : RateLimits} {fails : RateLimitCall → Bool}
    (hclock : fails .dateNow = false) :
    ((RateLimitService.checkAlertCreationLimit L userId).runWith fails w).1.isOk = true ↔
      AdmitsCreation L fails userId w := by
  have hread : ∀ timestamps, (((RateLimitService.checkWindows L userId w.now timestamps).runWith
      fails w).1.isOk = true ↔ (∀ window ∈ L.windows,
        (RateLimitService.countInWindow timestamps w.now window.windowMs : ℤ) < window.count) ∧
        ((RateLimitService.recordAlertCreation L userId w.now).runWith fails w).1.isOk = true) := by
    intro timestamps
    unfold RateLimitService.checkWindows RateLimits.windows
    simp only [List.forall_mem_cons, List.not_mem_nil, false_implies, implies_true, and_true,
      ← Int.not_le]
    split_ifs <;> simp [*]
  unfold RateLimitService.checkAlertCreationLimit
  rw [isOk_send_bind, Process.tryCatch_raise, isOk_send_bind]
  change _ ∧ _ ∧ ((RateLimitService.checkWindows L userId w.now (w.creationTimes userId)).runWith
    fails w).1.isOk = true ↔ _
  rw [hread]
  unfold RateLimitService.recordAlertCreation
  rw [isOk_send_bind, isOk_send_bind, isOk_send]
  constructor
  · rintro ⟨-, hrange, hunder, hadd, hrem, hexpire⟩
    refine ⟨?_, hunder⟩
    simp only [RateLimitService.commands, List.forall_mem_cons, List.not_mem_nil, false_implies,
      implies_true, and_true]
    exact ⟨hrange, hadd, hrem, hexpire⟩
  · rintro ⟨hanswered, hunder⟩
    simp only [RateLimitService.commands, List.forall_mem_cons, List.not_mem_nil, false_implies,
      implies_true, and_true] at hanswered
    obtain ⟨hrange, hadd, hrem, hexpire⟩ := hanswered
    exact ⟨hclock, hrange, hunder, hadd, hrem, hexpire⟩

theorem ofPet_eq_some {dto : CreateAlertDto} {id : ℕ} :
    dto.ofPet = some id ↔
      ∃ petId, dto.petId.filter Json.isTruthy = some petId ∧ petId.int32? = some (id : ℤ) := by
  have htoNat : ∀ n : ℤ, n.toNat? = some id ↔ n = (id : ℤ) := by
    intro n
    rw [Int.mem_toNat?]
  unfold CreateAlertDto.ofPet
  constructor
  · intro h
    obtain ⟨n, hn, hid⟩ := Option.bind_eq_some_iff.1 h
    obtain ⟨petId, hpetId, hn⟩ := Option.bind_eq_some_iff.1 hn
    exact ⟨petId, hpetId, (htoNat n).1 hid ▸ hn⟩
  · rintro ⟨petId, hpetId, hid⟩
    rw [hpetId, Option.bind_some, hid, Option.bind_some, htoNat]

/-- A request that flags its pet writes the flag. -/
theorem flagPet_runWith {fails : CreationCall → Bool} {dto : CreateAlertDto} {pet : Pet}
    (h : FlagsPet fails userId dto w pet) :
    ((flagPet userId dto).relabel CreationCall.alert).runWith fails w =
      (.ok (), (AlertCall.petUpdate pet.id true).effect w) := by
  have hfound : (w.pets.find? pet.id).isSome = true := by rw [h.found, Option.isSome_some]
  have hunflagged : (!pet.isMissing) = true := by rw [h.unflagged, Bool.not_false]
  obtain ⟨petId, hpetId, hid⟩ := ofPet_eq_some.1 h.ofPet
  rw [Process.runWith_relabel, flagPet, hpetId]
  dsimp only
  rw [hid]
  dsimp only
  unfold AlertCall.read AlertCall.writeIf
  rw [Process.runWith_bind, Process.runWith_query, Int.toNat_natCast, h.isRead,
    if_neg Bool.false_ne_true]
  dsimp only
  rw [Int.mem_toNat?.2 rfl, Option.bind_some, h.found]
  dsimp only
  rw [if_neg (not_not.2 h.owner), if_pos hunflagged, Process.runWith_atomic, h.isWritten,
    if_neg Bool.false_ne_true, if_pos hfound]

/-- Any other request leaves the state as it is. -/
theorem flagPet_runWith_kept {fails : CreationCall → Bool} {dto : CreateAlertDto}
    (h : ∀ pet, ¬ FlagsPet fails userId dto w pet) :
    (((flagPet userId dto).relabel CreationCall.alert).runWith fails w).2 = w := by
  rw [Process.runWith_relabel, flagPet]
  cases hpetId : dto.petId.filter Json.isTruthy with
  | none => rfl
  | some petId =>
      dsimp only
      cases hid : petId.int32? with
      | none => rfl
      | some id =>
          dsimp only
          unfold AlertCall.read AlertCall.writeIf
          rw [Process.runWith_bind, Process.runWith_query]
          cases hread : fails (.alert (.petFindUnique id.toNat)) with
          | true => rfl
          | false =>
              rw [if_neg Bool.false_ne_true]
              dsimp only
              cases hfound : id.toNat?.bind w.pets.find? with
              | none => rfl
              | some pet =>
                  obtain ⟨petKey, hkey, hrow⟩ := Option.bind_eq_some_iff.1 hfound
                  obtain rfl := Table.key_of_find? hrow
                  obtain rfl := Int.mem_toNat?.1 hkey
                  have hofPet := ofPet_eq_some.2 ⟨petId, hpetId, hid⟩
                  rw [Int.toNat_natCast] at hread
                  dsimp only
                  by_cases howner : pet.userId = userId
                  · rw [if_neg (not_not.2 howner)]
                    cases hmissing : pet.isMissing with
                    | true => rfl
                    | false =>
                        rw [Bool.not_false, if_pos rfl, Process.runWith_atomic]
                        cases hwritten : fails (.alert (.petUpdate pet.id true)) with
                        | true => rfl
                        | false =>
                            exact absurd ⟨hofPet, hrow, howner, hmissing, hread, hwritten⟩ (h pet)
                  · rw [if_pos howner]
                    rfl

/-- The insertion in a state with the users, the pets and the time of `w`, up to flags. -/
theorem insertAlert_runWith (E : AlertCreationEnv) (fails : CreationCall → Bool) (userId : ℕ)
    (dto : CreateAlertDto) {w' : World} (htakes : ∀ data, w'.takesAlert data = w.takesAlert data) :
    (InsertionFails E fails userId dto w ∧ ∃ e,
      (insertAlert E userId dto (w.now + 7 * MS_PER_DAY)).runWith fails w' = (.error e, w')) ∨
      (¬ InsertionFails E fails userId dto w ∧
        ((insertAlert E userId dto (w.now + 7 * MS_PER_DAY)).runWith fails w').1.isOk = true) := by
  unfold insertAlert InsertionFails
  cases hdata : insertData E userId dto (w.now + 7 * MS_PER_DAY) with
  | error e =>
      refine .inl ⟨fun data h => ?_, _, Process.runWith_raise fails _ w'⟩
      cases h
  | ok data =>
      have hforall : (∀ data', (.ok data : Except AppError AlertInsert) = .ok data' →
          fails (.alertInsert data') = true ∨ w.takesAlert data' = false) ↔
          fails (.alertInsert data) = true ∨ w.takesAlert data = false :=
        ⟨fun h => h data rfl, fun h data' hdata' => Except.ok.inj hdata' ▸ h⟩
      rw [hforall, ← htakes data]
      dsimp only
      rw [Process.runWith_atomic]
      cases hfails : fails (.alertInsert data) with
      | true => exact .inl ⟨.inl rfl, _, if_pos rfl⟩
      | false =>
          rw [if_neg Bool.false_ne_true, CreationCall.effect]
          cases hrow : w'.takesAlert data with
          | true =>
              rw [if_pos rfl]
              exact .inr ⟨by simp, rfl⟩
          | false =>
              rw [if_neg Bool.false_ne_true, if_neg Bool.false_ne_true]
              exact .inl ⟨.inr rfl, _, rfl⟩

/-- The flag of a pet is no column that an alert refers to. -/
theorem takesAlert_petUpdate (petId : ℕ) (isMissing : Bool) (data : AlertInsert) (w : World) :
    ((AlertCall.petUpdate petId isMissing).effect w).takesAlert data = w.takesAlert data := by
  have hpets : ∀ id, ((w.pets.updateMany (fun p => p.id = petId) fun p =>
      { p with isMissing }).find? id).isSome = (w.pets.find? id).isSome := by
    intro id
    rw [Table.find?_updateMany, Option.isSome_map]
  simp only [World.takesAlert, AlertCall.effect, hpets]

/-- The flag that a request has set. -/
theorem isMissing_petUpdate {pet : Pet} (hfound : w.pets.find? pet.id = some pet) :
    (((AlertCall.petUpdate pet.id true).effect w).pets.find? pet.id).map Pet.isMissing =
      some true := by
  simp [AlertCall.effect, hfound]

end Parts

section Creation

variable {E : AlertCreationEnv} {fails : CreationCall → Bool} {userId : ℕ} {dto : CreateAlertDto}
  {w : World}

/-- When the process fails it has changed neither the alerts nor the flag of a pet. -/
def LeavesAlertsAndFlags (fails : CreationCall → Bool) (w : World) (p : CreationProcess ℕ) : Prop :=
  ∀ e w', p.runWith fails w = (.error e, w') → w'.alerts = w.alerts ∧
    ∀ petId, (w'.pets.find? petId).map Pet.isMissing = (w.pets.find? petId).map Pet.isMissing

/-- What fails up to the insertion makes the creation fail, and has changed neither the alerts nor
the flag of a pet. -/
structure FailsClean (E : AlertCreationEnv) (fails : CreationCall → Bool) (userId : ℕ)
    (dto : CreateAlertDto) (w : World) : Prop where
  raises : ∀ e w', (createInserted E userId dto).runWith fails w = (.error e, w') →
    (create E userId dto).runWith fails w = (.error e, w')
  leaves : LeavesAlertsAndFlags fails w (createInserted E userId dto)

/-- The clock is no call that fails. -/
def ClockAnswers (fails : CreationCall → Bool) : Prop :=
  fails (.rateLimit .dateNow) = false ∧ fails (.alert .dateNow) = false

/-- The last part, with the time that the clock tells. -/
theorem expiry_runWith (hclock : ClockAnswers fails) (w : World) :
    ((AlertCall.read .dateNow World.now).relabel CreationCall.alert >>= fun now =>
      insertAlert E userId dto (now + 7 * MS_PER_DAY)).runWith fails w =
      (insertAlert E userId dto (w.now + 7 * MS_PER_DAY)).runWith fails w := by
  rw [AlertCall.read, Process.relabel_query, Process.runWith_bind, Process.runWith_query, hclock.2,
    if_neg Bool.false_ne_true]

/-- After the limit check only an insertion that fails leaves something: the flag. -/
theorem insertFlagged_leaves_iff (hclock : ClockAnswers fails) :
    LeavesAlertsAndFlags fails w (insertFlagged E userId dto) ↔
      ¬ ((∃ pet, FlagsPet fails userId dto w pet) ∧ InsertionFails E fails userId dto w) := by
  unfold insertFlagged LeavesAlertsAndFlags
  rw [Process.runWith_bind]
  by_cases hpet : ∃ pet, FlagsPet fails userId dto w pet
  · obtain ⟨pet, hflags⟩ := hpet
    rw [flagPet_runWith hflags]
    dsimp only
    rw [expiry_runWith hclock]
    rcases insertAlert_runWith E fails userId dto
        (fun data => takesAlert_petUpdate pet.id true data w) with
      ⟨hfails, e, hinsert⟩ | ⟨hinserts, hok⟩
    · refine iff_of_false (fun hleaves => ?_) fun h => h ⟨⟨pet, hflags⟩, hfails⟩
      have hflag := (hleaves e _ hinsert).2 pet.id
      rw [isMissing_petUpdate hflags.found, hflags.found, Option.map_some,
        hflags.unflagged] at hflag
      cases hflag
    · refine iff_of_true (fun e w' hrun => ?_) fun h => hinserts h.2
      rw [show w.now = ((AlertCall.petUpdate pet.id true).effect w).now from rfl, hrun] at hok
      cases hok
  · refine iff_of_true (fun e w' hrun => ?_) fun h => hpet h.1
    have hkept := flagPet_runWith_kept fun pet h => hpet ⟨pet, h⟩
    rcases hflag : ((flagPet userId dto).relabel CreationCall.alert).runWith fails w with
      ⟨e | _, w₁⟩
    · rw [hflag] at hkept hrun
      obtain rfl : w₁ = w := hkept
      cases hrun
      exact ⟨rfl, fun _ => rfl⟩
    · rw [hflag] at hkept hrun
      obtain rfl : w₁ = w := hkept
      dsimp only at hrun
      rw [expiry_runWith hclock] at hrun
      rcases insertAlert_runWith E fails userId dto fun data => Eq.refl (w₁.takesAlert data) with
        ⟨-, e, hinsert⟩ | ⟨-, hok⟩
      · rw [hinsert] at hrun
        cases hrun
        exact ⟨rfl, fun _ => rfl⟩
      · rw [hrun] at hok
        cases hok

theorem FlagsPet.congr {w' : World} {pet : Pet} (h : KeysOnly w w') :
    FlagsPet fails userId dto w' pet ↔ FlagsPet fails userId dto w pet := by
  constructor
  · intro h'
    exact ⟨h'.ofPet, h.pets ▸ h'.found, h'.owner, h'.unflagged, h'.isRead, h'.isWritten⟩
  · intro h'
    exact ⟨h'.ofPet, h.pets.symm ▸ h'.found, h'.owner, h'.unflagged, h'.isRead, h'.isWritten⟩

theorem InsertionFails.congr {w' : World} (h : KeysOnly w w') :
    InsertionFails E fails userId dto w' ↔ InsertionFails E fails userId dto w := by
  have htakes : ∀ data, w'.takesAlert data = w.takesAlert data := by
    intro data
    rw [World.takesAlert, World.takesAlert, h.users, h.pets]
  simp only [InsertionFails, h.now, htakes]

theorem logPet_eq {dto : CreateAlertDto} (h : dto.HasPet) : logPet dto = .ret () := by
  unfold logPet
  cases hpet : dto.pet with
  | none => exact absurd hpet h.1
  | some pet =>
      cases pet with
      | null => exact absurd hpet h.2
      | _ => rfl

theorem logPet_eq_raise {dto : CreateAlertDto} (h : ¬ dto.HasPet) :
    ∃ e, logPet dto = .raise e := by
  unfold logPet
  rcases Classical.or_iff_not_imp_left.2 fun hnone => not_not.1 fun hnull => h ⟨hnone, hnull⟩ with
    hpet | hpet
  · exact ⟨_, by rw [hpet]; rfl⟩
  · exact ⟨_, by rw [hpet]; rfl⟩

variable (E userId dto w) in
/-- From the limit check on, only an insertion that fails after a flag leaves something. -/
theorem limitedInsert_leaves_iff (hclock : ClockAnswers fails) :
    LeavesAlertsAndFlags fails w
        ((RateLimitService.checkAlertCreationLimit (RateLimitService.limits E.rateLimit)
          userId).relabel CreationCall.rateLimit >>= fun _ => insertFlagged E userId dto) ↔
      ¬ (AdmitsCreation (RateLimitService.limits E.rateLimit) (fun l => fails (.rateLimit l))
          userId w ∧
        (∃ pet, FlagsPet fails userId dto w pet) ∧ InsertionFails E fails userId dto w) := by
  have hok : _ ↔ AdmitsCreation (RateLimitService.limits E.rateLimit)
    (fun l => fails (.rateLimit l)) userId w := rateLimit_isOk_iff hclock.1
  have hkept := rateLimit_runWith_kept (RateLimitService.limits E.rateLimit)
    (fun l => fails (.rateLimit l)) userId w
  unfold LeavesAlertsAndFlags
  rw [Process.runWith_bind, Process.runWith_relabel]
  rcases hlimit : (RateLimitService.checkAlertCreationLimit (RateLimitService.limits E.rateLimit)
    userId).runWith (fun l => fails (.rateLimit l)) w with ⟨e | _, w₁⟩
  · rw [hlimit] at hok hkept
    refine iff_of_true (fun e' w' hrun => ?_) fun h => by cases hok.2 h.1
    cases hrun
    exact ⟨hkept.alerts, fun _ => by rw [hkept.pets]⟩
  · rw [hlimit] at hok hkept
    replace hkept : KeysOnly w w₁ := hkept
    have hadmits := hok.1 rfl
    have hleaves : LeavesAlertsAndFlags fails w₁ (insertFlagged E userId dto) ↔ _ :=
      insertFlagged_leaves_iff hclock
    simp only [FlagsPet.congr hkept, InsertionFails.congr hkept] at hleaves
    simp only [hadmits, true_and, ← hleaves, LeavesAlertsAndFlags, hkept.alerts, hkept.pets]

/-- A failed creation leaves everything as it was unless it fails at the insertion, after the
limiter has let it pass and it has flagged its pet. -/
theorem failsClean_iff (E : AlertCreationEnv) (fails : CreationCall → Bool)
    (hclock : ClockAnswers fails) (userId : ℕ) (dto : CreateAlertDto) (w : World) :
    FailsClean E fails userId dto w ↔
      ¬ (dto.HasPet ∧
        AdmitsCreation (RateLimitService.limits E.rateLimit) (fun l => fails (.rateLimit l))
          userId w ∧
        (∃ pet, FlagsPet fails userId dto w pet) ∧ InsertionFails E fails userId dto w) := by
  have hraises : ∀ e w', (createInserted E userId dto).runWith fails w = (.error e, w') →
      (create E userId dto).runWith fails w = (.error e, w') := by
    intro e w' hrun
    rw [create_eq, Process.runWith_bind, hrun]
  have hclean : FailsClean E fails userId dto w ↔
      LeavesAlertsAndFlags fails w (createInserted E userId dto) :=
    ⟨FailsClean.leaves, fun h => ⟨hraises, h⟩⟩
  rw [hclean]
  by_cases hpet : dto.HasPet
  · have hlimited := limitedInsert_leaves_iff E userId dto w hclock
    rw [and_iff_right hpet, ← hlimited]
    unfold createInserted
    rw [logPet_eq hpet]
    rfl
  · obtain ⟨e, hraise⟩ := logPet_eq_raise hpet
    refine iff_of_true (fun e' w' hrun => ?_) fun h => hpet h.1
    unfold createInserted at hrun
    rw [hraise] at hrun
    cases hrun
    exact ⟨rfl, fun _ => rfl⟩

/-- The pet is somebody else's: the creation fails and leaves the pet alone. -/
theorem failsClean_iff_stranger :
    FailsClean plainCreation (fun _ => false) 2 alertForPet ownerWorld :=
  (failsClean_iff plainCreation (fun _ => false) ⟨rfl, rfl⟩ 2 alertForPet ownerWorld).2 (by
    rintro ⟨-, -, ⟨pet, hflags⟩, -⟩
    have hofPet : some 1 = some pet.id := Eq.trans (by decide +kernel) hflags.ofPet
    have hpet : ownerWorld.pets.find? pet.id = some { id := 1, userId := 1, name := "Rex" } := by
      rw [← Option.some.inj hofPet]
      decide +kernel
    have howner := hflags.owner
    rw [← Option.some.inj (hpet.symm.trans hflags.found)] at howner
    exact absurd howner (by decide))

/-- The database fails at the insertion, or the body has no location: the creation fails, and the
pet is flagged as missing without an alert. -/
theorem failsClean_flagged :
    let fails := fun l : CreationCall => match l with
      | .alertInsert _ => true
      | _ => false
    let nowhere := { alertForPet with location := none }
    let after := (create plainCreation 1 alertForPet).runWith fails ownerWorld
    let afterNowhere := (create plainCreation 1 nowhere).run ownerWorld
    (ownerWorld.pets.find? 1).map Pet.isMissing = some false ∧
      after.1.isOk = false ∧ after.2.alerts.rows = [] ∧
      (after.2.pets.find? 1).map Pet.isMissing = some true ∧
      ¬ FailsClean plainCreation fails 1 alertForPet ownerWorld ∧
      afterNowhere.1.isOk = false ∧ afterNowhere.2.alerts.rows = [] ∧
      (afterNowhere.2.pets.find? 1).map Pet.isMissing = some true ∧
      ¬ FailsClean plainCreation (fun _ => false) 1 nowhere ownerWorld := by
  intro fails nowhere after afterNowhere
  refine ⟨by decide +kernel, by decide +kernel, by decide +kernel, by decide +kernel, ?_,
    by decide +kernel, by decide +kernel, by decide +kernel, ?_⟩
  · rw [failsClean_iff plainCreation fails ⟨rfl, rfl⟩, not_not]
    refine ⟨⟨by simp [alertForPet], by simp [alertForPet]⟩, ⟨by decide +kernel, by decide +kernel⟩,
      ⟨{ id := 1, userId := 1, name := "Rex" }, by decide +kernel, by decide +kernel, rfl, rfl, rfl,
        rfl⟩, ?_⟩
    exact fun _ _ => .inl rfl
  · rw [failsClean_iff plainCreation (fun _ => false) ⟨rfl, rfl⟩, not_not]
    refine ⟨⟨by simp [nowhere, alertForPet], by simp [nowhere, alertForPet]⟩,
      ⟨by decide +kernel, by decide +kernel⟩,
      ⟨{ id := 1, userId := 1, name := "Rex" }, by decide +kernel, by decide +kernel, rfl, rfl, rfl,
        rfl⟩, fun data hdata => ?_⟩
    cases hdata

end Creation

end AlertService

end FifiAlert
