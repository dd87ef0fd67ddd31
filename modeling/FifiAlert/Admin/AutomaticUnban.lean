import FifiAlert.Admin.BanUser
import FifiAlert.Auth.TokenProtocol
import FifiAlert.Concurrency.Protocol

/-!
# Automatic unbans and bans in force

A ban that has run out is lifted by the nightly job and by the validation of an
access token. The job asks for the end of the ban in its update; the validation
reads the ban first and lifts whatever ban is there later. So in between the user
must not be banned again. Of any number of both, with bans and unbans by
administrators in any interleaving, what is kept is `BanPermits`: no ban in force
is lifted but by `unbanUser`.
-/

namespace FifiAlert

open Concurrency Store

/-- What is asked of the services. -/
inductive BanRequest where
  | validateAccess (token : String)
  | cleanupBans
  | ban (userId : ℕ) (reason : Option String) (expiresInMinutes : Option ℚ)
  | unban (userId : ℕ)

/-- The process that serves a request. -/
def BanRequest.process (A : AdminEnv) : BanRequest → AdminProcess Unit
  | validateAccess token =>
      (fun _ => ()) <$>
        (TokenService.validateAccessToken A.token A.signedOut token).relabel AdminCall.session
  | cleanupBans =>
      (fun _ => ()) <$>
        (TokenCleanupService.cleanupExpiredBans A.signedOut).relabel AdminCall.session
  | ban userId reason expiresInMinutes =>
      (fun _ => ()) <$> AdminController.banUser A userId reason expiresInMinutes
  | unban userId => (fun _ => ()) <$> AdminController.unbanUser A userId

/-- The notable calls of a run: a validation reads its user, a ban or its end is committed. -/
inductive BanMark (ι : Type*) where
  | saw (i : ι) (userId : ℕ)
  | banned (i : ι) (userId : ℕ) (banExpires : Option Time)
  | unbanned (i : ι) (userId : ℕ)
  deriving DecidableEq

abbrev BanSnapshot (ι : Type*) := Snapshot World (BanMark ι)

section Marks

variable {ι : Type*}

/-- The mark of an update that leaves the user with this ban. -/
def BanMark.verdict (i : ι) (userId : ℕ) : Option (Option Time) → BanMark ι
  | some banExpires => banned i userId banExpires
  | none => unbanned i userId

/-- The mark of a call, from the state in which it is made. -/
def BanMark.of (A : AdminEnv) (i : ι) : AdminCall → World → Option (BanMark ι)
  | .session (.sessionFindWithUser tokenHash), w =>
      (w.sessions.find? tokenHash).map fun session => saw i session.userId
  | .user (.userUpdate id data), w =>
      (userUpdate A.user A.nested id data w).toOption.map fun w' => verdict i id (w'.banOf id)
  | _, _ => none

/-- The ban of the user that was committed last since thread `i` read the user, unless
`unbanUser` has lifted it. -/
def bannedSince [DecidableEq ι] (i : ι) (userId : ℕ) : List (BanMark ι) → Option (Option Time)
  | [] => none
  | .saw j id :: marks => if j = i ∧ id = userId then none else bannedSince i userId marks
  | .banned _ id banExpires :: marks =>
      if id = userId then some banExpires else bannedSince i userId marks
  | .unbanned _ id :: marks => if id = userId then none else bannedSince i userId marks

/-- When the condition on the validations holds: the ban that was committed since the validation
read the user, if there is one, has run out. -/
def NoBanSince [DecidableEq ι] (i : ι) : AdminCall → BanSnapshot ι → Prop
  | .session (.userUnban id), w =>
      ∀ banExpires ∈ bannedSince i id w.marks, banOver w.state.now banExpires = true
  | _, _ => True

/-- The surroundings of the services: whatever else happens to users, their bans are left alone,
and the clock does not run backwards. -/
def banSetting (A : AdminEnv) (fails : AdminCall → Prop)
    (admits : ι → AdminCall → BanSnapshot ι → Prop) : Setting ι World AdminCall (BanMark ι) where
  mark := BanMark.of A
  env := fun w w' => (∀ id, w'.banOf id = w.banOf id) ∧ w.now ≤ w'.now
  mayFail := fails
  admits := admits

/-- When each call may be made: an automatic unban finds no ban in force, the job asks for bans
that ended by now, and an administrator who lifts a ban was asked to. -/
def BanPermits (req : ι → BanRequest) (i : ι) : AdminCall → BanSnapshot ι → Prop
  | .session (.userUnban id), w => ¬ w.state.BanInForce id
  | .session (.userUnbanExpired now), w => now ≤ w.state.now
  | .user (.userUpdate id data), _ => ∃ banned banReason banExpires,
      data = AdminController.banColumns banned banReason banExpires ∧
        (banned = false → req i = .unban id)
  | _, _ => True

/-- What a call does to the ban of a user. -/
inductive BanChange [DecidableEq ι] (req : ι → BanRequest) (i : ι) (id : ℕ)
    (w w' : BanSnapshot ι) : Prop where
  | same (hban : w'.state.banOf id = w.state.banOf id)
      (hsince : ∀ j, j ≠ i → bannedSince j id w'.marks = bannedSince j id w.marks)
  | lifted (hforce : ¬ w.state.BanInForce id) (hban : w'.state.banOf id = none)
      (hmarks : w'.marks = w.marks)
  | banned (banExpires : Option Time) (hban : w'.state.banOf id = some banExpires)
      (hmarks : w'.marks = .banned i id banExpires :: w.marks)
  | unbanned (hreq : req i = .unban id) (hban : w'.state.banOf id = none)
      (hmarks : w'.marks = .unbanned i id :: w.marks)

end Marks

section Change

variable {ι : Type*} [DecidableEq ι] {A : AdminEnv} {req : ι → BanRequest} {i : ι}
  {w : BanSnapshot ι} {id : ℕ}

theorem BanChange.of_users {l : AdminCall}
    (hban : (l.effect A w.state).banOf id = w.state.banOf id)
    (hmark : ∀ m, BanMark.of A i l w.state = some m → ∃ userId, m = .saw i userId) :
    BanChange req i id w (w.after (BanMark.of A) i l (l.effect A)) := by
  refine .same hban fun j hj => ?_
  cases hm : BanMark.of A i l w.state with
  | none => simp [Snapshot.after, hm]
  | some m =>
      obtain ⟨userId, rfl⟩ := hmark m hm
      simp [Snapshot.after, hm, bannedSince, hj.symm]

/-- The call of a validation that finds an expired ban. -/
theorem BanChange.of_userUnban {userId : ℕ} (hforce : ¬ w.state.BanInForce userId) :
    BanChange req i id w (w.after (BanMark.of A) i (.session (.userUnban userId))
      (AdminCall.effect A (.session (.userUnban userId)))) := by
  have hban : ((SessionCall.userUnban userId).effect A.signedOut w.state).banOf id =
      if id = userId then none else w.state.banOf id := by
    rw [SessionCall.effect, banOf_updateMany]
    unfold World.banOf
    cases hrow : w.state.users.find? id with
    | none => simp
    | some user =>
        have hid : user.id = id := Table.key_of_find? hrow
        by_cases hu : id = userId
        · simp [hid, hu, User.ban_unban]
        · simp [hid, hu]
  by_cases hu : id = userId
  · subst hu
    rw [if_pos rfl] at hban
    exact .lifted hforce hban rfl
  · rw [if_neg hu] at hban
    exact .same hban fun _ _ => rfl

/-- The nightly job. -/
theorem BanChange.of_userUnbanExpired {now : Time} (hnow : now ≤ w.state.now) :
    BanChange req i id w (w.after (BanMark.of A) i (.session (.userUnbanExpired now))
      (AdminCall.effect A (.session (.userUnbanExpired now)))) := by
  have hban : ((SessionCall.userUnbanExpired now).effect A.signedOut w.state).banOf id =
      (w.state.users.find? id).bind fun user =>
        User.ban (if user.banExpired now then user.unban w.state.now else user) := by
    rw [SessionCall.effect, banOf_updateMany]
  cases hrow : w.state.users.find? id with
  | none =>
      refine .same ?_ fun _ _ => rfl
      rw [hrow] at hban
      exact hban.trans (by rw [World.banOf, hrow]; rfl)
  | some user =>
      rw [hrow, Option.bind_some] at hban
      by_cases hexpired : user.banExpired now = true
      · rw [if_pos hexpired, User.ban_unban] at hban
        refine .lifted ?_ hban rfl
        rintro ⟨user', hrow', -, hends⟩
        obtain rfl : user = user' := Option.some.inj (hrow.symm.trans hrow')
        simp only [User.banExpired, Bool.and_eq_true, Option.any_eq_true,
          decide_eq_true_eq] at hexpired
        obtain ⟨-, t, ht, hlt⟩ := hexpired
        exact Int.lt_irrefl _ (Int.lt_trans (hends t ht) (Int.lt_of_lt_of_le hlt hnow))
      · rw [if_neg hexpired] at hban
        refine .same (hban.trans ?_) fun _ _ => rfl
        rw [World.banOf, hrow]
        rfl

/-- The update of an administrator. -/
theorem BanChange.of_userUpdate (hbool : ∀ b, A.user.boolean (.bool b) = some b) {userId : ℕ}
    {banned : Bool} {banReason banExpires : Js.Json}
    (hreq : banned = false → req i = .unban userId) :
    BanChange req i id w (w.after (BanMark.of A) i (.user (.userUpdate userId
        (AdminController.banColumns banned banReason banExpires)))
      (AdminCall.effect A (.user (.userUpdate userId
        (AdminController.banColumns banned banReason banExpires))))) := by
  cases hupdate : userUpdate A.user A.nested userId
      (AdminController.banColumns banned banReason banExpires) w.state with
  | error e =>
      refine .same ?_ fun j _ => ?_
      · simp [AdminCall.effect, UserCall.effect, hupdate]
      · simp [Snapshot.after, BanMark.of, hupdate, Except.toOption]
  | ok w' =>
      obtain ⟨-, ⟨ends, hban⟩, hother⟩ := userUpdate_banColumns hbool hupdate
      have hstate : (AdminCall.effect A (.user (.userUpdate userId
          (AdminController.banColumns banned banReason banExpires)))) w.state = w' := by
        simp [AdminCall.effect, UserCall.effect, hupdate]
      have hmarks : (w.after (BanMark.of A) i (.user (.userUpdate userId
          (AdminController.banColumns banned banReason banExpires)))
          (AdminCall.effect A (.user (.userUpdate userId
            (AdminController.banColumns banned banReason banExpires))))).marks =
          .verdict i userId (w'.banOf userId) :: w.marks := by
        simp [Snapshot.after, BanMark.of, hupdate, Except.toOption]
      by_cases hu : id = userId
      · subst hu
        cases banned with
        | true =>
            refine .banned ends (by rw [Snapshot.state_after, hstate, hban]; rfl) ?_
            rw [hmarks, hban]
            rfl
        | false =>
            refine .unbanned (hreq rfl) (by rw [Snapshot.state_after, hstate, hban]; rfl) ?_
            rw [hmarks, hban]
            rfl
      · refine .same (by rw [Snapshot.state_after, hstate, hother id hu]) fun j _ => ?_
        rw [hmarks]
        cases banned <;> simp [hban, BanMark.verdict, bannedSince, Ne.symm hu]

/-- What a permitted call does to the ban of a user. -/
theorem BanPermits.banChange (hbool : ∀ b, A.user.boolean (.bool b) = some b) {l : AdminCall}
    (h : BanPermits req i l w) (id : ℕ) :
    BanChange req i id w (w.after (BanMark.of A) i l (l.effect A)) := by
  cases l with
  | session l =>
      cases l with
      | userUnban userId => exact .of_userUnban h
      | userUnbanExpired now => exact .of_userUnbanExpired h
      | sessionFindWithUser tokenHash =>
          refine .of_users rfl fun m hm => ?_
          obtain ⟨session, -, rfl⟩ := Option.map_eq_some_iff.1 hm
          exact ⟨_, rfl⟩
      | token l =>
          refine .of_users ?_ fun m hm => by cases hm
          cases l <;> rfl
      | _ => exact .of_users rfl fun m hm => by cases hm
  | user l =>
      cases l with
      | userUpdate userId data =>
          obtain ⟨banned, banReason, banExpires, rfl, hreq⟩ := h
          exact .of_userUpdate hbool hreq
      | _ => exact .of_users rfl fun m hm => by cases hm

omit [DecidableEq ι] in
/-- No permitted call moves the clock. -/
theorem BanPermits.now_effect (hbool : ∀ b, A.user.boolean (.bool b) = some b) {l : AdminCall}
    (h : BanPermits req i l w) : (l.effect A w.state).now = w.state.now := by
  cases l with
  | session l => exact SessionCall.now_effect A.signedOut l w.state
  | user l =>
      cases l with
      | userUpdate userId data =>
          obtain ⟨banned, banReason, banExpires, rfl, -⟩ := h
          cases hupdate : userUpdate A.user A.nested userId
              (AdminController.banColumns banned banReason banExpires) w.state with
          | error e => simp [AdminCall.effect, UserCall.effect, hupdate]
          | ok w' =>
              have hnow := (userUpdate_banColumns hbool hupdate).1
              simpa [AdminCall.effect, UserCall.effect, hupdate] using hnow
      | _ => rfl

/-- What thread `i` knows of the ban that it read with the end `t`: if the user is banned, then
until `t`, or by a ban that was committed since. -/
def Foreseen (i : ι) (id : ℕ) (t : Time) (w : BanSnapshot ι) : Prop :=
  w.state.banOf id = none ∨
    w.state.banOf id = some ((bannedSince i id w.marks).getD (some t))

theorem Foreseen.call (hbool : ∀ b, A.user.boolean (.bool b) = some b) {j : ι} (hij : j ≠ i)
    {l : AdminCall} (h : BanPermits req j l w) {t : Time} (hk : Foreseen i id t w) :
    Foreseen i id t (w.after (BanMark.of A) j l (l.effect A)) := by
  cases h.banChange hbool id with
  | same hban hsince =>
      unfold Foreseen
      rw [hban, hsince i hij.symm]
      exact hk
  | lifted hforce hban hmarks => exact .inl hban
  | banned banExpires hban hmarks =>
      refine .inr ?_
      rw [hban, hmarks, bannedSince, if_pos rfl, Option.getD_some]
  | unbanned hreq hban hmarks => exact .inl hban

/-- The ban that a validation lifts is not in force, when the condition holds. -/
theorem Foreseen.not_inForce {t : Time} (hk : Foreseen i id t w) (ht : t ≤ w.state.now)
    (hsince : NoBanSince i (.session (.userUnban id)) w) : ¬ w.state.BanInForce id := by
  rw [World.banInForce_iff]
  rintro ⟨banExpires, hban, hforce⟩
  rcases hk with hnone | hsome
  · rw [hnone] at hban
    cases hban
  · obtain rfl := Option.some.inj (hsome.symm.trans hban)
    cases hverdict : bannedSince i id w.marks with
    | none =>
        rw [hverdict, Option.getD_none] at hforce
        simp [banOver, ht] at hforce
    | some ends =>
        rw [hverdict, Option.getD_some, hsince ends hverdict] at hforce
        cases hforce

end Change

section Threads

variable {ι : Type*} [DecidableEq ι] {A : AdminEnv} {req : ι → BanRequest}
  {fails : AdminCall → Prop} {i : ι} {w w' : BanSnapshot ι} {α β : Type}

variable (A req fails) in
/-- Bans and their ends as a protocol. -/
def banProtocol : Protocol (banSetting A fails (NoBanSince (ι := ι))) where
  effect := AdminCall.effect A
  permits := BanPermits req
  inv := fun _ => True
  inv_call := fun _ _ _ => trivial
  inv_env := fun _ _ => trivial

variable (A req fails) in
/-- The protocol permits the calls of the process. -/
abbrev BanFollows (i : ι) (p : AdminProcess α) (w : BanSnapshot ι) : Prop :=
  Safe (banProtocol A req fails).contract i (fun _ _ => True) p w

theorem banFollows_ret {a : α} : BanFollows A req fails i (.ret a) w :=
  Safe.ret fun _ _ _ => trivial

theorem banFollows_raise {e : AppError} : BanFollows A req fails i (.raise e : AdminProcess α) w :=
  Safe.raise fun _ _ _ => trivial

/-- The rule of sequencing. -/
theorem banFollows_bind {p : AdminProcess α} {next : α → AdminProcess β}
    (hp : BanFollows A req fails i p w) (h : ∀ a w', BanFollows A req fails i (next a) w') :
    BanFollows A req fails i (p >>= next) w := by
  apply Safe.bind
  apply hp.mono
  intro res w' _ _
  cases res with
  | ok a => exact h a w'
  | error e => trivial

theorem Foreseen.of_interference (hbool : ∀ b, A.user.boolean (.bool b) = some b)
    {id : ℕ} {t : Time}
    (h : Relation.ReflTransGen ((banProtocol A req fails).Interference i) w w')
    (hk : Foreseen i id t w) : Foreseen i id t w' := by
  refine Protocol.stable ?_ ?_ h hk
  · exact fun _ _ _ hij _ hper _ hk => hk.call hbool hij hper
  · intro s s' m _ henv hk
    unfold Foreseen
    rw [henv.1 id]
    exact hk

theorem ban_now_le (hbool : ∀ b, A.user.boolean (.bool b) = some b)
    (h : Relation.ReflTransGen ((banProtocol A req fails).Interference i) w w') :
    w.state.now ≤ w'.state.now := by
  refine Protocol.stable (J := fun w' => w.state.now ≤ w'.state.now) ?_ ?_ h (Int.le_refl _)
  · intro j l w _ _ hper _ hle
    rw [Snapshot.state_after]
    exact (hper.now_effect hbool).symm ▸ hle
  · exact fun _ _ _ _ henv hle => Int.le_trans hle henv.2

/-- A read that leaves no mark. -/
theorem ban_read {l : AdminCall} {err : AppError} {g : World → α} {next : α → AdminProcess β}
    (hmark : ∀ s, BanMark.of A i l s = none)
    (h : ∀ w', Relation.ReflTransGen ((banProtocol A req fails).Interference i) w w' →
      BanFollows A req fails i (next (g w'.state)) w') :
    BanFollows A req fails i (Process.query l err g >>= next) w :=
  Safe.query_bind hmark (fun w' hr _ _ => h w' hr) fun _ => banFollows_raise

/-- An update that is permitted when the condition holds. -/
theorem ban_write {l : AdminCall} {err : AppError} {f : World → Except AppError α × World}
    (hf : (fun s => (f s).2) = l.effect A)
    (h : ∀ w', Relation.ReflTransGen ((banProtocol A req fails).Interference i) w w' →
      NoBanSince i l w' → BanPermits req i l w') :
    BanFollows A req fails i (Process.atomic l err f) w := by
  refine Protocol.safe_call hf fun w' hr _ => ⟨fun hsince => ⟨h w' hr hsince, fun _ => ?_⟩,
    fun _ => banFollows_raise⟩
  cases (f w'.state).1 with
  | ok a => exact banFollows_ret
  | error e => exact banFollows_raise

theorem checkBan_follows (hbool : ∀ b, A.user.boolean (.bool b) = some b) {userId : ℕ} {user : User}
    (hk : ∀ t, user.banned = true → user.banExpires = some t → Foreseen i userId t w) :
    BanFollows A req fails i
      ((TokenService.checkBan A.signedOut userId user).relabel .session) w := by
  unfold TokenService.checkBan
  cases hbanned : user.banned with
  | false => exact banFollows_ret
  | true =>
      cases hends : user.banExpires with
      | none => exact banFollows_raise
      | some t =>
          simp only [Bool.not_true, Bool.false_eq_true, if_false, Process.relabel_bind]
          refine ban_read (fun _ => rfl) fun w₁ hr₁ => ?_
          split
          · exact banFollows_raise
          next hle =>
              rw [TokenService.unbanUser, Process.relabel_atomic]
              refine ban_write rfl fun w₂ hr₂ hsince => ?_
              have hk₂ := ((hk t hbanned hends).of_interference hbool hr₁).of_interference hbool hr₂
              exact hk₂.not_inForce (Int.le_trans (Int.not_lt.1 hle) (ban_now_le hbool hr₂)) hsince

/-- What the read of a validation shows of the ban. -/
theorem foreseen_of_read {session : Session} {user : UserWithRoles} {tokenHash : String} {t : Time}
    (hrow : w.state.findSessionWithUser tokenHash = some (session, some user))
    (hbanned : user.user.banned = true) (hends : user.user.banExpires = some t) :
    Foreseen i session.userId t
      (w.after (BanMark.of A) i (.session (.sessionFindWithUser tokenHash)) id) := by
  obtain ⟨found, hfound, hpair⟩ := Option.map_eq_some_iff.1 hrow
  obtain ⟨rfl, huser⟩ := Prod.mk.inj hpair
  obtain ⟨row, hrow', rfl⟩ := Option.map_eq_some_iff.1 huser
  refine .inr ?_
  have hmarks : (w.after (BanMark.of A) i (.session (.sessionFindWithUser tokenHash)) id).marks =
      .saw i found.userId :: w.marks := by
    simp [Snapshot.after, BanMark.of, hfound]
  rw [hmarks, bannedSince, if_pos ⟨rfl, rfl⟩, Option.getD_none, Snapshot.state_after, id_eq,
    World.banOf, hrow', Option.bind_some, User.ban, if_pos hbanned]
  exact congrArg some hends

/-- A read that leaves a mark. -/
theorem ban_read_marked {l : AdminCall} {err : AppError} {g : World → α}
    {next : α → AdminProcess β} (hl : l.effect A = id) (hper : ∀ w', BanPermits req i l w')
    (h : ∀ w' : BanSnapshot ι, BanFollows A req fails i (next (g w'.state))
      (w'.after (BanMark.of A) i l id)) :
    BanFollows A req fails i (Process.query l err g >>= next) w := by
  refine Protocol.safe_call hl.symm fun w' _ _ => ⟨fun _ => ⟨hper w', fun _ => ?_⟩,
    fun _ => banFollows_raise⟩
  have hafter : (banProtocol A req fails).effect l = id := hl
  rw [hafter]
  exact h w'

theorem acceptSession_follows (hbool : ∀ b, A.user.boolean (.bool b) = some b)
    {found : Option (Session × Option UserWithRoles)}
    (hk : ∀ session user t, found = some (session, some user) → user.user.banned = true →
      user.user.banExpires = some t → Foreseen i session.userId t w) :
    BanFollows A req fails i
      ((TokenService.acceptSession A.signedOut found).relabel .session) w := by
  unfold TokenService.acceptSession
  cases found with
  | none => exact banFollows_raise
  | some found =>
      obtain ⟨session, user?⟩ := found
      dsimp only
      split
      · exact banFollows_raise
      cases user? with
      | none => exact banFollows_raise
      | some user =>
          dsimp only
          rw [Process.relabel_bind]
          exact banFollows_bind (checkBan_follows hbool fun t => hk session user t rfl)
            fun _ _ => banFollows_ret

theorem validateAccessToken_banFollows (hbool : ∀ b, A.user.boolean (.bool b) = some b)
    (token : String) :
    BanFollows A req fails i
      ((TokenService.validateAccessToken A.token A.signedOut token).relabel .session) w := by
  rw [TokenService.validateAccessToken, Process.relabel_tryCatch, Process.relabel_bind]
  apply Safe.tryCatch
  apply Safe.mono (Q := fun _ _ => True)
  · refine ban_read (fun _ => rfl) fun w₁ _ => ?_
    cases A.token.verify token w₁.state.now with
    | none => exact banFollows_raise
    | some payload =>
        dsimp only
        split
        · exact banFollows_raise
        rw [Process.relabel_bind]
        refine ban_read_marked rfl (fun _ => trivial) fun w₂ => ?_
        apply acceptSession_follows hbool
        intro session user t hfound hbanned hends
        exact foreseen_of_read hfound hbanned hends
  · intro res w' _ _
    cases res with
    | ok user => trivial
    | error e => cases e <;> exact banFollows_raise

theorem cleanupExpiredBans_follows (hbool : ∀ b, A.user.boolean (.bool b) = some b) :
    BanFollows A req fails i
      ((TokenCleanupService.cleanupExpiredBans A.signedOut).relabel .session) w := by
  rw [TokenCleanupService.cleanupExpiredBans, Process.relabel_bind]
  refine ban_read (fun _ => rfl) fun w₁ _ => ?_
  refine Protocol.safe_call rfl fun w₂ hr₂ _ => ⟨fun _ => ⟨ban_now_le hbool hr₂, fun _ => ?_⟩,
    fun _ => banFollows_raise⟩
  exact banFollows_ret

/-- The update of the three columns by the user service. -/
theorem update_follows {userId : ℕ} {banned : Bool} {banReason banExpires : Js.Json}
    (hreq : banned = false → req i = .unban userId) :
    BanFollows A req fails i ((UserService.update A.user A.nested userId
      (AdminController.banColumns banned banReason banExpires)).relabel .user) w := by
  rw [UserService.update, Process.relabel_bind]
  refine ban_read (fun _ => rfl) fun w₁ _ => ?_
  cases w₁.state.users.find? userId with
  | none => exact banFollows_raise
  | some user =>
      have hsanitized := sanitizedBody_banColumns banned banReason banExpires
      unfold sanitizedBody at hsanitized
      have hwrite : (UserService.handlePassword A.user user.id (UserService.givenPassword
          (AdminController.banColumns banned banReason banExpires)) >>= fun _ =>
          UserService.writeUpdate A.user A.nested userId
            (AdminController.banColumns banned banReason banExpires) user) =
          UserService.writeUpdate A.user A.nested userId
            (AdminController.banColumns banned banReason banExpires) user := rfl
      dsimp only
      rw [hsanitized, hwrite, UserService.writeUpdate,
        if_neg (by simp [AdminController.banColumns]), Process.relabel_atomic]
      refine ban_write ?_ fun w₂ _ _ => ⟨banned, banReason, banExpires, rfl, hreq⟩
      funext s
      cases hupdate : userUpdate A.user A.nested userId
        (AdminController.banColumns banned banReason banExpires) s <;>
          simp [AdminCall.effect, UserCall.effect, hupdate]

theorem banUser_follows (userId : ℕ) (reason : Option String) (expiresInMinutes : Option ℚ) :
    BanFollows A req fails i (AdminController.banUser A userId reason expiresInMinutes) w := by
  unfold AdminController.banUser
  refine ban_read (fun _ => rfl) fun w₁ _ => ?_
  cases w₁.state.users.find? userId with
  | none => exact banFollows_raise
  | some user =>
      have hend : BanFollows A req fails i (AdminController.banEnd expiresInMinutes) w₁ := by
        unfold AdminController.banEnd
        cases expiresInMinutes.filter fun minutes => minutes ≠ 0 with
        | none => exact banFollows_ret
        | some minutes => exact ban_read (fun _ => rfl) fun w₂ _ => banFollows_ret
      have hreq : true = false → req i = .unban userId := nofun
      refine banFollows_bind hend fun banExpires w₂ => ?_
      refine banFollows_bind (update_follows hreq) fun _ w₃ => ?_
      cases banExpires with
      | none => exact banFollows_ret
      | some date =>
          cases date with
          | none => exact banFollows_raise
          | some banExpires => exact banFollows_ret

theorem unbanUser_follows {userId : ℕ} (hreq : req i = .unban userId) :
    BanFollows A req fails i (AdminController.unbanUser A userId) w := by
  unfold AdminController.unbanUser
  refine ban_read (fun _ => rfl) fun w₁ _ => ?_
  cases w₁.state.users.find? userId with
  | none => exact banFollows_raise
  | some user =>
      exact banFollows_bind (update_follows fun _ => hreq) fun _ _ => banFollows_ret

theorem BanRequest.process_follows (hbool : ∀ b, A.user.boolean (.bool b) = some b) (i : ι)
    (w : BanSnapshot ι) : BanFollows A req fails i ((req i).process A) w := by
  cases hreq : req i with
  | validateAccess token => exact Safe.map (validateAccessToken_banFollows hbool token)
  | cleanupBans => exact Safe.map (cleanupExpiredBans_follows hbool)
  | ban userId reason expiresInMinutes =>
      exact Safe.map (banUser_follows userId reason expiresInMinutes)
  | unban userId => exact Safe.map (unbanUser_follows hreq)

end Threads

section Run

variable {ι : Type*} {A : AdminEnv} {s₀ : World} {req : ι → BanRequest} {fails : AdminCall → Prop}

/-- A pool of requests that has not started yet. -/
def banPool (A : AdminEnv) (s₀ : World) (req : ι → BanRequest) :
    Config ι World AdminCall AppError Unit (BanMark ι) :=
  Config.init s₀ fun i => (req i).process A

/-- The user is banned, and the ban has run out. -/
def World.BanRunOut (w : World) (id : ℕ) : Prop :=
  ∃ banExpires, w.banOf id = some banExpires ∧ banOver w.now banExpires = true

/-- A ban is in force or has run out. -/
theorem World.inForce_or_runOut {w : World} {id : ℕ} {banExpires : Option Time}
    (h : w.banOf id = some banExpires) : w.BanInForce id ∨ w.BanRunOut id := by
  cases hover : banOver w.now banExpires with
  | false => exact .inl (World.banInForce_iff.2 ⟨banExpires, h, hover⟩)
  | true => exact .inr ⟨banExpires, h, hover⟩

variable [DecidableEq ι]

theorem banPool_sound (hbool : ∀ b, A.user.boolean (.bool b) = some b) :
    Sound (banProtocol A req fails).contract (fun _ _ _ => True) (banPool A s₀ req) :=
  ⟨trivial, fun i => BanRequest.process_follows hbool i _⟩

/-- One step of the protocol leaves a ban in force, sees it run out, or is an administrator who
lifts it. -/
theorem ban_step (hbool : ∀ b, A.user.boolean (.bool b) = some b) {w w' : BanSnapshot ι} {id : ℕ}
    (h : (banProtocol A req fails).ProtocolStep w w') (hforce : w.state.BanInForce id) :
    w'.state.BanInForce id ∨ w'.state.BanRunOut id ∨
      ∃ i, req i = .unban id ∧ w'.marks = .unbanned i id :: w.marks := by
  obtain ⟨banExpires, hban, -⟩ := World.banInForce_iff.1 hforce
  cases h with
  | call i hc =>
      cases hc with
      | mk l _ hper _ =>
          cases BanPermits.banChange hbool hper id with
          | same hsame hsince => exact (World.inForce_or_runOut (hsame.trans hban)).imp_right .inl
          | lifted hno hnone hmarks => exact (hno hforce).elim
          | banned ends hnew hmarks => exact (World.inForce_or_runOut hnew).imp_right .inl
          | unbanned hreq hnone hmarks => exact .inr (.inr ⟨i, hreq, hmarks⟩)
  | env henv _ => exact (World.inForce_or_runOut ((henv.1 id).trans hban)).imp_right .inl

/-- Once a ban is in force, the user is unbanned only by `unbanUser`, or after the ban that was
there has run out, when no validation lifts a ban that was committed after it had read the user. -/
theorem automaticUnban_sparesBans (hbool : ∀ b, A.user.boolean (.bool b) = some b)
    {c₁ c₂ : Config ι World AdminCall AppError Unit (BanMark ι)} {id : ℕ}
    (h₁ : Reaches (banSetting A fails NoBanSince) (banPool A s₀ req) c₁)
    (hforce : c₁.state.BanInForce id)
    (h₂ : Reaches (banSetting A fails NoBanSince) c₁ c₂) (hgone : c₂.state.banOf id = none) :
    (∃ i marks, req i = .unban id ∧ c₂.marks = marks ++ c₁.marks ∧ .unbanned i id ∈ marks) ∨
      ∃ c, Reaches (banSetting A fails NoBanSince) c₁ c ∧
        Reaches (banSetting A fails NoBanSince) c c₂ ∧ c.state.BanRunOut id := by
  have hkept : c₂.state.BanInForce id ∨
      (∃ i marks, req i = .unban id ∧ c₂.marks = marks ++ c₁.marks ∧ .unbanned i id ∈ marks) ∨
      ∃ c, Reaches (banSetting A fails NoBanSince) c₁ c ∧
        Reaches (banSetting A fails NoBanSince) c c₂ ∧ c.state.BanRunOut id := by
    clear hgone
    induction h₂ with
    | refl => exact .inl hforce
    | @tail d d' hreach hs ih =>
        rcases ih with hforce' | ⟨i, marks, hreq, hmarks, hmem⟩ | ⟨c, hc, hd, hout⟩
        · have hsound := (banPool_sound hbool).reaches (h₁.trans hreach)
          rcases Protocol.step_refines hsound hs with heq | hstep
          · exact .inl (heq ▸ hforce')
          rcases ban_step hbool hstep hforce' with hforce'' | hout | ⟨i, hreq, hmarks⟩
          · exact .inl hforce''
          · exact .inr (.inr ⟨d', hreach.tail hs, .refl, hout⟩)
          · obtain ⟨marks, hsuffix⟩ := Reaches.marks_suffix hreach
            refine .inr (.inl ⟨i, .unbanned i id :: marks, hreq, ?_, List.mem_cons_self⟩)
            rw [hmarks, ← hsuffix, List.cons_append]
        · obtain ⟨new, hsuffix⟩ := Reaches.marks_suffix (Relation.ReflTransGen.single hs)
          refine .inr (.inl ⟨i, new ++ marks, hreq, ?_, List.mem_append_right new hmem⟩)
          rw [← hsuffix, hmarks, List.append_assoc]
        · exact .inr (.inr ⟨c, hc, hd.tail hs, hout⟩)
  rcases hkept with hforce' | hdone
  · obtain ⟨banExpires, hban, -⟩ := World.banInForce_iff.1 hforce'
    rw [hgone] at hban
    cases hban
  · exact hdone

end Run

section Witness

instance {ι : Type*} [DecidableEq ι] (i : ι) (l : AdminCall) (w : BanSnapshot ι) :
    Decidable (NoBanSince i l w) :=
  match l with
  | .session (.userUnban id) =>
      inferInstanceAs (Decidable (∀ banExpires ∈ bannedSince i id w.marks,
        banOver w.state.now banExpires = true))
  | .session (.token _) | .session (.sessionFindWithUser _) | .session (.sessionDropStale _)
  | .session (.sessionDeleteExpired _) | .session (.sessionDeleteRevoked _)
  | .session (.userUnbanExpired _) | .session (.sessionRevokeById _ _) | .session (.signOut _)
  | .user _ => isTrue trivial

/-- Every token verifies as an access token, and a date is its number. -/
def plainAdminEnv : AdminEnv where
  token :=
    { plainEnv with
      verify := fun _ _ => some { sub := 1, email := "", roles := [], gates := [],
                                  type := .access, jti := 0 } }
  user := plainUserEnv
  nested := fun _ _ w => .ok w
  signedOut := fun _ _ => false
  dateValue := fun date => .num (date.getD 0)

/-- One user with an access token, whose ban has run out. -/
def expiredBanWorld : World where
  users := Table.empty.insertNew { id := 1, email := "", banned := true, banExpires := some 0 }
  sessions := Table.empty.insertNew
    { token := "A", tokenType := .access, userId := 1, expiresAt := 0 }

/-- The user is banned for good and unbanned again. -/
def banThenUnban : Bool → BanRequest
  | false => .ban 1 none none
  | true => .unban 1

def bannedForGood : Config Bool World AdminCall AppError Unit (BanMark Bool) :=
  (banPool plainAdminEnv expiredBanWorld banThenUnban).schedule (BanMark.of plainAdminEnv)
    [false, false, false]

def unbannedAgain : Config Bool World AdminCall AppError Unit (BanMark Bool) :=
  bannedForGood.schedule (BanMark.of plainAdminEnv) [true, true, true]

/-- The ban is lifted by `unbanUser`. -/
theorem automaticUnban_sparesBans_unban :
    (∃ i marks, banThenUnban i = .unban 1 ∧ unbannedAgain.marks = marks ++ bannedForGood.marks ∧
      .unbanned i 1 ∈ marks) ∨
    ∃ c, Reaches (banSetting plainAdminEnv (fun _ => False) NoBanSince) bannedForGood c ∧
      Reaches (banSetting plainAdminEnv (fun _ => False) NoBanSince) c unbannedAgain ∧
      c.state.BanRunOut 1 := by
  have hrun : ∀ (c : Config Bool World AdminCall AppError Unit (BanMark Bool)) is,
      c.scheduleOk (BanMark.of plainAdminEnv) (fun i l w => decide (NoBanSince i l w)) is = true →
      Reaches (banSetting plainAdminEnv (fun _ => False) NoBanSince) c
        (c.schedule (BanMark.of plainAdminEnv) is) :=
    fun c is h => Reaches.scheduleOk
      (S := banSetting plainAdminEnv (fun _ => False) NoBanSince)
      (fun i l w => decide (NoBanSince i l w))
      (fun i l w => of_decide_eq_true (p := NoBanSince i l w)) h
  have hban : bannedForGood.state.banOf 1 = some none := by decide +kernel
  exact automaticUnban_sparesBans (fun _ => rfl)
    (hrun (banPool plainAdminEnv expiredBanWorld banThenUnban) _ (by decide +kernel))
    (World.banInForce_iff.2 ⟨none, hban, rfl⟩) (hrun bannedForGood _ (by decide +kernel))
    (by decide +kernel)

end Witness

section Lifted

/-- The user is validated and banned for good at the same time. -/
def validateAndBan : Bool → BanRequest
  | false => .validateAccess "A"
  | true => .ban 1 none none

/-- The validation has read the ban that had run out, and the user is banned for good. -/
def bannedMeanwhile : Config Bool World AdminCall AppError Unit (BanMark Bool) :=
  (banPool plainAdminEnv expiredBanWorld validateAndBan).schedule (BanMark.of plainAdminEnv)
    [false, false, true, true, true]

/-- The validation that read a ban that had run out lifts the one that is there since. -/
theorem validateAccessToken_lifts_ban :
    ∃ c₁ c₂, Reaches (banSetting plainAdminEnv (fun _ => False) fun _ _ _ => True)
        (banPool plainAdminEnv expiredBanWorld validateAndBan) c₁ ∧
      c₁.pool true = .ret () ∧ c₁.state.banOf 1 = some none ∧
      Reaches (banSetting plainAdminEnv (fun _ => False) fun _ _ _ => True) c₁ c₂ ∧
      (∀ i, validateAndBan i ≠ .unban 1) ∧ c₂.state.now = c₁.state.now ∧
      c₂.state.banOf 1 = none := by
  have hrun : ∀ (c : Config Bool World AdminCall AppError Unit (BanMark Bool)) is,
      Reaches (banSetting plainAdminEnv (fun _ => False) fun _ _ _ => True) c
        (c.schedule (BanMark.of plainAdminEnv) is) :=
    fun c is => Reaches.schedule (fun _ _ _ => trivial) is c
  refine ⟨bannedMeanwhile, bannedMeanwhile.schedule (BanMark.of plainAdminEnv) [false, false],
    hrun _ _, ?_, by decide +kernel, hrun _ _, ?_, by decide +kernel, by decide +kernel⟩
  · exact Process.eq_ret_of_result? (by decide +kernel)
  · intro i
    cases i <;> exact nofun

end Lifted

end FifiAlert
