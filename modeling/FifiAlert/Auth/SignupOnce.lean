import FifiAlert.Auth.BanGate
import FifiAlert.Auth.SocialSignup
import FifiAlert.Concurrency.RelyGuarantee

/-!
# Registration is announced once

A social sign-in takes its user for new when it finds them without a role, and reads that before
it gives them one. So a user is announced as often as a sign-in has found them without a role:
once if and only if a single one has (`signup_announcedOnce_iff`). Two racing first sign-ins
announce the user twice, and so does the sign-in of a user who has lost their roles.
-/

namespace FifiAlert

open Concurrency Store AuthController SocialSignup

/-- What the social sign-ins of one user do about a signup. -/
inductive SignupMark (ι : Type*) where
  | foundNew (i : ι)
  | reset (i : ι)
  | announced (i : ι)
  | welcomed (i : ι)
  deriving DecidableEq

namespace SignupMark

variable {ι : Type*}

def thread : SignupMark ι → ι
  | foundNew i | reset i | announced i | welcomed i => i

def isFoundNew : SignupMark ι → Bool
  | foundNew _ => true
  | _ => false

def isReset : SignupMark ι → Bool
  | reset _ => true
  | _ => false

def isAnnounced : SignupMark ι → Bool
  | announced _ => true
  | _ => false

def isWelcomed : SignupMark ι → Bool
  | welcomed _ => true
  | _ => false

end SignupMark

/-- The user is there and has no role. -/
def World.withoutRole (w : World) (userId : ℕ) : Bool :=
  (w.findUserWithRoles userId).any fun user => user.roles.isEmpty

/-- The mark of a call for the user `u`. -/
def SignupMark.of {ι : Type*} (u : ℕ) (i : ι) (l : SocialCall) (w : World) :
    Option (SignupMark ι) :=
  match l with
  | .userFindSignedIn id => if id = u ∧ w.withoutRole u = true then some (.foundNew i) else none
  | .account (.auth (.user (.userUpdate id _))) => if id = u then some (.reset i) else none
  | .account (.userRegistered payload) =>
    if payload.user.id = u then some (.announced i) else none
  | .sendWelcomeEmail id => if id = u then some (.welcomed i) else none
  | _ => none

/-- A whole signup, newest call first. -/
def signupOf {ι : Type*} (i : ι) : List (SignupMark ι) :=
  [.welcomed i, .announced i, .reset i, .foundNew i]

theorem SignupMark.thread_of {ι : Type*} (u : ℕ) (i : ι) (l : SocialCall) (w : World)
    (m : SignupMark ι) (h : SignupMark.of u i l w = some m) : m.thread = i := by
  unfold SignupMark.of at h
  split at h
  · exact congrArg thread (Option.some.inj (Option.ite_none_right_eq_some.1 h).2).symm
  · exact congrArg thread (Option.some.inj (Option.ite_none_right_eq_some.1 h).2).symm
  · exact congrArg thread (Option.some.inj (Option.ite_none_right_eq_some.1 h).2).symm
  · exact congrArg thread (Option.some.inj (Option.ite_none_right_eq_some.1 h).2).symm
  · cases h

/-- What a signup of `u` builds on stays: the user, the roles, and that one of them is the
default. -/
structure KeepsSignup (u : ℕ) (w w' : World) : Prop where
  user : (w.users.find? u).isSome = true → (w'.users.find? u).isSome = true
  roles : ∀ r, (w.roles.find? r).isSome = true → (w'.roles.find? r).isSome = true
  default : w.defaultRole.isSome = true → w'.defaultRole.isSome = true

namespace KeepsSignup

variable {u : ℕ} {w w₁ w₂ : World}

theorem refl (w : World) : KeepsSignup u w w := ⟨id, fun _ => id, id⟩

theorem trans (h : KeepsSignup u w w₁) (h₁ : KeepsSignup u w₁ w₂) : KeepsSignup u w w₂ where
  user := fun hu => h₁.user (h.user hu)
  roles := fun r hr => h₁.roles r (h.roles r hr)
  default := fun hd => h₁.default (h.default hd)

theorem of_users (huser : (w.users.find? u).isSome = true → (w₁.users.find? u).isSome = true)
    (hroles : w₁.roles = w.roles) : KeepsSignup u w w₁ where
  user := huser
  roles := fun r hr => by rwa [hroles]
  default := fun hd => by rwa [World.defaultRole, hroles]

theorem of_same (husers : w₁.users = w.users) (hroles : w₁.roles = w.roles) :
    KeepsSignup u w w₁ :=
  of_users (fun hu => by rwa [husers]) hroles

theorem tokenCall (w : World) (l : TokenCall) : KeepsSignup u w (l.effect w) := by
  cases l <;> exact of_same rfl rfl

theorem assignRole (w : World) (userId roleId : ℕ) :
    KeepsSignup u w (w.assignRole userId roleId) := by
  unfold World.assignRole
  split
  · exact refl w
  · exact of_same rfl rfl

theorem setColumns (input : UserUpdateInput) (id : ℕ) (w : World) :
    KeepsSignup u w (setColumns input id w) := by
  refine of_users (fun hu => ?_) rfl
  rw [FifiAlert.setColumns, Table.find?_updateMany, Option.isSome_map]
  exact hu

end KeepsSignup

section Setting

variable {ι : Type*} [DecidableEq ι] (u : ℕ)

abbrev SignupSnapshot (ι : Type*) := Snapshot World (SignupMark ι)

/-- Nothing fails, and the surroundings do what they like, as long as the user and the default
role are there to stay. -/
def signupSetting : Setting ι World SocialCall (SignupMark ι) where
  mark := SignupMark.of u
  env := KeepsSignup u
  mayFail := fun _ => False
  admits := fun _ _ _ => True

/-- Every thread works off its own signup; the others leave its marks alone. -/
def signupContract : Contract (signupSetting (ι := ι) u) where
  inv := fun s => s.state.defaultRole.isSome = true ∧
    ∀ i, s.own SignupMark.thread i <:+ signupOf i
  rely := fun i s s' => KeepsSignup u s.state s'.state ∧
    s'.own SignupMark.thread i = s.own SignupMark.thread i
  guar := fun i s s' => KeepsSignup u s.state s'.state ∧
    ∀ j, i ≠ j → s'.own SignupMark.thread j = s.own SignupMark.thread j
  rely_refl := fun _ s => ⟨.refl s.state, rfl⟩
  rely_trans := fun _ _ _ _ h h₁ => ⟨h.1.trans h₁.1, h₁.2.trans h.2⟩
  guar_refl := fun _ s => ⟨.refl s.state, fun _ _ => rfl⟩
  guar_rely := fun hij _ h => ⟨h.1, h.2 _ hij⟩
  env_inv := fun henv h => ⟨henv.default h.1, h.2⟩
  env_rely := fun _ _ _ _ henv _ => ⟨henv, rfl⟩

end Setting

section Rules

universe v

variable {ι : Type*} [DecidableEq ι] {u : ℕ} {i : ι} {α β : Type v}

/-- The thread is this far, starting from `s`. -/
def SignupAt (u : ℕ) (i : ι) (s : SignupSnapshot ι) (own : List (SignupMark ι))
    (s' : SignupSnapshot ι) : Prop :=
  s'.own SignupMark.thread i = own ∧ KeepsSignup u s.state s'.state

variable {s s' : SignupSnapshot ι} {own : List (SignupMark ι)}
  {Q : Except AppError α → SignupSnapshot ι → Prop}

theorem SignupAt.rely {s₀ : SignupSnapshot ι} (h : SignupAt u i s₀ own s)
    (hr : (signupContract u).rely i s s') : SignupAt u i s₀ own s' :=
  ⟨hr.2.trans h.1, h.2.trans hr.1⟩

theorem safe_signupCall {s₀ : SignupSnapshot ι} (hs : SignupAt u i s₀ own s) {l : SocialCall}
    {next : World → World} {rest : World → SocialProcess α} {fault : SocialProcess α}
    (hnext : ∀ w, KeepsSignup u w (next w))
    (h : ∀ s₁, (signupContract u).inv s₁ → SignupAt u i s₀ own s₁ →
      (SignupMark.of u i l s₁.state).toList ++ own <:+ signupOf i ∧
        (SignupAt u i s₀ ((SignupMark.of u i l s₁.state).toList ++ own)
            (s₁.after (SignupMark.of u) i l next) →
          Safe (signupContract u) i Q (rest s₁.state) (s₁.after (SignupMark.of u) i l next))) :
    Safe (signupContract u) i Q (.call l next rest fault) s := by
  intro s₁ hr hinv
  have hs₁ := hs.rely hr
  obtain ⟨hsuffix, hrest⟩ := h s₁ hinv hs₁
  have hself : (s₁.after (SignupMark.of u) i l next).own SignupMark.thread i =
      (SignupMark.of u i l s₁.state).toList ++ own := by
    rw [Snapshot.own_after_self (SignupMark.thread_of u), hs₁.1]
  have hothers : ∀ j, i ≠ j → (s₁.after (SignupMark.of u) i l next).own SignupMark.thread j =
      s₁.own SignupMark.thread j := fun j hij =>
    Snapshot.own_after_ne (SignupMark.thread_of u) hij l next
  refine ⟨fun _ => ⟨⟨hnext s₁.state, hothers⟩, ⟨(hnext s₁.state).default hinv.1, fun j => ?_⟩, ?_⟩,
    False.elim⟩
  · by_cases hij : i = j
    · subst hij
      exact hself ▸ hsuffix
    · exact (hothers j hij).symm ▸ hinv.2 j
  · exact hrest ⟨hself, hs₁.2.trans (hnext s₁.state)⟩

/-- The rule for a call that always leaves the same mark. -/
theorem safe_signupStep {s₀ : SignupSnapshot ι} {m : Option (SignupMark ι)} {l : SocialCall}
    {next : World → World} {rest : World → SocialProcess α} {fault : SocialProcess α}
    (hs : SignupAt u i s₀ own s) (hnext : ∀ w, KeepsSignup u w (next w))
    (hmark : ∀ w, SignupMark.of u i l w = m) (hown : m.toList ++ own <:+ signupOf i)
    (h : ∀ s₁ s₂, (signupContract u).inv s₁ → SignupAt u i s₀ own s₁ →
      KeepsSignup u s₁.state s₂.state → SignupAt u i s₀ (m.toList ++ own) s₂ →
      Safe (signupContract u) i Q (rest s₁.state) s₂) :
    Safe (signupContract u) i Q (.call l next rest fault) s := by
  refine safe_signupCall hs hnext fun s₁ hinv hs₁ => ?_
  rw [hmark]
  exact ⟨hown, fun hs₂ => h s₁ _ hinv hs₁ (hnext s₁.state) hs₂⟩

theorem safe_signupQuery {s₀ : SignupSnapshot ι} {l : SocialCall} {err : AppError} {g : World → α}
    {k : α → SocialProcess β} {Q : Except AppError β → SignupSnapshot ι → Prop}
    (hs : SignupAt u i s₀ own s) (hmark : ∀ w, SignupMark.of u i l w = none)
    (hown : own <:+ signupOf i)
    (h : ∀ s₁ s₂, (signupContract u).inv s₁ → SignupAt u i s₀ own s₁ →
      KeepsSignup u s₁.state s₂.state → SignupAt u i s₀ own s₂ →
      Safe (signupContract u) i Q (k (g s₁.state)) s₂) :
    Safe (signupContract u) i Q (Process.query l err g >>= k) s :=
  safe_signupStep hs KeepsSignup.refl hmark hown h

/-- The rule for a call that ends the part, and does not refuse where it is made. -/
theorem safe_signupAtomic {s₀ : SignupSnapshot ι} {m : Option (SignupMark ι)} {l : SocialCall}
    {err : AppError} {f : World → Except AppError α × World} (hs : SignupAt u i s₀ own s)
    (hf : ∀ w, KeepsSignup u w (f w).2) (hmark : ∀ w, SignupMark.of u i l w = m)
    (hown : m.toList ++ own <:+ signupOf i)
    (hok : ∀ s₁, SignupAt u i s₀ own s₁ → ∃ a, (f s₁.state).1 = .ok a) :
    Safe (signupContract u) i
      (fun r s' => (∃ a, r = .ok a) ∧ SignupAt u i s₀ (m.toList ++ own) s')
      (Process.atomic l err f) s := by
  refine safe_signupCall hs hf fun s₁ _ hs₁ => ?_
  rw [hmark]
  refine ⟨hown, fun hs₂ => ?_⟩
  obtain ⟨a, ha⟩ := hok s₁ hs₁
  rw [ha]
  exact Safe.ret fun s₃ hr _ => ⟨⟨a, rfl⟩, hs₂.rely hr⟩

/-- The calls that have nothing to do with the signup of `u`. -/
def QuietCall (u : ℕ) (i : ι) (l : SocialCall) (next : World → World) : Prop :=
  (∀ w, KeepsSignup u w (next w)) ∧ ∀ w, SignupMark.of u i l w = none

theorem safe_signupQuiet {s₀ : SignupSnapshot ι} {p : SocialProcess α} {R : AppError → Prop}
    (hp : p.Confined (QuietCall u i) R) (hs : SignupAt u i s₀ own s) (hown : own <:+ signupOf i) :
    Safe (signupContract u) i (fun _ s' => SignupAt u i s₀ own s') p s := by
  induction p generalizing s with
  | ret a => exact fun s₁ hr _ => hs.rely hr
  | raise e => exact fun s₁ hr _ => hs.rely hr
  | call l next rest fault ihr ihf =>
      obtain ⟨⟨hnext, hquiet⟩, hrest, hfault⟩ := hp
      refine safe_signupCall hs hnext fun s₁ hinv hs₁ => ?_
      rw [hquiet]
      exact ⟨hown, ihr s₁.state (hrest s₁.state)⟩

/-- The rule for a part of the code that has nothing to do with the signup. -/
theorem safe_signupQuiet_bind {s₀ : SignupSnapshot ι} {p : SocialProcess α}
    {k : α → SocialProcess β} {Q : Except AppError β → SignupSnapshot ι → Prop}
    {R : AppError → Prop} (hp : p.Confined (QuietCall u i) R) (hs : SignupAt u i s₀ own s)
    (hown : own <:+ signupOf i)
    (hk : ∀ a s₁, SignupAt u i s₀ own s₁ → Safe (signupContract u) i Q (k a) s₁)
    (herr : ∀ e s₁, SignupAt u i s₀ own s₁ → Q (.error e) s₁) :
    Safe (signupContract u) i Q (p >>= k) s := by
  apply Safe.bind
  refine Safe.mono (safe_signupQuiet hp hs hown) ?_
  intro r s₁ _ hs₁
  cases r with
  | ok a => exact hk a s₁ hs₁
  | error e => exact herr e s₁ hs₁

end Rules

section Quiet

variable {ι : Type*} {u : ℕ} {i : ι} (A : SocialEnv)
  (dto : SocialLoginDto) (ipAddress userAgent : Option String)

theorem issueTokens_quiet (user : UserWithRoles) :
    (social (tokenService (TokenService.issueTokens A.token user ipAddress userAgent))).Confined
      (QuietCall u i) fun _ => True := by
  refine Process.Confined.relabel (Process.Confined.relabel ?_)
  exact TokenService.issueTokens_confined
    (fun l => ⟨fun w => KeepsSignup.tokenCall w l, fun _ => rfl⟩) A.token user ipAddress userAgent

theorem assignDefaultRole_quiet (id : ℕ) :
    (social (UserService.assignDefaultRole id)).Confined (QuietCall u i) fun _ => True := by
  refine Process.Confined.relabel ?_
  unfold UserService.assignDefaultRole
  refine Process.Confined.bind
    (Process.confined_query ⟨KeepsSignup.refl, fun _ => rfl⟩ trivial) fun role => ?_
  cases role with
  | none => trivial
  | some role =>
      refine Process.confined_atomic ⟨fun w => ?_, fun _ => rfl⟩ (fun _ _ _ => trivial) trivial
      dsimp only
      split
      · exact KeepsSignup.assignRole w id role.id
      · exact .refl w

/-- better-auth signs somebody in, and takes nothing away. -/
theorem signInSocial_quiet (hkeeps : ∀ w, KeepsSignup u w (A.betterAuth.signInSocial dto w).2) :
    ((signInSocial A dto).tryCatch fun error =>
      .raise (mapSocialSignInError A.toLoginEnv dto.provider error)).Confined (QuietCall u i)
        fun _ => True := by
  refine Process.Confined.tryCatch (T := fun _ => True) ?_ fun _ _ => trivial
  exact Process.confined_atomic ⟨hkeeps, fun _ => rfl⟩ (fun _ _ _ => trivial) trivial

end Quiet

section FirstTime

variable (U : UserEnv) (N : NestedWrites) (id : ℕ)

theorem userUpdate_firstTime (w : World) :
    userUpdate U N id firstTime w =
      match U.nullableJson (.obj [("firstTime", .bool true)]) with
      | none => .error (.prisma .other)
      | some j =>
        if (w.users.find? id).isNone then .error (.prisma .P2025)
        else .ok (setColumns { «meta» := some j } id w) := by
  rw [userUpdate, parseUserUpdate_firstTime]
  cases U.nullableJson (.obj [("firstTime", .bool true)]) <;> rfl

theorem update_firstTime :
    UserService.update U N id firstTime =
      (Process.query (.userFindUnique id) (.prisma .other) fun w => w.users.find? id) >>=
        fun existingUser => match existingUser with
          | none => .raise (.notFound "User not found with the provided identifier")
          | some user => UserService.writeUpdate U N id firstTime user := by
  unfold UserService.update
  refine congrArg _ (funext fun existingUser => ?_)
  cases existingUser <;> rfl

/-- The write of the flag, and nothing else. -/
theorem keepsSignup_firstTime {u : ℕ} (user : User) (w : World) :
    KeepsSignup u w (match userUpdate U N id firstTime w with
      | .error e => ((.error e : Except AppError User), w)
      | .ok w' => (.ok ((w'.users.find? id).getD user), w')).2 := by
  rw [userUpdate_firstTime]
  cases U.nullableJson (.obj [("firstTime", .bool true)]) with
  | none => exact .refl w
  | some j =>
      dsimp only
      by_cases hnone : (w.users.find? id).isNone = true
      · rw [if_pos hnone]
        exact .refl w
      · rw [if_neg hnone]
        exact .setColumns _ id w

end FirstTime

section Others

variable {ι : Type*} {u : ℕ} {i : ι} (A : SocialEnv)
  (dto : SocialLoginDto) (ipAddress userAgent : Option String) {signedIn : SignedUpUser}

theorem firstTime_quiet (hne : signedIn.id ≠ u) :
    (social ((UserService.update A.user A.nested signedIn.id firstTime).relabel
      AuthCall.user)).Confined (QuietCall u i) fun _ => True := by
  refine Process.Confined.relabel (Process.Confined.relabel ?_)
  rw [update_firstTime]
  refine Process.Confined.bind
    (Process.confined_query ⟨KeepsSignup.refl, fun _ => rfl⟩ trivial) fun existingUser => ?_
  cases existingUser with
  | none => trivial
  | some user =>
      exact Process.confined_atomic
        ⟨keepsSignup_firstTime A.user A.nested signedIn.id user, fun _ => if_neg hne⟩
        (fun _ _ _ => trivial) trivial

theorem announce_quiet {userId : ℕ} (hne : signedIn.id ≠ u) (hne' : userId ≠ u) :
    (announce dto signedIn userId).Confined (QuietCall u i) fun _ => True := by
  unfold announce
  refine Process.Confined.bind ?_ fun _ => ?_
  · refine Process.Confined.relabel (Process.Confined.tryCatch (T := fun _ => True) ?_
      fun _ _ => trivial)
    exact Process.confined_modify ⟨KeepsSignup.refl, fun _ => if_neg hne⟩ trivial
  · refine Process.Confined.tryCatch (T := fun _ => True) ?_ fun _ _ => trivial
    exact Process.confined_modify ⟨KeepsSignup.refl, fun _ => if_neg hne'⟩ trivial

theorem findUserWithRoles_id {w : World} {id : ℕ} {user : UserWithRoles}
    (h : w.findUserWithRoles id = some user) : user.user.id = id := by
  obtain ⟨row, hrow, rfl⟩ := Option.map_eq_some_iff.1 h
  exact Table.key_of_find? hrow

theorem social_completeSignup {α : Type} (id : ℕ)
    (k : Option UserWithRoles → SocialProcess α) :
    social (completeSignup A.toAuthEnv A.nested id) >>= k =
      social ((UserService.update A.user A.nested id firstTime).relabel AuthCall.user) >>=
        fun _ => social (UserService.assignDefaultRole id) >>=
          fun _ => social (UserService.findWithRoles id) >>= k := by
  simp only [completeSignup, social, Process.relabel_bind, Process.bind_assoc]

theorem issueNew_quiet (hne : signedIn.id ≠ u) :
    (social (UserService.findWithRoles signedIn.id) >>=
      issueNew A dto signedIn ipAddress userAgent).Confined (QuietCall u i) fun _ => True := by
  refine ⟨⟨KeepsSignup.refl, fun _ => rfl⟩, fun w => ?_, trivial⟩
  change (issueNew A dto signedIn ipAddress userAgent (w.findUserWithRoles signedIn.id)).Confined
    (QuietCall u i) fun _ => True
  cases hfound : w.findUserWithRoles signedIn.id with
  | none => trivial
  | some user =>
      have hid : user.user.id ≠ u := by rwa [findUserWithRoles_id hfound]
      exact (announce_quiet dto hne hid).bind fun _ => issueTokens_quiet A ipAddress userAgent user

/-- The sign-in of somebody else has nothing to do with the signup of `u`. -/
theorem issueSignedIn_quiet (hne : signedIn.id ≠ u) :
    (SocialSignup.issueSignedIn A dto ipAddress userAgent (some signedIn)).Confined (QuietCall u i)
      fun _ => True := by
  unfold SocialSignup.issueSignedIn
  refine Process.Confined.bind (Process.confined_query
    ⟨KeepsSignup.refl, fun _ => if_neg fun h => hne h.1⟩ trivial) fun user => ?_
  cases user with
  | none => trivial
  | some user =>
      unfold SocialSignup.issueSocial
      dsimp only
      split
      · rw [social_completeSignup]
        exact (firstTime_quiet A hne).bind fun _ =>
          (assignDefaultRole_quiet signedIn.id).bind fun _ =>
            issueNew_quiet A dto ipAddress userAgent hne
      · exact issueTokens_quiet A ipAddress userAgent user

end Others

section Walk

variable {ι : Type*} [DecidableEq ι] {u : ℕ} {i : ι} (A : SocialEnv)
  (dto : SocialLoginDto) (ipAddress userAgent : Option String) {s s₀ : SignupSnapshot ι}

/-- The flag of the new user is reset. -/
theorem firstTime_safe
    (hmeta : (A.user.nullableJson (.obj [("firstTime", .bool true)])).isSome = true)
    (huser : (s₀.state.users.find? u).isSome = true) (hs : SignupAt u i s₀ [.foundNew i] s) :
    Safe (signupContract u) i
      (fun r s' => (∃ user, r = .ok user) ∧ SignupAt u i s₀ [.reset i, .foundNew i] s')
      (social ((UserService.update A.user A.nested u firstTime).relabel AuthCall.user)) s := by
  rw [update_firstTime, social, Process.relabel_bind, Process.relabel_bind]
  refine safe_signupQuery hs (fun _ => rfl) ⟨[_, _, _], rfl⟩ fun s₁ s₂ _ hs₁ _ hs₂ => ?_
  obtain ⟨user, hrow⟩ := Option.isSome_iff_exists.1 (hs₁.2.user huser)
  rw [hrow]
  unfold UserService.writeUpdate
  dsimp only
  rw [if_neg (by simp [firstTime]), Process.relabel_atomic, Process.relabel_atomic]
  refine safe_signupAtomic (m := some (.reset i)) hs₂
    (keepsSignup_firstTime A.user A.nested u user)
    (fun _ => if_pos rfl) ⟨[_, _], rfl⟩ fun s₃ hs₃ => ?_
  obtain ⟨j, hj⟩ := Option.isSome_iff_exists.1 hmeta
  obtain ⟨row, hthere⟩ := Option.isSome_iff_exists.1 (hs₃.2.user huser)
  simp [userUpdate_firstTime, hj, hthere]

/-- The new user gets the default role. -/
theorem assignDefaultRole_safe (huser : (s₀.state.users.find? u).isSome = true)
    {own : List (SignupMark ι)} (hown : own <:+ signupOf i) (hs : SignupAt u i s₀ own s) :
    Safe (signupContract u) i (fun r s' => (∃ a, r = .ok a) ∧ SignupAt u i s₀ own s')
      (social (UserService.assignDefaultRole u)) s := by
  unfold UserService.assignDefaultRole
  rw [social, Process.relabel_bind]
  refine safe_signupQuery hs (fun _ => rfl) hown fun s₁ s₂ hinv hs₁ hkeeps hs₂ => ?_
  obtain ⟨role, hrole⟩ := Option.isSome_iff_exists.1 hinv.1
  have hfind : (s₂.state.roles.find? role.id).isSome = true := by
    refine hkeeps.roles role.id ?_
    rw [Table.find?_of_mem (List.mem_of_find?_eq_some hrole)]
    rfl
  rw [hrole]
  unfold UserService.assignRole
  dsimp only
  rw [Process.relabel_atomic]
  have hfrom : SignupAt u i s₂ own s₂ := ⟨hs₂.1, .refl s₂.state⟩
  refine Safe.mono (safe_signupAtomic (m := none) hfrom (fun w => ?_) (fun _ => rfl) hown
    fun s₃ hs₃ => ⟨(), ?_⟩) fun r s₃ _ h => ⟨h.1, h.2.1, hs₂.2.trans h.2.2⟩
  · split
    · exact .assignRole w u role.id
    · exact .refl w
  · have hthere : (s₃.state.users.find? u).isSome = true := hs₃.2.user (hs₂.2.user huser)
    have hrole₃ : (s₃.state.roles.find? role.id).isSome = true := hs₃.2.roles role.id hfind
    rw [hthere, hrole₃]
    rfl

/-- The new user is announced and welcomed. -/
theorem issueNew_safe (huser : (s₀.state.users.find? u).isSome = true) {signedIn : SignedUpUser}
    (hid : signedIn.id = u) (hs : SignupAt u i s₀ [.reset i, .foundNew i] s) :
    Safe (signupContract u) i (fun _ s' => s'.own SignupMark.thread i = signupOf i)
      (social (UserService.findWithRoles u) >>= issueNew A dto signedIn ipAddress userAgent) s := by
  refine safe_signupQuery hs (fun _ => rfl) ⟨[_, _], rfl⟩ fun s₁ s₂ _ hs₁ _ hs₂ => ?_
  obtain ⟨row, hrow⟩ := Option.isSome_iff_exists.1 (hs₁.2.user huser)
  have hrowId : row.id = u := Table.key_of_find? hrow
  rw [World.findUserWithRoles, hrow]
  dsimp only [Option.map, issueNew, announce]
  rw [Process.bind_assoc]
  refine safe_signupStep (m := some (.announced i)) hs₂ KeepsSignup.refl ?_ ⟨[_], rfl⟩
    fun s₃ s₄ _ _ _ hs₄ => ?_
  · exact fun _ => if_pos hid
  refine safe_signupStep (m := some (.welcomed i)) hs₄ KeepsSignup.refl ?_ ⟨[], rfl⟩
    fun s₅ s₆ _ _ _ hs₆ => ?_
  · exact fun _ => if_pos hrowId
  refine Safe.mono (safe_signupQuiet (issueTokens_quiet A ipAddress userAgent _) hs₆ ⟨[], rfl⟩) ?_
  exact fun r s₇ _ hs₇ => hs₇.1

/-- All of a signup is made, or nothing of it. -/
def WholeSignup (i : ι) (s : SignupSnapshot ι) : Prop :=
  s.own SignupMark.thread i = [] ∨ s.own SignupMark.thread i = signupOf i

theorem issueSocial_safe
    (hmeta : (A.user.nullableJson (.obj [("firstTime", .bool true)])).isSome = true)
    {signedIn : SignedUpUser} (hid : signedIn.id = u) {user : UserWithRoles}
    (hnew : user.roles.isEmpty = true) (huser : (s.state.users.find? u).isSome = true)
    (hs : s.own SignupMark.thread i = [.foundNew i]) :
    Safe (signupContract u) i (fun _ s' => WholeSignup i s')
      (SocialSignup.issueSocial A dto signedIn ipAddress userAgent (some user)) s := by
  unfold SocialSignup.issueSocial
  dsimp only
  rw [if_pos hnew, hid, social_completeSignup]
  have hfrom : SignupAt u i s [.foundNew i] s := ⟨hs, .refl s.state⟩
  refine Safe.bind (Safe.mono (firstTime_safe A hmeta huser hfrom) ?_)
  rintro r s₁ - ⟨⟨updated, rfl⟩, hs₁⟩
  refine Safe.bind (Safe.mono (assignDefaultRole_safe huser ⟨[_, _], rfl⟩ hs₁) ?_)
  rintro r s₂ - ⟨⟨_, rfl⟩, hs₂⟩
  exact Safe.mono (issueNew_safe A dto ipAddress userAgent huser hid hs₂) fun _ _ _ h => .inr h

/-- The read that decides whether the user is new. -/
theorem safe_firstRead {α : Type} {err : AppError} {k : Option UserWithRoles → SocialProcess α}
    {Q : Except AppError α → SignupSnapshot ι → Prop} (hs : SignupAt u i s₀ [] s)
    (hnew : ∀ s₂ user, user.roles.isEmpty = true → (s₂.state.users.find? u).isSome = true →
      s₂.own SignupMark.thread i = [.foundNew i] → Safe (signupContract u) i Q (k (some user)) s₂)
    (hold : ∀ s₂ found, found.any (fun user => user.roles.isEmpty) = false →
      SignupAt u i s₀ [] s₂ → Safe (signupContract u) i Q (k found) s₂) :
    Safe (signupContract u) i Q
      (Process.query (.userFindSignedIn u) err (fun w => w.findUserWithRoles u) >>= k) s := by
  refine safe_signupCall hs KeepsSignup.refl fun s₁ _ hs₁ => ?_
  by_cases hwithout : s₁.state.withoutRole u = true
  · have hmark : SignupMark.of u i (.userFindSignedIn u) s₁.state = some (.foundNew i) :=
      if_pos ⟨rfl, hwithout⟩
    rw [hmark]
    refine ⟨⟨[_, _, _], rfl⟩, fun hs₂ => ?_⟩
    obtain ⟨user, hfound, hempty⟩ := (Option.any_eq_true _ _).1 hwithout
    obtain ⟨row, hrow, -⟩ := Option.map_eq_some_iff.1 hfound
    have hthere : (s₁.state.users.find? u).isSome = true := by
      rw [hrow]
      rfl
    change Safe (signupContract u) i Q (k (s₁.state.findUserWithRoles u)) _
    rw [hfound]
    exact hnew _ user hempty hthere hs₂.1
  · have hmark : SignupMark.of u i (.userFindSignedIn u) s₁.state = none :=
      if_neg fun h => hwithout h.2
    rw [hmark]
    refine ⟨List.nil_suffix, fun hs₂ => ?_⟩
    exact hold _ (s₁.state.findUserWithRoles u) (Bool.eq_false_iff.2 hwithout) hs₂

theorem issueSignedIn_safe
    (hmeta : (A.user.nullableJson (.obj [("firstTime", .bool true)])).isSome = true)
    (signedIn : Option SignedUpUser) (hs : SignupAt u i s₀ [] s) :
    Safe (signupContract u) i (fun _ s' => WholeSignup i s')
      (SocialSignup.issueSignedIn A dto ipAddress userAgent signedIn) s := by
  cases signedIn with
  | none => exact Safe.raise fun s₁ hr _ => .inl (hs.rely hr).1
  | some signedIn =>
      by_cases hid : signedIn.id = u
      · unfold SocialSignup.issueSignedIn
        dsimp only
        rw [hid]
        refine safe_firstRead hs (fun s₁ user hnew huser hs₁ => ?_) fun s₁ found hold hs₁ => ?_
        · exact issueSocial_safe A dto ipAddress userAgent hmeta hid hnew huser hs₁
        · cases found with
          | none => exact Safe.raise fun s₂ hr _ => .inl (hs₁.rely hr).1
          | some user =>
              unfold SocialSignup.issueSocial
              dsimp only
              rw [if_neg (by simpa using hold)]
              exact Safe.mono (safe_signupQuiet (issueTokens_quiet A ipAddress userAgent user) hs₁
                List.nil_suffix) fun _ _ _ h => .inl h.1
      · exact Safe.mono (safe_signupQuiet (issueSignedIn_quiet A dto ipAddress userAgent hid) hs
          List.nil_suffix) fun _ _ _ h => .inl h.1

theorem socialLogin_safe (hkeeps : ∀ w, KeepsSignup u w (A.betterAuth.signInSocial dto w).2)
    (hmeta : (A.user.nullableJson (.obj [("firstTime", .bool true)])).isSome = true)
    (hs : s.own SignupMark.thread i = []) :
    Safe (signupContract u) i (fun _ s' => WholeSignup i s')
      (SocialSignup.socialLogin A dto ipAddress userAgent) s := by
  have hfrom : SignupAt u i s [] s := ⟨hs, .refl s.state⟩
  unfold SocialSignup.socialLogin
  split
  · exact Safe.raise fun s₁ hr _ => .inl (hfrom.rely hr).1
  · refine safe_signupQuiet_bind (signInSocial_quiet A dto hkeeps) hfrom List.nil_suffix
      (fun signedIn s₁ hs₁ => ?_) fun e s₁ hs₁ => .inl hs₁.1
    exact issueSignedIn_safe A dto ipAddress userAgent hmeta signedIn hs₁

end Walk

section Once

variable {ι : Type*} [DecidableEq ι]

/-- A social sign-in. -/
structure SocialSignIn where
  dto : SocialLoginDto
  ipAddress : Option String := none
  userAgent : Option String := none

def SocialSignIn.process (A : SocialEnv) (signIn : SocialSignIn) : SocialProcess IRotatedTokens :=
  SocialSignup.socialLogin A signIn.dto signIn.ipAddress signIn.userAgent

abbrev SocialConfig (ι : Type*) :=
  Config ι World SocialCall AppError IRotatedTokens (SignupMark ι)

def socialPool (A : SocialEnv) (w : World) (signIns : ι → SocialSignIn) : SocialConfig ι :=
  .init w fun i => (signIns i).process A

/-- The user has been announced and welcomed once, and their flag has been reset by the sign-in
that announced them, and no other. -/
structure AnnouncedOnce (marks : List (SignupMark ι)) : Prop where
  announced : marks.countP SignupMark.isAnnounced = 1
  welcomed : marks.countP SignupMark.isWelcomed = 1
  reset : marks.countP SignupMark.isReset = 1
  together : ∀ i, .reset i ∈ marks ↔ .announced i ∈ marks

/-- Exactly one sign-in has found the user without a role. -/
def FoundNewOnce (marks : List (SignupMark ι)) : Prop :=
  marks.countP SignupMark.isFoundNew = 1

instance (marks : List (SignupMark ι)) : Decidable (FoundNewOnce marks) :=
  inferInstanceAs (Decidable (_ = _))

theorem wholeSignup_countP {i : ι} {s : SignupSnapshot ι} (h : WholeSignup i s)
    {p q : SignupMark ι → Bool} (hpq : (signupOf i).countP p = (signupOf i).countP q) :
    (s.own SignupMark.thread i).countP p = (s.own SignupMark.thread i).countP q := by
  rcases h with h | h
  · rw [h, List.countP_nil, List.countP_nil]
  · rw [h, hpq]

theorem socialPool_sound {A : SocialEnv} {u : ℕ} {w : World} (signIns : ι → SocialSignIn)
    (hkeeps : ∀ dto w, KeepsSignup u w (A.betterAuth.signInSocial dto w).2)
    (hmeta : (A.user.nullableJson (.obj [("firstTime", .bool true)])).isSome = true)
    (hdefault : w.defaultRole.isSome = true) :
    Sound (signupContract u) (fun i _ s => WholeSignup i s) (socialPool A w signIns) :=
  ⟨⟨hdefault, fun _ => List.nil_suffix⟩, fun i =>
    socialLogin_safe A (signIns i).dto (signIns i).ipAddress (signIns i).userAgent
      (hkeeps (signIns i).dto) hmeta rfl⟩

omit [DecidableEq ι] in
theorem foundNew_mem_of_suffix {i : ι} {own : List (SignupMark ι)} (h : own <:+ signupOf i)
    (hne : own ≠ []) : .foundNew i ∈ own := by
  obtain ⟨t, ht⟩ := h
  have hlast : own.getLast? = some (.foundNew i) := by
    rw [← List.getLast?_append_of_ne_nil t hne, ht]
    rfl
  exact List.mem_of_getLast? hlast

/-- Once the sign-ins that found the user new have ended, each has made a whole signup. -/
theorem wholeSignup_of_ended {A : SocialEnv} {u : ℕ} {w : World} {signIns : ι → SocialSignIn}
    (hkeeps : ∀ dto w, KeepsSignup u w (A.betterAuth.signInSocial dto w).2)
    (hmeta : (A.user.nullableJson (.obj [("firstTime", .bool true)])).isSome = true)
    (hdefault : w.defaultRole.isSome = true) {c : SocialConfig ι}
    (hrun : Reaches (signupSetting u) (socialPool A w signIns) c)
    (hended : ∀ i, .foundNew i ∈ c.marks → (c.pool i).result?.isSome = true) (i : ι) :
    WholeSignup i c.toSnapshot := by
  have hsound := (socialPool_sound signIns hkeeps hmeta hdefault).reaches hrun
  by_cases hfound : .foundNew i ∈ c.marks
  · obtain ⟨r, hr⟩ := Option.isSome_iff_exists.1 (hended i hfound)
    cases hp : c.pool i with
    | ret a => exact hsound.result hp
    | raise e => exact hsound.exception hp
    | call l next rest fault =>
        rw [hp] at hr
        cases hr
  · left
    by_contra hne
    exact hfound (Snapshot.mem_own.1 (foundNew_mem_of_suffix (hsound.1.2 i) hne)).1

/-- The announcement, the email and the reset of the flag are made once if and only if a single
sign-in has found the user without a role. -/
theorem signup_announcedOnce_iff {A : SocialEnv} {u : ℕ} {w : World} {signIns : ι → SocialSignIn}
    (hkeeps : ∀ dto w, KeepsSignup u w (A.betterAuth.signInSocial dto w).2)
    (hmeta : (A.user.nullableJson (.obj [("firstTime", .bool true)])).isSome = true)
    (hdefault : w.defaultRole.isSome = true) {c : SocialConfig ι}
    (hrun : Reaches (signupSetting u) (socialPool A w signIns) c)
    (hended : ∀ i, .foundNew i ∈ c.marks → (c.pool i).result?.isSome = true) :
    AnnouncedOnce c.marks ↔ FoundNewOnce c.marks := by
  have hwhole := wholeSignup_of_ended hkeeps hmeta hdefault hrun hended
  have hcount : ∀ p q : SignupMark ι → Bool,
      (∀ i : ι, (signupOf i).countP p = (signupOf i).countP q) →
        c.marks.countP p = c.marks.countP q := fun p q hpq =>
    countP_eq_of_own fun i => wholeSignup_countP (hwhole i) (hpq i)
  have hannounced := hcount SignupMark.isAnnounced SignupMark.isFoundNew fun _ => rfl
  have hwelcomed := hcount SignupMark.isWelcomed SignupMark.isFoundNew fun _ => rfl
  have hreset := hcount SignupMark.isReset SignupMark.isFoundNew fun _ => rfl
  constructor
  · intro h
    exact hannounced.symm.trans h.announced
  · intro h
    refine ⟨hannounced.trans h, hwelcomed.trans h, hreset.trans h, fun i => ?_⟩
    have hmem : ∀ m : SignupMark ι, m.thread = i →
        (m ∈ c.marks ↔ m ∈ c.own SignupMark.thread i) := by
      intro m hm
      rw [Snapshot.mem_own]
      simp [hm]
    rw [hmem (.reset i) rfl, hmem (.announced i) rfl]
    rcases hwhole i with hown | hown
    · simp [hown]
    · simp [hown, signupOf]

end Once

section FirstSignIns

/-- better-auth makes the user of the provider account, once. -/
def firstUser (w : World) : World :=
  { w with
    users := w.users.insertNew { id := 1, email := "a@b.c", emailVerified := true } }

def firstSocial : SocialEnv where
  token := longEnv
  user := plainUserEnv
  betterAuth := { plainBetterAuth with signInSocial := fun _ w => (.ok (some 1), firstUser w) }
  verifyPassword := fun _ _ => false
  toLowerCase := id
  isSocialProviderConfigured := fun _ => true
  passkeyConfig := { enabled := false, rpId := "", origins := [] }
  verifyAuthenticationResponse := fun _ _ _ _ => .error (.error "not configured")
  nested := fun _ _ w => .ok w
  dateValue := fun date => .num (date.getD 0)
  signUpEmail := fun _ w => (.ok none, w)
  changeEmail := fun _ _ w => (.ok (), w)
  verifyEmail := fun _ w => (.ok (), w)
  sessionToken := fun bytes => toString bytes
  buildSessionCookie := id
  answer := fun _ _ userId => { id := userId, email := "a@b.c", name := "A" }
  answer_id := fun _ _ _ => rfl

theorem firstSocial_keeps (dto : SocialLoginDto) (w : World) :
    KeepsSignup 1 w (firstSocial.betterAuth.signInSocial dto w).2 := by
  refine .of_users (fun h => ?_) rfl
  obtain ⟨user, huser⟩ := Option.isSome_iff_exists.1 h
  change ((w.users.insertNew _).find? 1).isSome = true
  rw [Table.insertNew_of_some huser]
  exact h

/-- Nobody has signed in yet. -/
def noUsersWorld : World where
  roles := Table.empty.insertNew { id := 1, slug := "user" }

def bothSignIns : SocialConfig (Fin 2) :=
  socialPool firstSocial noUsersWorld fun _ => { dto := { provider := "google", token := "t" } }

def signedInBy (schedule : List (Fin 2)) : SocialConfig (Fin 2) :=
  bothSignIns.schedule (SignupMark.of 1) schedule

/-- The first sign-in ends before the second one begins. -/
theorem signup_announcedOnce_later :
    AnnouncedOnce (signedInBy (List.replicate 20 0 ++ List.replicate 20 1)).marks :=
  (signup_announcedOnce_iff (A := firstSocial) (u := 1) firstSocial_keeps (by decide) (by decide)
    (Reaches.schedule (fun _ _ _ => trivial) _ _) (by decide +kernel)).2 (by decide +kernel)

/-- Both have read the user before either gives them a role. -/
theorem signup_announcedTwice :
    ∃ c : SocialConfig (Fin 2), Reaches (signupSetting 1) bothSignIns c ∧
      (∀ i, (c.pool i).result?.isSome = true) ∧ c.marks.countP SignupMark.isAnnounced = 2 ∧
      ¬ AnnouncedOnce c.marks := by
  let c := signedInBy ([0, 0, 1, 1] ++ List.replicate 20 0 ++ List.replicate 20 1)
  have htwice : c.marks.countP SignupMark.isAnnounced = 2 := by decide +kernel
  refine ⟨c, Reaches.schedule (fun _ _ _ => trivial) _ _, by decide +kernel, htwice, fun h => ?_⟩
  have honce := htwice.symm.trans h.announced
  cases honce

end FirstSignIns

end FifiAlert
