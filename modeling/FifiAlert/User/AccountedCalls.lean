import FifiAlert.User.AddressVouchers

/-!
# Every change of an address is accounted for

A call is accounted for when nobody is verified under an address after it but
those who were before, and those whom the mark of the call names. So is each call
of each function that writes users, one function after the other; an update by a
user themselves only while it names no other address for a verified row.
-/

namespace FifiAlert

open Concurrency Store

section Accounted

variable {A : AccountEnv} {T : TokenContents} {request : AccountRequest}

/-- What a call with the mark `m` may do to the addresses of verified users. -/
def Accounted (m : Option AddressMark) (w w' : World) : Prop :=
  (∀ id email, w'.address id = some (email, true) → w.address id = some (email, true) ∨
    ∃ voucher userIds, m = some (.vouched voucher email userIds) ∧ id ∈ userIds) ∧
  ∀ id, m ≠ some (.replaced id)

/-- A call of which every change of an address is accounted for, when the condition on the updates
holds. -/
def AccountedCall (A : AccountEnv) (T : TokenContents) (request : AccountRequest) (l : AccountCall)
    (next : World → World) : Prop :=
  ∀ w : AddressSnapshot, AddressKept A.user request l w →
    Accounted (AddressMark.of A T request l w.state) w.state (next w.state)

theorem Accounted.of_same {w w' : World} (h : SameAddresses w w') : Accounted none w w' := by
  refine ⟨fun id email hemail => .inl ?_, nofun⟩
  rw [← h id, hemail]

theorem accountedCall_of_same {l : AccountCall} {next : World → World}
    (hmark : ∀ w, AddressMark.of A T request l w = none) (h : ∀ w, SameAddresses w (next w)) :
    AccountedCall A T request l next := by
  intro w _
  rw [hmark]
  exact Accounted.of_same (h w.state)

/-- An update by a user themselves. -/
theorem accounted_ofUser {N : NestedWrites} {E : UserEnv} {id : ℕ} {data : List (String × Js.Json)}
    {w w' : World}
    (hnested : ∀ id relations w w', N id relations w = .ok w' → SameAddresses w w')
    (h : userUpdate E N id data w = .ok w') (hverified : data.lookup "emailVerified" = none)
    (hkept : ¬ RenamesVerified E w id data) : Accounted (AddressMark.ofUser id w w') w w' := by
  have hreplaced : ∀ m, AddressMark.ofUser id w w' ≠ some m := by
    intro m hm
    obtain ⟨rfl, -⟩ := AddressMark.ofUser_eq_some_iff.1 hm
    exact hkept ((userUpdate_replaces_iff hnested h hverified).1 hm)
  refine ⟨fun other email hemail => .inl ?_, fun other => hreplaced _⟩
  obtain ⟨u, hparse, htaken, haddress⟩ := userUpdate_address hnested h
  have hflag : u.emailVerified = none :=
    column_eq_none (parseUserUpdate_eq_some hparse).1 hverified
  have hafter := haddress other
  cases hbefore : w.address other with
  | none =>
      rw [hbefore, hemail] at hafter
      cases hafter
  | some a =>
      obtain ⟨old, verified⟩ := a
      rw [hbefore, hemail, Option.map_some, hflag] at hafter
      by_cases hother : other = id
      · subst hother
        rw [if_pos rfl] at hafter
        obtain ⟨hnew, rfl⟩ := Prod.mk.inj (Option.some.inj hafter)
        by_contra hne
        refine hkept ((renamesVerified_iff hparse htaken).2 ⟨old, hbefore, fun hsame => hne ?_⟩)
        rw [hnew, hsame]
      · rw [if_neg hother] at hafter
        exact hafter.symm

/-- An update by an administrator or a manager. -/
theorem accounted_ofManager {N : NestedWrites} {E : UserEnv} {id : ℕ}
    {data : List (String × Js.Json)} {w w' : World}
    (hnested : ∀ id relations w w', N id relations w = .ok w' → SameAddresses w w')
    (h : userUpdate E N id data w = .ok w') :
    Accounted (AddressMark.ofManager id data w') w w' := by
  obtain ⟨u, hparse, htaken, haddress⟩ := userUpdate_address hnested h
  refine ⟨fun other email hemail => ?_, fun other hm => ?_⟩
  · by_cases hother : other = id
    · subst hother
      by_cases hwrites : AddressMark.writesAddress data = true
      · refine .inr ⟨.manager, [other], ?_, List.mem_singleton_self other⟩
        simp [AddressMark.ofManager, hemail, hwrites]
      · have hnone : data.lookup "email" = none ∧ data.lookup "emailVerified" = none := by
          simpa only [AddressMark.writesAddress, Bool.or_eq_true, not_or, Bool.not_eq_true,
            Option.isSome_eq_false_iff, Option.isNone_iff_eq_none] using hwrites
        have hafter := haddress other
        rw [column_eq_none (parseUserUpdate_email hparse) hnone.1,
          column_eq_none (parseUserUpdate_eq_some hparse).1 hnone.2] at hafter
        refine .inl ?_
        rw [← hemail, hafter]
        simp
    · refine .inl ?_
      rw [← hemail, haddress other]
      simp [hother]
  · unfold AddressMark.ofManager at hm
    split at hm
    · split at hm <;> cases hm
    · cases hm

theorem accountedCall_userUpdate {id : ℕ} {data : List (String × Js.Json)}
    (hnested : ∀ id relations w w', A.nested id relations w = .ok w' → SameAddresses w w')
    (hverified : request.manages = false → data.lookup "emailVerified" = none) :
    AccountedCall A T request (.auth (.user (.userUpdate id data)))
      ((UserCall.userUpdate id data).effect A.user A.nested) := by
  intro w hkept
  cases hupdate : userUpdate A.user A.nested id data w.state with
  | error e =>
      have hmark : AddressMark.of A T request (.auth (.user (.userUpdate id data))) w.state =
          none := by
        simp [AddressMark.of, hupdate, Except.toOption]
      have hnext : (UserCall.userUpdate id data).effect A.user A.nested w.state = w.state := by
        simp [UserCall.effect, hupdate]
      rw [hmark, hnext]
      exact Accounted.of_same fun _ => rfl
  | ok w' =>
      have hmark : AddressMark.of A T request (.auth (.user (.userUpdate id data))) w.state =
          if request.manages then AddressMark.ofManager id data w'
          else AddressMark.ofUser id w.state w' := by
        simp [AddressMark.of, hupdate, Except.toOption]
      have hnext : (UserCall.userUpdate id data).effect A.user A.nested w.state = w' := by
        simp [UserCall.effect, hupdate]
      rw [hmark, hnext]
      cases hmanages : request.manages with
      | true => exact accounted_ofManager hnested hupdate
      | false =>
          refine accounted_ofUser hnested hupdate (hverified hmanages) (hkept.resolve_left ?_)
          rw [hmanages]
          exact Bool.false_ne_true

end Accounted

section Threads

variable {A : AccountEnv} {T : TokenContents} {request : AccountRequest}

/-- Every call of the process is accounted for. -/
abbrev AccountSafe (A : AccountEnv) (T : TokenContents) (request : AccountRequest) {α : Type}
    (p : AccountProcess α) : Prop :=
  p.Confined (AccountedCall A T request) fun _ => True

/-- The same of a process of the authentication controller. -/
abbrev AuthSafe (A : AccountEnv) (T : TokenContents) (request : AccountRequest) {α : Type}
    (p : AuthProcess α) : Prop :=
  p.Confined (fun l => AccountedCall A T request (.auth l)) fun _ => True

theorem accountedCall_id {l : AccountCall} (hmark : ∀ w, AddressMark.of A T request l w = none) :
    AccountedCall A T request l fun w => w :=
  accountedCall_of_same hmark fun _ _ => rfl

theorem accountedCall_token (l : TokenCall) :
    AccountedCall A T request (.auth (.session (.token l))) l.effect :=
  accountedCall_of_same (fun _ => rfl) fun _ _ => by cases l <;> rfl

theorem sameAddresses_unban (w : World) (p : User → Bool) (date : Time) :
    SameAddresses w
      { w with users := w.users.updateMany p (User.unban date) (User.unban_id date) } := by
  intro id
  unfold World.address
  rw [Table.find?_updateMany]
  cases w.users.find? id with
  | none => rfl
  | some user =>
      rw [Option.map_some, Option.map_some, Option.map_some]
      split <;> rfl

theorem validateAccessToken_accounted (token : String) :
    (TokenService.validateAccessToken A.token A.betterAuth.signedOut token).Confined
      (fun l => AccountedCall A T request (.auth (.session l))) fun _ => True :=
  TokenService.validateAccessToken_confined (accountedCall_id fun _ => rfl)
    (fun _ => accountedCall_id fun _ => rfl)
    (fun _ => accountedCall_of_same (fun _ => rfl) fun w => sameAddresses_unban w _ _) A.token token

theorem tokenService_accounted {α : Type} {p : TokenProcess α}
    (hp : p.Confined (fun l => AccountedCall A T request (.auth (.session (.token l))))
      fun _ => True) : AuthSafe A T request (AuthController.tokenService p) :=
  Process.Confined.relabel hp

theorem issueTokens_accounted (user : UserWithRoles) (ipAddress userAgent : Option String) :
    AuthSafe A T request (AuthController.tokenService
      (TokenService.issueTokens A.token user ipAddress userAgent)) :=
  tokenService_accounted (TokenService.issueTokens_confined
    (P := fun l => AccountedCall A T request (.auth (.session (.token l))))
    accountedCall_token _ _ _ _)

/-- The update of a user, by whoever may name the flag. -/
theorem update_accounted {id : ℕ} {body : List (String × Js.Json)}
    (hnested : ∀ id relations w w', A.nested id relations w = .ok w' → SameAddresses w w')
    (hverified : request.manages = false → body.lookup "emailVerified" = none) :
    (UserService.update A.user A.nested id body).Confined
      (fun l => AccountedCall A T request (.auth (.user l))) fun _ => True := by
  refine UserService.update_confined (fun _ => accountedCall_id fun _ => rfl)
    (fun _ => accountedCall_id fun _ => rfl)
    (fun _ _ => accountedCall_of_same (fun _ => rfl) fun _ _ => rfl)
    (accountedCall_userUpdate hnested fun hmanages => ?_)
  rw [lookup_sanitizedBody body (by decide), hverified hmanages]

theorem sameAddresses_assignRole (w : World) (userId roleId : ℕ) :
    SameAddresses w (w.assignRole userId roleId) := by
  intro id
  unfold World.assignRole
  split <;> rfl

theorem sameAddresses_assignRoles (w : World) (userId : ℕ) (roleIds : List ℕ) :
    SameAddresses w (roleIds.foldl (fun w roleId => w.assignRole userId roleId) w) := by
  induction roleIds generalizing w with
  | nil => exact fun _ => rfl
  | cons roleId roleIds ih =>
      intro id
      exact (ih (w.assignRole userId roleId) id).trans (sameAddresses_assignRole w userId roleId id)

theorem assignDefaultRole_accounted (userId : ℕ) :
    AuthSafe A T request (UserService.assignDefaultRole userId) := by
  unfold UserService.assignDefaultRole
  apply Process.Confined.bind
  · exact Process.confined_query (accountedCall_id fun _ => rfl) trivial
  intro role
  cases role with
  | none => trivial
  | some role =>
      refine Process.confined_atomic (accountedCall_of_same (fun _ => rfl) fun w => ?_)
        (fun _ _ _ => trivial) trivial
      split
      · exact sameAddresses_assignRole w userId role.id
      · exact fun _ => rfl

theorem findWithRoles_accounted (userId : ℕ) :
    AuthSafe A T request (UserService.findWithRoles userId) := by
  unfold UserService.findWithRoles
  exact Process.confined_query (accountedCall_id fun _ => rfl) trivial

theorem requestVerificationEmail_accounted (hconfigured : AsConfigured A T) (email : String) :
    AuthSafe A T request (AuthController.requestVerificationEmail A.toAuthEnv email) :=
  Process.Confined.tryCatch (T := fun _ => True)
    (Process.confined_atomic
      (accountedCall_of_same (fun _ => rfl) (hconfigured.sendVerificationEmail email))
      (fun _ _ _ => trivial) trivial)
    fun _ _ => trivial

/-- A signup makes a user who is not verified. -/
theorem signUpEmail_accounted (hconfigured : AsConfigured A T) (body : SignUpEmailBody) :
    AccountSafe A T request
      (Process.atomic (.signUpEmail body) (.prisma .other) (A.signUpEmail body)) := by
  refine Process.confined_atomic (fun w _ => ⟨fun id email hemail => .inl ?_, nofun⟩)
    (fun _ _ _ => trivial) trivial
  rcases hconfigured.signUpEmail body w.state id with hsame | hnew
  · rw [← hsame, hemail]
  · rw [hnew] at hemail
    cases hemail

theorem emitUserRegistered_accounted (user : SignedUpUser) (firstName lastName : Option String)
    (source : UserRegisteredSource) (inviteToken : Option String) :
    AccountSafe A T request
      (AuthController.emitUserRegistered user firstName lastName source inviteToken) :=
  Process.Confined.tryCatch (T := fun _ => True)
    (Process.confined_modify (accountedCall_id fun _ => rfl) trivial) fun _ _ => trivial

theorem signup_accounted (hconfigured : AsConfigured A T)
    (hnested : ∀ id relations w w', A.nested id relations w = .ok w' → SameAddresses w w')
    (signupDto : SignupDto) : AccountSafe A T request (AuthController.signup A signupDto) := by
  unfold AuthController.signup
  apply Process.Confined.tryCatch (T := fun _ => True)
  · refine (signUpEmail_accounted hconfigured _).bind fun result => ?_
    cases result with
    | none => trivial
    | some user =>
        unfold AuthController.completeRegistration
        refine (Process.Confined.relabel (update_accounted hnested fun _ => ?_)).bind fun _ => ?_
        · rfl
        refine (Process.Confined.relabel (assignDefaultRole_accounted _)).bind fun _ => ?_
        refine (emitUserRegistered_accounted _ _ _ _ _).bind fun _ => ?_
        exact (Process.Confined.relabel
          (requestVerificationEmail_accounted hconfigured _)).bind fun _ => trivial
  · intro e _
    unfold AuthController.signupFailed
    split
    · trivial
    · dsimp only
      split <;> trivial

theorem store_accounted (hconfigured : AsConfigured A T)
    (hnested : ∀ id relations w w', A.nested id relations w = .ok w' → SameAddresses w w')
    (hmanages : request.manages = true) (data : CreateUserDto) :
    AccountSafe A T request (UserService.store A data) := by
  have hroles : ∀ slugs, AccountSafe A T request (UserService.resolveRoles slugs) := by
    intro slugs
    unfold UserService.resolveRoles UserService.defaultRoles
    split
    · refine (Process.confined_query (accountedCall_id fun _ => rfl) trivial).bind fun role => ?_
      cases role <;> trivial
    · refine (Process.confined_query (accountedCall_id fun _ => rfl) trivial).bind fun roles => ?_
      dsimp only
      split <;> trivial
  have hassign : ∀ userId roleIds,
      AccountSafe A T request (UserService.assignRolesToUser userId roleIds) := by
    intro userId roleIds
    refine Process.confined_atomic (accountedCall_of_same (fun _ => rfl) fun w => ?_)
      (fun _ _ _ => trivial) trivial
    split
    · exact sameAddresses_assignRoles w userId roleIds
    · exact fun _ => rfl
  have hcomplete : ∀ id columns,
      AccountSafe A T request (UserService.completeUser A id columns) := by
    intro id columns
    have hcall : AccountedCall A T request (.auth (.user (.userUpdate id columns)))
        ((UserCall.userUpdate id columns).effect A.user A.nested) := by
      refine accountedCall_userUpdate hnested fun hno => ?_
      rw [hmanages] at hno
      cases hno
    refine Process.confined_atomic ((congrArg (AccountedCall A T request _) ?_).mpr hcall)
      (fun _ _ _ => trivial) trivial
    funext w
    cases hw : userUpdate A.user A.nested id columns w <;> simp [UserCall.effect, hw]
  unfold UserService.store
  cases UserService.validateCreateUserData A.user data with
  | error e => trivial
  | ok _ =>
      refine (Process.confined_query (accountedCall_id fun _ => rfl) trivial).bind fun found => ?_
      cases found with
      | some pair => trivial
      | none =>
          refine (hroles _).bind fun roles => ?_
          apply Process.Confined.tryCatch (T := fun _ => True)
          · refine (signUpEmail_accounted hconfigured _).bind fun result => ?_
            cases result with
            | none => trivial
            | some user =>
                refine (hcomplete _ _).bind fun _ => ?_
                refine (hassign _ _).bind fun _ => ?_
                exact Process.Confined.relabel (findWithRoles_accounted _)
          · intro e _
            cases e <;> trivial

/-- `PUT /users/:id`: only administrators and managers name the flag. -/
theorem put_accounted
    (hnested : ∀ id relations w w', A.nested id relations w = .ok w' → SameAddresses w w')
    (id : ℕ) (body : List (String × Js.Json)) (session : CallerSession) :
    (UserController.update A.user A.nested id body session).Confined
      (fun l => AccountedCall A T (.update id body session) (.auth (.user l))) fun _ => True := by
  unfold UserController.update
  dsimp only
  split
  · trivial
  split
  · trivial
  next hguard =>
      refine update_accounted hnested fun hmanages => ?_
      have hrole : UserController.hasCrossUserUpdateRole session = false := hmanages
      cases hlookup : body.lookup "emailVerified" with
      | none => rfl
      | some v => exact (hguard ⟨by rw [hrole]; rfl, by rw [hlookup]; rfl⟩).elim

theorem SocialProfile.SignsIn.verified {profile : SocialProfile} {email : String}
    {a b : Option (String × Bool)} (h : profile.SignsIn a b) (hb : b = some (email, true)) :
    profile.emailVerified = true ∧ profile.email = email := by
  cases h with
  | created =>
      obtain ⟨hemail, hverified⟩ := Prod.mk.inj (Option.some.inj hb)
      exact ⟨hverified, hemail⟩
  | linked verified hverified => exact ⟨hverified, (Prod.mk.inj (Option.some.inj hb)).1⟩

/-- A sign-in verifies the address that the provider vouches for. -/
theorem signInSocial_accounted (hconfigured : AsConfigured A T) {dto : SocialLoginDto}
    (hprovider : A.isSocialProviderConfigured dto.provider = true) :
    AccountedCall A T request (.auth (.signInSocial dto))
      fun w => (A.betterAuth.signInSocial dto w).2 := by
  have htrusted : dto.provider ∈ trustedProviders := hconfigured.socialProviders _ hprovider
  refine fun w _ => ⟨fun id email hemail => ?_, fun id hm => ?_⟩
  · rcases hconfigured.signInSocial dto w.state id with hsame | ⟨profile, hprofile, hsigns⟩
    · exact .inl (hsame.symm.trans hemail)
    · obtain ⟨hverified, rfl⟩ := hsigns.verified hemail
      refine .inr ⟨.socialProvider dto.provider, _, ?_, World.mem_holders hemail⟩
      simp [AddressMark.of, hprofile, AddressMark.ofProfile, hverified, htrusted]
  · obtain ⟨profile, -, hreplaced⟩ := Option.bind_eq_some_iff.1 hm
    unfold AddressMark.ofProfile at hreplaced
    split at hreplaced <;> cases hreplaced

theorem socialLogin_accounted (hconfigured : AsConfigured A T)
    (hnested : ∀ id relations w w', A.nested id relations w = .ok w' → SameAddresses w w')
    (dto : SocialLoginDto) (ipAddress userAgent : Option String) :
    AuthSafe A T request
      (AuthController.socialLogin A.toLoginEnv A.nested dto ipAddress userAgent) := by
  have hissue : ∀ found, AuthSafe A T request
      (AuthController.issueFound A.toAuthEnv ipAddress userAgent found) := by
    intro found
    cases found with
    | none => trivial
    | some user => exact issueTokens_accounted user ipAddress userAgent
  have hcomplete : ∀ userId, AuthSafe A T request
      (AuthController.completeSignup A.toAuthEnv A.nested userId) := by
    intro userId
    apply Process.Confined.bind
    · exact Process.Confined.relabel (update_accounted hnested fun _ => rfl)
    intro _
    exact (assignDefaultRole_accounted userId).bind fun _ => findWithRoles_accounted userId
  unfold AuthController.socialLogin
  split
  · trivial
  next hconfig =>
      apply Process.Confined.bind
      · apply Process.Confined.tryCatch (T := fun _ => True)
        · exact Process.confined_atomic
            (signInSocial_accounted hconfigured (by simpa using hconfig))
            (fun _ _ _ => trivial) trivial
        · exact fun _ _ => trivial
      intro result
      cases result with
      | none => trivial
      | some userId =>
          refine (findWithRoles_accounted userId).bind fun found => ?_
          cases found with
          | none => trivial
          | some user =>
              unfold AuthController.issueSocial
              dsimp only
              split
              · exact (hcomplete userId).bind hissue
              · exact issueTokens_accounted user ipAddress userAgent

theorem resolveCallerUserId_accounted (hconfigured : AsConfigured A T) (req : AuthHeaders) :
    AuthSafe A T request (AuthController.resolveCallerUserId A.toAuthEnv req) := by
  unfold AuthController.resolveCallerUserId
  split
  next accessToken _ =>
      apply Process.Confined.tryCatch (T := fun _ => True)
      · apply Process.Confined.bind
        · exact Process.Confined.relabel (validateAccessToken_accounted accessToken)
        · exact fun _ => trivial
      · exact fun _ _ => trivial
  · split
    next cookie _ =>
        apply Process.Confined.bind
        · exact Process.confined_atomic
            (accountedCall_of_same (fun _ => rfl) (hconfigured.getSession cookie))
            (fun _ _ _ => trivial) trivial
        intro session
        cases session <;> trivial
    · trivial

/-- A change of the address is asked for; no row is written before a link is opened. -/
theorem changeEmailCall_accounted (hconfigured : AsConfigured A T) (cookie newEmail : String) :
    AccountSafe A T request
      (Process.atomic (.changeEmail cookie newEmail) (.prisma .other)
        (A.changeEmail cookie newEmail)) := by
  refine Process.confined_atomic (accountedCall_of_same (fun _ => rfl) fun w id => ?_)
    (fun _ _ _ => trivial) trivial
  rcases hconfigured.changeEmail cookie newEmail w id with hsame | ⟨hunverified, -⟩
  · exact hsame
  · cases hunverified

theorem changeEmail_accounted (hconfigured : AsConfigured A T) (newEmail : String)
    (req : AuthHeaders) : AccountSafe A T request (AuthController.changeEmail A newEmail req) := by
  have hdrop : ∀ token, AccountSafe A T request (AuthController.dropTemporarySession token) :=
    fun token => Process.Confined.tryCatch (T := fun _ => True)
      (Process.confined_modify (accountedCall_of_same (fun _ => rfl) fun _ _ => rfl) trivial)
      fun _ _ => trivial
  have htoken : ∀ {α : Type} {p : TokenProcess α},
      p.Confined (fun l => AccountedCall A T request (.auth (.session (.token l))))
        (fun _ => True) →
      AccountSafe A T request (p.relabel fun l => .auth (.session (.token l))) :=
    fun hp => Process.Confined.relabel hp
  unfold AuthController.changeEmail
  refine (Process.Confined.relabel (resolveCallerUserId_accounted hconfigured req)).bind
    fun caller => ?_
  apply Process.Confined.tryCatch (T := fun _ => True)
  · apply Process.Confined.bind
    · unfold AuthController.callBetterAuthAs
      split
      · exact changeEmailCall_accounted hconfigured _ _
      · unfold AuthController.withTemporaryBetterAuthSession
        refine (htoken (Process.confined_modify (accountedCall_token .randomBytes) trivial)).bind
          fun bytes => ?_
        refine (htoken (Process.confined_query (accountedCall_token .dateNow) trivial)).bind
          fun date => ?_
        refine (htoken (Process.confined_atomic (accountedCall_token (.sessionCreate _))
          (fun _ _ _ => trivial) trivial)).bind fun _ => ?_
        refine Process.Confined.bind ?_ fun _ => hdrop _
        apply Process.Confined.tryCatch (T := fun _ => True)
        · exact changeEmailCall_accounted hconfigured _ _
        · exact fun e _ => (hdrop _).bind fun _ => trivial
    · exact fun _ => trivial
  · exact fun _ _ => trivial

theorem AddressMark.ofLink_of_opens {w : World} {id : ℕ} {link : EmailLink} {email : String}
    {b : Option (String × Bool)} (h : link.Opens (w.address id) b) (hb : b = some (email, true)) :
    ∃ voucher userIds,
      AddressMark.ofLink w link = some (.vouched voucher email userIds) ∧ id ∈ userIds := by
  generalize ha : w.address id = a at h
  cases h with
  | verifyEmail =>
      cases hb
      exact ⟨_, _, rfl, World.mem_holders ha⟩
  | changeEmail =>
      cases hb
      exact ⟨_, _, rfl, World.mem_holders ha⟩

/-- Opening a link verifies the address that the link was mailed to. -/
theorem verifyEmail_accounted (hconfigured : AsConfigured A T) (token : String) :
    AccountSafe A T request (BetterAuth.verifyEmail A token) := by
  refine Process.confined_atomic (fun w _ => ⟨fun id email hemail => ?_, fun id hm => ?_⟩)
    (fun _ _ _ => trivial) trivial
  · rcases hconfigured.verifyEmail token w.state id with hsame | ⟨link, hlink, hopens⟩
    · exact .inl (hsame.symm.trans hemail)
    · obtain ⟨voucher, userIds, hmark, hmem⟩ := AddressMark.ofLink_of_opens hopens hemail
      exact .inr ⟨voucher, userIds, by simp [AddressMark.of, hlink, hmark], hmem⟩
  · obtain ⟨link, -, hreplaced⟩ := Option.bind_eq_some_iff.1 hm
    cases link <;> cases hreplaced

theorem ban_accounted
    (hnested : ∀ id relations w w', A.nested id relations w = .ok w' → SameAddresses w w')
    (ban : BanRequest) :
    (ban.process A.toAdminEnv).Confined
      (fun l => AccountedCall A T request (AccountCall.admin l)) fun _ => True := by
  have hfind : ∀ userId, ((UserService.findOne userId).relabel AdminCall.user).Confined
      (fun l => AccountedCall A T request (AccountCall.admin l)) fun _ => True :=
    fun _ => Process.Confined.relabel
      (Process.confined_query (accountedCall_id fun _ => rfl) trivial)
  have hcolumns : ∀ userId banned banReason banExpires,
      ((UserService.update A.user A.nested userId
        (AdminController.banColumns banned banReason banExpires)).relabel AdminCall.user).Confined
        (fun l => AccountedCall A T request (AccountCall.admin l)) fun _ => True :=
    fun _ _ _ _ => Process.Confined.relabel (update_accounted hnested fun _ => rfl)
  cases ban with
  | validateAccess token =>
      exact Process.Confined.map _ (Process.Confined.relabel (validateAccessToken_accounted token))
  | cleanupBans =>
      exact Process.Confined.map _ (Process.Confined.relabel
        (TokenCleanupService.cleanupExpiredBans_confined (accountedCall_id fun _ => rfl)
          fun _ => accountedCall_of_same (fun _ => rfl) fun w => sameAddresses_unban w _ _))
  | ban userId reason expiresInMinutes =>
      apply Process.Confined.map
      refine (hfind userId).bind fun user => ?_
      cases user with
      | none => trivial
      | some user =>
          apply Process.Confined.bind
          · unfold AdminController.banEnd
            split
            · trivial
            · apply Process.Confined.bind
              · exact Process.Confined.relabel
                  (Process.confined_query (accountedCall_id fun _ => rfl) trivial)
              · exact fun _ => trivial
          intro banExpires
          refine (hcolumns _ _ _ _).bind fun _ => ?_
          unfold AdminController.banned
          split <;> trivial
  | unban userId =>
      apply Process.Confined.map
      refine (hfind userId).bind fun user => ?_
      cases user with
      | none => trivial
      | some user => exact (hcolumns _ _ _ _).bind fun _ => trivial

/-- Every call of every request is accounted for. -/
theorem AccountRequest.process_accounted (hconfigured : AsConfigured A T)
    (hnested : ∀ id relations w w', A.nested id relations w = .ok w' → SameAddresses w w')
    (request : AccountRequest) : AccountSafe A T request (request.process A) := by
  cases request with
  | signup signupDto => exact (signup_accounted hconfigured hnested signupDto).map _
  | create createUserDto => exact (store_accounted hconfigured hnested rfl createUserDto).map _
  | update id updateUserDto session =>
      exact Process.Confined.map _ (Process.Confined.relabel (put_accounted hnested _ _ _))
  | socialLogin dto ipAddress userAgent =>
      exact Process.Confined.map _ (Process.Confined.relabel
        (socialLogin_accounted hconfigured hnested _ _ _))
  | changeEmail newEmail req => exact (changeEmail_accounted hconfigured newEmail req).map _
  | verifyEmail token => exact verifyEmail_accounted hconfigured token
  | ban request => exact Process.Confined.relabel (ban_accounted hnested request)

end Threads

end FifiAlert
