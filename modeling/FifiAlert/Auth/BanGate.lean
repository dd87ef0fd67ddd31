import FifiAlert.Auth.LoginFlows
import FifiAlert.Auth.PasswordChange
import FifiAlert.Auth.TokenCleanup

/-!
# What a ban stops

The ban stands in the row of the user, and only `validateAccessToken` reads it.
A rotation and the three logins answer a banned user as they answer any other: in
a sequence of calls a ban in force keeps all tokens back exactly when no call
gets through the checks that its own path has (`ban_binds_iff`).
-/

namespace FifiAlert

open Concurrency Store Js TokenService AuthController PasskeyService PasskeyController

section Ban

theorem checkBan_run_error {w : World} {userId : ℕ} {user : User} (signedOut : SignOut)
    (hbanned : user.banned = true)
    (hexpires : ∀ banExpires, user.banExpires = some banExpires → w.now < banExpires) :
    (checkBan signedOut userId user).run w =
      (.error (.unauthorized "User account is banned"), w) := by
  unfold checkBan
  rw [hbanned]
  cases hban : user.banExpires with
  | none => rfl
  | some banExpires =>
      simp only [SessionCall.dateNow, SessionCall.read, Bool.not_true, Bool.false_eq_true, if_false,
        Process.run_query_bind]
      rw [if_pos (hexpires banExpires hban)]
      rfl

/-- No token of a user is accepted while a ban of theirs is in force. -/
theorem validateAccessToken_banned {E : TokenEnv} {signedOut : SignOut} {token : String}
    {w w' : World} {user : TokenService.ITokenUser}
    (h : (validateAccessToken E signedOut token).run w = (.ok user, w')) :
    ¬ w.BanInForce user.id := by
  rintro ⟨row, hrow, hbanned, hexpires⟩
  have hrethrow : ∀ e s, ∃ e' s', (rethrow (α := TokenService.ITokenUser)
      "Invalid or expired token" e).runWith (fun _ => false) s = (.error e', s') := by
    intro e s
    cases e <;> exact ⟨_, _, rfl⟩
  rw [← Process.runWith_false, validateAccessToken,
    Process.runWith_tryCatch_eq_ok (fun _ => false) hrethrow, Process.runWith_false] at h
  simp only [SessionCall.dateNow, SessionCall.read, Process.run_query_bind] at h
  cases hverify : E.verify token w.now with
  | none => simp [hverify] at h
  | some payload =>
      simp only [hverify] at h
      by_cases htype : payload.type = .access
      · rw [if_neg (not_not.2 htype), Process.run_query_bind] at h
        cases hsession : w.sessions.find? (E.hashToken token) with
        | none => simp [World.findSessionWithUser, hsession, acceptSession] at h
        | some session =>
            simp only [World.findSessionWithUser, hsession, Option.map_some, acceptSession] at h
            by_cases hrev : session.revoked = true
            · simp [hrev] at h
            · rw [if_neg hrev] at h
              cases huser : w.users.find? session.userId with
              | none => simp [World.findUserWithRoles, huser] at h
              | some owner =>
                  simp only [World.findUserWithRoles, huser, Option.map_some] at h
                  obtain ⟨_, w₁, hcheck, hret⟩ := Process.run_bind_eq_ok.1 h
                  cases hret
                  have hid : owner.id = session.userId := Table.key_of_find? huser
                  rw [tokenUser, hid, huser] at hrow
                  cases hrow
                  rw [checkBan_run_error signedOut hbanned hexpires] at hcheck
                  cases hcheck
      · rw [if_pos htype] at h
        cases h

end Ban

section Grants

/-- Run alone, the login answers with a pair for the user. -/
def Grants (p : LoginProcess) (w : World) (userId : ℕ) : Prop :=
  ∃ pair w', p.run w = (.ok pair, w') ∧ pair.userId = userId

variable {w w₁ : World} {userId : ℕ}

@[simp] theorem grants_raise (e : AppError) : ¬ Grants (.raise e) w userId := by
  rintro ⟨pair, w', h, -⟩
  cases h

theorem grants_of_error {p : LoginProcess} {e : AppError} (h : p.run w = (.error e, w₁)) :
    ¬ Grants p w userId := by
  rintro ⟨pair, w', hok, -⟩
  rw [h] at hok
  cases hok

theorem grants_bind_ok {α : Type} {p : AuthProcess α} {a : α} (h : p.run w = (.ok a, w₁))
    (k : α → LoginProcess) : Grants (p >>= k) w userId ↔ Grants (k a) w₁ userId := by
  rw [Grants, Process.run_bind_ok h, Grants]

theorem grants_bind_error {α : Type} {p : AuthProcess α} {e : AppError}
    (h : p.run w = (.error e, w₁)) (k : α → LoginProcess) : ¬ Grants (p >>= k) w userId :=
  grants_of_error (Process.run_bind_error h k)

theorem grants_tryCatch {p : LoginProcess} {h : AppError → LoginProcess}
    (hraise : ∀ e w, ¬ Grants (h e) w userId) :
    Grants (p.tryCatch h) w userId ↔ Grants p w userId := by
  unfold Grants
  rw [Process.run_tryCatch]
  rcases p.run w with ⟨e | pair, w'⟩
  · exact iff_of_false (hraise e w') (by simp)
  · rfl

theorem grants_issueTokens (E : TokenEnv) (user : UserWithRoles)
    (ipAddress userAgent : Option String) :
    Grants (tokenService (issueTokens E user ipAddress userAgent)) w userId ↔
      user.user.id = userId ∧ E.lifetimesValid = true := by
  unfold Grants
  rw [tokenService, Process.run_relabel, ← issueTokens_ok_iff E w ipAddress userAgent user]
  constructor
  · rintro ⟨pair, w', hrun, hid⟩
    refine ⟨?_, pair, w', hrun⟩
    obtain ⟨access, w₁, -, hrest⟩ := Process.run_bind_eq_ok.1 hrun
    obtain ⟨refresh, w₂, -, hret⟩ := Process.run_bind_eq_ok.1 hrest
    cases hret
    have hcast : (user.user.id : ℚ) = userId := hid
    exact_mod_cast hcast
  · rintro ⟨rfl, pair, w', hrun⟩
    refine ⟨pair, w', hrun, ?_⟩
    obtain ⟨access, w₁, -, hrest⟩ := Process.run_bind_eq_ok.1 hrun
    obtain ⟨refresh, w₂, -, hret⟩ := Process.run_bind_eq_ok.1 hrest
    cases hret
    rfl

theorem grants_rotate (E : TokenEnv) (raw : String) (ipAddress userAgent : Option String) :
    Grants (tokenService (rotateRefreshToken E raw ipAddress userAgent)) w userId ↔
      w.Rotates E raw userId := by
  unfold Grants
  rw [tokenService, Process.run_relabel]
  exact rotateRefreshToken_ok_iff E w ipAddress userAgent

theorem findWithRoles_run (w : World) (userId : ℕ) :
    (UserService.findWithRoles userId).run w = (.ok (w.findUserWithRoles userId), w) := rfl

theorem grants_issueFound (A : AuthEnv) (found : ℕ) (ipAddress userAgent : Option String) :
    Grants (UserService.findWithRoles found >>= issueFound A ipAddress userAgent) w userId ↔
      found = userId ∧ (w.users.find? found).isSome = true ∧ A.token.lifetimesValid = true := by
  rw [grants_bind_ok (findWithRoles_run w found), World.findUserWithRoles]
  cases huser : w.users.find? found with
  | none => simp [issueFound]
  | some user =>
      rw [Option.map_some, issueFound, grants_issueTokens]
      simp [Table.key_of_find? huser]

end Grants

section Password

variable (A : AuthEnv) (w : World) (ipAddress userAgent : Option String)

theorem requestVerificationEmail_run (email : String) :
    ∃ w', (requestVerificationEmail A email).run w = (.ok (), w') := by
  unfold requestVerificationEmail betterAuth
  rw [Process.run_tryCatch, Process.run_atomic]
  rcases A.betterAuth.sendVerificationEmail email w with ⟨e | _, w'⟩
  · exact ⟨w', rfl⟩
  · exact ⟨w', rfl⟩

variable {w} in
theorem grants_refuseUnverified {userId : ℕ} (email : String) :
    ¬ Grants (refuseUnverified A email) w userId := by
  obtain ⟨w', hmail⟩ := requestVerificationEmail_run A w email
  rw [refuseUnverified, grants_bind_ok hmail]
  exact grants_raise _

/-- A sign-in with a password gets through: the address does not await its verification, and
better-auth signs in a user whose row is there and verified. -/
def World.AdmitsPassword (email password : String) (userId : ℕ) : Prop :=
  awaitsVerification A password (w.findUserByEmail email) = false ∧
    A.token.lifetimesValid = true ∧
      ∃ w', A.betterAuth.signInEmail email password w = (.ok (some userId), w') ∧
        (w'.users.find? userId).any User.emailVerified = true

theorem grants_issueSignedIn {userId : ℕ} (email : String) (result : Option ℕ) :
    Grants (issueSignedIn A email ipAddress userAgent result) w userId ↔
      result = some userId ∧ (w.users.find? userId).any User.emailVerified = true ∧
        A.token.lifetimesValid = true := by
  cases result with
  | none => simp [issueSignedIn]
  | some signedIn =>
      rw [issueSignedIn, grants_bind_ok (findWithRoles_run w signedIn), World.findUserWithRoles,
        Option.some.injEq]
      cases huser : w.users.find? signedIn with
      | none =>
          rw [Option.map_none, issueVerified]
          refine iff_of_false (grants_raise _) ?_
          rintro ⟨rfl, hverified, -⟩
          rw [huser] at hverified
          cases hverified
      | some user =>
          have hid : user.id = signedIn := Table.key_of_find? huser
          rw [Option.map_some, issueVerified]
          by_cases hverified : user.emailVerified = true
          · rw [hverified, Bool.not_true, if_neg Bool.false_ne_true, grants_issueTokens, hid]
            refine and_congr_right ?_
            rintro rfl
            simp [huser, hverified]
          · rw [if_pos (by simp [hverified])]
            refine iff_of_false (grants_refuseUnverified A email) ?_
            rintro ⟨rfl, hany, -⟩
            rw [huser] at hany
            exact hverified hany

theorem grants_loginAs {userId : ℕ} (email password : String) :
    Grants (loginAs A email password ipAddress userAgent) w userId ↔
      w.AdmitsPassword A email password userId := by
  rw [loginAs, grants_bind_ok (Process.run_query _ _ _ w), World.AdmitsPassword]
  by_cases hawaits : awaitsVerification A password (w.findUserByEmail email) = true
  · rw [if_pos hawaits]
    exact iff_of_false (grants_refuseUnverified A email) (by simp [hawaits])
  · have hgoes : awaitsVerification A password (w.findUserByEmail email) = false := by
      simpa using hawaits
    rw [if_neg hawaits]
    rcases hsign : A.betterAuth.signInEmail email password w with ⟨e | result, w'⟩
    · have hrun : (betterAuth (.signInEmail email password)
          (A.betterAuth.signInEmail email password)).run w = (.error e, w') := by
        rw [betterAuth, Process.run_atomic, hsign]
      exact iff_of_false (grants_bind_error hrun _) (by simp)
    · have hrun : (betterAuth (.signInEmail email password)
          (A.betterAuth.signInEmail email password)).run w = (.ok result, w') := by
        rw [betterAuth, Process.run_atomic, hsign]
      rw [grants_bind_ok hrun, grants_issueSignedIn]
      constructor
      · rintro ⟨rfl, hverified, hvalid⟩
        exact ⟨hgoes, hvalid, w', rfl, hverified⟩
      · rintro ⟨-, hvalid, w'', heq, hverified⟩
        cases heq
        exact ⟨rfl, hverified, hvalid⟩

theorem not_grants_loginFailed {userId : ℕ} (e : AppError) (w : World) :
    ¬ Grants (loginFailed e) w userId := by
  cases e <;> exact grants_raise _

theorem grants_login (A : LoginEnv) {userId : ℕ} (loginDto : LoginDto) :
    Grants (login A loginDto ipAddress userAgent) w userId ↔
      w.AdmitsPassword A.toAuthEnv (A.toLowerCase loginDto.email) loginDto.password userId := by
  rw [login, grants_tryCatch not_grants_loginFailed, grants_loginAs]

end Password

section Social

variable (A : AuthEnv) (N : NestedWrites) (w : World) (ipAddress userAgent : Option String)

/-- The sign-up of a new user can be completed: the database client takes the `meta`, and the
default role is there. -/
def World.CompletesSignup : Prop :=
  (A.user.nullableJson (.obj [("firstTime", .bool true)])).isSome = true ∧
    w.defaultRole.isSome = true

theorem parseUserUpdate_firstTime (U : UserEnv) :
    parseUserUpdate U firstTime =
      (U.nullableJson (.obj [("firstTime", .bool true)])).map fun j => { «meta» := some j } := by
  have hmeta : column U.nullableJson firstTime "meta" =
    (U.nullableJson (.obj [("firstTime", .bool true)])).map some := rfl
  unfold parseUserUpdate
  rw [hmeta]
  cases U.nullableJson (.obj [("firstTime", .bool true)]) <;> rfl

variable {w} in
/-- Marking a user as new succeeds when the database client takes the `meta`. -/
theorem update_firstTime_run {userId : ℕ} {user : User}
    (huser : w.users.find? userId = some user) :
    match A.user.nullableJson (.obj [("firstTime", .bool true)]) with
    | some _ => ∃ updated w', (UserService.update A.user N userId firstTime).run w =
        (.ok updated, w') ∧ w'.roles = w.roles ∧ (w'.users.find? userId).isSome = true
    | none => ∃ e w', (UserService.update A.user N userId firstTime).run w = (.error e, w') := by
  have hrun : (UserService.update A.user N userId firstTime).run w =
      (UserService.writeUpdate A.user N userId firstTime user).run w := by
    unfold UserService.update
    rw [Process.run_query_bind, huser]
    rfl
  rw [hrun, UserService.writeUpdate, if_neg (by simp [firstTime]), Process.run_atomic, userUpdate,
    parseUserUpdate_firstTime]
  cases A.user.nullableJson (.obj [("firstTime", .bool true)]) with
  | none => exact ⟨_, _, rfl⟩
  | some j =>
      have htaken : emailTaken { «meta» := some j } userId w = false := rfl
      simp only [Option.map_some, htaken, huser, Option.isNone_some, Bool.false_eq_true, if_false,
        List.isEmpty_nil, if_true]
      refine ⟨_, _, rfl, rfl, ?_⟩
      simp [setColumns, huser]

variable {w} in
theorem assignDefaultRole_run {userId : ℕ} (huser : (w.users.find? userId).isSome = true) :
    match w.defaultRole with
    | some role => (UserService.assignDefaultRole userId).run w =
        (.ok (), w.assignRole userId role.id)
    | none => ∃ e, (UserService.assignDefaultRole userId).run w = (.error e, w) := by
  unfold UserService.assignDefaultRole
  rw [Process.run_query_bind]
  cases hrole : w.defaultRole with
  | none => exact ⟨_, rfl⟩
  | some role =>
      have hfind : w.roles.find? role.id = some role :=
        Table.find?_of_mem (List.mem_of_find?_eq_some hrole)
      simp [UserService.assignRole, huser, hfind]

theorem users_assignRole (userId roleId : ℕ) : (w.assignRole userId roleId).users = w.users := by
  unfold World.assignRole
  split <;> rfl

/-- Completing the sign-up of a user and reading them again. -/
theorem grants_completeSignup {found userId : ℕ} (huser : (w.users.find? found).isSome = true) :
    Grants (completeSignup A N found >>= issueFound A ipAddress userAgent) w userId ↔
      found = userId ∧ w.CompletesSignup A ∧ A.token.lifetimesValid = true := by
  obtain ⟨user, huser⟩ := Option.isSome_iff_exists.1 huser
  have hupdate := update_firstTime_run A N huser
  unfold completeSignup World.CompletesSignup
  cases hmeta : A.user.nullableJson (.obj [("firstTime", .bool true)]) with
  | none =>
      rw [hmeta] at hupdate
      obtain ⟨e, w', hrun⟩ := hupdate
      have hrun' : ((UserService.update A.user N found firstTime).relabel AuthCall.user).run w =
          (.error e, w') := by
        rw [Process.run_relabel, hrun]
      exact iff_of_false (grants_bind_error (Process.run_bind_error hrun' _) _) (by simp)
  | some j =>
      rw [hmeta] at hupdate
      obtain ⟨updated, w', hrun, hroles, hkept⟩ := hupdate
      have hdefault : w'.defaultRole = w.defaultRole := by
        unfold World.defaultRole
        rw [hroles]
      have hassign := assignDefaultRole_run hkept
      have hrun' : ((UserService.update A.user N found firstTime).relabel AuthCall.user).run w =
          (.ok updated, w') := by
        rw [Process.run_relabel, hrun]
      rw [Process.bind_assoc, grants_bind_ok hrun', Process.bind_assoc]
      rw [hdefault] at hassign
      cases hrole : w.defaultRole with
      | none =>
          rw [hrole] at hassign
          obtain ⟨e, hassign⟩ := hassign
          exact iff_of_false (grants_bind_error hassign _) (by simp)
      | some role =>
          rw [hrole] at hassign
          rw [grants_bind_ok hassign, grants_issueFound, users_assignRole]
          simp [hkept]

/-- A social sign-in gets through: the provider is configured, and better-auth signs in a user
who has a role or can be given one. -/
def World.AdmitsSocial (A : LoginEnv) (dto : SocialLoginDto) (userId : ℕ) : Prop :=
  A.isSocialProviderConfigured dto.provider = true ∧ A.token.lifetimesValid = true ∧
    ∃ w' user, A.betterAuth.signInSocial dto w = (.ok (some userId), w') ∧
      w'.findUserWithRoles userId = some user ∧
        (user.roles.isEmpty = true → w'.CompletesSignup A.toAuthEnv)

theorem grants_issueSocialSignedIn {userId : ℕ} (result : Option ℕ) :
    Grants (issueSocialSignedIn A N ipAddress userAgent result) w userId ↔
      result = some userId ∧ A.token.lifetimesValid = true ∧
        ∃ user, w.findUserWithRoles userId = some user ∧
          (user.roles.isEmpty = true → w.CompletesSignup A) := by
  cases result with
  | none => simp [issueSocialSignedIn]
  | some signedIn =>
      rw [issueSocialSignedIn, grants_bind_ok (findWithRoles_run w signedIn), Option.some.injEq]
      cases hfound : w.findUserWithRoles signedIn with
      | none =>
          refine iff_of_false (grants_raise _) ?_
          rintro ⟨rfl, -, user, huser, -⟩
          rw [hfound] at huser
          cases huser
      | some user =>
          obtain ⟨row, hrow, hpair⟩ := Option.map_eq_some_iff.1 hfound
          have hid : user.user.id = signedIn := by
            rw [← hpair]
            exact Table.key_of_find? hrow
          have hcan : signedIn = userId → ((∃ user', w.findUserWithRoles userId = some user' ∧
              (user'.roles.isEmpty = true → w.CompletesSignup A)) ↔
                (user.roles.isEmpty = true → w.CompletesSignup A)) := by
            rintro rfl
            simp [hfound]
          rw [issueSocial]
          by_cases hnew : user.roles.isEmpty = true
          · rw [if_pos hnew, grants_completeSignup A N w ipAddress userAgent (by simp [hrow])]
            refine and_congr_right fun hsame => ?_
            rw [hcan hsame]
            simp [hnew, and_comm]
          · rw [if_neg hnew, grants_issueTokens, hid]
            refine and_congr_right fun hsame => ?_
            rw [hcan hsame]
            simp [hnew]

theorem grants_socialLogin (A : LoginEnv) {userId : ℕ} (dto : SocialLoginDto) :
    Grants (socialLogin A N dto ipAddress userAgent) w userId ↔ w.AdmitsSocial A dto userId := by
  unfold socialLogin World.AdmitsSocial
  by_cases hconfigured : A.isSocialProviderConfigured dto.provider = true
  · rw [if_neg (by simp [hconfigured])]
    have hrun : ((betterAuth (.signInSocial dto) (A.betterAuth.signInSocial dto)).tryCatch
        fun error => .raise (mapSocialSignInError A dto.provider error)).run w =
          ((A.betterAuth.signInSocial dto w).1.mapError (mapSocialSignInError A dto.provider),
            (A.betterAuth.signInSocial dto w).2) := by
      rw [betterAuth, Process.run_tryCatch, Process.run_atomic]
      rcases A.betterAuth.signInSocial dto w with ⟨e | result, w'⟩ <;> rfl
    rcases hsign : A.betterAuth.signInSocial dto w with ⟨e | result, w'⟩
    · rw [hsign] at hrun
      exact iff_of_false (grants_bind_error hrun _) (by simp)
    · rw [hsign] at hrun
      rw [grants_bind_ok hrun, grants_issueSocialSignedIn]
      constructor
      · rintro ⟨rfl, hvalid, user, huser, hcompletes⟩
        exact ⟨hconfigured, hvalid, w', user, rfl, huser, hcompletes⟩
      · rintro ⟨-, hvalid, w'', user, heq, huser, hcompletes⟩
        cases heq
        exact ⟨rfl, hvalid, user, huser, hcompletes⟩
  · rw [if_pos (by simpa using hconfigured)]
    exact iff_of_false (grants_raise _) fun h => hconfigured h.1

end Social

section Passkey

variable (A : LoginEnv) (w : World) (ipAddress userAgent : Option String)

/-- The owner of a passkey whose assertion verifies, if their address is verified. -/
def World.assertedOwner (stored : StoredPasskeyChallenge) (response : Js.Json)
    (passkey : Passkey) : Option ℕ :=
  match A.verifyAuthenticationResponse A.passkeyConfig response stored.challenge passkey with
  | .error _ => none
  | .ok info =>
    if info.verified && (w.users.find? passkey.userId).any User.emailVerified then
      some passkey.userId
    else none

/-- The user behind an assertion: it answers a login challenge that is still there, with a
passkey that is registered. -/
def World.passkeyOwner (body : PasskeyLoginVerifyDto) : Option ℕ :=
  if A.passkeyConfig.enabled = true ∧ body.challengeId ≠ "" then
    ((w.challenge body.challengeId).filter fun stored => stored.type = .login).bind fun stored =>
      ((credentialId body.response).bind w.passkeyOf).bind
        (w.assertedOwner A stored body.response)
  else none

/-- Run alone, the process answers with this user and changes no user, or raises. -/
def FindsOwner (p : AuthProcess ℕ) (w : World) : Option ℕ → Prop
  | some userId => ∃ w', p.run w = (.ok userId, w') ∧ w'.users = w.users
  | none => ∃ e w', p.run w = (.error e, w')

variable {A w} in
theorem findsOwner_raise (e : AppError) : FindsOwner (.raise e) w none := ⟨e, w, rfl⟩

variable {w} in
theorem findsOwner_query_bind {α : Type} (l : AuthCall) (err : AppError) (g : World → α)
    (k : α → AuthProcess ℕ) (owner : Option ℕ) :
    FindsOwner (Process.query l err g >>= k) w owner ↔ FindsOwner (k (g w)) w owner := by
  cases owner <;> rfl

variable {w} in
theorem findsOwner_modify_bind {α : Type} {l : AuthCall} {err : AppError} {f : World → World}
    {g : World → α} {k : α → AuthProcess ℕ} {owner : Option ℕ} (husers : (f w).users = w.users)
    (h : FindsOwner (k (g w)) (f w) owner) :
    FindsOwner (Process.modify l err f g >>= k) w owner := by
  cases owner with
  | none => exact h
  | some userId =>
      obtain ⟨w', hrun, hkept⟩ := h
      exact ⟨w', hrun, hkept.trans husers⟩

theorem recordUse_run (info : VerifiedAuthenticationResponse) {passkey : Passkey}
    (hpasskey : passkey ∈ w.passkeys.rows) :
    ∃ w', (recordUse passkey info).run w = (.ok (), w') ∧ w'.users = w.users := by
  unfold recordUse
  rw [Process.run_atomic, Table.find?_of_mem hpasskey]
  exact ⟨_, rfl, rfl⟩

theorem acceptAssertion_findsOwner (stored : StoredPasskeyChallenge) (response : Js.Json)
    {passkey : Passkey} (hpasskey : passkey ∈ w.passkeys.rows) :
    FindsOwner (acceptAssertion A stored response (some passkey)) w
      (w.assertedOwner A stored response passkey) := by
  unfold acceptAssertion World.assertedOwner
  dsimp only
  cases A.verifyAuthenticationResponse A.passkeyConfig response stored.challenge passkey with
  | error e => exact findsOwner_raise _
  | ok info =>
      dsimp only
      cases hverified : info.verified with
      | false => exact findsOwner_raise _
      | true =>
          rw [Bool.not_true, if_neg Bool.false_ne_true, findsOwner_query_bind, Bool.true_and]
          cases w.users.find? passkey.userId with
          | none => exact findsOwner_raise _
          | some owner =>
              rw [Option.any_some, acceptOwner]
              cases owner.emailVerified with
              | false => exact findsOwner_raise _
              | true =>
                  obtain ⟨w', hrecord, husers⟩ := recordUse_run w info hpasskey
                  rw [Bool.not_true, if_neg Bool.false_ne_true, if_pos rfl]
                  exact ⟨w', Process.run_bind_ok hrecord _, husers⟩

theorem answerChallenge_findsOwner (response : Js.Json) (stored : Option StoredPasskeyChallenge) :
    FindsOwner (answerChallenge A response stored) w
      ((stored.filter fun stored => stored.type = .login).bind fun stored =>
        ((credentialId response).bind w.passkeyOf).bind (w.assertedOwner A stored response)) := by
  cases stored with
  | none => exact findsOwner_raise _
  | some stored =>
      rw [answerChallenge, Option.filter_some]
      by_cases htype : stored.type = .login
      · rw [if_neg (not_not.2 htype), if_pos (by simpa using htype), Option.bind_some]
        cases credentialId response with
        | none => exact findsOwner_raise _
        | some id =>
            dsimp only
            rw [findsOwner_query_bind, Option.bind_some]
            cases hfound : w.passkeyOf id with
            | none => exact findsOwner_raise _
            | some passkey =>
                have hrow : passkey ∈ w.passkeys.rows := List.mem_of_find?_eq_some hfound
                exact acceptAssertion_findsOwner A w stored response hrow
      · rw [if_pos htype, if_neg (by simpa using htype)]
        exact findsOwner_raise _

theorem finishLogin_findsOwner (body : PasskeyLoginVerifyDto) :
    FindsOwner (finishLogin A body) w (w.passkeyOwner A body) := by
  unfold finishLogin World.passkeyOwner
  by_cases henabled : A.passkeyConfig.enabled = true
  · rw [if_neg (by simp [henabled]), consume]
    by_cases hid : body.challengeId = ""
    · rw [if_pos hid, if_neg (fun h => h.2 hid)]
      exact findsOwner_raise _
    · rw [if_neg hid, if_pos ⟨henabled, hid⟩]
      exact findsOwner_modify_bind rfl (answerChallenge_findsOwner A _ body.response _)
  · rw [if_pos (by simpa using henabled), if_neg (fun h => henabled h.1)]
    exact findsOwner_raise _

/-- A sign-in with a passkey gets through when the assertion stands for the user. -/
theorem grants_loginVerify {userId : ℕ} (body : PasskeyLoginVerifyDto) :
    Grants (loginVerify A body ipAddress userAgent) w userId ↔
      w.passkeyOwner A body = some userId ∧ (w.users.find? userId).isSome = true ∧
        A.token.lifetimesValid = true := by
  have hfinds := finishLogin_findsOwner A w body
  unfold loginVerify
  cases howner : w.passkeyOwner A body with
  | none =>
      rw [howner] at hfinds
      obtain ⟨e, w', hrun⟩ := hfinds
      have hresend : ∃ e' w'', (resendVerification A.toAuthEnv e).run w' = (.error e', w'') := by
        unfold resendVerification
        split
        · next email =>
            obtain ⟨w'', hmail⟩ := requestVerificationEmail_run A.toAuthEnv w' email
            exact ⟨_, w'', Process.run_bind_ok hmail _⟩
        · exact ⟨_, _, rfl⟩
      obtain ⟨e', w'', hraise⟩ := hresend
      have hcaught : ((finishLogin A body).tryCatch (resendVerification A.toAuthEnv)).run w =
          (.error e', w'') := by
        rw [Process.run_tryCatch, hrun]
        exact hraise
      exact iff_of_false (grants_bind_error hcaught _) (by simp)
  | some owner =>
      rw [howner] at hfinds
      obtain ⟨w', hrun, husers⟩ := hfinds
      have hcaught : ((finishLogin A body).tryCatch (resendVerification A.toAuthEnv)).run w =
          (.ok owner, w') := by
        rw [Process.run_tryCatch, hrun]
      rw [grants_bind_ok hcaught, grants_issueFound, husers, Option.some.injEq]
      refine and_congr_right ?_
      rintro rfl
      rfl

end Passkey

section Requests

/-- The calls that accept a token or answer with one. -/
inductive AuthRequest where
  | access (token : String)
  | refresh (raw : String) (ipAddress userAgent : Option String)
  | password (loginDto : LoginDto) (ipAddress userAgent : Option String)
  | social (dto : SocialLoginDto) (ipAddress userAgent : Option String)
  | passkey (body : PasskeyLoginVerifyDto) (ipAddress userAgent : Option String)

namespace AuthRequest

variable (A : LoginEnv) (N : NestedWrites)

/-- The call, answering with the user whose token it accepts or issues. -/
def process : AuthRequest → AuthProcess ℚ
  | access token => do
    let user ← (validateAccessToken A.token A.betterAuth.signedOut token).relabel AuthCall.session
    return user.id
  | refresh raw ipAddress userAgent =>
    IRotatedTokens.userId <$> tokenService (rotateRefreshToken A.token raw ipAddress userAgent)
  | password loginDto ipAddress userAgent =>
    IRotatedTokens.userId <$> login A loginDto ipAddress userAgent
  | social dto ipAddress userAgent =>
    IRotatedTokens.userId <$> socialLogin A N dto ipAddress userAgent
  | passkey body ipAddress userAgent =>
    IRotatedTokens.userId <$> loginVerify A body ipAddress userAgent

/-- When a call answers for a user who is banned: never with an access token, and else whenever
the checks of its own path let it. -/
def Admits (w : World) (userId : ℕ) : AuthRequest → Prop
  | access _ => False
  | refresh raw _ _ => w.Rotates A.token raw userId
  | password loginDto _ _ =>
    w.AdmitsPassword A.toAuthEnv (A.toLowerCase loginDto.email) loginDto.password userId
  | social dto _ _ => w.AdmitsSocial A dto userId
  | passkey body _ _ =>
    w.passkeyOwner A body = some userId ∧ (w.users.find? userId).isSome = true ∧
      A.token.lifetimesValid = true

variable {A N} {w : World} {userId : ℕ}

theorem map_userId_ok_iff (p : LoginProcess) :
    ((IRotatedTokens.userId <$> p).run w).1 = .ok (userId : ℚ) ↔ Grants p w userId := by
  unfold Grants
  rw [Process.run_map]
  rcases p.run w with ⟨e | pair, w'⟩ <;> simp

theorem process_ok_iff (hban : w.BanInForce userId) (request : AuthRequest) :
    ((request.process A N).run w).1 = .ok (userId : ℚ) ↔ request.Admits A w userId := by
  cases request with
  | access token =>
      refine iff_of_false (fun h => ?_) id
      obtain ⟨user, w', hvalid, hret⟩ := Process.run_bind_eq_ok.1 (Prod.ext h rfl)
      rw [Process.run_relabel] at hvalid
      have hid : (user.id : ℚ) = userId := Except.ok.inj (congrArg Prod.fst hret)
      have hid : user.id = userId := by exact_mod_cast hid
      exact validateAccessToken_banned hvalid (hid ▸ hban)
  | refresh raw ipAddress userAgent => exact (map_userId_ok_iff _).trans (grants_rotate _ _ _ _)
  | password loginDto ipAddress userAgent =>
      exact (map_userId_ok_iff _).trans (grants_login w _ _ A loginDto)
  | social dto ipAddress userAgent =>
      exact (map_userId_ok_iff _).trans (grants_socialLogin N w _ _ A dto)
  | passkey body ipAddress userAgent =>
      exact (map_userId_ok_iff _).trans (grants_loginVerify A w _ _ body)

end AuthRequest

/-- A call in a sequence of calls, after whatever else went on in the meantime. -/
structure LaterCall where
  meanwhile : World → World
  request : AuthRequest

/-- A call that was made: the state it found and its answer. -/
structure AnsweredCall where
  before : World
  request : AuthRequest
  answer : Except AppError ℚ

/-- A sequence of calls, one after the other. -/
def answeredCalls (A : LoginEnv) (N : NestedWrites) : List LaterCall → World → List AnsweredCall
  | [], _ => []
  | call :: calls, w =>
    let before := call.meanwhile w
    let outcome := (call.request.process A N).run before
    { before, request := call.request, answer := outcome.1 } :: answeredCalls A N calls outcome.2

theorem answer_of_mem_answeredCalls {A : LoginEnv} {N : NestedWrites} {calls : List LaterCall}
    {w : World} {x : AnsweredCall} (h : x ∈ answeredCalls A N calls w) :
    x.answer = ((x.request.process A N).run x.before).1 := by
  induction calls generalizing w with
  | nil => cases h
  | cons call calls ih =>
      rcases List.mem_cons.1 h with rfl | h
      · rfl
      · exact ih h

/-- A ban in force keeps all tokens of the user back, in every sequence of calls, exactly when
each call that is made under the ban is one whose own path refuses it. -/
theorem ban_binds_iff (A : LoginEnv) (N : NestedWrites) (userId : ℕ) (calls : List LaterCall)
    (w : World) :
    (∀ x ∈ answeredCalls A N calls w, x.before.BanInForce userId → x.answer ≠ .ok (userId : ℚ)) ↔
      ∀ x ∈ answeredCalls A N calls w, x.before.BanInForce userId →
        ¬ x.request.Admits A x.before userId := by
  refine forall₂_congr fun x hx => forall_congr' fun hban => ?_
  rw [answer_of_mem_answeredCalls hx, Ne, AuthRequest.process_ok_iff hban]

end Requests

section Banned

/-- better-auth and the passkey library find user 1 behind every sign-in. -/
def openLogin : LoginEnv where
  token := longEnv
  user := plainUserEnv
  betterAuth :=
    { plainBetterAuth with
      signInEmail := fun _ _ w => (.ok (some 1), w)
      signInSocial := fun _ w => (.ok (some 1), w) }
  verifyPassword := fun hash password => hash = password
  toLowerCase := id
  isSocialProviderConfigured := fun _ => true
  passkeyConfig := { enabled := true, rpId := "fifi-alert", origins := [] }
  verifyAuthenticationResponse := fun _ _ _ _ =>
    .ok { verified := true, newCounter := 1, credentialBackedUp := false }

/-- User 1 is banned for good. -/
def banInForceWorld : World where
  users := Table.empty.insertNew
    { id := 1, email := "a@b.c", emailVerified := true, banned := true }
  roles := Table.empty.insertNew { id := 1, slug := "user" }
  userRoles := Table.empty.insertNew { id := 1, user_id := 1, role_id := 1 }
  sessions := Table.empty.insertNew
    { token := "R", tokenType := .refresh, userId := 1, expiresAt := 60 * dayMs }
  passkeys := Table.empty.insertNew { id := "p", userId := 1, credentialId := "c" }
  passkeyChallenges := Table.empty.insertNew
    { challengeId := "c_1", challenge := "", type := .login, expiresAt := 300000 }

/-- A call on each of the four paths that issue tokens. -/
def eachPath : List LaterCall :=
  [{ meanwhile := id, request := .refresh "R" none none },
    { meanwhile := id, request := .password { email := "a@b.c", password := "old" } none none },
    { meanwhile := id, request := .social { provider := "google", token := "t" } none none },
    { meanwhile := id
      request := .passkey { challengeId := "c_1", response := .obj [("id", .str "c")] } none none }]

/-- The banned user gets a pair on each path. -/
theorem banned_issued :
    banInForceWorld.BanInForce 1 ∧
      (answeredCalls openLogin (fun _ _ w => .ok w) eachPath
        banInForceWorld).map AnsweredCall.answer = [.ok 1, .ok 1, .ok 1, .ok 1] := by
  have hrow : banInForceWorld.users.find? 1 =
      some { id := 1, email := "a@b.c", emailVerified := true, banned := true } := rfl
  exact ⟨⟨_, hrow, rfl, nofun⟩, by decide +kernel⟩

end Banned

end FifiAlert
