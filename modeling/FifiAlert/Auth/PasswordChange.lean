import FifiAlert.Auth.AuthController
import FifiAlert.Auth.RotationOutcome
import FifiAlert.User.Privileges

/-!
# A change of password and the sessions of the user

Three paths write a new password. `updatePassword` revokes every other token of
the user, `resetPassword` does so when it found out whose password was reset,
and the update of a user does not. So when a path reports success, which tokens
of the user are left depends on the path (`passwordChange_signsOut_iff`).
-/

namespace FifiAlert

open Concurrency Store TokenService AuthController Js

section SignedOut

/-- The table has a live access or refresh row of the user under this key. -/
def LiveToken (t : Sessions) (userId : ℕ) (k : String) : Prop :=
  ∃ row, t.find? k = some row ∧ row.userId = userId ∧ row.tokenType ≠ .session ∧
    row.revoked = false

/-- Of the tokens of the user that were live before, none but the excepted one is
live after. -/
def SignsOut (userId : ℕ) (exceptHash : Option String) (t t' : Sessions) : Prop :=
  ∀ k, LiveToken t userId k → LiveToken t' userId k → exceptHash = some k

variable {userId : ℕ} {exceptHash : Option String} {t t' : Sessions}

theorem NoLiveRow.signsOut (h : NoLiveRow userId exceptHash t') :
    SignsOut userId exceptHash t t' := by
  rintro k - ⟨row, hrow, huser, -, hlive⟩
  rw [h row (Table.mem_of_find? hrow) huser hlive, Table.key_of_find? hrow]

/-- Revoking the tokens of a user leaves those of the others alone. -/
theorem liveToken_revokeAll_iff {w : World} {userId' : ℕ} (hne : userId' ≠ userId) (k : String) :
    LiveToken (w.revokeAll userId' exceptHash).sessions userId k ↔
      LiveToken w.sessions userId k := by
  unfold LiveToken
  rw [World.find?_revokeAll]
  cases w.sessions.find? k with
  | none => simp
  | some s =>
      by_cases huser : s.userId = userId
      · have hother : s.userId ≠ userId' := fun h => hne (h.symm.trans huser)
        simp [TokenCall.onRow, Session.liveOf, hother]
      · simp [huser]

end SignedOut

section Paths

/-- A request on one of the three paths: with the token of a reset link, with the
old password, or through the update of a user. -/
inductive PasswordChange where
  | reset (newPassword token : String)
  | update (updateDto : UpdatePasswordDto) (req : AuthHeaders)
  | user (id : ℕ) (userData : List (String × Json))

/-- The relation operations of a body that reach the database client. -/
def relationWrites (userData : List (String × Json)) : List (String × Json) :=
  (sanitizedBody userData).filter fun field =>
    PrismaModelFields.getUserRelationFields.contains field.1

/-- The sessions that better-auth takes for its own. -/
abbrev OwnSessions := Session → Bool

/-- With `revokeSessionsOnPasswordReset` a reset drops the sessions of its user that
better-auth takes for its own. -/
def BetterAuth.DropsSessions (B : BetterAuth) (own : OwnSessions) : Prop :=
  ∀ newPassword token w userId, (B.resetPassword newPassword token w).1 = .ok userId →
    (B.resetPassword newPassword token w).2.sessions =
      w.sessions.deleteMany fun s => s.userId = userId && own s

/-- The tokens in a session table that relation operations on a user end: they delete the
session, revoke it, or give it away. -/
abbrev EndedTokens := ℕ → List (String × Json) → Sessions → Set String

/-- Which live tokens the database client ends goes by the operations and the sessions. -/
def NestedEnd (N : NestedWrites) (ended : EndedTokens) : Prop :=
  ∀ id relations w w', N id relations w = .ok w' → ∀ k, LiveToken w.sessions id k →
    (LiveToken w'.sessions id k ↔ k ∉ ended id relations w.sessions)

/-- The state with a new password in the credential account. -/
def World.withPassword (U : UserEnv) (userId : ℕ) (password : Json) (w : World) : World :=
  match w.credentialAccount userId, U.hashPassword password with
  | some account, .ok newHash =>
      { w with
        accounts := w.accounts.updateMany (fun a => a.id = account.id)
          (Account.setPassword newHash) (Account.setPassword_id newHash) }
  | _, _ => w

/-- The owner that `resetPassword` finds, given which calls fail. -/
def foundOwner (fails : AuthCall → Bool) (token : String) (w : World) : Option ℕ :=
  if fails (.verificationFindFirst (resetIdentifier token)) then none else w.resetOwner token

namespace PasswordChange

variable (A : AuthEnv) (N : NestedWrites) (fails : AuthCall → Bool)

/-- The path reports success, has written a password of the user, and leads from
`w` to `w'`. The token is the access token that the request was made with. -/
def Succeeds (userId : ℕ) (accessToken : Option String) (w w' : World) :
    PasswordChange → Prop
  | reset newPassword token =>
      accessToken = none ∧
        (A.betterAuth.resetPassword newPassword token w).1 = .ok userId ∧
        ∃ message, (resetPassword A newPassword token).runWith fails w = (.ok message, w')
  | update updateDto req =>
      (∃ w₁, (resolveCallerUserId A req).runWith fails w = (.ok ⟨userId, accessToken⟩, w₁)) ∧
        ∃ response, (updatePassword A updateDto req).runWith fails w = (.ok response, w')
  | user id userData =>
      userId = id ∧ (UserService.givenPassword userData).isSome ∧
        ∃ updated, (UserService.update A.user N id userData).runWith
          (fun l => fails (.user l)) w = (.ok updated, w')

/-- The condition: `updatePassword` always signs out the others; `resetPassword` when its
lookup found the owner, or the live tokens of the user are all in sessions that
better-auth takes for its own; the update of a user when every other live token is ended
by a relation operation in the body itself. -/
def EndsSessions (own : OwnSessions) (ended : EndedTokens) (userId : ℕ)
    (accessToken : Option String) (w : World) : PasswordChange → Prop
  | reset _ token =>
      foundOwner fails token w = some userId ∨
        ∀ k row, LiveToken w.sessions userId k → w.sessions.find? k = some row → own row = true
  | update _ _ => True
  | user id userData =>
      ∀ k, LiveToken w.sessions id k → accessToken.map A.token.hashToken = some k ∨
        ¬ NoRelationWrite userData ∧ k ∈ ended id (relationWrites userData) w.sessions

end PasswordChange

variable {A : AuthEnv} {N : NestedWrites} {fails : AuthCall → Bool} {w w' : World} {userId : ℕ}

theorem revokeAll_of_ok {exceptToken : Option String} {count : ℕ}
    (h : (tokenService (revokeAllUserTokens A.token userId exceptToken)).runWith fails w =
      (.ok count, w')) :
    w' = w.revokeAll userId ((truthy exceptToken).map A.token.hashToken) := by
  rw [tokenService, Process.runWith_relabel, revokeAllUserTokens] at h
  obtain ⟨_, w₁, hdrop, h⟩ := (Process.runWith_bind_eq_ok _).1 h
  obtain ⟨date, w₂, hdate, h⟩ := (Process.runWith_bind_eq_ok _).1 h
  simp only [TokenService.write, TokenService.dateNow, TokenService.read, Process.runWith_query,
    Process.runWith_modify] at hdrop hdate h
  split at hdrop
  · cases hdrop
  split at hdate
  · cases hdate
  split at h
  · cases h
  cases hdrop
  cases hdate
  cases h
  rfl

/-- An `updatePassword` that succeeds replaces the password, and revokes last. -/
theorem updatePassword_ok {updateDto : UpdatePasswordDto} {req : AuthHeaders}
    {caller : Caller} {response : UpdatePasswordResponse} {w₁ : World}
    (hcaller : (resolveCallerUserId A req).runWith fails w = (.ok caller, w₁))
    (h : (updatePassword A updateDto req).runWith fails w = (.ok response, w')) :
    ∃ account? w₂, (replacePassword A updateDto account?).runWith fails w₁ = (.ok (), w₂) ∧
      w' = w₂.revokeAll caller.userId ((truthy caller.accessToken).map A.token.hashToken) := by
  have hfailed : ∀ e s, ∃ e' s', (updateFailed e : AuthProcess UpdatePasswordResponse).runWith
      fails s = (.error e', s') := by
    intro e s
    cases e <;> exact ⟨_, _, rfl⟩
  rw [updatePassword, Process.runWith_tryCatch_eq_ok fails hfailed] at h
  obtain ⟨caller', w₂, hcaller', h⟩ := (Process.runWith_bind_eq_ok _).1 h
  rw [hcaller, Prod.mk.injEq, Except.ok.injEq] at hcaller'
  obtain ⟨rfl, rfl⟩ := hcaller'
  obtain ⟨account?, w₃, haccount, h⟩ := (Process.runWith_bind_eq_ok _).1 h
  obtain ⟨_, w₄, hreplace, h⟩ := (Process.runWith_bind_eq_ok _).1 h
  obtain ⟨count, w₅, hrevoke, h⟩ := (Process.runWith_bind_eq_ok _).1 h
  cases h
  rw [Process.runWith_query] at haccount
  split at haccount
  · cases haccount
  cases haccount
  exact ⟨_, w₄, hreplace, revokeAll_of_ok hrevoke⟩

/-- `updatePassword` leaves no token of the caller live but the one it was made with. -/
theorem updatePassword_signsOut {updateDto : UpdatePasswordDto} {req : AuthHeaders}
    {caller : Caller} {response : UpdatePasswordResponse} {w₁ : World}
    (hcaller : (resolveCallerUserId A req).runWith fails w = (.ok caller, w₁))
    (h : (updatePassword A updateDto req).runWith fails w = (.ok response, w')) :
    SignsOut caller.userId (caller.accessToken.map A.token.hashToken) w.sessions w'.sessions := by
  obtain ⟨account?, w₂, -, rfl⟩ := updatePassword_ok hcaller h
  have hrows := noLiveRow_revokeAll w₂ caller.userId
    ((truthy caller.accessToken).map A.token.hashToken)
  intro k hbefore hafter
  obtain ⟨token, htoken, hk⟩ := Option.map_eq_some_iff.1 (hrows.signsOut k hbefore hafter)
  rw [(truthy_eq_some_iff.1 htoken).1, Option.map_some, hk]

theorem lookUpOwner_run (token : String) :
    (lookUpOwner token).runWith fails w = (.ok (foundOwner fails token w), w) := by
  unfold lookUpOwner foundOwner
  rw [Process.runWith_tryCatch, Process.runWith_query]
  by_cases hfails : fails (.verificationFindFirst (resetIdentifier token)) = true
  · rw [if_pos hfails, if_pos hfails]
    rfl
  · rw [if_neg hfails, if_neg hfails]

/-- Using up the reset token touches no session. -/
theorem consumeResetToken_run (fails : AuthCall → Bool) (w : World) (token : String) :
    ∃ w', (consumeResetToken token).runWith fails w = (.ok (), w') ∧ w'.sessions = w.sessions := by
  unfold consumeResetToken
  rw [Process.runWith_tryCatch, Process.runWith_modify]
  by_cases hfails : fails (.verificationDeleteMany (resetIdentifier token)) = true
  · rw [if_pos hfails]
    exact ⟨w, rfl, rfl⟩
  · rw [if_neg hfails]
    exact ⟨_, rfl, rfl⟩

/-- When better-auth drops sessions of a user, the live tokens that are left are those in
other sessions. -/
theorem liveToken_deleteMany_iff {t : Sessions} {own : OwnSessions} {k : String} :
    LiveToken (t.deleteMany fun s => s.userId = userId && own s) userId k ↔
      LiveToken t userId k ∧ ∀ row, t.find? k = some row → own row = false := by
  unfold LiveToken
  rw [Table.find?_deleteMany]
  cases t.find? k with
  | none => simp
  | some row =>
      by_cases huser : row.userId = userId
      · cases hown : own row <;> simp [Option.filter, huser, hown]
      · simp [huser]

/-- After a reset the tokens of the user that its lookup found are revoked, and those of
others are as better-auth left them. -/
theorem resetPassword_signsOut_iff {own : OwnSessions} (hdrops : A.betterAuth.DropsSessions own)
    {newPassword token message : String}
    (hreset : (A.betterAuth.resetPassword newPassword token w).1 = .ok userId)
    (h : (resetPassword A newPassword token).runWith fails w = (.ok message, w')) :
    SignsOut userId none w.sessions w'.sessions ↔ foundOwner fails token w = some userId ∨
      ∀ k row, LiveToken w.sessions userId k → w.sessions.find? k = some row → own row = true := by
  have hdropped := hdrops newPassword token w userId hreset
  rw [resetPassword, Process.runWith_tryCatch_eq_ok fails fun e s => ⟨_, _, rfl⟩,
    Process.runWith_bind, lookUpOwner_run] at h
  obtain ⟨_, w₁, hcall, h⟩ := (Process.runWith_bind_eq_ok _).1 h
  obtain ⟨_, w₂, hconsume, h⟩ := (Process.runWith_bind_eq_ok _).1 h
  obtain ⟨_, w₃, hrevoke, h⟩ := (Process.runWith_bind_eq_ok _).1 h
  cases h
  have hw₁ : (A.betterAuth.resetPassword newPassword token w).2 = w₁ := by
    rw [betterAuth, Process.runWith_atomic] at hcall
    split at hcall
    · cases hcall
    · rw [hcall]
  obtain ⟨w₂', hrun, hsessions⟩ := consumeResetToken_run fails w₁ token
  rw [hconsume, Prod.mk.injEq] at hrun
  obtain ⟨-, rfl⟩ := hrun
  rw [hw₁, ← hsessions] at hdropped
  have hown : SignsOut userId none w.sessions w₂.sessions ↔
      ∀ k row, LiveToken w.sessions userId k → w.sessions.find? k = some row → own row = true := by
    rw [hdropped]
    constructor
    · intro hout k row hlive hrow
      by_contra hother
      have hleft : ∀ row', w.sessions.find? k = some row' → own row' = false := by
        intro row' hrow'
        rw [← Option.some.inj (hrow.symm.trans hrow')]
        simpa using hother
      cases hout k hlive (liveToken_deleteMany_iff.2 ⟨hlive, hleft⟩)
    · intro hall k hlive hafter
      have hfound := hlive
      obtain ⟨row, hrow, -⟩ := hfound
      have hfalse := (liveToken_deleteMany_iff.1 hafter).2 row hrow
      rw [hall k row hlive hrow] at hfalse
      cases hfalse
  cases hfound : foundOwner fails token w with
  | none =>
      rw [hfound] at hrevoke
      cases hrevoke
      rw [hown]
      simp
  | some owner =>
      rw [hfound] at hrevoke
      obtain ⟨count, w₄, hrevoked, hret⟩ := (Process.runWith_bind_eq_ok _).1 hrevoke
      cases hret
      have hnone : (truthy none).map A.token.hashToken = none := rfl
      rw [revokeAll_of_ok hrevoked, hnone]
      by_cases hsame : owner = userId
      · subst hsame
        exact iff_of_true (noLiveRow_revokeAll w₂ owner none).signsOut (.inl rfl)
      · have hunchanged : SignsOut userId none w.sessions (w₂.revokeAll owner none).sessions ↔
            SignsOut userId none w.sessions w₂.sessions := by
          unfold SignsOut
          simp only [liveToken_revokeAll_iff hsame]
        rw [hunchanged, Option.some.injEq, hown]
        exact ⟨.inr, fun h => h.resolve_left hsame⟩

/-- The password step leads to the new password, if it ends well. -/
theorem updateUserPassword_of_ok {U : UserEnv} {failsUser : UserCall → Bool} {password : Json}
    (h : (UserService.updateUserPassword U userId password).runWith failsUser w = (.ok (), w')) :
    w' = w.withPassword U userId password := by
  unfold UserService.updateUserPassword at h
  split at h
  · cases h
  obtain ⟨account?, w₁, haccount, h⟩ := (Process.runWith_bind_eq_ok _).1 h
  rw [Process.runWith_query] at haccount
  split at haccount
  · cases haccount
  cases haccount
  unfold World.withPassword
  cases haccount : w.credentialAccount userId with
  | none =>
      rw [haccount] at h
      cases h
  | some account =>
      rw [haccount] at h
      cases hhash : U.hashPassword password with
      | error e =>
          simp only [hhash] at h
          cases h
      | ok newHash =>
          simp only [hhash, Process.runWith_modify] at h
          split at h
          · cases h
          · cases h
            rfl

/-- The data of an update leave the sessions alone, but for the relation operations. -/
theorem sessions_of_userUpdate {U : UserEnv} {id : ℕ} {userData : List (String × Json)}
    (h : userUpdate U N id (sanitizedBody userData) w = .ok w') :
    NoRelationWrite userData ∧ w'.sessions = w.sessions ∨
      ¬ NoRelationWrite userData ∧ ∃ w₁, w₁.sessions = w.sessions ∧
        N id (relationWrites userData) w₁ = .ok w' := by
  unfold userUpdate at h
  cases hparse : parseUserUpdate U (sanitizedBody userData) with
  | none =>
      rw [hparse] at h
      cases h
  | some u =>
      have hrelations : u.relations = relationWrites userData :=
        (parseUserUpdate_eq_some hparse).2.2.2.2
      have hempty : (relationWrites userData).isEmpty = true ↔ NoRelationWrite userData :=
        relations_isEmpty_iff userData
      rw [hparse] at h
      dsimp only at h
      split at h
      · cases h
      split at h
      · cases h
      rw [hrelations] at h
      split at h
      next hnone =>
          cases h
          exact .inl ⟨hempty.1 hnone, rfl⟩
      next hsome => exact .inr ⟨fun hnone => hsome (hempty.2 hnone), setColumns u id w, rfl, h⟩

/-- What the update of a user leaves of the session table. -/
theorem update_sessions_of_ok {U : UserEnv} {failsUser : UserCall → Bool} {id : ℕ}
    {userData : List (String × Json)} {password : Json} {updated : User}
    (hpassword : UserService.givenPassword userData = some password)
    (h : (UserService.update U N id userData).runWith failsUser w = (.ok updated, w')) :
    NoRelationWrite userData ∧ w'.sessions = w.sessions ∨
      ¬ NoRelationWrite userData ∧ ∃ w₁, w₁.sessions = w.sessions ∧
        N id (relationWrites userData) w₁ = .ok w' := by
  have hsessions : ∀ newPassword, (w.withPassword U id newPassword).sessions = w.sessions := by
    intro newPassword
    unfold World.withPassword
    split <;> rfl
  unfold UserService.update at h
  obtain ⟨user?, w₁, hfind, h⟩ := (Process.runWith_bind_eq_ok _).1 h
  rw [Process.runWith_query] at hfind
  split at hfind
  · cases hfind
  cases hfind
  cases hrow : w.users.find? id with
  | none =>
      rw [hrow] at h
      cases h
  | some user =>
      rw [hrow] at h
      obtain ⟨_, w₂, hstep, h⟩ := (Process.runWith_bind_eq_ok _).1 h
      rw [hpassword, Table.key_of_find? hrow] at hstep
      obtain rfl := updateUserPassword_of_ok hstep
      have hwrite : (UserService.writeUpdate U N id (sanitizedBody userData) user).runWith
          failsUser (w.withPassword U id password) = (.ok updated, w') := h
      rw [← hsessions password]
      unfold UserService.writeUpdate at hwrite
      by_cases hempty : (sanitizedBody userData).isEmpty = true
      · rw [if_pos hempty] at hwrite
        cases hwrite
        have hnil : sanitizedBody userData = [] := List.isEmpty_iff.1 hempty
        exact .inl ⟨(relations_isEmpty_iff userData).1 (by rw [hnil]; rfl), rfl⟩
      · rw [if_neg hempty, Process.runWith_atomic] at hwrite
        split at hwrite
        · cases hwrite
        cases hdb : userUpdate U N id (sanitizedBody userData) (w.withPassword U id password) with
        | error e =>
            rw [hdb] at hwrite
            cases hwrite
        | ok w'' =>
            rw [hdb] at hwrite
            cases hwrite
            exact sessions_of_userUpdate hdb

/-- On each path that reports success the other tokens of the user are signed out exactly
under the condition of the path. -/
theorem passwordChange_signsOut_iff {own : OwnSessions} {ended : EndedTokens}
    (hdrops : A.betterAuth.DropsSessions own) (hnested : NestedEnd N ended)
    (change : PasswordChange) {accessToken : Option String}
    (h : change.Succeeds A N fails userId accessToken w w') :
    SignsOut userId (accessToken.map A.token.hashToken) w.sessions w'.sessions ↔
      change.EndsSessions A fails own ended userId accessToken w := by
  cases change with
  | reset newPassword token =>
      obtain ⟨rfl, hreset, message, hrun⟩ := h
      exact resetPassword_signsOut_iff hdrops hreset hrun
  | update updateDto req =>
      obtain ⟨⟨w₁, hcaller⟩, response, hrun⟩ := h
      exact iff_of_true (updatePassword_signsOut hcaller hrun) trivial
  | user id userData =>
      obtain ⟨rfl, hgiven, updated, hrun⟩ := h
      obtain ⟨password, hpassword⟩ := Option.isSome_iff_exists.1 hgiven
      unfold SignsOut PasswordChange.EndsSessions
      obtain ⟨hrelation, hsessions⟩ | ⟨hrelation, w₁, hsessions, hdb⟩ :=
        update_sessions_of_ok hpassword hrun
      · rw [hsessions]
        simp only [hrelation, not_true_eq_false, false_and, or_false]
        exact ⟨fun hout k hk => hout k hk hk, fun hall k hk _ => hall k hk⟩
      · have hleft := hnested userId (relationWrites userData) w₁ w' hdb
        rw [hsessions] at hleft
        constructor
        · intro hout k hk
          by_cases hended : k ∈ ended userId (relationWrites userData) w.sessions
          · exact .inr ⟨hrelation, hended⟩
          · exact .inl (hout k hk ((hleft k hk).2 hended))
        · intro hall k hk hafter
          exact (hall k hk).resolve_right fun hended => (hleft k hk).1 hafter hended.2

end Paths

section SignedIn

/-- The token `A` verifies as an access token, every other as a refresh token. -/
def pairEnv : TokenEnv :=
  { plainEnv with
    verify := fun raw _ => some
      { sub := 1, email := "", roles := [], gates := [],
        type := if raw = "A" then .access else .refresh, jti := 0 } }

/-- better-auth as configured: a reset goes by the verification row of its token, writes the
password and drops the cookie sessions of the user. -/
def plainBetterAuth : BetterAuth where
  signedOut := fun _ _ => false
  resetPassword := fun newPassword token w =>
    match w.resetOwner token with
    | none => (.error (.error "INVALID_TOKEN"), w)
    | some userId =>
      (.ok userId,
        { w with
          accounts := w.accounts.updateMany
            (fun a => a.userId = userId && a.providerId = "credential")
            (Account.setPassword newPassword) (Account.setPassword_id newPassword)
          sessions :=
            w.sessions.deleteMany fun s => s.userId = userId && s.tokenType = .session })
  getSession := fun _ w => (.ok none, w)
  signInEmail := fun _ _ w => (.ok none, w)
  signInSocial := fun _ w => (.ok none, w)
  sendVerificationEmail := fun _ w => (.ok (), w)

theorem plainBetterAuth_dropsSessions :
    plainBetterAuth.DropsSessions fun s => s.tokenType = .session := by
  intro newPassword token w userId h
  unfold plainBetterAuth at h ⊢
  dsimp only at h ⊢
  cases howner : w.resetOwner token with
  | none =>
      rw [howner] at h
      cases h
  | some owner =>
      rw [howner] at h
      cases h
      rfl

/-- Operations that write nothing end nothing. -/
theorem nestedEnd_nothing : NestedEnd (fun _ _ w => .ok w) fun _ _ _ => ∅ := by
  intro id relations w w' h k hlive
  cases h
  exact iff_of_true hlive (Set.notMem_empty k)

def plainAuthEnv : AuthEnv where
  token := pairEnv
  user := plainUserEnv
  betterAuth := plainBetterAuth
  verifyPassword := fun hash password => hash = password

/-- One user with a password, an access token `A` and a refresh token `R`. -/
def signedInWorld : World where
  users := Table.empty.insertNew { id := 1, email := "a@b.c", emailVerified := true }
  accounts := Table.empty.insertNew
    { id := 1, providerId := "credential", userId := 1, password := some "old" }
  sessions := (Table.empty.insertNew
    { token := "A", tokenType := .access, userId := 1, expiresAt := 900000 }).insertNew
    { token := "R", tokenType := .refresh, userId := 1, expiresAt := 2592000000 }

def bearerA : AuthHeaders where
  authorization := some "Bearer A"

def newPasswordDto : UpdatePasswordDto where
  currentPassword := "old"
  newPassword := "new1"

/-- `updatePassword` with the access token `A`. -/
theorem passwordChange_signsOut_iff_update :
    SignsOut 1 (some "A") signedInWorld.sessions
      ((updatePassword plainAuthEnv newPasswordDto bearerA).runWith (fun _ => false)
        signedInWorld).2.sessions := by
  have hcaller : ((resolveCallerUserId plainAuthEnv bearerA).runWith (fun _ => false)
      signedInWorld).1 = .ok ⟨1, some "A"⟩ := by decide +kernel
  have hupdate : ((updatePassword plainAuthEnv newPasswordDto bearerA).runWith (fun _ => false)
      signedInWorld).1 = .ok ⟨"Password has been updated successfully", 1⟩ := by decide +kernel
  have hsucceeds : (PasswordChange.update newPasswordDto bearerA).Succeeds plainAuthEnv
      (fun _ _ w => .ok w) (fun _ => false) 1 (some "A") signedInWorld
      ((updatePassword plainAuthEnv newPasswordDto bearerA).runWith (fun _ => false)
        signedInWorld).2 :=
    ⟨⟨_, Prod.ext hcaller rfl⟩, _, Prod.ext hupdate rfl⟩
  exact (passwordChange_signsOut_iff plainBetterAuth_dropsSessions nestedEnd_nothing _
    hsucceeds).2 trivial

/-- The update of user 1 with a new password. -/
def setNewPassword : UserProcess User :=
  UserService.update plainUserEnv (fun _ _ w => .ok w) 1 [("password", .str "new1")]

/-- It succeeds, writes the password, and leaves the refresh token live. -/
theorem passwordUpdate_keeps_sessions :
    (setNewPassword.run signedInWorld).1.isOk = true ∧
      ((setNewPassword.run signedInWorld).2.accounts.find? 1).bind Account.password =
        some "hash" ∧
      ¬ SignsOut 1 (some "A") signedInWorld.sessions
        (setNewPassword.run signedInWorld).2.sessions := by
  refine ⟨by decide +kernel, by decide +kernel, fun h => ?_⟩
  have hbefore : LiveToken signedInWorld.sessions 1 "R" :=
    ⟨{ token := "R", tokenType := .refresh, userId := 1, expiresAt := 2592000000 },
      by decide +kernel, rfl, by decide, rfl⟩
  have hafter : LiveToken (setNewPassword.run signedInWorld).2.sessions 1 "R" :=
    ⟨{ token := "R", tokenType := .refresh, userId := 1, expiresAt := 2592000000 },
      by decide +kernel, rfl, by decide, rfl⟩
  have hexcept : some "A" = some "R" := h "R" hbefore hafter
  revert hexcept
  decide

end SignedIn

end FifiAlert
