import FifiAlert.Auth.PasswordChange
import FifiAlert.Auth.TokenCleanup

/-!
# The device that changed the password

`updatePassword` excepts the access token it was made with from the revocation,
not the refresh token that was issued with it. That one is revoked like any
other, without a pair to replay: presented within the grace window it is
refused, and after it the whole user is signed out, with the excepted access
token (`updatePassword_endsDevice`).
-/

namespace FifiAlert

open Concurrency Store TokenService AuthController

section Unchanged

/-- The session table and the clock are as before. -/
def SameSessions (w w' : World) : Prop :=
  w'.sessions = w.sessions ∧ w'.now = w.now

theorem SameSessions.refl (w : World) : SameSessions w w := ⟨rfl, rfl⟩

theorem SameSessions.trans {w₁ w₂ w₃ : World} (h : SameSessions w₁ w₂) (h' : SameSessions w₂ w₃) :
    SameSessions w₁ w₃ :=
  ⟨h'.1.trans h.1, h'.2.trans h.2⟩

/-- No call of the process touches the session table or the clock. -/
abbrev LeavesSessions {ℓ α : Type} (p : Process World ℓ AppError α) : Prop :=
  p.Confined (fun _ f => ∀ w, SameSessions w (f w)) fun _ => True

theorem LeavesSessions.runWith {ℓ α : Type} {p : Process World ℓ AppError α}
    (hp : LeavesSessions p) (fails : ℓ → Bool) (w : World) :
    SameSessions w (p.runWith fails w).2 :=
  hp.runWith_kept SameSessions.refl (fun _ _ _ => SameSessions.trans) fails w

/-- Validating an access token may lift a ban, and no more. -/
theorem validateAccessToken_leavesSessions (E : TokenEnv) (signedOut : SignOut) (token : String) :
    LeavesSessions (validateAccessToken E signedOut token) :=
  validateAccessToken_confined SameSessions.refl (fun _ => SameSessions.refl)
    (fun _ _ => ⟨rfl, rfl⟩) E token

end Unchanged

section Device

variable {A : AuthEnv} {fails : AuthCall → Bool} {w w₁ w' : World}

/-- A caller who is known by an access token presented it. -/
theorem resolveCallerUserId_sameSessions {req : AuthHeaders} {userId : ℕ} {accessToken : String}
    (h : (resolveCallerUserId A req).runWith fails w = (.ok ⟨userId, some accessToken⟩, w₁)) :
    SameSessions w w₁ := by
  unfold resolveCallerUserId at h
  cases hbearer : bearerFromRequest req with
  | some token =>
      rw [hbearer] at h
      dsimp only at h
      rw [callerOfBearer, Process.runWith_tryCatch_eq_ok fails fun e s => ⟨_, _, rfl⟩] at h
      obtain ⟨decoded, w₂, hvalid, hret⟩ := (Process.runWith_bind_eq_ok _).1 h
      cases hret
      rw [Process.runWith_relabel] at hvalid
      have hsame := (validateAccessToken_leavesSessions A.token A.betterAuth.signedOut
        accessToken).runWith (fun l => fails (.session l)) w
      rw [hvalid] at hsame
      exact hsame
  | none =>
      rw [hbearer] at h
      dsimp only at h
      cases hcookie : Js.truthy req.cookie with
      | none =>
          rw [hcookie] at h
          cases h
      | some cookie =>
          rw [hcookie] at h
          obtain ⟨session, w₂, -, hret⟩ := (Process.runWith_bind_eq_ok _).1 h
          cases session <;> cases hret

theorem replacePassword_leavesSessions (A : AuthEnv) (updateDto : UpdatePasswordDto)
    (account? : Option Account) : LeavesSessions (replacePassword A updateDto account?) := by
  cases account? with
  | none => trivial
  | some account =>
      unfold replacePassword
      dsimp only
      cases Js.truthy account.password with
      | none => trivial
      | some password =>
          dsimp only
          split
          · trivial
          cases A.user.hashPassword (.str updateDto.newPassword) with
          | error e => trivial
          | ok newHash => exact Process.confined_modify (fun _ => ⟨rfl, rfl⟩) trivial

/-- A change of password by bearer token revokes and does nothing else to the sessions. -/
theorem updatePassword_revokes {updateDto : UpdatePasswordDto} {req : AuthHeaders} {userId : ℕ}
    {accessToken : String} {response : UpdatePasswordResponse}
    (hcaller : (resolveCallerUserId A req).runWith fails w =
      (.ok ⟨userId, some accessToken⟩, w₁))
    (h : (updatePassword A updateDto req).runWith fails w = (.ok response, w')) :
    ∃ w₂, SameSessions w w₂ ∧ w' = w₂.revokeAll userId
      ((Js.truthy (some accessToken)).map A.token.hashToken) := by
  obtain ⟨account?, w₂, hreplace, hrevoked⟩ := updatePassword_ok hcaller h
  have hkept := (replacePassword_leavesSessions A updateDto account?).runWith fails w₁
  rw [hreplace] at hkept
  exact ⟨w₂, (resolveCallerUserId_sameSessions hcaller).trans hkept, hrevoked⟩

/-- What the revocation of all tokens of a user makes of a live row of theirs. -/
theorem revokeAll_liveRow {k : String} {row : Session} {exceptHash : Option String}
    (hrow : w.sessions.find? k = some row) (hlive : row.revoked = false)
    (hexcept : exceptHash ≠ some k) :
    ∃ row', (w.revokeAll row.userId exceptHash).sessions.find? k = some row' ∧
      row'.userId = row.userId ∧ row'.tokenType = row.tokenType ∧ row'.revoked = true ∧
      row'.revokedAt = some w.now ∧ row'.replacementCiphertext = none := by
  obtain ⟨s, hs, hsuser, hstype, hslive, hstoken, hspair⟩ : ∃ s,
      (TokenCall.sessionDropReplacements row.userId).onRow row = s ∧ s.userId = row.userId ∧
        s.tokenType = row.tokenType ∧ s.revoked = false ∧ s.token = k ∧
        s.replacementCiphertext = none := by
    refine ⟨_, rfl, by simp, by simp, ?_, by simp [Table.key_of_find? hrow], ?_⟩
    · simp only [TokenCall.onRow]
      split <;> exact hlive
    · cases hpair : row.replacementCiphertext <;> simp [TokenCall.onRow, hpair]
  have hliveOf : Session.liveOf row.userId exceptHash s = true := by
    cases exceptHash with
    | none => simp [Session.liveOf, hsuser, hslive]
    | some e =>
        have hne : k ≠ e := fun h => hexcept (congrArg some h.symm)
        simp [Session.liveOf, hsuser, hslive, hstoken, hne]
  refine ⟨s.revoke w.now, ?_, hsuser, hstype, rfl, rfl, hspair⟩
  rw [World.find?_revokeAll, hrow, Option.map_some, hs, Option.map_some, TokenCall.onRow,
    if_pos hliveOf]

/-- A rotation that finds its row revoked without a pair is refused, and ends all sessions of the
user once the grace window is over. -/
theorem rotateRefreshToken_run_bare {E : TokenEnv} {raw : String} {row : Session}
    (ipAddress userAgent : Option String) (hrow : w.sessions.find? (E.hashToken raw) = some row)
    (htype : row.tokenType = .refresh) (hrev : row.revoked = true)
    (hbare : row.replacementCiphertext = none) :
    (∀ pair, ((rotateRefreshToken E raw ipAddress userAgent).run w).1 ≠ .ok pair) ∧
      ((E.verify raw w.now).any (fun payload => payload.type = .refresh) = true →
        row.inGrace E w.now = false → ReuseDetected E w raw row.userId ipAddress userAgent) := by
  cases hverify : (E.verify raw w.now).any fun payload => payload.type = .refresh with
  | false =>
      rw [rotateRefreshToken_run_unverified E w ipAddress userAgent hverify]
      exact ⟨by simp, by simp⟩
  | true =>
      have hsession : w.refreshRow E raw = some row :=
        World.refreshRow_eq_some_iff.2 ⟨hverify, hrow, htype⟩
      have hreplay : w.replay E row = none := by
        rw [World.replay, hbare]
        rfl
      rw [ReuseDetected, rotateRefreshToken_run_some E w ipAddress userAgent hsession, if_pos hrev,
        replayOrDetectReuse_run E hrow]
      cases hgrace : row.inGrace E w.now with
      | true =>
          rw [if_pos rfl, hreplay]
          exact ⟨by simp, by simp⟩
      | false =>
          rw [if_neg Bool.false_ne_true]
          exact ⟨by simp, fun _ _ => ⟨_, rfl, noLiveRow_revokeAll w _ none⟩⟩

/-- After a change of password made with an access token the refresh token of the same device
never gives a pair. Once the grace window is over, presenting it ends all sessions of the user. -/
theorem updatePassword_endsDevice {updateDto : UpdatePasswordDto} {req : AuthHeaders} {userId : ℕ}
    {accessToken raw : String} {response : UpdatePasswordResponse} {access refresh : Session}
    (haccess : w.sessions.find? (A.token.hashToken accessToken) = some access)
    (haccessType : access.tokenType = .access)
    (hrefresh : w.sessions.find? (A.token.hashToken raw) = some refresh)
    (hrefreshType : refresh.tokenType = .refresh) (huser : refresh.userId = userId)
    (hlive : refresh.revoked = false)
    (hcaller : (resolveCallerUserId A req).runWith fails w =
      (.ok ⟨userId, some accessToken⟩, w₁))
    (h : (updatePassword A updateDto req).runWith fails w = (.ok response, w'))
    (ipAddress userAgent : Option String) (t : Time) :
    (∀ pair, ((rotateRefreshToken A.token raw ipAddress userAgent).run (w'.atTime t)).1 ≠
        .ok pair) ∧
      ((A.token.verify raw t).any (fun payload => payload.type = .refresh) = true →
        reuseGraceSeconds A.token * 1000 < ((t - w.now : ℤ) : ℚ) →
          ReuseDetected A.token (w'.atTime t) raw userId ipAddress userAgent) := by
  obtain ⟨w₂, ⟨hsessions, hnow⟩, rfl⟩ := updatePassword_revokes hcaller h
  have hexcept : (Js.truthy (some accessToken)).map A.token.hashToken ≠
      some (A.token.hashToken raw) := by
    intro hsame
    obtain ⟨token, htoken, hhash⟩ := Option.map_eq_some_iff.1 hsame
    cases (Js.truthy_eq_some_iff.1 htoken).1
    rw [hhash, hrefresh] at haccess
    cases haccess
    rw [hrefreshType] at haccessType
    cases haccessType
  subst huser
  obtain ⟨row, hrow, hrowUser, hrowType, hrev, hat, hbare⟩ :=
    revokeAll_liveRow (hsessions ▸ hrefresh) hlive hexcept
  obtain ⟨hrefused, hreuse⟩ := rotateRefreshToken_run_bare ipAddress userAgent
    (w := (w₂.revokeAll refresh.userId _).atTime t) hrow (hrowType.trans hrefreshType) hrev hbare
  refine ⟨hrefused, fun hverify hlate => hrowUser ▸ hreuse hverify ?_⟩
  rw [Session.inGrace, hat, hnow]
  exact decide_eq_false (Rat.not_le.2 hlate)

end Device

section Evicted

/-- User 1 after changing the password with the access token `A`. -/
def changedWorld : World :=
  ((updatePassword plainAuthEnv newPasswordDto bearerA).runWith (fun _ => false) signedInWorld).2

/-- Ten minutes after the change the refresh token of the device is presented. -/
theorem updatePassword_endsDevice_tenMinutes :
    (∀ pair, ((rotateRefreshToken pairEnv "R" none none).run (changedWorld.atTime 600000)).1 ≠
        .ok pair) ∧
      ReuseDetected pairEnv (changedWorld.atTime 600000) "R" 1 none none := by
  have hcaller : ((resolveCallerUserId plainAuthEnv bearerA).runWith (fun _ => false)
      signedInWorld).1 = .ok ⟨1, some "A"⟩ := by decide +kernel
  have hupdate : ((updatePassword plainAuthEnv newPasswordDto bearerA).runWith (fun _ => false)
      signedInWorld).1 = .ok ⟨"Password has been updated successfully", 1⟩ := by decide +kernel
  have haccess : signedInWorld.sessions.find? "A" =
      some { token := "A", tokenType := .access, userId := 1, expiresAt := 900000 } := by
    decide +kernel
  have hrefresh : signedInWorld.sessions.find? "R" =
      some { token := "R", tokenType := .refresh, userId := 1, expiresAt := 2592000000 } := by
    decide +kernel
  obtain ⟨hrefused, hreuse⟩ := updatePassword_endsDevice (A := plainAuthEnv) haccess rfl hrefresh
    rfl rfl rfl (Prod.ext hcaller rfl) (Prod.ext hupdate rfl) none none 600000
  exact ⟨hrefused, hreuse (by decide +kernel) (by decide +kernel)⟩

/-- The refresh token has weeks to live. It gives no pair, and with it goes the access token
that the change was to keep. -/
theorem updatePassword_evicts_device :
    ((updatePassword plainAuthEnv newPasswordDto bearerA).runWith (fun _ => false)
        signedInWorld).1.isOk = true ∧
      (changedWorld.sessions.find? "A").any (fun s => !s.revoked) = true ∧
      (pairEnv.verify "R" 600000).isSome = true ∧
      ((rotateRefreshToken pairEnv "R" none none).run (changedWorld.atTime 600000)).1 =
        .error (.refreshTokenReuse 1) ∧
      (((rotateRefreshToken pairEnv "R" none none).run
        (changedWorld.atTime 600000)).2.sessions.find? "A").any (fun s => s.revoked) = true := by
  decide +kernel

end Evicted

end FifiAlert
