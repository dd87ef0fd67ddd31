import FifiAlert.Auth.RevokeAll

/-!
# What a rotation answers when it runs alone

The outcome of `rotateRefreshToken` as a function of the state it finds: a token
that does not verify, has no row or is not a refresh token is refused; an
unrevoked row is claimed and a pair minted; a revoked row gives its stored pair
again within the grace window, and ends all sessions of the user after it.
-/

namespace FifiAlert

open Concurrency Store TokenService

section Replay

/-- May the pair be given to the user again: its refresh token is live. -/
def World.pairLive (E : TokenEnv) (w : World) (userId : ℕ) (pair : IRotatedTokens) : Bool :=
  pair.userId = userId &&
    (w.sessions.find? (E.hashToken pair.refreshToken)).any fun child =>
      child.tokenType = .refresh && !child.revoked && w.now < child.expiresAt

/-- The stored pair of a row, while its refresh token is live. -/
def World.replay (E : TokenEnv) (w : World) (session : Session) : Option IRotatedTokens :=
  (Js.truthy session.replacementCiphertext).bind fun blob =>
    (decryptReplacement E blob).filter (w.pairLive E session.userId)

theorem World.userId_of_replay {E : TokenEnv} {w : World} {session : Session}
    {pair : IRotatedTokens} (h : w.replay E session = some pair) :
    pair.userId = session.userId := by
  obtain ⟨blob, -, hpair⟩ := Option.bind_eq_some_iff.1 h
  have hlive := (Option.filter_eq_some_iff.1 hpair).2
  simp only [World.pairLive, Bool.and_eq_true, decide_eq_true_eq] at hlive
  exact hlive.1

/-- Is the revocation of the row at most the grace window ago? -/
def Session.inGrace (E : TokenEnv) (now : Time) (session : Session) : Bool :=
  ((now - session.revokedAt.getD 0 : ℤ) : ℚ) ≤ reuseGraceSeconds E * 1000

variable (E : TokenEnv) (w : World)

theorem replayReplacement_run (blob : String) (userId : ℕ) :
    (replayReplacement E blob userId).run w =
      (.ok ((decryptReplacement E blob).filter (w.pairLive E userId)), w) := by
  unfold replayReplacement
  cases hd : decryptReplacement E blob with
  | none => rfl
  | some pair =>
      dsimp only
      rw [Option.filter_some, World.pairLive]
      by_cases hu : pair.userId = userId
      · rw [if_neg (not_not.2 hu)]
        simp only [TokenService.read, TokenService.dateNow, Process.run_query_bind]
        cases hchild : w.sessions.find? (E.hashToken pair.refreshToken) with
        | none => simp
        | some child =>
            dsimp only
            by_cases htype : child.tokenType = .refresh
            · by_cases hrev : child.revoked = true
              · simp [htype, hrev]
              · by_cases hexp : child.expiresAt ≤ w.now
                · simp [htype, hrev, hexp, not_lt.2 hexp]
                · simp [htype, hrev, hexp, not_le.1 hexp, hu]
            · simp [htype]
      · simp [hu]

variable {w} {tokenHash : String} {session : Session}

theorem awaitLoop_run (hrow : w.sessions.find? tokenHash = some session) (wait : Bool) (left : ℕ) :
    (awaitLoop E tokenHash session.userId wait left session.replacementCiphertext).run w =
      (.ok (w.replay E session), w) := by
  induction left with
  | zero =>
      unfold awaitLoop World.replay
      cases Js.truthy session.replacementCiphertext with
      | some blob => exact replayReplacement_run E w blob session.userId
      | none => cases wait <;> rfl
  | succ left ih =>
      unfold awaitLoop World.replay
      cases ht : Js.truthy session.replacementCiphertext with
      | some blob => exact replayReplacement_run E w blob session.userId
      | none =>
          cases wait with
          | false => rfl
          | true =>
              simp only [Bool.not_true, Bool.false_eq_true, if_false, TokenService.read,
                Process.run_query_bind, hrow, Option.bind_some]
              rw [ih]
              simp [World.replay, ht]

/-- Waiting for the pair of a row that nobody writes gives the pair that is there. -/
theorem awaitReplacement_run (hrow : w.sessions.find? tokenHash = some session) (wait : Bool) :
    (awaitReplacement E tokenHash session.userId session.replacementCiphertext wait).run w =
      (.ok (w.replay E session), w) :=
  awaitLoop_run E hrow wait _

/-- The state after all tokens of a user have been revoked. -/
def World.revokeAll (w : World) (userId : ℕ) (exceptHash : Option String) : World :=
  (TokenCall.sessionRevokeAll userId exceptHash w.now).effect
    ((TokenCall.sessionDropReplacements userId).effect w)

theorem World.find?_revokeAll (w : World) (userId : ℕ) (exceptHash : Option String) (k : String) :
    (w.revokeAll userId exceptHash).sessions.find? k =
      ((w.sessions.find? k).map (TokenCall.sessionDropReplacements userId).onRow).map
        (TokenCall.sessionRevokeAll userId exceptHash w.now).onRow := by
  rw [World.revokeAll, TokenCall.find?_effect (by simp), TokenCall.find?_effect (by simp)]

theorem revokeAllUserTokens_run (w : World) (userId : ℕ) (exceptToken : Option String) :
    ∃ count, (revokeAllUserTokens E userId exceptToken).run w =
      (.ok count, w.revokeAll userId ((Js.truthy exceptToken).map E.hashToken)) :=
  ⟨_, rfl⟩

theorem noLiveRow_revokeAll (w : World) (userId : ℕ) (exceptHash : Option String) :
    NoLiveRow userId exceptHash (w.revokeAll userId exceptHash).sessions :=
  noLiveRow_updateMany _ userId exceptHash w.now

/-- A rotation that finds its row revoked. -/
theorem replayOrDetectReuse_run (hrow : w.sessions.find? tokenHash = some session) :
    (replayOrDetectReuse E tokenHash session).run w =
      if session.inGrace E w.now then
        match w.replay E session with
        | some pair => (.ok pair, w)
        | none => (.error (.unauthorized "Refresh token already used"), w)
      else (.error (.refreshTokenReuse session.userId), w.revokeAll session.userId none) := by
  unfold replayOrDetectReuse
  simp only [TokenService.dateNow, TokenService.read, Process.run_query_bind]
  by_cases hgrace : session.inGrace E w.now = true
  · have hle : ((w.now - session.revokedAt.getD 0 : ℤ) : ℚ) ≤ reuseGraceSeconds E * 1000 := by
      simpa [Session.inGrace] using hgrace
    rw [if_pos hle, if_pos hgrace, Process.run_query_bind,
      Process.run_bind_ok (awaitReplacement_run E hrow _)]
    cases w.replay E session <;> rfl
  · have hlt : ¬ ((w.now - session.revokedAt.getD 0 : ℤ) : ℚ) ≤ reuseGraceSeconds E * 1000 := by
      simpa [Session.inGrace] using hgrace
    obtain ⟨count, hcount⟩ := revokeAllUserTokens_run E w session.userId none
    rw [if_neg hlt, if_neg hgrace, Process.run_bind_ok hcount]
    rfl

end Replay

section Mint

variable (E : TokenEnv) (w : World) (ipAddress userAgent : Option String)

/-- Storing a token always succeeds: a token that is there already is overwritten. -/
theorem storeTokenInSession_run (token : String) (userId : ℕ) (tokenType : TokenType)
    (expiresAt : Time) :
    ∃ w', (storeTokenInSession E token userId tokenType expiresAt ipAddress userAgent).run w =
      (.ok (), w') ∧ w'.users = w.users := by
  unfold storeTokenInSession createSession updateSession
  dsimp only
  rw [Process.run_tryCatch, Process.run_atomic]
  cases hrow : w.sessions.find? (if tokenType = .session then token else E.hashToken token) with
  | none => exact ⟨_, rfl, rfl⟩
  | some row =>
      simp only [if_true, Process.run_atomic]
      rw [TokenCall.effect, Table.insertNew_of_some hrow, hrow]
      exact ⟨_, rfl, rfl⟩

/-- Minting a token succeeds when the configured duration is valid. -/
theorem generateToken_run {duration : String} {payload : ℕ → IJwtPayload} {seconds : ℕ}
    (h : durationToSeconds duration = .ok seconds) :
    ∃ minted w', (generateToken E duration payload ipAddress userAgent).run w = (.ok minted, w') ∧
      w'.users = w.users := by
  unfold generateToken
  rw [h]
  simp only [TokenService.dateNow, TokenService.read, TokenService.write, Process.run_query_bind,
    Process.run_modify_bind]
  obtain ⟨w', hstore, husers⟩ := storeTokenInSession_run E
    ((TokenCall.effect .randomUUID) w) ipAddress userAgent
    (E.sign (payload w.nextUUID) seconds w.now) (payload w.nextUUID).sub (payload w.nextUUID).type
    (w.now + seconds * 1000)
  exact ⟨_, w', Process.run_bind_ok hstore _, husers⟩

theorem generateToken_run_error {duration : String} {payload : ℕ → IJwtPayload} {e : AppError}
    (h : durationToSeconds duration = .error e) :
    (generateToken E duration payload ipAddress userAgent).run w = (.error e, w) := by
  unfold generateToken
  rw [h]
  rfl

/-- Both configured lifetimes are durations. -/
def TokenEnv.lifetimesValid (E : TokenEnv) : Bool :=
  (durationToSeconds (Js.orDefault E.JWT_ACCESS_EXPIRATION DEFAULT_ACCESS_EXPIRATION)).isOk &&
    (durationToSeconds (Js.orDefault E.JWT_REFRESH_EXPIRATION DEFAULT_REFRESH_EXPIRATION)).isOk

/-- What follows the minting of a pair is reached exactly when both lifetimes are valid. -/
theorem generatePair_run {α : Type} (user : UserWithRoles)
    (k : String × Time → String × Time → TokenProcess α) :
    (E.lifetimesValid = true → ∃ access refresh w',
      (do
        let access ← generateAccessToken E user ipAddress userAgent
        let refresh ← generateRefreshToken E user ipAddress userAgent
        k access refresh).run w = (k access refresh).run w') ∧
    (E.lifetimesValid = false → ∃ e w',
      (do
        let access ← generateAccessToken E user ipAddress userAgent
        let refresh ← generateRefreshToken E user ipAddress userAgent
        k access refresh).run w = (.error e, w')) := by
  unfold TokenEnv.lifetimesValid
  cases haccess : durationToSeconds
      (Js.orDefault E.JWT_ACCESS_EXPIRATION DEFAULT_ACCESS_EXPIRATION) with
  | error e =>
      refine ⟨fun h => by simp at h, fun _ => ⟨e, w, ?_⟩⟩
      exact Process.run_bind_error (generateToken_run_error E w ipAddress userAgent haccess) _
  | ok seconds =>
      obtain ⟨access, w₁, hrun, -⟩ := generateToken_run E w ipAddress userAgent haccess
      cases hrefresh : durationToSeconds
          (Js.orDefault E.JWT_REFRESH_EXPIRATION DEFAULT_REFRESH_EXPIRATION) with
      | error e =>
          refine ⟨fun h => by simp at h, fun _ => ⟨e, w₁, ?_⟩⟩
          rw [generateAccessToken, Process.run_bind_ok hrun]
          exact Process.run_bind_error
            (generateToken_run_error E w₁ ipAddress userAgent hrefresh) _
      | ok seconds' =>
          refine ⟨fun _ => ?_, fun h => by simp at h⟩
          obtain ⟨refresh, w₂, hrun', -⟩ := generateToken_run E w₁ ipAddress userAgent hrefresh
          refine ⟨access, refresh, w₂, ?_⟩
          rw [generateAccessToken, Process.run_bind_ok hrun]
          exact Process.run_bind_ok hrun' _

/-- A login ends with a pair exactly when both lifetimes are valid. -/
theorem issueTokens_ok_iff (user : UserWithRoles) :
    (∃ pair w', (issueTokens E user ipAddress userAgent).run w = (.ok pair, w')) ↔
      E.lifetimesValid = true := by
  constructor
  · rintro ⟨pair, w', h⟩
    by_contra hvalid
    obtain ⟨e, w'', herror⟩ := (generatePair_run E w ipAddress userAgent user _).2
      (by simpa using hvalid)
    exact absurd (h.symm.trans herror) (by simp)
  · intro hvalid
    obtain ⟨access, refresh, w', hrun⟩ := (generatePair_run E w ipAddress userAgent user _).1 hvalid
    exact ⟨_, w', hrun⟩

end Mint

section Rotation

variable (E : TokenEnv) (w : World) (ipAddress userAgent : Option String)
  {tokenHash raw : String} {session : Session}

variable (tokenHash) in
theorem storeReplacement_run (pair : IRotatedTokens) :
    ∃ w', (storeReplacement E tokenHash pair).run w = (.ok (), w') := by
  unfold storeReplacement updateSession
  dsimp only
  rw [Process.run_tryCatch, TokenService.write, Process.run_modify_bind, Process.run_atomic]
  cases (TokenCall.randomBytes.effect w).sessions.find? tokenHash with
  | none => exact ⟨_, rfl⟩
  | some row => exact ⟨_, rfl⟩

variable (tokenHash session) in
/-- After its claim a rotation answers exactly when the user is still there and both lifetimes
are valid. -/
theorem mintReplacement_run :
    ((w.users.find? session.userId).isSome ∧ E.lifetimesValid = true →
      ∃ pair w', (mintReplacement E tokenHash session ipAddress userAgent).run w =
        (.ok pair, w') ∧ pair.userId = session.userId) ∧
    (¬ ((w.users.find? session.userId).isSome ∧ E.lifetimesValid = true) →
      ∃ e w', (mintReplacement E tokenHash session ipAddress userAgent).run w =
        (.error e, w')) := by
  unfold mintReplacement
  simp only [TokenService.read, Process.run_query_bind]
  cases huser : w.users.find? session.userId with
  | none => simp [World.findUserWithRoles, huser]
  | some row =>
      obtain ⟨user, hfind, hid⟩ : ∃ user, w.findUserWithRoles session.userId = some user ∧
          user.user.id = session.userId := by
        simp [World.findUserWithRoles, huser, Table.key_of_find? huser]
      rw [hfind]
      dsimp only
      constructor
      · rintro ⟨-, hvalid⟩
        obtain ⟨access, refresh, w', hrun⟩ :=
          (generatePair_run E w ipAddress userAgent user _).1 hvalid
        rw [hrun]
        obtain ⟨w'', hstore⟩ := storeReplacement_run E w' tokenHash _
        exact ⟨_, w'', Process.run_bind_ok hstore _, congrArg Nat.cast hid⟩
      · intro hvalid
        exact (generatePair_run E w ipAddress userAgent user _).2 (by simpa using hvalid)

/-- The state after an unrevoked row has been claimed. -/
def World.claim (w : World) (tokenHash : String) : World :=
  (TokenCall.sessionClaim tokenHash w.now).effect w

theorem claimAndMint_run (hrow : w.sessions.find? tokenHash = some session)
    (hlive : session.revoked = false) :
    (claimAndMint E tokenHash session ipAddress userAgent).run w =
      (mintReplacement E tokenHash session ipAddress userAgent).run (w.claim tokenHash) := by
  unfold claimAndMint
  simp only [TokenService.dateNow, TokenService.read, TokenService.write, Process.run_query_bind,
    Process.run_modify_bind]
  rw [count_live, hrow, Option.any_some, hlive]
  rfl

/-- The row of a refresh token that verifies. -/
def World.refreshRow (E : TokenEnv) (w : World) (raw : String) : Option Session :=
  (E.verify raw w.now).bind fun payload =>
    if payload.type = .refresh then
      (w.sessions.find? (E.hashToken raw)).filter fun session => session.tokenType = .refresh
    else none

theorem World.refreshRow_eq_some_iff {E : TokenEnv} {w : World} :
    w.refreshRow E raw = some session ↔
      (E.verify raw w.now).any (fun payload => payload.type = .refresh) = true ∧
        w.sessions.find? (E.hashToken raw) = some session ∧ session.tokenType = .refresh := by
  unfold World.refreshRow
  cases E.verify raw w.now with
  | none => simp
  | some payload =>
      by_cases htype : payload.type = .refresh <;> simp [htype, Option.filter_eq_some_iff]

theorem World.refreshRow_eq_none {E : TokenEnv} {w : World}
    (h : w.sessions.find? (E.hashToken raw) = none) : w.refreshRow E raw = none := by
  cases hsession : w.refreshRow E raw with
  | none => rfl
  | some session =>
      obtain ⟨-, hrow, -⟩ := World.refreshRow_eq_some_iff.1 hsession
      rw [h] at hrow
      cases hrow

theorem rotateRefreshToken_run_none (h : w.refreshRow E raw = none) :
    ∃ message, (rotateRefreshToken E raw ipAddress userAgent).run w =
      (.error (.unauthorized message), w) := by
  unfold rotateRefreshToken
  simp only [TokenService.dateNow, TokenService.read, Process.run_query_bind]
  unfold World.refreshRow at h
  cases hverify : E.verify raw w.now with
  | none => exact ⟨_, rfl⟩
  | some payload =>
      dsimp only
      by_cases htype : payload.type = .refresh
      · rw [if_neg (not_not.2 htype), Process.run_query_bind]
        cases hrow : w.sessions.find? (E.hashToken raw) with
        | none => exact ⟨_, rfl⟩
        | some session =>
            have hne : session.tokenType ≠ .refresh := by
              simpa [hverify, htype, hrow, Option.filter_some] using h
            dsimp only
            exact ⟨_, by rw [if_pos hne]; rfl⟩
      · exact ⟨_, by rw [if_pos htype]; rfl⟩

/-- A token that does not verify as a refresh token is refused whatever the tables hold. -/
theorem rotateRefreshToken_run_unverified
    (h : (E.verify raw w.now).any (fun payload => payload.type = .refresh) = false) :
    (rotateRefreshToken E raw ipAddress userAgent).run w =
      (.error (.unauthorized (if (E.verify raw w.now).isSome then "Invalid token type"
        else "Invalid or expired refresh token")), w) := by
  unfold rotateRefreshToken
  simp only [TokenService.dateNow, TokenService.read, Process.run_query_bind]
  cases hverify : E.verify raw w.now with
  | none => rfl
  | some payload =>
      have htype : payload.type ≠ .refresh := by simpa [hverify] using h
      dsimp only
      rw [if_pos htype]
      rfl

/-- A rotation goes by the row of the token. -/
theorem rotateRefreshToken_run_some (h : w.refreshRow E raw = some session) :
    (rotateRefreshToken E raw ipAddress userAgent).run w =
      if session.revoked then (replayOrDetectReuse E (E.hashToken raw) session).run w
      else (claimAndMint E (E.hashToken raw) session ipAddress userAgent).run w := by
  obtain ⟨hverify, hrow, hrefresh⟩ := World.refreshRow_eq_some_iff.1 h
  obtain ⟨payload, hpayload, htype⟩ := (Option.any_eq_true _ _).1 hverify
  unfold rotateRefreshToken
  simp only [TokenService.dateNow, TokenService.read, Process.run_query_bind]
  rw [hpayload]
  dsimp only
  rw [if_neg (not_not.2 (by simpa using htype)), Process.run_query_bind, hrow]
  dsimp only
  rw [if_neg (not_not.2 hrefresh)]
  by_cases hrev : session.revoked = true
  · rw [if_pos hrev, if_pos hrev]
  · rw [if_neg hrev, if_neg hrev]

/-- When a rotation answers with a pair: the row is live, its user is there and both lifetimes
are valid, or the row was revoked within the grace window and its stored pair is live. -/
def World.Rotates (E : TokenEnv) (w : World) (raw : String) (userId : ℕ) : Prop :=
  ∃ session, w.refreshRow E raw = some session ∧ session.userId = userId ∧
    if session.revoked then session.inGrace E w.now ∧ (w.replay E session).isSome
    else (w.users.find? userId).isSome ∧ E.lifetimesValid = true

theorem rotateRefreshToken_ok_iff {userId : ℕ} :
    (∃ pair w', (rotateRefreshToken E raw ipAddress userAgent).run w = (.ok pair, w') ∧
      pair.userId = userId) ↔ w.Rotates E raw userId := by
  cases hsession : w.refreshRow E raw with
  | none =>
      obtain ⟨message, hrun⟩ := rotateRefreshToken_run_none E w ipAddress userAgent hsession
      simp [World.Rotates, hsession, hrun]
  | some session =>
      obtain ⟨-, hrow, -⟩ := World.refreshRow_eq_some_iff.1 hsession
      simp only [World.Rotates, hsession, Option.some.injEq, exists_eq_left']
      rw [rotateRefreshToken_run_some E w ipAddress userAgent hsession]
      by_cases hrev : session.revoked = true
      · rw [if_pos hrev, if_pos hrev, replayOrDetectReuse_run E hrow]
        by_cases hgrace : session.inGrace E w.now = true
        · rw [if_pos hgrace]
          cases hreplay : w.replay E session with
          | none => simp
          | some pair => simp [hgrace, World.userId_of_replay hreplay]
        · simp [hgrace]
      · have hlive : session.revoked = false := by simpa using hrev
        have husers : (w.claim (E.hashToken raw)).users = w.users := rfl
        rw [if_neg hrev, if_neg hrev, claimAndMint_run E w ipAddress userAgent hrow hlive]
        obtain ⟨hok, herror⟩ := mintReplacement_run E (w.claim (E.hashToken raw)) ipAddress
          userAgent (E.hashToken raw) session
        rw [husers] at hok herror
        by_cases hmint : (w.users.find? session.userId).isSome ∧ E.lifetimesValid = true
        · obtain ⟨pair, w', hrun, hid⟩ := hok hmint
          rw [hrun]
          constructor
          · rintro ⟨pair', w'', heq, huser⟩
            obtain rfl : pair = pair' := by simpa using (Prod.mk.inj heq).1
            have huser : session.userId = userId := by exact_mod_cast hid.symm.trans huser
            exact ⟨huser, huser ▸ hmint⟩
          · rintro ⟨rfl, -⟩
            exact ⟨pair, w', rfl, hid⟩
        · obtain ⟨e, w', hrun⟩ := herror hmint
          rw [hrun]
          constructor
          · rintro ⟨pair, w'', heq, -⟩
            simp at heq
          · rintro ⟨rfl, h⟩
            exact absurd h hmint

end Rotation

end FifiAlert
