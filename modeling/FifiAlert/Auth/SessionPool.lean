import FifiAlert.Auth.SessionProtocol

/-!
# The code of the writers follows their protocol

Most requests only make calls that the protocol permits in every state. The
minting of a token draws an id and inserts the row before anybody else can have
used the id, and a rotation remembers its pair on the row it has claimed.
-/

namespace FifiAlert

open Concurrency Store TokenService

section Free

/-- The calls that the protocol permits in every state. -/
def SessionCall.free : SessionCall → Bool
  | .token (.sessionCreate _) => false
  | .token (.sessionUnrevoke _ _ _ _) => false
  | .token (.sessionStoreReplacement _ _ _) => false
  | _ => true

theorem SessionPermits.of_free {ι : Type*} {E : TokenEnv} {req : ι → SessionRequest} {s₀ : World}
    {l : SessionCall} (h : l.free = true) (i : ι) (w : SessionSnapshot ι) :
    SessionPermits E req s₀ i l w := by
  unfold SessionPermits
  split
  · cases h
  · cases h
  · cases h
  · trivial

/-- All calls of the process are permitted in every state. -/
abbrev FreeProcess (signedOut : SignOut) {α : Type} (p : SessionProcess α) : Prop :=
  p.Confined (fun l next => next = l.effect signedOut ∧ l.free = true) fun _ => True

abbrev FreeTokenProcess {α : Type} (p : TokenProcess α) : Prop :=
  p.Confined (fun l next => next = l.effect ∧ (SessionCall.token l).free = true) fun _ => True

theorem FreeTokenProcess.relabel {α : Type} {p : TokenProcess α} (hp : FreeTokenProcess p)
    (signedOut : SignOut) : FreeProcess signedOut (p.relabel .token) :=
  Process.Confined.relabel (hp.mono (fun _ _ h => h) fun _ => id)

variable {α : Type} {signedOut : SignOut} (E : TokenEnv)

theorem free_read {l : TokenCall} {g : World → α} (hl : id = l.effect)
    (hfree : (SessionCall.token l).free = true) :
    FreeTokenProcess (TokenService.read l g) :=
  Process.confined_query ⟨hl, hfree⟩ trivial

theorem free_write {l : TokenCall} {g : World → α} (hfree : (SessionCall.token l).free = true) :
    FreeTokenProcess (TokenService.write l g) :=
  Process.confined_modify ⟨rfl, hfree⟩ trivial

theorem revokeToken_free (token : String) : FreeTokenProcess (revokeToken E token) :=
  Process.Confined.bind (free_read (by rfl) (by rfl)) fun _ =>
    Process.Confined.bind (free_write (by rfl)) fun _ => trivial

theorem revokeAllUserTokens_free (userId : ℕ) (exceptToken : Option String) :
    FreeTokenProcess (revokeAllUserTokens E userId exceptToken) :=
  Process.Confined.bind (free_write (by rfl)) fun _ =>
    Process.Confined.bind (free_read (by rfl) (by rfl)) fun _ => free_write (by rfl)

theorem replayReplacement_free (ciphertext : String) (userId : ℕ) :
    FreeTokenProcess (replayReplacement E ciphertext userId) := by
  unfold replayReplacement
  cases decryptReplacement E ciphertext with
  | none => trivial
  | some pair =>
      dsimp only
      split
      · trivial
      refine Process.Confined.bind (free_read (by rfl) (by rfl)) fun child => ?_
      cases child with
      | none => trivial
      | some child =>
          dsimp only
          split
          · trivial
          split
          · trivial
          refine Process.Confined.bind (free_read (by rfl) (by rfl)) fun date => ?_
          split <;> trivial

theorem awaitLoop_free (tokenHash : String) (userId : ℕ) (wait : Bool) (left : ℕ)
    (ciphertext : Option String) :
    FreeTokenProcess (awaitLoop E tokenHash userId wait left ciphertext) := by
  induction left generalizing ciphertext with
  | zero =>
      unfold awaitLoop
      cases Js.truthy ciphertext with
      | some blob => exact replayReplacement_free E blob userId
      | none => cases wait <;> trivial
  | succ left ih =>
      unfold awaitLoop
      cases Js.truthy ciphertext with
      | some blob => exact replayReplacement_free E blob userId
      | none =>
          cases wait with
          | false => trivial
          | true =>
              exact Process.Confined.bind (free_read (by rfl) (by rfl)) fun _ =>
                Process.Confined.bind (free_read (by rfl) (by rfl)) fun again => ih _

/-- The end of a replay. -/
theorem answerReplay_free (replay : Option IRotatedTokens) :
    FreeTokenProcess (match replay with
      | some pair => return pair
      | none => .raise (.unauthorized "Refresh token already used") :
        TokenProcess IRotatedTokens) := by
  cases replay <;> trivial

theorem replayOrDetectReuse_free (tokenHash : String) (session : Session) :
    FreeTokenProcess (replayOrDetectReuse E tokenHash session) := by
  unfold replayOrDetectReuse
  refine Process.Confined.bind (free_read (by rfl) (by rfl)) fun date => ?_
  split
  · exact Process.Confined.bind (free_read (by rfl) (by rfl)) fun settledAt =>
      Process.Confined.bind (awaitLoop_free E _ _ _ _ _) answerReplay_free
  · exact Process.Confined.bind (revokeAllUserTokens_free E _ _) fun _ => trivial

theorem free_session_read {l : SessionCall} {g : World → α} (hl : id = l.effect signedOut)
    (hfree : l.free = true) : FreeProcess signedOut (SessionCall.read l g) :=
  Process.confined_query ⟨hl, hfree⟩ trivial

theorem free_session_write {l : SessionCall} {g : World → α} (hfree : l.free = true) :
    FreeProcess signedOut (Process.modify l (.prisma .other) (l.effect signedOut) g) :=
  Process.confined_modify ⟨rfl, hfree⟩ trivial

theorem checkBan_free (userId : ℕ) (user : User) :
    FreeProcess signedOut (checkBan signedOut userId user) := by
  unfold checkBan
  split
  · trivial
  cases user.banExpires with
  | none => trivial
  | some banExpires =>
      refine Process.Confined.bind (free_session_read (by rfl) (by rfl)) fun date => ?_
      split
      · trivial
      · exact Process.confined_atomic ⟨rfl, rfl⟩ (fun _ _ _ => trivial) trivial

theorem rethrow_free (message : String) (e : AppError) :
    FreeProcess signedOut (rethrow message e : SessionProcess α) := by
  cases e <;> trivial

theorem validateAccessToken_free (token : String) :
    FreeProcess signedOut (validateAccessToken E signedOut token) := by
  unfold validateAccessToken
  refine Process.Confined.tryCatch (T := fun _ => True) ?_ fun e _ => rethrow_free _ e
  refine Process.Confined.bind (free_session_read (by rfl) (by rfl)) fun date => ?_
  cases E.verify token date with
  | none => trivial
  | some payload =>
      dsimp only
      split
      · trivial
      refine Process.Confined.bind (free_session_read (by rfl) (by rfl)) fun found => ?_
      unfold acceptSession
      split
      · trivial
      split
      · trivial
      split
      · trivial
      · exact Process.Confined.bind (checkBan_free _ _) fun _ => trivial

theorem validateRefreshToken_free (token : String) :
    FreeProcess signedOut (validateRefreshToken E token) := by
  unfold validateRefreshToken
  refine Process.Confined.tryCatch (T := fun _ => True) ?_ fun e _ => rethrow_free _ e
  refine Process.Confined.bind (free_session_read (by rfl) (by rfl)) fun date => ?_
  cases E.verify token date with
  | none => trivial
  | some payload =>
      dsimp only
      split
      · trivial
      refine Process.Confined.bind (free_session_read (by rfl) (by rfl)) fun found => ?_
      unfold acceptRefresh
      split
      · trivial
      split <;> trivial

theorem bestEffort_free {p : SessionProcess α} (hp : FreeProcess signedOut p) :
    FreeProcess signedOut (AuthController.bestEffort p) :=
  Process.Confined.tryCatch (T := fun _ => True) (hp.map some) fun _ _ => trivial

theorem revokeGiven_free (token : Option String) :
    FreeProcess signedOut (AuthController.revokeGiven E token) := by
  cases token with
  | none => trivial
  | some token =>
      exact Process.Confined.bind (bestEffort_free ((revokeToken_free E token).relabel signedOut))
        fun _ => trivial

theorem identify_free (token : Option String) :
    FreeProcess signedOut (AuthController.identify E signedOut token) := by
  cases token with
  | none => trivial
  | some token => exact bestEffort_free (validateAccessToken_free E token)

theorem logout_free (req : AuthHeaders) (refreshToken : Option String) :
    FreeProcess signedOut (AuthController.logout E signedOut req refreshToken) := by
  unfold AuthController.logout
  refine Process.Confined.bind (identify_free E _) fun user => ?_
  refine Process.Confined.bind (revokeGiven_free E _) fun _ => ?_
  refine Process.Confined.bind (revokeGiven_free E _) fun _ => ?_
  exact Process.Confined.bind (bestEffort_free (free_session_write (by rfl))) fun _ => trivial

theorem revokeSession_free (token : String) :
    FreeProcess signedOut (AdminController.revokeSession signedOut token) :=
  Process.Confined.bind (free_session_read (by rfl) (by rfl)) fun _ =>
    Process.confined_atomic ⟨rfl, rfl⟩ (fun _ _ _ => trivial) trivial

theorem cleanupExpiredTokens_free :
    FreeProcess signedOut (TokenCleanupService.cleanupExpiredTokens signedOut) := by
  unfold TokenCleanupService.cleanupExpiredTokens
  refine Process.Confined.bind (free_session_read (by rfl) (by rfl)) fun now => ?_
  refine Process.Confined.bind (free_session_write (by rfl)) fun _ => ?_
  refine Process.Confined.bind (free_session_write (by rfl)) fun _ => ?_
  exact Process.Confined.bind (free_session_write (by rfl)) fun _ => trivial

theorem cleanupExpiredBans_free :
    FreeProcess signedOut (TokenCleanupService.cleanupExpiredBans signedOut) :=
  Process.Confined.bind (free_session_read (by rfl) (by rfl)) fun _ => free_session_write (by rfl)

theorem deleteExpired_free :
    FreeProcess signedOut (TokenService.cleanupExpiredTokens signedOut) :=
  Process.Confined.bind (free_session_read (by rfl) (by rfl)) fun _ => free_session_write (by rfl)

end Free

section Rules

variable {ι : Type*} {E : TokenEnv} {signedOut : SignOut} {req : ι → SessionRequest} {s₀ : World}
  {clock : Time → Time → Prop} {fails : SessionCall → Prop}
  {admits : ι → SessionCall → SessionSnapshot ι → Prop} {i : ι}

/-- Thread `i` has drawn the id, and no row is signed with it. -/
def DrewFresh (E : TokenEnv) (i : ι) (n : ℕ) (w : SessionSnapshot ι) : Prop :=
  .drew i n ∈ w.marks ∧ ∀ j row p e t, .created j row ∈ w.marks →
    row.token = E.hashToken (E.sign p e t) → p.jti ≠ n

/-- What interference keeps for thread `i`: the marks made so far, and that nobody signs with an
id of the thread. -/
structure LaterSession (E : TokenEnv) (i : ι) (w w' : SessionSnapshot ι) : Prop where
  marks : ∀ m ∈ w.marks, m ∈ w'.marks
  fresh : ∀ n, DrewFresh E i n w → DrewFresh E i n w'

theorem LaterSession.refl (w : SessionSnapshot ι) : LaterSession E i w w :=
  ⟨fun _ => id, fun _ => id⟩

theorem LaterSession.trans {w₁ w₂ w₃ : SessionSnapshot ι} (h : LaterSession E i w₁ w₂)
    (h' : LaterSession E i w₂ w₃) : LaterSession E i w₁ w₃ :=
  ⟨fun m hm => h'.marks m (h.marks m hm), fun n hn => h'.fresh n (h.fresh n hn)⟩

/-- One permitted call of another thread. -/
theorem LaterSession.of_call {j : ι} (hij : j ≠ i) {l : SessionCall} {w : SessionSnapshot ι}
    (hE : E.Lawful) (hinv : SessionInv E req s₀ w) (h : SessionPermits E req s₀ j l w) :
    LaterSession E i w (w.after SessionMark.of j l (l.effect signedOut)) where
  marks := fun _ => Snapshot.mem_after_of_mem
  fresh := by
    rintro n ⟨hdrew, hfresh⟩
    refine ⟨Snapshot.mem_after_of_mem hdrew, fun j' row p e t hm hrow hn => ?_⟩
    rcases Snapshot.mem_after.1 hm with hnew | hold
    · obtain ⟨rfl, rfl, -⟩ := SessionMark.of_eq_created hnew
      obtain ⟨p', e', t', hsigned, hdrew'⟩ := MayInsert.signed h
      have hjti : p.jti = p'.jti :=
        hE.jti_of_sign (hE.hashToken_injective (hrow.symm.trans hsigned))
      rw [← hjti, hn] at hdrew'
      exact hij (hinv.drewOnce j i n hdrew' hdrew)
    · exact hfresh j' row p e t hold hrow hn

theorem LaterSession.of_interference (hE : E.Lawful) {w w' : SessionSnapshot ι}
    (h : Relation.ReflTransGen
      ((sessionProtocol E signedOut req s₀ clock fails admits).Interference i) w w') :
    LaterSession E i w w' := by
  induction h with
  | refl => exact .refl w
  | tail _ hs ih =>
      refine ih.trans ?_
      cases hs with
      | call j hij hc =>
          cases hc with
          | mk l hinv hper _ => exact .of_call hij hE hinv hper
      | env _ _ => exact ⟨fun _ => id, fun _ => id⟩

variable (signedOut req s₀ clock fails admits) in
/-- Safety under the contract of the session protocol. -/
abbrev SessionSafe (E : TokenEnv) {α : Type} (i : ι)
    (Q : Except AppError α → SessionSnapshot ι → Prop) (p : SessionProcess α)
    (w : SessionSnapshot ι) : Prop :=
  Safe (sessionProtocol E signedOut req s₀ clock fails admits).contract i Q p w

variable {α β : Type} {Q : Except AppError β → SessionSnapshot ι → Prop} {w : SessionSnapshot ι}

theorem session_ret (hE : E.Lawful) {b : β} (h : ∀ w', LaterSession E i w w' → Q (.ok b) w') :
    SessionSafe signedOut req s₀ clock fails admits E i Q (.ret b) w :=
  Safe.ret fun w' hr _ => h w' (.of_interference hE hr)

theorem session_raise {e : AppError} (h : ∀ w', Q (.error e) w') :
    SessionSafe signedOut req s₀ clock fails admits E i Q (.raise e) w :=
  Safe.raise fun w' _ _ => h w'

/-- A call that the protocol permits, or that fails. -/
theorem session_call (hE : E.Lawful) {l : SessionCall} {next : World → World}
    {rest : World → SessionProcess β} {fault : SessionProcess β}
    (hnext : next = l.effect signedOut)
    (h : ∀ w', LaterSession E i w w' → SessionInv E req s₀ w' → SessionPermits E req s₀ i l w' ∧
      SessionSafe signedOut req s₀ clock fails admits E i Q (rest w'.state)
        (w'.after SessionMark.of i l (l.effect signedOut)))
    (hfault : ∀ w', LaterSession E i w w' →
      SessionSafe signedOut req s₀ clock fails admits E i Q fault w') :
    SessionSafe signedOut req s₀ clock fails admits E i Q (.call l next rest fault) w := by
  refine Protocol.safe_call hnext fun w' hr hi => ⟨fun _ => ?_, fun _ => ?_⟩
  · obtain ⟨hper, hrest⟩ := h w' (.of_interference hE hr) hi
    exact ⟨hper, fun _ => hrest⟩
  · exact hfault w' (.of_interference hE hr)

/-- A read by the token service. -/
theorem session_read (hE : E.Lawful) {l : TokenCall} {g : World → α} {k : α → SessionProcess β}
    (hmark : ∀ s, SessionMark.of i (.token l) s = none)
    (h : ∀ w', LaterSession E i w w' → SessionInv E req s₀ w' →
      SessionSafe signedOut req s₀ clock fails admits E i Q (k (g w'.state)) w')
    (herr : ∀ e w', Q (.error e) w') :
    SessionSafe signedOut req s₀ clock fails admits E i Q
      ((TokenService.read l g).relabel .token >>= k) w :=
  Safe.query_bind hmark (fun w' hr hi _ => h w' (.of_interference hE hr) hi)
    fun _ => session_raise (herr _)

/-- A write by the token service. -/
theorem session_write (hE : E.Lawful) {l : TokenCall} {g : World → α} {k : α → SessionProcess β}
    (h : ∀ w', LaterSession E i w w' → SessionInv E req s₀ w' →
      SessionPermits E req s₀ i (.token l) w' ∧
        SessionSafe signedOut req s₀ clock fails admits E i Q (k (g w'.state))
          (w'.after SessionMark.of i (.token l) (SessionCall.effect signedOut (.token l))))
    (herr : ∀ e w', Q (.error e) w') :
    SessionSafe signedOut req s₀ clock fails admits E i Q
      ((TokenService.write l g).relabel .token >>= k) w :=
  session_call hE rfl h fun _ _ => session_raise (herr _)

/-- A process whose calls are all permitted keeps the marks. -/
theorem session_free {p : SessionProcess β} (hp : FreeProcess signedOut p)
    (hok : ∀ b w', (∀ m ∈ w.marks, m ∈ w'.marks) → Q (.ok b) w') (herr : ∀ e w', Q (.error e) w') :
    SessionSafe signedOut req s₀ clock fails admits E i Q p w := by
  have hsafe := Protocol.safe_of_permitted
    (P := sessionProtocol E signedOut req s₀ clock fails admits) (i := i)
    (J := fun w' => ∀ m ∈ w.marks, m ∈ w'.marks) (w := w)
    (hp.mono (fun _ _ h => ⟨h.1, fun w => SessionPermits.of_free h.2 i w⟩) fun _ => id)
    (fun _ _ _ _ _ _ h m hm => Snapshot.mem_after_of_mem (h m hm)) (fun _ _ _ _ _ => id)
    fun _ => id
  refine hsafe.mono ?_
  rintro r w' - ⟨hmarks, -⟩
  cases r with
  | ok b => exact hok b w' hmarks
  | error e => exact herr e w'

/-- A fresh row is inserted; the branch for a duplicate token is never taken. -/
theorem storeTokenInSession_permitted (hE : E.Lawful)
    {Q : Except AppError Unit → SessionSnapshot ι → Prop} {token : String} {userId : ℕ}
    {tokenType : TokenType} {expiresAt : Time} {ipAddress userAgent : Option String}
    {row : Session} (ht : tokenType ≠ .session)
    (hrow : row =
      { token := E.hashToken token, tokenType, userId, expiresAt, ipAddress, userAgent })
    (hmay : ∀ w', LaterSession E i w w' → SessionInv E req s₀ w' → MayInsert E req i row w')
    (hok : ∀ w', (∀ m ∈ w.marks, m ∈ w'.marks) → .created i row ∈ w'.marks → Q (.ok ()) w')
    (herr : ∀ e w', Q (.error e) w') :
    SessionSafe signedOut req s₀ clock fails admits E i Q
      ((storeTokenInSession E token userId tokenType expiresAt ipAddress userAgent).relabel .token)
      w := by
  unfold storeTokenInSession
  simp only [ht, if_false, ← hrow, Process.relabel_tryCatch]
  refine Safe.tryCatch (session_call hE rfl (fun w₁ hl₁ hi₁ => ?_) fun w₁ hl₁ => ?_)
  · have hnow := hmay w₁ hl₁ hi₁
    refine ⟨hnow, ?_⟩
    simp only [hnow.new]
    refine session_ret hE fun w₂ hl₂ => hok w₂ (fun m hm => ?_) (hl₂.marks _ ?_)
    · exact hl₂.marks m (Snapshot.mem_after_of_mem (hl₁.marks m hm))
    · exact Snapshot.mem_after.2 (.inl (by simp [SessionMark.of, hnow.new]))
  · exact Safe.raise fun w₂ hr₂ _ => session_raise (herr _)

/-- Minting a token draws one id and inserts one row. -/
theorem generateToken_permitted (hE : E.Lawful)
    {Q : Except AppError (String × Time) → SessionSnapshot ι → Prop} {duration : String}
    {payload : ℕ → IJwtPayload} {ipAddress userAgent : Option String}
    (hpayload : ∀ n, (payload n).type ≠ .session ∧ (payload n).jti = n)
    (hclaimed : ∀ raw ip ua, req i = .rotate raw ip ua → .claimed i (E.hashToken raw) ∈ w.marks)
    (hok : ∀ w' row token expiresAt, (∀ m ∈ w.marks, m ∈ w'.marks) → .created i row ∈ w'.marks →
      row.token = E.hashToken token → Q (.ok (token, expiresAt)) w')
    (herr : ∀ e w', Q (.error e) w') :
    SessionSafe signedOut req s₀ clock fails admits E i Q
      ((generateToken E duration payload ipAddress userAgent).relabel .token) w := by
  unfold generateToken
  cases durationToSeconds duration with
  | error e => exact session_raise (herr _)
  | ok seconds =>
      dsimp only [dateNow]
      simp only [Process.relabel_bind]
      refine session_read hE (fun _ => rfl) (fun w₁ hl₁ _ => ?_) herr
      refine session_write hE (fun w₂ hl₂ hi₂ => ⟨trivial, ?_⟩) herr
      refine session_read hE (fun _ => rfl) (fun w₃ hl₃ hi₃ => ?_) herr
      obtain ⟨htype, hjti⟩ := hpayload w₂.state.nextUUID
      have hdrew : DrewFresh E i w₂.state.nextUUID w₃ := by
        refine hl₃.fresh _ ⟨Snapshot.mem_after.2 (.inl rfl), fun j row p e t hm hrow hn => ?_⟩
        rcases Snapshot.mem_after.1 hm with hnew | hold
        · cases hnew
        · obtain ⟨p', e', t', hsigned, hdrew'⟩ := hi₂.signed j row hold
          have hsame : p.jti = p'.jti :=
            hE.jti_of_sign (hE.hashToken_injective (hrow.symm.trans hsigned))
          exact absurd (hi₂.drawn j p'.jti hdrew').2 (by rw [← hsame, hn]; exact lt_irrefl _)
      have hmarks : ∀ m ∈ w.marks, m ∈ w₃.marks := fun m hm =>
        hl₃.marks m (Snapshot.mem_after_of_mem (hl₂.marks m (hl₁.marks m hm)))
      obtain ⟨row, hrow⟩ : ∃ row : Session, row =
          { token := E.hashToken (E.sign (payload w₂.state.nextUUID) seconds w₃.state.now),
            tokenType := (payload w₂.state.nextUUID).type,
            userId := (payload w₂.state.nextUUID).sub,
            expiresAt := w₁.state.now + seconds * 1000, ipAddress, userAgent } := ⟨_, rfl⟩
      have htoken : row.token =
          E.hashToken (E.sign (payload w₂.state.nextUUID) seconds w₃.state.now) := hrow ▸ rfl
      refine Safe.bind (storeTokenInSession_permitted hE htype hrow (fun w₄ hl₄ hi₄ => ?_)
        (fun w₄ hm₄ hcreated => ?_) herr)
      · have hdrew₄ := hl₄.fresh _ hdrew
        have hfirst : ∀ j row', .created j row' ∈ w₄.marks → row'.token ≠ row.token :=
          fun j row' hm he => hdrew₄.2 j row' _ _ _ hm (he.trans htoken) hjti
        refine
          { new := ?_
            unrevoked := hrow ▸ rfl
            noPair := hrow ▸ rfl
            signed := ⟨_, _, _, htoken, hjti.symm ▸ hdrew₄.1⟩
            first := hfirst
            claimed := fun raw ip ua hreq => hl₄.marks _ (hmarks _ (hclaimed raw ip ua hreq)) }
        cases hold : w₄.state.sessions.find? row.token with
        | none => rfl
        | some row' =>
            rcases hi₄.spent row.token row' hold _ _ _ htoken with hlt | ⟨j, row'', hm, he⟩
            · rw [hjti] at hlt
              exact absurd hlt (not_lt.2 (hi₄.drawn i _ hdrew₄.1).1)
            · exact (hfirst j row'' hm he).elim
      · exact session_ret hE fun w₅ hl₅ =>
          hok w₅ row _ _ (fun m hm => hl₅.marks m (hm₄ m (hmarks m hm)))
            (hl₅.marks _ hcreated) htoken

variable (signedOut req s₀ clock fails admits) in
/-- The protocol permits the calls of the process. -/
abbrev Follows (E : TokenEnv) (i : ι) (p : SessionProcess α) (w : SessionSnapshot ι) : Prop :=
  SessionSafe signedOut req s₀ clock fails admits E i (fun _ _ => True) p w

theorem FreeProcess.follows {p : SessionProcess α} (hp : FreeProcess signedOut p)
    (w : SessionSnapshot ι) : Follows signedOut req s₀ clock fails admits E i p w :=
  session_free hp (fun _ _ _ => trivial) fun _ _ => trivial

/-- After its claim a thread remembers the pair it mints on the claimed row. -/
theorem mintReplacement_follows (hE : E.Lawful) {tokenHash : String} (session : Session)
    (ipAddress userAgent : Option String) (hclaim : .claimed i tokenHash ∈ w.marks)
    (hclaimed : ∀ raw ip ua, req i = .rotate raw ip ua →
      .claimed i (E.hashToken raw) ∈ w.marks) :
    Follows signedOut req s₀ clock fails admits E i
      ((mintReplacement E tokenHash session ipAddress userAgent).relabel .token) w := by
  unfold mintReplacement
  rw [Process.relabel_bind]
  refine session_read hE (fun _ => rfl) (fun w₁ hl₁ _ => ?_) fun _ _ => trivial
  cases w₁.state.findUserWithRoles session.userId with
  | none => exact session_raise fun _ => trivial
  | some user =>
      dsimp only
      simp only [Process.relabel_bind, generateAccessToken, generateRefreshToken]
      refine Safe.bind (generateToken_permitted hE (fun _ => ⟨nofun, rfl⟩)
        (fun raw ip ua hreq => hl₁.marks _ (hclaimed raw ip ua hreq))
        (fun w₂ access token expiresAt hm₂ _ _ => ?_) fun _ _ => trivial)
      refine Safe.bind (generateToken_permitted hE (fun _ => ⟨nofun, rfl⟩)
        (fun raw ip ua hreq => hm₂ _ (hl₁.marks _ (hclaimed raw ip ua hreq)))
        (fun w₃ refresh token' expiresAt' hm₃ hcreated htoken' => ?_) fun _ _ => trivial)
      refine Safe.bind ?_
      unfold storeReplacement
      dsimp only
      rw [Process.relabel_tryCatch, Process.relabel_bind]
      refine Safe.tryCatch (session_call hE rfl (fun w₄ hl₄ _ => ⟨trivial, ?_⟩) fun w₄ _ =>
        session_raise fun _ => session_ret hE fun _ _ => session_ret hE fun _ _ => trivial)
      refine session_call hE rfl (fun w₅ hl₅ _ => ⟨?_, ?_⟩) fun w₅ _ => ?_
      · have hmarks : ∀ m ∈ w₃.marks, m ∈ w₅.marks := fun m hm =>
          hl₅.marks m (Snapshot.mem_after_of_mem (hl₄.marks m hm))
        refine ⟨hmarks _ (hm₃ _ (hm₂ _ (hl₁.marks _ hclaim))), fun pair hpair => ?_⟩
        rw [hE.decrypt_encrypt, Option.some.injEq] at hpair
        subst hpair
        exact fun _ _ _ _ => .inr ⟨i, refresh, hmarks _ hcreated, htoken'⟩
      · dsimp only
        cases w₅.state.sessions.find? tokenHash with
        | some row => exact session_ret hE fun _ _ => session_ret hE fun _ _ => trivial
        | none =>
            exact session_raise fun _ => session_ret hE fun _ _ => session_ret hE fun _ _ => trivial
      · exact session_raise fun _ => session_ret hE fun _ _ => session_ret hE fun _ _ => trivial

/-- A thread whose claim finds the row unrevoked mints, any other waits for the pair. -/
theorem claimAndMint_follows (hE : E.Lawful) {rawToken : String}
    {ipAddress userAgent : Option String} (hreq : req i = .rotate rawToken ipAddress userAgent)
    (session : Session) (w : SessionSnapshot ι) :
    Follows signedOut req s₀ clock fails admits E i
      ((claimAndMint E (E.hashToken rawToken) session ipAddress userAgent).relabel .token) w := by
  unfold claimAndMint
  dsimp only [dateNow]
  simp only [Process.relabel_bind]
  refine session_read hE (fun _ => rfl) (fun w₁ _ _ => ?_) fun _ _ => trivial
  refine session_write hE (fun w₂ _ _ => ⟨trivial, ?_⟩) fun _ _ => trivial
  rw [count_live]
  cases hlive : (w₂.state.sessions.find? (E.hashToken rawToken)).any fun row => !row.revoked with
  | false =>
      have hfree := Process.Confined.bind (awaitLoop_free E (E.hashToken rawToken)
        session.userId true REPLAY_WAIT_ATTEMPTS none) answerReplay_free
      exact (FreeTokenProcess.relabel hfree signedOut).follows _
  | true =>
      have hclaim : .claimed i (E.hashToken rawToken) ∈ (w₂.after SessionMark.of i
          (.token (.sessionClaim (E.hashToken rawToken) w₁.state.now))
          (SessionCall.effect signedOut (.token
            (.sessionClaim (E.hashToken rawToken) w₁.state.now)))).marks :=
        Snapshot.mem_after.2 (.inl (if_pos hlive))
      refine mintReplacement_follows hE session _ _ hclaim fun raw ip ua hreq' => ?_
      rw [hreq, SessionRequest.rotate.injEq] at hreq'
      exact hreq'.1 ▸ hclaim

theorem rotateRefreshToken_follows (hE : E.Lawful) {rawToken : String}
    {ipAddress userAgent : Option String} (hreq : req i = .rotate rawToken ipAddress userAgent)
    (w : SessionSnapshot ι) :
    Follows signedOut req s₀ clock fails admits E i
      ((rotateRefreshToken E rawToken ipAddress userAgent).relabel .token) w := by
  unfold rotateRefreshToken
  dsimp only [dateNow]
  rw [Process.relabel_bind]
  refine session_read hE (fun _ => rfl) (fun w₁ _ _ => ?_) fun _ _ => trivial
  cases E.verify rawToken w₁.state.now with
  | none => exact session_raise fun _ => trivial
  | some payload =>
      dsimp only
      split
      · exact session_raise fun _ => trivial
      rw [Process.relabel_bind]
      refine session_read hE (fun _ => rfl) (fun w₂ _ _ => ?_) fun _ _ => trivial
      cases w₂.state.sessions.find? (E.hashToken rawToken) with
      | none => exact session_raise fun _ => trivial
      | some session =>
          dsimp only
          split
          · exact session_raise fun _ => trivial
          split
          · exact ((replayOrDetectReuse_free E _ _).relabel signedOut).follows w₂
          · exact claimAndMint_follows hE hreq session w₂

/-- Outside of a rotation a token may be generated in any state. -/
theorem generateToken_follows (hE : E.Lawful) {duration : String} {payload : ℕ → IJwtPayload}
    {ipAddress userAgent : Option String} {w : SessionSnapshot ι}
    (hpayload : ∀ n, (payload n).type ≠ .session ∧ (payload n).jti = n)
    (hreq : ∀ raw ip ua, req i ≠ .rotate raw ip ua) :
    Follows signedOut req s₀ clock fails admits E i
      ((generateToken E duration payload ipAddress userAgent).relabel .token) w :=
  generateToken_permitted hE hpayload (fun raw ip ua hrotate => absurd hrotate (hreq raw ip ua))
    (fun _ _ _ _ _ _ _ => trivial) fun _ _ => trivial

theorem SessionRequest.process_follows (hE : E.Lawful) (i : ι) (w : SessionSnapshot ι) :
    Follows signedOut req s₀ clock fails admits E i ((req i).process E signedOut) w := by
  cases hreq : req i with
  | generateAccess user ipAddress userAgent =>
      exact Safe.map (generateToken_follows hE (fun _ => ⟨nofun, rfl⟩) fun _ _ _ => hreq ▸ nofun)
  | generateRefresh user ipAddress userAgent =>
      exact Safe.map (generateToken_follows hE (fun _ => ⟨nofun, rfl⟩) fun _ _ _ => hreq ▸ nofun)
  | rotate rawToken ipAddress userAgent => exact Safe.map (rotateRefreshToken_follows hE hreq w)
  | revoke token =>
      exact Safe.map (((revokeToken_free E token).relabel signedOut).follows w)
  | revokeAll userId exceptToken =>
      exact Safe.map (((revokeAllUserTokens_free E userId exceptToken).relabel signedOut).follows w)
  | revokeSession tokenHash => exact Safe.map ((revokeSession_free tokenHash).follows w)
  | deleteExpired => exact Safe.map (deleteExpired_free.follows w)
  | cleanupTokens => exact Safe.map (cleanupExpiredTokens_free.follows w)
  | cleanupBans => exact Safe.map (cleanupExpiredBans_free.follows w)
  | validateAccess token => exact Safe.map ((validateAccessToken_free E token).follows w)
  | validateRefresh token => exact Safe.map ((validateRefreshToken_free E token).follows w)
  | logout req refreshToken => exact Safe.map ((logout_free E req refreshToken).follows w)

end Rules

/-- A pool of requests that has not started yet. -/
def sessionPool {ι : Type*} (E : TokenEnv) (signedOut : SignOut) (s₀ : World)
    (req : ι → SessionRequest) :
    Config ι World SessionCall AppError SessionAnswer (SessionMark ι) :=
  Config.init s₀ fun i => (req i).process E signedOut

/-- Every pool of requests follows the protocol. -/
theorem sessionPool_sound {ι : Type*} {E : TokenEnv} (hE : E.Lawful) (signedOut : SignOut)
    {s₀ : World} (hfresh : FreshIds E s₀) (req : ι → SessionRequest)
    (clock : Time → Time → Prop) (fails : SessionCall → Prop)
    (admits : ι → SessionCall → SessionSnapshot ι → Prop) :
    Sound (sessionProtocol E signedOut req s₀ clock fails admits).contract (fun _ _ _ => True)
      (sessionPool E signedOut s₀ req) :=
  ⟨SessionInv.init req hfresh, fun i => SessionRequest.process_follows hE i _⟩

end FifiAlert
