import FifiAlert.Auth.RevocationPermanent
import FifiAlert.Auth.RotationOutcome

/-!
# Logout and the replay of a rotated token

A token that is presented after a logout can still be answered from the pair
that an earlier rotation remembered on its row. The logout revokes the presented
token only, so this answer is closed exactly as far as the row it revokes has no
live pair: a dead pair stays dead, and a row never gets another pair but from a
rotation that is still under way.
-/

namespace FifiAlert

open Concurrency Store TokenService

section Replayable

/-- Would a rotation that finds the row be answered from its stored pair? -/
def World.replayable (E : TokenEnv) (w : World) (session : Session) : Bool :=
  session.revoked && session.inGrace E w.now && (w.replay E session).isSome

/-- The row, if it is there, is revoked and not answered from. -/
def World.ReplayClosed (E : TokenEnv) (k : String) (w : World) : Prop :=
  ∀ row ∈ w.sessions.find? k, row.revoked = true ∧ w.replayable E row = false

/-- What has to hold when a call is made, for the logout of `r` with the token of hash `k` to
close the replay: the logout does not find the row revoked with a live pair within the grace
window; afterwards no rotation that is still under way remembers a live pair on the row, and no
administrator opens the window of a row with a live pair again. -/
def LogoutCloses {ι : Type*} (E : TokenEnv) (r : ι) (k : String) (i : ι) :
    SessionCall → SessionSnapshot ι → Prop
  | .token (.sessionRevoke token _), w =>
      i = r → token = k → ∀ row ∈ w.state.sessions.find? k, w.state.replayable E row = false
  | .token (.sessionStoreReplacement token _ blob), w =>
      .revoked r k ∈ w.marks → token = k → ∀ row ∈ w.state.sessions.find? k,
        w.state.replay E { row with replacementCiphertext := some blob } = none
  | .sessionRevokeById token date, w =>
      .revoked r k ∈ w.marks → token = k → ∀ row ∈ w.state.sessions.find? k,
        w.state.replayable E (row.revoke date) = false
  | _, _ => True

end Replayable

section Call

variable {ι : Type*} {E : TokenEnv} {signedOut : SignOut} {req : ι → SessionRequest} {s₀ : World}
  {r i : ι} {l : SessionCall} {w : SessionSnapshot ι} {k : String}

/-- A pair whose refresh token is spent does not come to life. -/
theorem SessionInv.pairLive_of_call (hinv : SessionInv E req s₀ w)
    (h : SessionPermits E req s₀ i l w) {userId : ℕ} {pair : IRotatedTokens}
    (hspent : Spent E s₀ (E.hashToken pair.refreshToken) w)
    (hlive : (l.effect signedOut w.state).pairLive E userId pair = true) :
    w.state.pairLive E userId pair = true := by
  simp only [World.pairLive, Bool.and_eq_true, Option.any_eq_true, SessionCall.now_effect,
    decide_eq_true_eq, Bool.not_eq_true'] at hlive ⊢
  obtain ⟨huser, child', hchild', ⟨htype, hrev⟩, hexp⟩ := hlive
  refine ⟨huser, ?_⟩
  rcases h.row_origin hchild' with ⟨child, hchild, rfl⟩ | ⟨-, htoken, hmay⟩
  · refine ⟨child, hchild, ⟨?_, ?_⟩, ?_⟩
    · rwa [SessionCall.tokenType_onRow] at htype
    · by_contra hne
      rw [SessionCall.revoked_onRow h.not_unrevoke (by simpa using hne)] at hrev
      cases hrev
    · rwa [SessionCall.expiresAt_onRow h.not_unrevoke] at hexp
  · exact (hmay.ne_of_spent hinv hspent htoken).elim

/-- The pair on the row, if there is one, is made of spent tokens. -/
def SpentPair (E : TokenEnv) (s₀ : World) (session : Session) (w : SessionSnapshot ι) : Prop :=
  ∀ b pair, session.replacementCiphertext = some b → decryptReplacement E b = some pair →
    Spent E s₀ (E.hashToken pair.refreshToken) w

/-- A row without a live pair does not get one by what becomes of other rows. -/
theorem SessionInv.replay_of_call (hinv : SessionInv E req s₀ w)
    (h : SessionPermits E req s₀ i l w) {session : Session} (hspent : SpentPair E s₀ session w)
    (hnone : w.state.replay E session = none) :
    (l.effect signedOut w.state).replay E session = none := by
  cases hreplay : (l.effect signedOut w.state).replay E session with
  | none => rfl
  | some pair =>
      obtain ⟨b, hb, hpair⟩ := Option.bind_eq_some_iff.1 hreplay
      obtain ⟨hdecrypt, hlive⟩ := Option.filter_eq_some_iff.1 hpair
      have hblob : session.replacementCiphertext = some b := (Js.truthy_eq_some_iff.1 hb).1
      have hold : w.state.replay E session = some pair :=
        Option.bind_eq_some_iff.2 ⟨b, hb, Option.filter_eq_some_iff.2
          ⟨hdecrypt, hinv.pairLive_of_call h (hspent b pair hblob hdecrypt) hlive⟩⟩
      rw [hnone] at hold
      cases hold

theorem World.replayable_of_replay {s : World} {session : Session}
    (h : s.replay E session = none) : s.replayable E session = false := by
  simp [World.replayable, h]

theorem SessionInv.replayable_of_call (hinv : SessionInv E req s₀ w)
    (h : SessionPermits E req s₀ i l w) {session : Session} (hspent : SpentPair E s₀ session w)
    (hclosed : w.state.replayable E session = false) :
    (l.effect signedOut w.state).replayable E session = false := by
  cases hreplay : w.state.replay E session with
  | none => exact World.replayable_of_replay (hinv.replay_of_call h hspent hreplay)
  | some pair =>
      have hstale : (session.revoked && session.inGrace E w.state.now) = false := by
        simpa [World.replayable, hreplay] using hclosed
      rw [World.replayable, SessionCall.now_effect, hstale, Bool.false_and]

/-- What a call makes of a revoked row: nothing, unless it drops the pair, remembers one, or
revokes the row by hand. -/
theorem SessionCall.onRow_of_revoked (hl : ∀ k e ip ua, l ≠ .token (.sessionUnrevoke k e ip ua))
    {row : Session} (hrev : row.revoked = true) :
    l.onRow row = row ∨ l.onRow row = row.dropReplacement ∨
      (∃ pair blob, l = .token (.sessionStoreReplacement row.token pair blob) ∧
        l.onRow row = { row with replacementCiphertext := some blob }) ∨
      ∃ date, l = .sessionRevokeById row.token date ∧ l.onRow row = row.revoke date := by
  cases l with
  | token l =>
      cases l with
      | sessionUnrevoke k e ip ua => exact (hl k e ip ua rfl).elim
      | sessionStoreReplacement token pair blob =>
          by_cases ht : row.token = token
          · subst ht
            exact .inr (.inr (.inl ⟨pair, blob, rfl, if_pos rfl⟩))
          · exact .inl (if_neg ht)
      | sessionDropReplacements userId =>
          by_cases hd : (row.userId = userId && row.replacementCiphertext.isSome) = true
          · exact .inr (.inl (if_pos hd))
          · exact .inl (if_neg hd)
      | _ => exact .inl (by simp [onRow, TokenCall.onRow, Session.live, Session.liveOf, hrev])
  | sessionDropStale graceCutoff =>
      by_cases hd : row.staleReplacement graceCutoff = true
      · exact .inr (.inl (if_pos hd))
      · exact .inl (if_neg hd)
  | sessionRevokeById token date =>
      by_cases ht : row.token = token
      · subst ht
        exact .inr (.inr (.inr ⟨date, rfl, if_pos rfl⟩))
      · exact .inl (if_neg ht)
  | _ => exact .inl rfl

/-- After the logout: the token is spent, its revocation is on record, and its row is not answered
from. -/
structure LoggedOut (E : TokenEnv) (s₀ : World) (r : ι) (k : String) (w : SessionSnapshot ι) :
    Prop where
  spent : Spent E s₀ k w
  marked : .revoked r k ∈ w.marks
  closed : w.state.ReplayClosed E k

/-- The row that a call leaves under the hash, as it stands before the call. -/
theorem LoggedOut.row_of_call (hk : LoggedOut E s₀ r k w) (hinv : SessionInv E req s₀ w)
    (h : SessionPermits E req s₀ i l w) (hcloses : LogoutCloses E r k i l w)
    (hpaired : PairsSpent E s₀ w) {row' : Session}
    (hrow' : (l.effect signedOut w.state).sessions.find? k = some row') :
    ∃ row, w.state.sessions.find? k = some row ∧ row'.userId = row.userId ∧
      SpentPair E s₀ row' w ∧ row'.revoked = true ∧ w.state.replayable E row' = false ∧
      (w.state.replay E row = none → w.state.replay E row' = none) := by
  rcases h.row_origin hrow' with ⟨row, hrow, rfl⟩ | ⟨-, htoken, hmay⟩
  · obtain ⟨hrev, hstale⟩ := hk.closed row hrow
    have htoken : row.token = k := Table.key_of_find? hrow
    have hspent : SpentPair E s₀ (l.onRow row) w := by
      intro b pair hb hdecrypt
      rcases SessionCall.replacement_onRow hb with hold | ⟨stored, rfl⟩
      · exact hpaired k row b pair hrow hold hdecrypt
      · exact MayRemember.spent h pair hdecrypt
    refine ⟨row, hrow, SessionCall.userId_onRow l row, hspent,
      SessionCall.revoked_onRow h.not_unrevoke hrev, ?_⟩
    rcases SessionCall.onRow_of_revoked h.not_unrevoke hrev with
      hsame | hdrop | ⟨pair, blob, rfl, hstore⟩ | ⟨date, rfl, hrevoke⟩
    · rw [hsame]
      exact ⟨hstale, id⟩
    · rw [hdrop]
      have hnone : w.state.replay E row.dropReplacement = none := rfl
      exact ⟨World.replayable_of_replay hnone, fun _ => hnone⟩
    · rw [hstore]
      have hnone := hcloses hk.marked htoken row hrow
      exact ⟨World.replayable_of_replay hnone, fun _ => hnone⟩
    · rw [hrevoke]
      exact ⟨hcloses hk.marked htoken row hrow, id⟩
  · exact (hmay.ne_of_spent hinv hk.spent htoken).elim

/-- The step lemma of the closed replay. -/
theorem LoggedOut.call (hk : LoggedOut E s₀ r k w) (hinv : SessionInv E req s₀ w)
    (h : SessionPermits E req s₀ i l w) (hcloses : LogoutCloses E r k i l w)
    (hpaired : PairsSpent E s₀ w) :
    LoggedOut E s₀ r k (w.after SessionMark.of i l (l.effect signedOut)) where
  spent := hk.spent.after
  marked := Snapshot.mem_after_of_mem hk.marked
  closed := by
    intro row' hrow'
    obtain ⟨row, -, -, hspent, hrev, hstale, -⟩ := hk.row_of_call hinv h hcloses hpaired hrow'
    exact ⟨hrev, hinv.replayable_of_call h hspent hstale⟩

/-- The revocation by the logout closes the replay. -/
theorem LoggedOut.of_revoke (hk : Spent E s₀ k w) (hinv : SessionInv E req s₀ w) {date : Time}
    (hcloses : LogoutCloses E r k r (.token (.sessionRevoke k date)) w)
    (hpaired : PairsSpent E s₀ w) (hbare : PairsOnRevoked w.state) :
    LoggedOut E s₀ r k (w.after SessionMark.of r (.token (.sessionRevoke k date))
      (SessionCall.effect signedOut (.token (.sessionRevoke k date)))) where
  spent := hk.after
  marked := Snapshot.mem_after.2 (.inl rfl)
  closed := by
    intro row' hrow'
    have hper : SessionPermits E req s₀ r (.token (.sessionRevoke k date)) w := trivial
    have hfound : (SessionCall.effect signedOut (.token (.sessionRevoke k date))
        w.state).sessions.find? k = some row' := hrow'
    rcases hper.row_origin hfound with ⟨row, hrow, rfl⟩ | ⟨hcreate, -, -⟩
    · have htoken : row.token = k := Table.key_of_find? hrow
      cases hrev : row.revoked with
      | true =>
          have hsame : SessionCall.onRow (.token (.sessionRevoke k date)) row = row := by
            simp [SessionCall.onRow, TokenCall.onRow, Session.live, hrev]
          have hstale : (SessionCall.effect signedOut (.token (.sessionRevoke k date))
              w.state).replayable E row = false :=
            hinv.replayable_of_call hper (fun b pair => hpaired k row b pair hrow)
              (hcloses rfl rfl row hrow)
          rw [hsame]
          exact ⟨hrev, hstale⟩
      | false =>
          have hrevoke : SessionCall.onRow (.token (.sessionRevoke k date)) row =
              row.revoke date := by
            simp [SessionCall.onRow, TokenCall.onRow, Session.live, htoken, hrev]
          have hblob : (row.revoke date).replacementCiphertext = none := hbare k row hrow hrev
          rw [hrevoke]
          refine ⟨rfl, World.replayable_of_replay ?_⟩
          rw [World.replay, hblob]
          rfl
    · cases hcreate

end Call

section Clock

variable {ι : Type*} {E : TokenEnv} {s₀ : World} {r : ι} {k : String} {s s' : World}
  {m : List (SessionMark ι)}

/-- A pair only dies as time passes. -/
theorem World.pairLive_of_clock (hs : s'.sessions = s.sessions) (ht : s.now ≤ s'.now) {userId : ℕ}
    {pair : IRotatedTokens} (h : s'.pairLive E userId pair = true) :
    s.pairLive E userId pair = true := by
  simp only [World.pairLive, Bool.and_eq_true, Option.any_eq_true, decide_eq_true_eq, hs] at h ⊢
  obtain ⟨huser, child, hchild, hunrevoked, hexp⟩ := h
  exact ⟨huser, child, hchild, hunrevoked, lt_of_le_of_lt ht hexp⟩

theorem World.replay_of_clock (hs : s'.sessions = s.sessions) (ht : s.now ≤ s'.now)
    {session : Session} (h : s.replay E session = none) : s'.replay E session = none := by
  cases hreplay : s'.replay E session with
  | none => rfl
  | some pair =>
      obtain ⟨b, hb, hpair⟩ := Option.bind_eq_some_iff.1 hreplay
      obtain ⟨hdecrypt, hlive⟩ := Option.filter_eq_some_iff.1 hpair
      have hold : s.replay E session = some pair :=
        Option.bind_eq_some_iff.2 ⟨b, hb, Option.filter_eq_some_iff.2
          ⟨hdecrypt, World.pairLive_of_clock hs ht hlive⟩⟩
      rw [h] at hold
      cases hold

/-- The grace window only closes. -/
theorem Session.inGrace_of_le {t t' : Time} (ht : t ≤ t') {session : Session}
    (h : session.inGrace E t' = true) : session.inGrace E t = true := by
  simp only [Session.inGrace, decide_eq_true_eq] at h ⊢
  have hle : t - session.revokedAt.getD 0 ≤ t' - session.revokedAt.getD 0 :=
    Int.sub_le_sub_right ht _
  exact Rat.le_trans (by exact_mod_cast hle) h

theorem World.replayable_of_clock (hs : s'.sessions = s.sessions) (ht : s.now ≤ s'.now)
    {session : Session} (h : s.replayable E session = false) :
    s'.replayable E session = false := by
  cases hreplay : s.replay E session with
  | none => exact World.replayable_of_replay (World.replay_of_clock hs ht hreplay)
  | some pair =>
      have hstale : (session.revoked && session.inGrace E s.now) = false := by
        simpa [World.replayable, hreplay] using h
      by_contra hne
      simp only [World.replayable, Bool.not_eq_false, Bool.and_eq_true] at hne
      rw [hne.1.1, Session.inGrace_of_le ht hne.1.2] at hstale
      cases hstale

theorem LoggedOut.env (hs : s'.sessions = s.sessions) (ht : s.now ≤ s'.now)
    (h : LoggedOut E s₀ r k (⟨s, m⟩ : SessionSnapshot ι)) :
    LoggedOut E s₀ r k (⟨s', m⟩ : SessionSnapshot ι) where
  spent := h.spent
  marked := h.marked
  closed := fun row hrow =>
    (h.closed row (hs ▸ hrow)).imp_right fun hstale => World.replayable_of_clock hs ht hstale

end Clock

section Threads

variable {ι : Type*} {E : TokenEnv} {signedOut : SignOut} {req : ι → SessionRequest} {s₀ : World}
  {fails : SessionCall → Prop} {r i : ι} {k : String} {w w' : SessionSnapshot ι} {α β : Type}

variable (E signedOut req s₀ fails r k) in
/-- The writers of the session table, when their calls meet the condition of the logout. -/
abbrev closingProtocol :
    Protocol (sessionSetting (· ≤ ·) fails (LogoutCloses E r k)) :=
  sessionProtocol E signedOut req s₀ (· ≤ ·) fails (LogoutCloses E r k)

variable (E signedOut req s₀ fails r k) in
abbrev ClosingSafe (i : ι) (Q : Except AppError α → SessionSnapshot ι → Prop)
    (p : SessionProcess α) (w : SessionSnapshot ι) : Prop :=
  Safe (closingProtocol E signedOut req s₀ fails r k).contract i Q p w

/-- What a row can be answered from, for a rotation that has read it before: nothing, now and
later. -/
def DeadPair (E : TokenEnv) (s₀ : World) (b : String) (userId : ℕ) (w : SessionSnapshot ι) : Prop :=
  ∀ pair, decryptReplacement E b = some pair →
    Spent E s₀ (E.hashToken pair.refreshToken) w ∧ w.state.pairLive E userId pair = false

/-- No row under the hash has a live pair. -/
structure Unfed (E : TokenEnv) (s₀ : World) (r : ι) (k : String) (userId : ℕ)
    (w : SessionSnapshot ι) : Prop extends LoggedOut E s₀ r k w where
  noPair : ∀ row ∈ w.state.sessions.find? k, row.userId = userId ∧ w.state.replay E row = none

theorem LoggedOut.of_interference (hpaired : PairsSpent E s₀ (⟨s₀, []⟩ : SessionSnapshot ι))
    (h : Relation.ReflTransGen
      ((closingProtocol E signedOut req s₀ fails r k).Interference i) w w')
    (hk : LoggedOut E s₀ r k w) : LoggedOut E s₀ r k w' := by
  refine Protocol.stable ?_ ?_ h hk
  · exact fun _ _ _ _ hinv hper hcloses hk => hk.call hinv hper hcloses (hinv.paired hpaired)
  · exact fun _ _ _ _ henv hk => hk.env henv.1 henv.2.2

theorem Unfed.of_interference (hpaired : PairsSpent E s₀ (⟨s₀, []⟩ : SessionSnapshot ι))
    {userId : ℕ} (h : Relation.ReflTransGen
      ((closingProtocol E signedOut req s₀ fails r k).Interference i) w w')
    (hk : Unfed E s₀ r k userId w) : Unfed E s₀ r k userId w' := by
  refine Protocol.stable ?_ ?_ h hk
  · intro j l w _ hinv hper hcloses hk
    refine ⟨hk.toLoggedOut.call hinv hper hcloses (hinv.paired hpaired), fun row' hrow' => ?_⟩
    obtain ⟨row, hrow, huser, hspent, -, -, hnone⟩ :=
      hk.row_of_call hinv hper hcloses (hinv.paired hpaired) hrow'
    have hold := hk.noPair row hrow
    exact ⟨huser.trans hold.1, hinv.replay_of_call hper hspent (hnone hold.2)⟩
  · intro s s' m _ henv hk
    refine ⟨hk.toLoggedOut.env henv.1 henv.2.2, fun row hrow => ?_⟩
    have hold := hk.noPair row (henv.1 ▸ hrow)
    exact ⟨hold.1, World.replay_of_clock henv.1 henv.2.2 hold.2⟩

theorem DeadPair.of_interference {b : String} {userId : ℕ}
    (h : Relation.ReflTransGen
      ((closingProtocol E signedOut req s₀ fails r k).Interference i) w w')
    (hdead : DeadPair E s₀ b userId w) : DeadPair E s₀ b userId w' := by
  refine Protocol.stable ?_ ?_ h hdead
  · intro j l w _ hinv hper _ hdead pair hpair
    have hold := hdead pair hpair
    refine ⟨hold.1.after, Bool.eq_false_iff.2 fun hlive => ?_⟩
    rw [hinv.pairLive_of_call hper hold.1 hlive] at hold
    cases hold.2
  · intro s s' m _ henv hdead pair hpair
    have hold := hdead pair hpair
    refine ⟨hold.1, Bool.eq_false_iff.2 fun hlive => ?_⟩
    rw [World.pairLive_of_clock henv.1 henv.2.2 hlive] at hold
    cases hold.2

theorem now_le_of_interference
    (h : Relation.ReflTransGen
      ((closingProtocol E signedOut req s₀ fails r k).Interference i) w w') :
    w.state.now ≤ w'.state.now := by
  refine Protocol.stable (J := fun w' => w.state.now ≤ w'.state.now) ?_ ?_ h le_rfl
  · exact fun _ l w _ _ _ _ hle => hle.trans (SessionCall.now_effect signedOut l w.state).ge
  · exact fun _ _ _ _ henv hle => hle.trans henv.2.2

/-- The pair on a row that is not answered from is dead. -/
theorem Unfed.deadPair (hinv : SessionInv E req s₀ w)
    (hpaired : PairsSpent E s₀ (⟨s₀, []⟩ : SessionSnapshot ι)) {userId : ℕ}
    (hk : Unfed E s₀ r k userId w) {row : Session} (hrow : w.state.sessions.find? k = some row)
    {b : String} (hb : Js.truthy row.replacementCiphertext = some b) :
    DeadPair E s₀ b userId w := by
  intro pair hpair
  obtain ⟨rfl, hnone⟩ := hk.noPair row hrow
  have hblob : row.replacementCiphertext = some b := (Js.truthy_eq_some_iff.1 hb).1
  refine ⟨hinv.paired hpaired k row b pair hrow hblob hpair, Bool.eq_false_iff.2 fun hlive => ?_⟩
  have hreplay : w.state.replay E row = some pair :=
    Option.bind_eq_some_iff.2 ⟨b, hb, Option.filter_eq_some_iff.2 ⟨hpair, hlive⟩⟩
  rw [hnone] at hreplay
  cases hreplay

/-- A read by the token service. -/
theorem closing_read {Q : Except AppError β → SessionSnapshot ι → Prop} {l : TokenCall}
    {g : World → α} {next : α → SessionProcess β}
    (hmark : ∀ s, SessionMark.of i (.token l) s = none)
    (h : ∀ w', Relation.ReflTransGen
        ((closingProtocol E signedOut req s₀ fails r k).Interference i) w w' →
      SessionInv E req s₀ w' →
        ClosingSafe E signedOut req s₀ fails r k i Q (next (g w'.state)) w')
    (herr : ∀ e w', Q (.error e) w') :
    ClosingSafe E signedOut req s₀ fails r k i Q
      ((TokenService.read l g).relabel .token >>= next) w :=
  Safe.query_bind hmark (fun w' hr hi _ => h w' hr hi) fun _ => session_raise (herr _)

variable (E signedOut req s₀ fails r k) in
/-- The process answers with no pair. -/
abbrev NoReplay (i : ι) (p : TokenProcess (Option IRotatedTokens)) (w : SessionSnapshot ι) : Prop :=
  ClosingSafe E signedOut req s₀ fails r k i (fun res _ => ∀ pair, res ≠ .ok (some pair))
    (p.relabel .token) w

theorem noReplay_none : NoReplay E signedOut req s₀ fails r k i (.ret none) w :=
  Safe.ret fun _ _ _ => by simp

theorem replayReplacement_noReplay {b : String} {userId : ℕ} (hdead : DeadPair E s₀ b userId w) :
    NoReplay E signedOut req s₀ fails r k i (replayReplacement E b userId) w := by
  unfold replayReplacement
  cases hdecrypt : decryptReplacement E b with
  | none => exact noReplay_none
  | some pair =>
      dsimp only
      split
      · exact noReplay_none
      next huser =>
          rw [NoReplay, Process.relabel_bind]
          refine closing_read (fun _ => rfl) (fun w₁ hr₁ _ => ?_) fun _ _ => by simp
          cases hchild : w₁.state.sessions.find? (E.hashToken pair.refreshToken) with
          | none => exact noReplay_none
          | some child =>
              dsimp only
              split
              · exact noReplay_none
              split
              · exact noReplay_none
              rw [dateNow, Process.relabel_bind]
              refine closing_read (fun _ => rfl) (fun w₂ hr₂ _ => ?_) fun _ _ => by simp
              have hexpired : child.expiresAt ≤ w₂.state.now := by
                refine le_trans ?_ (now_le_of_interference hr₂)
                have hnot := ((hdead.of_interference hr₁) pair hdecrypt).2
                simp_all [World.pairLive]
              rw [if_pos hexpired]
              exact noReplay_none

/-- Waiting for a pair is in vain. -/
theorem awaitLoop_noReplay (hpaired : PairsSpent E s₀ (⟨s₀, []⟩ : SessionSnapshot ι))
    {userId : ℕ} {wait : Bool} (left : ℕ) {ciphertext : Option String}
    (hk : Unfed E s₀ r k userId w)
    (hdead : ∀ b, Js.truthy ciphertext = some b → DeadPair E s₀ b userId w) :
    NoReplay E signedOut req s₀ fails r k i (awaitLoop E k userId wait left ciphertext) w := by
  induction left generalizing ciphertext w with
  | zero =>
      unfold awaitLoop
      cases hb : Js.truthy ciphertext with
      | some b => exact replayReplacement_noReplay (hdead b hb)
      | none => cases wait <;> exact noReplay_none
  | succ left ih =>
      unfold awaitLoop
      cases hb : Js.truthy ciphertext with
      | some b => exact replayReplacement_noReplay (hdead b hb)
      | none =>
          cases wait with
          | false => exact noReplay_none
          | true =>
              simp only [Bool.not_true, Bool.false_eq_true, if_false, NoReplay,
                Process.relabel_bind]
              refine closing_read (fun _ => rfl) (fun w₁ hr₁ _ => ?_) fun _ _ => by simp
              refine closing_read (fun _ => rfl) (fun w₂ hr₂ hi₂ => ?_) fun _ _ => by simp
              have hk₂ := (hk.of_interference hpaired hr₁).of_interference hpaired hr₂
              refine ih hk₂ fun b hagain => ?_
              cases hrow : w₂.state.sessions.find? k with
              | none => simp [hrow, Js.truthy] at hagain
              | some row =>
                  rw [hrow, Option.bind_some] at hagain
                  exact hk₂.deadPair hi₂ hpaired hrow hagain

theorem replayOrDetectReuse_refused (hpaired : PairsSpent E s₀ (⟨s₀, []⟩ : SessionSnapshot ι))
    (hinv : SessionInv E req s₀ w) (hk : LoggedOut E s₀ r k w) {session : Session}
    (hrow : w.state.sessions.find? k = some session) :
    ClosingSafe E signedOut req s₀ fails r k i (fun res _ => ∀ a, res ≠ .ok a)
      ((replayOrDetectReuse E k session).relabel .token) w := by
  unfold replayOrDetectReuse
  dsimp only [dateNow]
  rw [Process.relabel_bind]
  refine closing_read (fun _ => rfl) (fun w₁ hr₁ _ => ?_) fun _ _ _ => nofun
  split
  next hle =>
      have hgrace : session.inGrace E w₁.state.now = true := decide_eq_true hle
      have hold : session.inGrace E w.state.now = true :=
        Session.inGrace_of_le (now_le_of_interference hr₁) hgrace
      have hunfed : Unfed E s₀ r k session.userId w := by
        refine ⟨hk, fun row hrow' => ?_⟩
        obtain rfl : session = row := Option.some.inj (hrow.symm.trans hrow')
        obtain ⟨hrev, hstale⟩ := hk.closed session hrow
        simpa [World.replayable, hrev, hold] using hstale
      rw [Process.relabel_bind]
      refine closing_read (fun _ => rfl) (fun w₂ hr₂ _ => ?_) fun _ _ _ => nofun
      rw [Process.relabel_bind]
      have hunfed₂ := (hunfed.of_interference hpaired hr₁).of_interference hpaired hr₂
      refine Safe.bind ((awaitLoop_noReplay hpaired _ hunfed₂ fun b hb =>
        ((hunfed.deadPair hinv hpaired hrow hb).of_interference hr₁).of_interference hr₂).mono ?_)
      intro res w₃ _ hres
      cases res with
      | error e => exact nofun
      | ok replay =>
          cases replay with
          | none => exact refused_raise _
          | some pair => exact (hres pair rfl).elim
  next =>
      rw [Process.relabel_bind]
      exact Safe.bind (session_free ((revokeAllUserTokens_free E _ _).relabel signedOut)
        (fun _ _ _ => refused_raise _) fun _ _ _ => nofun)

/-- A rotation that starts after the logout ends without a pair. -/
theorem rotateRefreshToken_refused (hpaired : PairsSpent E s₀ (⟨s₀, []⟩ : SessionSnapshot ι))
    {rawToken : String} (hk : LoggedOut E s₀ r (E.hashToken rawToken) w)
    (ipAddress userAgent : Option String) :
    ClosingSafe E signedOut req s₀ fails r (E.hashToken rawToken) i (fun res _ => ∀ a, res ≠ .ok a)
      ((rotateRefreshToken E rawToken ipAddress userAgent).relabel .token) w := by
  unfold rotateRefreshToken
  dsimp only [dateNow]
  rw [Process.relabel_bind]
  refine closing_read (fun _ => rfl) (fun w₁ hr₁ _ => ?_) fun _ _ _ => nofun
  cases E.verify rawToken w₁.state.now with
  | none => exact refused_raise _
  | some payload =>
      dsimp only
      split
      · exact refused_raise _
      rw [Process.relabel_bind]
      refine closing_read (fun _ => rfl) (fun w₂ hr₂ hi₂ => ?_) fun _ _ _ => nofun
      have hk₂ := (hk.of_interference hpaired hr₁).of_interference hpaired hr₂
      cases hrow : w₂.state.sessions.find? (E.hashToken rawToken) with
      | none => exact refused_raise _
      | some session =>
          dsimp only
          split
          · exact refused_raise _
          rw [if_pos (hk₂.closed session hrow).1]
          exact replayOrDetectReuse_refused hpaired hi₂ hk₂ hrow

/-- A process of permitted calls keeps what every call and the surroundings keep. -/
theorem closing_free {p : SessionProcess α} (hp : FreeProcess signedOut p)
    {J : SessionSnapshot ι → Prop}
    (hcall : ∀ j l w, SessionInv E req s₀ w → SessionPermits E req s₀ j l w →
      LogoutCloses E r k j l w → J w → J (w.after SessionMark.of j l (l.effect signedOut)))
    (henv : ∀ s s' m, s'.sessions = s.sessions → s.now ≤ s'.now → J ⟨s, m⟩ → J ⟨s', m⟩)
    (hw : J w) :
    ClosingSafe E signedOut req s₀ fails r k i (fun _ => J) p w := by
  have hsafe := Protocol.safe_of_permitted
    (P := closingProtocol E signedOut req s₀ fails r k) (i := i) (J := J) (w := w)
    (hp.mono (fun _ _ h => ⟨h.1, fun w => SessionPermits.of_free h.2 i w⟩) fun _ => id)
    hcall (fun s s' m _ he => henv s s' m he.1 he.2.2) hw
  exact hsafe.mono fun _ _ _ h => h.1

/-- The revocation of the token by the logout, when it does not fail. -/
theorem revokeGiven_closes (hpaired : PairsSpent E s₀ (⟨s₀, []⟩ : SessionSnapshot ι))
    (hbare : PairsOnRevoked s₀) (hdate : ¬ fails (.token .dateNow))
    {rawToken : String}
    (hrevoke : ∀ date, ¬ fails (.token (.sessionRevoke (E.hashToken rawToken) date)))
    (hk : Spent E s₀ (E.hashToken rawToken) w) :
    ClosingSafe E signedOut req s₀ fails r (E.hashToken rawToken) r
      (fun _ => LoggedOut E s₀ r (E.hashToken rawToken))
      (AuthController.revokeGiven E (some rawToken)) w := by
  unfold AuthController.revokeGiven AuthController.bestEffort revokeToken
  dsimp only [dateNow]
  refine Safe.bind (Safe.tryCatch (Safe.map ?_))
  rw [Process.relabel_bind]
  refine Protocol.safe_query_bind (fun _ => rfl) hdate fun w₁ hr₁ hi₁ => ?_
  rw [Process.relabel_bind]
  refine Protocol.safe_modify_bind rfl (hrevoke _) fun w₂ hr₂ hi₂ hcloses =>
    ⟨trivial, fun _ => ?_⟩
  have hspent : Spent E s₀ (E.hashToken rawToken) w₂ := by
    refine Protocol.stable ?_ ?_ (hr₁.trans hr₂) hk
    · exact fun _ _ _ _ _ _ _ h => h.after
    · exact fun _ _ _ _ _ => id
  have hout : LoggedOut E s₀ r (E.hashToken rawToken) (w₂.after SessionMark.of r
      (.token (.sessionRevoke (E.hashToken rawToken) w₁.state.now)) (SessionCall.effect signedOut
        (.token (.sessionRevoke (E.hashToken rawToken) w₁.state.now)))) :=
    .of_revoke hspent hi₂ hcloses (hi₂.paired hpaired) (hi₂.bare hbare)
  refine Safe.ret fun w₃ hr₃ _ => ?_
  exact Safe.ret fun w₄ hr₄ _ =>
    (hout.of_interference hpaired hr₃).of_interference hpaired hr₄

/-- The rule of sequencing, when whatever ends well leaves `J`. -/
theorem closing_bind {Q : Except AppError β → SessionSnapshot ι → Prop} {p : SessionProcess α}
    {next : α → SessionProcess β} {J : SessionSnapshot ι → Prop}
    (hp : ClosingSafe E signedOut req s₀ fails r k i (fun _ => J) p w)
    (hnext : ∀ a w', J w' → ClosingSafe E signedOut req s₀ fails r k i Q (next a) w')
    (herr : ∀ e w', Q (.error e) w') :
    ClosingSafe E signedOut req s₀ fails r k i Q (p >>= next) w := by
  apply Safe.bind
  apply hp.mono
  intro res w' _ hJ
  cases res with
  | ok a => exact hnext a w' hJ
  | error e => exact herr e w'

theorem logout_closes (hpaired : PairsSpent E s₀ (⟨s₀, []⟩ : SessionSnapshot ι))
    (hbare : PairsOnRevoked s₀) (hdate : ¬ fails (.token .dateNow)) {rawToken : String}
    (hrevoke : ∀ date, ¬ fails (.token (.sessionRevoke (E.hashToken rawToken) date)))
    (hne : rawToken ≠ "") (headers : AuthHeaders)
    (hk : Spent E s₀ (E.hashToken rawToken) w) :
    ClosingSafe E signedOut req s₀ fails r (E.hashToken rawToken) r
      (fun res w' => ∀ a, res = .ok a → LoggedOut E s₀ r (E.hashToken rawToken) w')
      (AuthController.logout E signedOut headers (some rawToken)) w := by
  have hbody : Js.truthy (some rawToken) = some rawToken := Js.truthy_eq_some_iff.2 ⟨rfl, hne⟩
  have hspent : ∀ {γ : Type} {p : SessionProcess γ} {w' : SessionSnapshot ι},
      FreeProcess signedOut p → Spent E s₀ (E.hashToken rawToken) w' →
      ClosingSafe E signedOut req s₀ fails r (E.hashToken rawToken) r
        (fun _ => Spent E s₀ (E.hashToken rawToken)) p w' := fun hp hw =>
    closing_free hp (fun _ _ _ _ _ _ h => h.after) (fun _ _ _ _ _ => id) hw
  unfold AuthController.logout
  rw [hbody]
  refine closing_bind (hspent (identify_free E _) hk) (fun user w₁ hk₁ => ?_) fun _ _ _ => nofun
  refine closing_bind (hspent (revokeGiven_free E _) hk₁) (fun _ w₂ hk₂ => ?_) fun _ _ _ => nofun
  refine closing_bind (revokeGiven_closes hpaired hbare hdate hrevoke hk₂) (fun _ w₃ hk₃ => ?_)
    fun _ _ _ => nofun
  refine closing_bind (closing_free (bestEffort_free (free_session_write (by rfl)))
    (fun _ _ _ hinv hper hcloses hk => hk.call hinv hper hcloses (hinv.paired hpaired))
    (fun _ _ _ hs ht hk => hk.env hs ht) hk₃) (fun _ w₄ hk₄ => ?_) fun _ _ _ => nofun
  exact Safe.ret fun w₅ hr₅ _ _ _ => hk₄.of_interference hpaired hr₅

end Threads

section Closed

variable {ι : Type*} [DecidableEq ι] {E : TokenEnv} {signedOut : SignOut}
  {req : ι → SessionRequest} {s₀ : World} {fails : SessionCall → Prop}

/-- A rotation that starts after a logout with its token has returned ends without a pair,
whatever runs besides, when every call of the run meets the condition and the revocation by the
logout did not fail. -/
theorem logout_closes_replay (hE : E.Lawful) (hfresh : FreshIds E s₀) (hbare : PairsOnRevoked s₀)
    (hpaired : PairsSpent E s₀ (⟨s₀, []⟩ : SessionSnapshot ι)) {rawToken : String}
    (hne : rawToken ≠ "") {headers : AuthHeaders} {ipAddress userAgent : Option String} {r i : ι}
    (hlogout : req r = .logout headers (some rawToken))
    (hrotate : req i = .rotate rawToken ipAddress userAgent)
    (hdate : ¬ fails (.token .dateNow))
    (hrevoke : ∀ date, ¬ fails (.token (.sessionRevoke (E.hashToken rawToken) date)))
    {c₀ c₁ c₂ : Config ι World SessionCall AppError SessionAnswer (SessionMark ι)}
    (h₀ : Reaches (sessionSetting (· ≤ ·) fails (LogoutCloses E r (E.hashToken rawToken)))
      (sessionPool E signedOut s₀ req) c₀)
    (hspent : Spent E s₀ (E.hashToken rawToken) c₀.toSnapshot)
    (hstart : c₀.pool r = (req r).process E signedOut)
    (h₁ : Reaches (sessionSetting (· ≤ ·) fails (LogoutCloses E r (E.hashToken rawToken))) c₀ c₁)
    (hret : c₁.pool r = .ret .done) (hlater : c₁.pool i = (req i).process E signedOut)
    (h₂ : Reaches (sessionSetting (· ≤ ·) fails (LogoutCloses E r (E.hashToken rawToken))) c₁ c₂)
    (pair : IRotatedTokens) : c₂.pool i ≠ .ret (.pair pair) := by
  have hsound₀ := (sessionPool_sound hE signedOut hfresh req (· ≤ ·) fails
    (LogoutCloses E r (E.hashToken rawToken))).reaches h₀
  have hthread : ClosingSafe E signedOut req s₀ fails r (E.hashToken rawToken) r
      (fun res w => ∀ a, res = .ok a → LoggedOut E s₀ r (E.hashToken rawToken) w)
      (c₀.pool r) c₀.toSnapshot := by
    rw [hstart, hlogout]
    apply Safe.map
    refine (logout_closes hpaired hbare hdate hrevoke hne headers hspent).mono ?_
    intro res w _ hres a ha
    cases res with
    | ok user => exact hres user rfl
    | error e => cases ha
  have hsound₁ := (hsound₀.update hthread).reaches h₁
  have hclosed : LoggedOut E s₀ r (E.hashToken rawToken) c₁.toSnapshot := by
    have hpost := hsound₁.result hret
    rw [Function.update_self] at hpost
    exact hpost _ rfl
  have hrefused : ClosingSafe E signedOut req s₀ fails r (E.hashToken rawToken) i
      (fun res _ => ∀ a, res ≠ .ok a) (c₁.pool i) c₁.toSnapshot := by
    rw [hlater, hrotate]
    exact Refused.map _ (rotateRefreshToken_refused hpaired hclosed ipAddress userAgent)
  intro hpair
  have hpost := ((hsound₁.update hrefused).reaches h₂).result hpair
  rw [Function.update_self] at hpost
  exact hpost _ rfl

end Closed

section Witness

instance {ι : Type*} [DecidableEq ι] (E : TokenEnv) (r : ι) (k : String) (i : ι) (l : SessionCall)
    (w : SessionSnapshot ι) : Decidable (LogoutCloses E r k i l w) :=
  match l with
  | .token (.sessionRevoke token _) =>
      inferInstanceAs (Decidable (i = r → token = k → ∀ row ∈ w.state.sessions.find? k,
        w.state.replayable E row = false))
  | .token (.sessionStoreReplacement token _ blob) =>
      inferInstanceAs (Decidable (.revoked r k ∈ w.marks → token = k →
        ∀ row ∈ w.state.sessions.find? k,
          w.state.replay E { row with replacementCiphertext := some blob } = none))
  | .sessionRevokeById token date =>
      inferInstanceAs (Decidable (.revoked r k ∈ w.marks → token = k →
        ∀ row ∈ w.state.sessions.find? k, w.state.replayable E (row.revoke date) = false))
  | .token .dateNow | .token .randomUUID | .token .randomBytes | .token (.sleep _)
  | .token (.userFindUnique _) | .token (.sessionFindUnique _) | .token (.sessionClaim _ _)
  | .token (.sessionCreate _) | .token (.sessionUnrevoke _ _ _ _)
  | .token (.sessionDropReplacements _) | .token (.sessionRevokeAll _ _ _)
  | .sessionFindWithUser _ | .userUnban _ | .sessionDropStale _ | .sessionDeleteExpired _
  | .sessionDeleteRevoked _ | .userUnbanExpired _ | .signOut _ => isTrue trivial

/-- The logout of a token and a rotation of it. -/
def logoutThenRotate : Bool → SessionRequest
  | false => .logout {} (some "R")
  | true => .rotate "R" none none

def logoutRun : Config Bool World SessionCall AppError SessionAnswer (SessionMark Bool) :=
  (sessionPool plainEnv (fun _ _ => false) plainWorld logoutThenRotate).schedule SessionMark.of
    [false, false, false]

/-- The token is live when the logout runs. -/
theorem logout_closes_replay_live :
    ¬ ∃ pair, (logoutRun.schedule SessionMark.of [true, true, true, true, true]).pool true =
      .ret (.pair pair) := by
  have hrun : ∀ (c : Config Bool World SessionCall AppError SessionAnswer (SessionMark Bool)) is,
      c.scheduleOk SessionMark.of (fun i l w => decide (LogoutCloses plainEnv false "R" i l w))
        is = true →
      Reaches (sessionSetting (· ≤ ·) (fun _ => False) (LogoutCloses plainEnv false "R")) c
        (c.schedule SessionMark.of is) :=
    fun c is h => Reaches.scheduleOk
      (S := sessionSetting (· ≤ ·) (fun _ => False) (LogoutCloses plainEnv false "R"))
      (fun i l w => decide (LogoutCloses plainEnv false "R" i l w))
      (fun i l w => of_decide_eq_true (p := LogoutCloses plainEnv false "R" i l w)) h
  have hpaired : PairsSpent plainEnv plainWorld (⟨plainWorld, []⟩ : SessionSnapshot Bool) := by
    intro k row b pair hrow hb
    rw [(find?_plainWorld hrow).2] at hb
    cases hb
  have hspent : ∀ w : SessionSnapshot Bool, Spent plainEnv plainWorld "R" w :=
    freshIds_plainWorld.spent (rfl : plainWorld.sessions.find? "R" = some
      { token := "R", tokenType := .refresh, userId := 1, expiresAt := 0 })
  have h₁ := hrun (sessionPool plainEnv (fun _ _ => false) plainWorld logoutThenRotate)
    [false, false, false] (by decide +kernel)
  have h₂ := hrun logoutRun [true, true, true, true, true] (by decide +kernel)
  exact not_exists.2 (logout_closes_replay plainEnv_lawful freshIds_plainWorld
    pairsOnRevoked_plainWorld hpaired (by decide) rfl rfl id (fun _ => id) .refl (hspent _) rfl h₁
    rfl rfl h₂)

end Witness

section Replayed

/-- The plain environment with lifetimes of one second, in which the pair that the first rotation
mints has a blob that can be written down. -/
def shortEnv : TokenEnv :=
  { plainEnv with
    gcmSeal := fun iv v => match v with
      | .obj [(_, .num u), (_, .str a), (_, .str ax), (_, .str r), (_, .str rx)] =>
          if (u, a, ax, r, rx) = (1, "", "soon", "1", "soon") then "sealed"
          else plainEnv.gcmSeal iv (pairJson u a ax r rx)
      | _ => ""
    gcmOpen := fun blob =>
      if blob = "sealed" then some (pairJson 1 "" "soon" "1" "soon") else plainEnv.gcmOpen blob
    toISOString := fun t => if t = 1000 then "soon" else plainEnv.toISOString t
    newDate := fun s => if s = "soon" then 1000 else plainEnv.newDate s
    JWT_ACCESS_EXPIRATION := some "1s"
    JWT_REFRESH_EXPIRATION := some "1s" }

/-- A tally is no other word of its length. -/
theorem tally_ne_of {s : String} (hs : tally s.length ≠ s) (n : ℕ) : tally n ≠ s := by
  rintro rfl
  rw [length_tally] at hs
  exact hs rfl

theorem shortEnv_newDate (t : Time) : shortEnv.newDate (shortEnv.toISOString t) = t := by
  by_cases ht : t = 1000
  · simp only [shortEnv, if_true, ht]
  · have hne : plainEnv.toISOString t ≠ "soon" := tally_ne_of (by decide) _
    simp only [shortEnv, if_neg ht, if_neg hne, plainEnv_newDate]

theorem shortEnv_gcmOpen (iv : ℕ) (u : ℚ) (a ax r rx : String) :
    shortEnv.gcmOpen (shortEnv.gcmSeal iv (pairJson u a ax r rx)) =
      some (pairJson u a ax r rx) := by
  by_cases hpair : (u, a, ax, r, rx) = (1, "", "soon", "1", "soon")
  · have hseal : shortEnv.gcmSeal iv (pairJson u a ax r rx) = "sealed" := if_pos hpair
    rw [hseal]
    cases hpair
    simp only [shortEnv, if_true]
  · have hne : plainEnv.gcmSeal iv (pairJson u a ax r rx) ≠ "sealed" := tally_ne_of (by decide) _
    have hseal : shortEnv.gcmSeal iv (pairJson u a ax r rx) =
        plainEnv.gcmSeal iv (pairJson u a ax r rx) := if_neg hpair
    rw [hseal]
    simp only [shortEnv, if_neg hne, plainEnv_gcmOpen]

theorem shortEnv_lawful : shortEnv.Lawful where
  hashToken_injective := Function.injective_id
  jti_of_sign := fun h => tally_injective h
  decrypt_encrypt := fun iv _ =>
    TokenEnv.decrypt_encrypt_of shortEnv_newDate (shortEnv_gcmOpen iv)

/-- The token is rotated, the logout gets it, and it is presented again. -/
def rotateLogoutRotate : Fin 3 → SessionRequest
  | 1 => .logout {} (some "R")
  | _ => .rotate "R" none none

def loggedOutRun : Config (Fin 3) World SessionCall AppError SessionAnswer (SessionMark (Fin 3)) :=
  ((sessionPool shortEnv (fun _ _ => false) plainWorld rotateLogoutRotate).schedule SessionMark.of
    (List.replicate 15 0)).schedule SessionMark.of [1, 1, 1]

/-- A token that was rotated within the grace window is still answered after the logout with it:
the logout finds the row revoked, and the refresh token of the stored pair stays live. -/
theorem logout_leaves_replay :
    ∃ c₁ c₂ pair,
      Reaches (sessionSetting (· ≤ ·) (fun _ => False) fun _ _ _ => True)
        (sessionPool shortEnv (fun _ _ => false) plainWorld rotateLogoutRotate) c₁ ∧
      c₁.pool 1 = .ret .done ∧
      c₁.pool 2 = (rotateLogoutRotate 2).process shortEnv (fun _ _ => false) ∧
      Reaches (sessionSetting (· ≤ ·) (fun _ => False) fun _ _ _ => True) c₁ c₂ ∧
      c₂.pool 2 = .ret (.pair pair) := by
  have hrun : ∀ (c : Config (Fin 3) World SessionCall AppError SessionAnswer
      (SessionMark (Fin 3))) is,
      Reaches (sessionSetting (· ≤ ·) (fun _ => False) fun _ _ _ => True) c
        (c.schedule SessionMark.of is) :=
    fun c is => Reaches.schedule (fun _ _ _ => trivial) is c
  refine ⟨loggedOutRun, loggedOutRun.schedule SessionMark.of (List.replicate 6 2),
    ⟨1, "", 1000, "1", 1000⟩, (hrun _ _).trans (hrun _ _), ?_, ?_, hrun _ _, ?_⟩
  · exact Process.eq_ret_of_result? (by decide +kernel)
  · rfl
  · exact Process.eq_ret_of_result? (by decide +kernel)

end Replayed

end FifiAlert
