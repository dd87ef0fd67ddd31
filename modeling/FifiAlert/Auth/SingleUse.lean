import FifiAlert.Auth.TokenRotation

/-!
# Refresh tokens are used once

In every run of the protocol a row is claimed by at most one thread, only that
thread mints for the claim, one row of each type, and only that thread stores a
pair on the row, one pair. The code follows the protocol, so concurrent
rotations of one token give one pair to everybody who gets an answer.
-/

namespace FifiAlert

open Concurrency Store TokenService

/-- An unrevoked row remembers no pair. -/
def PairsOnRevoked (w : World) : Prop :=
  ∀ k row, w.sessions.find? k = some row → row.revoked = false →
    row.replacementCiphertext = none

section Runs

variable {ι : Type*} [DecidableEq ι]

/-- Who did what in a run. -/
structure ClaimInv (E : TokenEnv) (req : ι → TokenRequest) (w : TokenSnapshot ι) :
    Prop where
  claimedRow : ∀ i k u, .claimed i k u ∈ w.marks →
    ∃ row, w.state.sessions.find? k = some row ∧ row.revoked = true ∧ row.userId = u
  claimedOnce : ∀ i j k u u', .claimed i k u ∈ w.marks → .claimed j k u' ∈ w.marks → i = j
  presents : ∀ i k u, .claimed i k u ∈ w.marks →
    ∃ raw ip ua, req i = .rotate raw ip ua ∧ k = E.hashToken raw
  storedClaimed : ∀ i k p, .stored i k p ∈ w.marks → ∃ u, .claimed i k u ∈ w.marks
  storedMinted : ∀ i k p, .stored i k p ∈ w.marks → Minted E i p w
  storedOnce : ∀ i k k' p p', .stored i k p ∈ w.marks → .stored i k' p' ∈ w.marks → p = p'
  createdClaimed : ∀ i row, .created i row ∈ w.marks →
    (∃ user ip ua, req i = .issue user ip ua ∧ user.user.id = row.userId) ∨
      ∃ k, .claimed i k row.userId ∈ w.marks
  createdOnce : ∀ i row row', .created i row ∈ w.marks → .created i row' ∈ w.marks →
    row.tokenType = row'.tokenType → row = row'

variable {E : TokenEnv} {req : ι → TokenRequest} {i : ι} {l : TokenCall}
  {w : TokenSnapshot ι}

omit [DecidableEq ι] in
theorem ClaimInv.init (s₀ : World) : ClaimInv E req ⟨s₀, []⟩ where
  claimedRow := by simp
  claimedOnce := by simp
  presents := by simp
  storedClaimed := by simp
  storedMinted := by simp
  storedOnce := by simp
  createdClaimed := by simp
  createdOnce := by simp

omit [DecidableEq ι] in
theorem Minted.after {pair : IRotatedTokens} {j : ι} {next : World → World}
    (h : Minted E j pair w) : Minted E j pair (w.after TokenMark.of i l next) := by
  obtain ⟨access, refresh, ha, hr, hrest⟩ := h
  exact ⟨access, refresh, Snapshot.mem_after_of_mem ha, Snapshot.mem_after_of_mem hr, hrest⟩

/-- A claim that finds its row unrevoked is the first one. -/
theorem ClaimInv.call (hinv : ClaimInv E req w) (h : TokenPermits E req i l w) :
    ClaimInv E req (w.after TokenMark.of i l l.effect) where
  claimedRow := by
    intro j k u hm
    rcases Snapshot.mem_after.1 hm with hnew | hold
    · obtain ⟨-, ⟨date, rfl⟩, row, hrow, hrev, hu⟩ := TokenMark.of_eq_claimed hnew
      have hk : row.token = k := Table.key_of_find? hrow
      refine ⟨row.revoke date, ?_, rfl, hu⟩
      rw [Snapshot.state_after, TokenCall.find?_effect (by simp), hrow]
      simp [TokenCall.onRow, Session.live, hk, hrev]
    · obtain ⟨row, hrow, hrev, hu⟩ := hinv.claimedRow j k u hold
      obtain ⟨row', hrow', hu', -, hrev'⟩ := h.row_kept hrow
      exact ⟨row', hrow', hrev' hrev, hu'.trans hu⟩
  claimedOnce := by
    have hfirst : ∀ j j' k u u', TokenMark.of i l w.state = some (.claimed j k u) →
        .claimed j' k u' ∉ w.marks := by
      intro j j' k u u' hnew hold
      obtain ⟨-, -, row, hrow, hrev, -⟩ := TokenMark.of_eq_claimed hnew
      obtain ⟨row', hrow', hrev', -⟩ := hinv.claimedRow j' k u' hold
      rw [hrow, Option.some.injEq] at hrow'
      rw [hrow', hrev'] at hrev
      cases hrev
    intro j j' k u u' hm hm'
    rcases Snapshot.mem_after.1 hm with hnew | hold <;>
      rcases Snapshot.mem_after.1 hm' with hnew' | hold'
    · exact (TokenMark.of_eq_claimed hnew).1.symm.trans (TokenMark.of_eq_claimed hnew').1
    · exact (hfirst _ _ _ _ _ hnew hold').elim
    · exact (hfirst _ _ _ _ _ hnew' hold).elim
    · exact hinv.claimedOnce j j' k u u' hold hold'
  presents := by
    intro j k u hm
    rcases Snapshot.mem_after.1 hm with hnew | hold
    · obtain ⟨rfl, ⟨date, rfl⟩, -⟩ := TokenMark.of_eq_claimed hnew
      exact MayClaim.presents h
    · exact hinv.presents j k u hold
  storedClaimed := by
    intro j k p hm
    rcases Snapshot.mem_after.1 hm with hnew | hold
    · obtain ⟨rfl, blob, rfl⟩ := TokenMark.of_eq_stored hnew
      exact (MayStore.claimed h).imp fun u => Snapshot.mem_after_of_mem
    · exact (hinv.storedClaimed j k p hold).imp fun u => Snapshot.mem_after_of_mem
  storedMinted := by
    intro j k p hm
    rcases Snapshot.mem_after.1 hm with hnew | hold
    · obtain ⟨rfl, blob, rfl⟩ := TokenMark.of_eq_stored hnew
      exact (MayStore.minted h).after
    · exact (hinv.storedMinted j k p hold).after
  storedOnce := by
    have hfirst : ∀ j k k' p p', TokenMark.of i l w.state = some (.stored j k p) →
        .stored j k' p' ∉ w.marks := by
      intro j k k' p p' hnew
      obtain ⟨rfl, blob, rfl⟩ := TokenMark.of_eq_stored hnew
      exact MayStore.first h k' p'
    intro j k k' p p' hm hm'
    rcases Snapshot.mem_after.1 hm with hnew | hold <;>
      rcases Snapshot.mem_after.1 hm' with hnew' | hold'
    · rw [hnew, Option.some.injEq, TokenMark.stored.injEq] at hnew'
      exact hnew'.2.2
    · exact (hfirst _ _ _ _ _ hnew hold').elim
    · exact (hfirst _ _ _ _ _ hnew' hold).elim
    · exact hinv.storedOnce j k k' p p' hold hold'
  createdClaimed := by
    intro j row hm
    rcases Snapshot.mem_after.1 hm with hnew | hold
    · obtain ⟨rfl, rfl, -⟩ := TokenMark.of_eq_created hnew
      exact (MayCreate.owner h).imp_right fun hwin =>
        hwin.1.imp fun k => Snapshot.mem_after_of_mem
    · exact (hinv.createdClaimed j row hold).imp_right fun hc =>
        hc.imp fun k => Snapshot.mem_after_of_mem
  createdOnce := by
    have hfirst : ∀ j row row', TokenMark.of i l w.state = some (.created j row) →
        .created j row' ∈ w.marks → row'.tokenType ≠ row.tokenType := by
      intro j row row' hnew
      obtain ⟨rfl, rfl, -⟩ := TokenMark.of_eq_created hnew
      exact MayCreate.first h row'
    intro j row row' hm hm' htype
    rcases Snapshot.mem_after.1 hm with hnew | hold <;>
      rcases Snapshot.mem_after.1 hm' with hnew' | hold'
    · rw [hnew, Option.some.injEq, TokenMark.created.injEq] at hnew'
      exact hnew'.2
    · exact (hfirst _ _ _ hnew hold' htype.symm).elim
    · exact (hfirst _ _ _ hnew' hold htype).elim
    · exact hinv.createdOnce j row row' hold hold' htype

/-- Pairs are remembered on claimed rows only. -/
theorem PairsOnRevoked.call (hpairs : PairsOnRevoked w.state) (hinv : ClaimInv E req w)
    (h : TokenPermits E req i l w) : PairsOnRevoked (l.effect w.state) := by
  intro k row' hrow' hrev'
  rcases h.row_origin hrow' with ⟨row, hrow, rfl⟩ | ⟨-, -, hmay⟩
  · have hrev : row.revoked = false := by
      by_contra hne
      obtain ⟨row'', hrow'', -, -, hkept⟩ := h.row_kept hrow
      rw [hrow', Option.some.injEq] at hrow''
      rw [hrow'', hkept (by simpa using hne)] at hrev'
      cases hrev'
    cases hb : (l.onRow row).replacementCiphertext with
    | none => rfl
    | some b =>
        rcases TokenCall.replacement_onRow hb with hold | ⟨pair, rfl⟩
        · rw [hpairs k row hrow hrev] at hold
          cases hold
        · obtain ⟨u, hclaimed⟩ := MayStore.claimed h
          have hk : row.token = k := Table.key_of_find? hrow
          obtain ⟨row'', hrow'', hrev'', -⟩ := hinv.claimedRow i _ u hclaimed
          rw [hk, hrow, Option.some.injEq] at hrow''
          rw [hrow'', hrev''] at hrev
          cases hrev
  · exact hmay.noPair

end Runs

section SingleUse

variable {ι : Type*}

def TokenRequest.Presents (rawToken : String) (r : TokenRequest) : Prop :=
  ∃ ipAddress userAgent, r = .rotate rawToken ipAddress userAgent

/-- What single use means for the requests that present one token: one of them
claims the row and mints one pair, and whoever gets an answer gets that pair. -/
structure SingleUse (E : TokenEnv) (req : ι → TokenRequest) (raw : String)
    (c : Config ι World TokenCall AppError TokenAnswer (TokenMark ι)) : Prop where
  oneClaim : ∀ i j u u', .claimed i (E.hashToken raw) u ∈ c.marks →
    .claimed j (E.hashToken raw) u' ∈ c.marks → i = j
  mintedByClaimant : ∀ i row, (req i).Presents raw → .created i row ∈ c.marks →
    ∃ u, .claimed i (E.hashToken raw) u ∈ c.marks
  onePair : ∀ i j row row', (req i).Presents raw → (req j).Presents raw →
    .created i row ∈ c.marks → .created j row' ∈ c.marks →
      row.tokenType = row'.tokenType → i = j ∧ row = row'
  answered : ∀ i answer, (req i).Presents raw → c.pool i = .ret answer →
    ∃ pair j u, answer = .pair pair ∧ .claimed j (E.hashToken raw) u ∈ c.marks ∧
      Minted E j pair c.toSnapshot
  oneAnswer : ∀ i j answer answer', (req i).Presents raw → (req j).Presents raw →
    c.pool i = .ret answer → c.pool j = .ret answer' → answer = answer'

variable [DecidableEq ι] {E : TokenEnv} {s₀ : World} {req : ι → TokenRequest}
  {fails : TokenCall → Prop} {admits : ι → TokenCall → TokenSnapshot ι → Prop}
  {c : Config ι World TokenCall AppError TokenAnswer (TokenMark ι)}

theorem claimInv_of_reaches (hE : E.Lawful) (hfresh : FreshIds E s₀)
    (hc : Reaches (tokenSetting fails admits) (tokenPool E s₀ req) c) :
    ClaimInv E req c.toSnapshot :=
  (Protocol.refines (tokenPool_sound hE hfresh req fails admits) hc).invariant
    (ClaimInv.init s₀) (fun _ _ _ _ hper _ h => h.call hper)
    (by
      rintro s s' m - ⟨hs, -⟩ h
      exact { h with claimedRow := fun i k u hm => hs ▸ h.claimedRow i k u hm })

/-- The tables of every run satisfy what is assumed of the table at its start. -/
theorem sessions_wellFormed_of_reaches (hE : E.Lawful) (hfresh : FreshIds E s₀)
    (hpairs : PairsOnRevoked s₀)
    (hc : Reaches (tokenSetting fails admits) (tokenPool E s₀ req) c) :
    FreshIds E c.state ∧ PairsOnRevoked c.state := by
  have hsound := tokenPool_sound hE hfresh req fails admits
  refine ⟨(hsound.reaches hc).1.fresh, ?_⟩
  have hboth := (Protocol.refines hsound hc).invariant
    (J := fun w => ClaimInv E req w ∧ PairsOnRevoked w.state) ⟨ClaimInv.init s₀, hpairs⟩
    (fun _ _ _ _ hper _ h => ⟨h.1.call hper, h.2.call h.1 hper⟩)
    (by
      rintro s s' m - ⟨hs, -⟩ ⟨h, hp⟩
      refine ⟨{ h with claimedRow := fun i k u hm => hs ▸ h.claimedRow i k u hm }, ?_⟩
      exact fun k row hrow => hp k row (hs ▸ hrow))
  exact hboth.2

/-- The pair of an answer was stored on the row, or is still with the claimant
that could not store it. -/
theorem answer_source (hE : E.Lawful) (hfresh : FreshIds E s₀) {raw : String}
    (hnone : ∀ row, s₀.sessions.find? (E.hashToken raw) = some row →
      row.replacementCiphertext = none)
    (hc : Reaches (tokenSetting fails admits) (tokenPool E s₀ req) c) {i : ι}
    {answer : TokenAnswer} (hi : (req i).Presents raw) (hret : c.pool i = .ret answer) :
    ∃ pair, answer = .pair pair ∧
      ((∃ j, .stored j (E.hashToken raw) pair ∈ c.marks) ∨
        (∃ u, .claimed i (E.hashToken raw) u ∈ c.marks) ∧ Minted E i pair c.toSnapshot ∧
          ∀ k p, .stored i k p ∉ c.marks) := by
  obtain ⟨ip, ua, hreq⟩ := hi
  have hpost := ((tokenPool_sound hE hfresh req fails admits).reaches hc).result hret
  simp only [TokenPost, hreq] at hpost
  obtain ⟨pair, rfl, (hstored | ⟨row₀, b, hrow₀, hb, -⟩) | hown⟩ := hpost
  · exact ⟨pair, rfl, .inl hstored⟩
  · rw [hnone row₀ hrow₀] at hb
    cases hb
  · exact ⟨pair, rfl, .inr hown⟩

/-- Refresh rotation is single-use: among any number of concurrent requests of
which some present the token of an unrevoked row, at most one passes the claim
and mints a pair, and all that are answered are answered with that pair. Calls
may fail at any point, and the other requests of the pool are arbitrary. -/
theorem rotateRefreshToken_singleUse (hE : E.Lawful) (hfresh : FreshIds E s₀)
    (hpairs : PairsOnRevoked s₀) {raw : String} {row : Session}
    (hrow : s₀.sessions.find? (E.hashToken raw) = some row) (hlive : row.revoked = false)
    (hc : Reaches (tokenSetting fails fun _ _ _ => True) (tokenPool E s₀ req) c) :
    SingleUse E req raw c := by
  have hinv := claimInv_of_reaches hE hfresh hc
  have hnone : ∀ row', s₀.sessions.find? (E.hashToken raw) = some row' →
      row'.replacementCiphertext = none := by
    intro row' hrow'
    rw [hrow, Option.some.injEq] at hrow'
    exact hrow' ▸ hpairs _ row hrow hlive
  have hclaimant : ∀ i row', (req i).Presents raw → .created i row' ∈ c.marks →
      ∃ u, .claimed i (E.hashToken raw) u ∈ c.marks := by
    rintro i row' ⟨ip, ua, hreq⟩ hm
    rcases hinv.createdClaimed i row' hm with ⟨user, ip', ua', hissue, -⟩ | ⟨k, hk⟩
    · rw [hreq] at hissue
      cases hissue
    · obtain ⟨raw', ip', ua', hreq', rfl⟩ := hinv.presents i k _ hk
      rw [hreq, TokenRequest.rotate.injEq] at hreq'
      exact ⟨_, hreq'.1 ▸ hk⟩
  refine
    { oneClaim := fun i j u u' => hinv.claimedOnce i j _ u u'
      mintedByClaimant := hclaimant
      onePair := ?_
      answered := ?_
      oneAnswer := ?_ }
  · intro i j r r' hi hj hm hm' htype
    obtain ⟨u, hu⟩ := hclaimant i r hi hm
    obtain ⟨u', hu'⟩ := hclaimant j r' hj hm'
    obtain rfl := hinv.claimedOnce i j _ u u' hu hu'
    exact ⟨rfl, hinv.createdOnce i r r' hm hm' htype⟩
  · intro i answer hi hret
    obtain ⟨pair, rfl, ⟨j, hstored⟩ | ⟨⟨u, hu⟩, hminted, -⟩⟩ :=
      answer_source hE hfresh hnone hc hi hret
    · obtain ⟨u, hu⟩ := hinv.storedClaimed j _ pair hstored
      exact ⟨pair, j, u, rfl, hu, hinv.storedMinted j _ pair hstored⟩
    · exact ⟨pair, i, u, rfl, hu, hminted⟩
  · intro i j answer answer' hi hj hret hret'
    obtain ⟨p, rfl, hp⟩ := answer_source hE hfresh hnone hc hi hret
    obtain ⟨q, rfl, hq⟩ := answer_source hE hfresh hnone hc hj hret'
    rcases hp with ⟨a, ha⟩ | ⟨⟨u, hu⟩, -, hunstored⟩ <;>
      rcases hq with ⟨b, hb⟩ | ⟨⟨v, hv⟩, -, hunstored'⟩
    · obtain ⟨u, hu⟩ := hinv.storedClaimed a _ p ha
      obtain ⟨v, hv⟩ := hinv.storedClaimed b _ q hb
      obtain rfl := hinv.claimedOnce a b _ u v hu hv
      exact congrArg _ (hinv.storedOnce a _ _ p q ha hb)
    · obtain ⟨u, hu⟩ := hinv.storedClaimed a _ p ha
      obtain rfl := hinv.claimedOnce a j _ u v hu hv
      exact (hunstored' _ p ha).elim
    · obtain ⟨v, hv⟩ := hinv.storedClaimed b _ q hb
      obtain rfl := hinv.claimedOnce i b _ u v hu hv
      exact (hunstored _ q hb).elim
    · obtain rfl := hinv.claimedOnce i j _ u v hu hv
      rw [hret] at hret'
      exact Process.ret.inj hret'

end SingleUse

theorem pairsOnRevoked_plainWorld : PairsOnRevoked plainWorld := by
  intro k row hrow _
  rw [(find?_plainWorld hrow).2]

/-- Two requests race for one token: both read the row, one claims it. -/
def racingRequests : Config Bool World TokenCall AppError TokenAnswer (TokenMark Bool) :=
  (tokenPool plainEnv plainWorld fun _ => .rotate "R" none none).schedule TokenMark.of
    [true, false, true, false, true, false, true, false]

theorem reaches_racingRequests :
    Reaches (tokenSetting (fun _ => False) fun _ _ _ => True)
      (tokenPool plainEnv plainWorld fun _ => .rotate "R" none none) racingRequests :=
  Reaches.schedule (fun _ _ _ => trivial) _ _

theorem rotateRefreshToken_singleUse_racing :
    .claimed true "R" 1 ∈ racingRequests.marks ∧
      SingleUse plainEnv (fun _ : Bool => .rotate "R" none none) "R" racingRequests :=
  ⟨by decide +kernel,
    rotateRefreshToken_singleUse plainEnv_lawful freshIds_plainWorld
      pairsOnRevoked_plainWorld (rfl : plainWorld.sessions.find? "R" = some
        { token := "R", tokenType := .refresh, userId := 1, expiresAt := 0 }) rfl
      reaches_racingRequests⟩

end FifiAlert
