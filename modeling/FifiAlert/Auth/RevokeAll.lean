import FifiAlert.Auth.TokenRotation

/-!
# Revoking all tokens of a user

`revokeAllUserTokens` revokes the rows of the user that are in the table when its
second update runs. A rotation that has claimed its row by then but has not
inserted its new rows yet inserts them afterwards, unrevoked
(`revokeAllUserTokens_misses_rotation`). When the update finds no rotation of
the user in that window, and the excepted row is not rotated later, no live row
of the user is left, whatever the requests in flight still do
(`revokeAllUserTokens_complete`).
-/

namespace FifiAlert

open Concurrency Store TokenService

/-- Every row of the user but the excepted one is revoked. -/
def NoLiveRow (userId : ℕ) (exceptHash : Option String) (s : Sessions) : Prop :=
  ∀ row ∈ s.rows, row.userId = userId → row.revoked = false → exceptHash = some row.token

/-- The update of the revocation leaves no live row of the user but the excepted one. -/
theorem noLiveRow_updateMany (t : Sessions) (userId : ℕ) (exceptHash : Option String)
    (date : Time) :
    NoLiveRow userId exceptHash (t.updateMany (Session.liveOf userId exceptHash)
      (Session.revoke date) (Session.revoke_token date)) := by
  intro row' hmem' hu' hrev'
  obtain ⟨row, -, rfl⟩ := List.mem_map.1 hmem'
  by_cases hlive : Session.liveOf userId exceptHash row = true
  · simp [hlive, Session.revoke] at hrev'
  · simp only [hlive, Bool.false_eq_true, if_false] at hu' hrev' ⊢
    cases exceptHash with
    | none => simp [Session.liveOf, hu', hrev'] at hlive
    | some k =>
        have hk : row.token = k := by
          simpa [Session.liveOf, hu', hrev'] using hlive
        rw [hk]

section Runs

variable {ι : Type*}

/-- The condition on the runs: the revocation of the user by thread `r` finds no
rotation of the user between its claim and its refresh row, and nobody claims
the excepted row afterwards. -/
def RevokesAtRest (r : ι) (userId : ℕ) (i : ι) (l : TokenCall) (w : TokenSnapshot ι) :
    Prop :=
  (∀ exceptHash date, i = r → l = .sessionRevokeAll userId exceptHash date →
    ∀ j, ¬ InWindow j userId w) ∧
  ∀ k date, l = .sessionClaim k date → .revokedAll r userId (some k) ∉ w.marks

/-- After the revocation of the user by thread `r` no row of the user is live
and no rotation can bring one in. -/
def RevokedInv (r : ι) (userId : ℕ) (w : TokenSnapshot ι) : Prop :=
  ∀ exceptHash, .revokedAll r userId exceptHash ∈ w.marks →
    NoLiveRow userId exceptHash w.state.sessions ∧ ∀ j, ¬ InWindow j userId w

variable [DecidableEq ι] {E : TokenEnv} {req : ι → TokenRequest} {r i : ι} {userId : ℕ}
  {l : TokenCall} {w : TokenSnapshot ι}

omit [DecidableEq ι] in
/-- A thread enters the window of a user only by claiming a live row of theirs. -/
theorem InWindow.of_after {j : ι} {next : World → World}
    (h : InWindow j userId (w.after TokenMark.of i l next)) :
    InWindow j userId w ∨ ∃ k date row, l = .sessionClaim k date ∧
      w.state.sessions.find? k = some row ∧ row.revoked = false ∧ row.userId = userId := by
  obtain ⟨⟨k, hk⟩, horphan, hrefresh⟩ := h
  rcases Snapshot.mem_after.1 hk with hnew | hold
  · obtain ⟨-, ⟨date, rfl⟩, row, hrow, hrev, hu⟩ := TokenMark.of_eq_claimed hnew
    exact .inr ⟨k, date, row, rfl, hrow, hrev, hu⟩
  · exact .inl ⟨⟨k, hold⟩, fun hm => horphan (Snapshot.mem_after_of_mem hm),
      fun row hm => hrefresh row (Snapshot.mem_after_of_mem hm)⟩

/-- A permitted call brings in no live row of a user when no thread stands in
the window and none logs the user in. -/
theorem NoLiveRow.call {exceptHash : Option String}
    (hlogin : ∀ i user ip ua, req i = .issue user ip ua → user.user.id ≠ userId)
    (hrest : ∀ j, ¬ InWindow j userId w)
    (hrows : NoLiveRow userId exceptHash w.state.sessions)
    (h : TokenPermits E req i l w) :
    NoLiveRow userId exceptHash (l.effect w.state).sessions := by
  intro row' hmem' hu' hrev'
  rcases h.row_origin (Table.find?_of_mem hmem') with ⟨row, hrow, rfl⟩ | ⟨-, -, hmay⟩
  · rw [TokenCall.token_onRow] at hrow ⊢
    refine hrows row (Table.mem_of_find? hrow) (by simpa using hu') ?_
    by_contra hne
    obtain ⟨row'', hrow'', -, -, hkept⟩ := h.row_kept hrow
    have hsame := Table.find?_of_mem hmem'
    rw [TokenCall.token_onRow, hrow'', Option.some.injEq] at hsame
    rw [← hsame, hkept (by simpa using hne)] at hrev'
    cases hrev'
  · rcases hmay.owner with ⟨user, ip, ua, hreq, hid⟩ | hwin
    · exact (hlogin i user ip ua hreq (hid.trans hu')).elim
    · exact (hrest i (hu' ▸ hwin)).elim

/-- The step lemma. -/
theorem RevokedInv.call
    (hlogin : ∀ i user ip ua, req i = .issue user ip ua → user.user.id ≠ userId)
    (hinv : RevokedInv r userId w) (h : TokenPermits E req i l w)
    (hadm : RevokesAtRest r userId i l w) :
    RevokedInv r userId (w.after TokenMark.of i l l.effect) := by
  intro exceptHash hm
  rcases Snapshot.mem_after.1 hm with hnew | hold
  · obtain ⟨hi, date, rfl⟩ := TokenMark.of_eq_revokedAll hnew
    have hrest := hadm.1 exceptHash date hi rfl
    refine ⟨noLiveRow_updateMany _ userId exceptHash date, fun j hwin => ?_⟩
    rcases hwin.of_after with hwin | ⟨k, date', row, hl, -⟩
    · exact hrest j hwin
    · cases hl
  · obtain ⟨hrows, hrest⟩ := hinv exceptHash hold
    refine ⟨hrows.call hlogin hrest h, fun j hwin => ?_⟩
    rcases hwin.of_after with hwin | ⟨k, date, row, rfl, hrow, hrev, hu⟩
    · exact hrest j hwin
    · have hexcept := hrows row (Table.mem_of_find? hrow) hu hrev
      rw [Table.key_of_find? hrow] at hexcept
      exact hadm.2 k date rfl (hexcept ▸ hold)

/-- Once the revocation has returned, and however it was asked for, the user has
no live row left but the excepted one, in every run whose steps meet the
condition and in which nobody logs the user in. -/
theorem revokeAllUserTokens_complete {s₀ : World} (hE : E.Lawful) (hfresh : FreshIds E s₀)
    (hlogin : ∀ i user ip ua, req i = .issue user ip ua → user.user.id ≠ userId)
    {c : Config ι World TokenCall AppError TokenAnswer (TokenMark ι)}
    (hc : Reaches (tokenSetting (fun _ => False) (RevokesAtRest r userId))
      (tokenPool E s₀ req) c) :
    (∀ exceptToken answer, req r = .revokeAll userId exceptToken → c.pool r = .ret answer →
      NoLiveRow userId ((Js.truthy exceptToken).map E.hashToken) c.state.sessions) ∧
    (c.pool r = .raise (.refreshTokenReuse userId) → NoLiveRow userId none c.state.sessions) := by
  have hsound := tokenPool_sound hE hfresh req (fun _ => False) (RevokesAtRest r userId)
  have hinv : RevokedInv r userId c.toSnapshot := by
    refine (Protocol.refines hsound hc).invariant (by simp [RevokedInv, tokenPool, Config.init])
      (fun _ _ _ _ hper hadm h => h.call hlogin hper hadm) ?_
    rintro s s' m - ⟨hs, -⟩ h exceptHash hm
    exact ⟨hs ▸ (h exceptHash hm).1, (h exceptHash hm).2⟩
  refine ⟨fun exceptToken answer hreq hret => ?_, fun hraise => ?_⟩
  · have hpost := (hsound.reaches hc).result hret
    simp only [TokenPost, hreq] at hpost
    exact (hinv _ hpost).1
  · exact (hinv none ((hsound.reaches hc).exception hraise)).1

end Runs

/-- A rotation and a logout from all devices at the same time. -/
def logoutRace : Bool → TokenRequest
  | false => .rotate "R" none none
  | true => .revokeAll 1 none

/-- The rotation claims its row. -/
def TokenMark.isClaimed : TokenMark Bool → Bool
  | claimed _ _ _ => true
  | _ => false

/-- The rotation inserts its refresh row. -/
def TokenMark.isRefreshed : TokenMark Bool → Bool
  | created false row => row.tokenType = .refresh
  | _ => false

/-- Somebody logs out from all devices. -/
def TokenMark.isLogout : TokenMark Bool → Bool
  | revokedAll _ _ _ => true
  | _ => false

def TokenCall.isClaim : TokenCall → Bool
  | sessionClaim _ _ => true
  | _ => false

/-- The rotation moves while nobody has logged out, or the logout moves after the rotation. -/
def movesInTurn (i : Bool) (l : TokenCall) (w : TokenSnapshot Bool) : Bool :=
  if i then !l.isClaim && w.marks.all fun m => !m.isClaimed || m.thread = false &&
    w.marks.any TokenMark.isRefreshed
  else !w.marks.any TokenMark.isLogout

theorem revokesAtRest_of_movesInTurn {i : Bool} {l : TokenCall} {w : TokenSnapshot Bool}
    (h : movesInTurn i l w = true) : RevokesAtRest true 1 i l w := by
  cases i with
  | false =>
      refine ⟨fun _ _ hi => absurd hi (by decide), fun k date _ hm => ?_⟩
      have hlogout : ∀ m ∈ w.marks, m.isLogout = false := by simpa [movesInTurn] using h
      cases hlogout _ hm
  | true =>
      obtain ⟨hclaim, hmarks⟩ : l.isClaim = false ∧ ∀ m ∈ w.marks, m.isClaimed = true →
          m.thread = false ∧ ∃ m' ∈ w.marks, m'.isRefreshed = true := by
        simpa [movesInTurn, imp_iff_not_or] using h
      refine ⟨fun _ _ _ _ j hwin => ?_, fun k date hl _ => ?_⟩
      · obtain ⟨⟨k, hk⟩, -, hrefresh⟩ := hwin
        obtain ⟨hj, m, hm, hrefreshed⟩ := hmarks _ hk rfl
        obtain rfl : j = false := hj
        cases m with
        | created i row =>
            cases i with
            | false => exact hrefresh row hm (of_decide_eq_true hrefreshed)
            | true => cases hrefreshed
        | _ => cases hrefreshed
      · rw [hl] at hclaim
        cases hclaim

/-- The rotation has come to its end, and then the logout runs. -/
def rotatedThenLoggedOut : Config Bool World TokenCall AppError TokenAnswer (TokenMark Bool) :=
  (tokenPool plainEnv plainWorld logoutRace).schedule TokenMark.of
    (List.replicate 15 false ++ [true, true, true])

/-- The pair that the rotation has minted is revoked with the other tokens. -/
theorem revokeAllUserTokens_complete_logoutRace :
    NoLiveRow 1 none rotatedThenLoggedOut.state.sessions := by
  have hlogin : ∀ (i : Bool) user ip ua, logoutRace i = .issue user ip ua →
      user.user.id ≠ 1 := by
    rintro (_ | _) <;> simp [logoutRace]
  have hrun : Reaches (tokenSetting (fun _ => False) (RevokesAtRest true 1))
      (tokenPool plainEnv plainWorld logoutRace) rotatedThenLoggedOut :=
    Reaches.scheduleOk movesInTurn (fun _ _ _ => revokesAtRest_of_movesInTurn) (by decide +kernel)
  exact (revokeAllUserTokens_complete plainEnv_lawful freshIds_plainWorld hlogin hrun).1 none
    (.count 2) rfl (Process.eq_ret_of_result? (by decide +kernel))

/-- The logout runs while the rotation stands between its claim and its inserts:
both end well, and the user keeps a live refresh token. -/
theorem revokeAllUserTokens_misses_rotation :
    ∃ c, Reaches (tokenSetting (fun _ => False) fun _ _ _ => True)
        (tokenPool plainEnv plainWorld logoutRace) c ∧
      c.pool true = .ret (.count 0) ∧ (∃ pair, c.pool false = .ret (.pair pair)) ∧
      ¬ NoLiveRow 1 none c.state.sessions := by
  refine ⟨_, Reaches.schedule (fun _ _ _ => trivial)
    ([false, false, false, false] ++ [true, true, true] ++ List.replicate 11 false) _, ?_⟩
  refine ⟨Process.eq_ret_of_result? (by decide +kernel), ⟨_,
    Process.eq_ret_of_result? (a := TokenAnswer.pair ⟨1, "", 900000, "1", 2592000000⟩)
      (by decide +kernel)⟩, fun h => ?_⟩
  have hrow := h { token := "1", tokenType := .refresh, userId := 1, expiresAt := 2592000000 }
    (by decide +kernel) rfl rfl
  cases hrow

end FifiAlert
