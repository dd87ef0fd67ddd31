import FifiAlert.Auth.SessionPool

/-!
# A revoked token stays revoked

For any number of requests in any interleaving: once the row of a token is
revoked or gone, it is never seen unrevoked again, no validation that starts
afterwards accepts the token, and no rotation mints for it but one that had
claimed the row by then. Any call may fail, and the clock may move as it likes.
-/

namespace FifiAlert

open Concurrency Store TokenService

variable {ι : Type*} {E : TokenEnv} {signedOut : SignOut} {req : ι → SessionRequest} {s₀ : World}
  {clock : Time → Time → Prop} {fails : SessionCall → Prop}
  {admits : ι → SessionCall → SessionSnapshot ι → Prop} {i : ι} {w w' : SessionSnapshot ι}
  {k : String}

section Interference

theorem Retired.env {s s' : World} {m : List (SessionMark ι)}
    (hs : s'.sessions = s.sessions) (h : Retired E s₀ k (⟨s, m⟩ : SessionSnapshot ι)) :
    Retired E s₀ k (⟨s', m⟩ : SessionSnapshot ι) :=
  ⟨h.1, fun row hrow => h.2 row (hs ▸ hrow)⟩

theorem Retired.of_interference
    (h : Relation.ReflTransGen
      ((sessionProtocol E signedOut req s₀ clock fails admits).Interference i) w w')
    (hk : Retired E s₀ k w) : Retired E s₀ k w' := by
  refine Protocol.stable ?_ ?_ h hk
  · exact fun _ _ _ _ hinv hper _ => Retired.call hinv hper
  · exact fun _ _ _ _ henv => Retired.env henv.1

/-- What is retired stays retired through a run. -/
theorem Retired.of_reachable
    (h : (sessionProtocol E signedOut req s₀ clock fails admits).Reachable w w')
    (hk : Retired E s₀ k w) : Retired E s₀ k w' :=
  h.invariant hk (fun _ _ _ hinv hper _ => Retired.call hinv hper)
    fun _ _ _ _ henv => Retired.env henv.1

theorem Spent.of_reachable
    (h : (sessionProtocol E signedOut req s₀ clock fails admits).Reachable w w')
    (hk : Spent E s₀ k w) : Spent E s₀ k w' :=
  h.invariant hk (fun _ _ _ _ _ _ hspent => hspent.after) fun _ _ _ _ _ => id

end Interference

section Refused

variable {α : Type}

variable (signedOut req s₀ clock fails admits) in
/-- The process does not end well, whatever the others do. -/
abbrev Refused (E : TokenEnv) (i : ι) (p : SessionProcess α) (w : SessionSnapshot ι) : Prop :=
  SessionSafe signedOut req s₀ clock fails admits E i (fun r _ => ∀ a, r ≠ .ok a) p w

theorem refused_raise (e : AppError) :
    Refused signedOut req s₀ clock fails admits E i (.raise e : SessionProcess α) w :=
  session_raise fun _ => nofun

theorem refused_read {β : Type} {l : SessionCall} {g : World → β} {p : β → SessionProcess α}
    (hmark : ∀ s, SessionMark.of i l s = none)
    (h : ∀ w', Relation.ReflTransGen
      ((sessionProtocol E signedOut req s₀ clock fails admits).Interference i) w w' →
        Refused signedOut req s₀ clock fails admits E i (p (g w'.state)) w') :
    Refused signedOut req s₀ clock fails admits E i (SessionCall.read l g >>= p) w :=
  Safe.query_bind hmark (fun w' hr _ _ => h w' hr) fun _ => refused_raise _

theorem refused_rethrow {p : SessionProcess α} (message : String)
    (h : Refused signedOut req s₀ clock fails admits E i p w) :
    Refused signedOut req s₀ clock fails admits E i (p.tryCatch (rethrow message)) w := by
  refine Safe.tryCatch (h.mono fun r w' _ hr => ?_)
  cases r with
  | ok a => exact hr
  | error e => cases e <;> exact refused_raise _

theorem validateAccessToken_refused {token : String} (hk : Retired E s₀ (E.hashToken token) w) :
    Refused signedOut req s₀ clock fails admits E i (validateAccessToken E signedOut token) w := by
  refine refused_rethrow _ (refused_read (fun _ => rfl) fun w₁ hr₁ => ?_)
  cases E.verify token w₁.state.now with
  | none => exact refused_raise _
  | some payload =>
      dsimp only
      split
      · exact refused_raise _
      refine refused_read (fun _ => rfl) fun w₂ hr₂ => ?_
      have hretired := (hk.of_interference hr₁).of_interference hr₂
      unfold World.findSessionWithUser
      cases hrow : w₂.state.sessions.find? (E.hashToken token) with
      | none => exact refused_raise _
      | some row =>
          dsimp only [Option.map_some, acceptSession]
          rw [if_pos (hretired.2 row hrow)]
          exact refused_raise _

theorem validateRefreshToken_refused {token : String} (hk : Retired E s₀ (E.hashToken token) w) :
    Refused signedOut req s₀ clock fails admits E i (validateRefreshToken E token) w := by
  refine refused_rethrow _ (refused_read (fun _ => rfl) fun w₁ hr₁ => ?_)
  cases E.verify token w₁.state.now with
  | none => exact refused_raise _
  | some payload =>
      dsimp only
      split
      · exact refused_raise _
      refine refused_read (fun _ => rfl) fun w₂ hr₂ => ?_
      have hretired := (hk.of_interference hr₁).of_interference hr₂
      cases hrow : w₂.state.sessions.find? (E.hashToken token) with
      | none => exact refused_raise _
      | some row =>
          rw [acceptRefresh, if_pos (hretired.2 row hrow)]
          exact refused_raise _

/-- A process that is refused gives no answer through a map either. -/
theorem Refused.map {β : Type} {p : SessionProcess α} (f : α → β)
    (h : Refused signedOut req s₀ clock fails admits E i p w) :
    Refused signedOut req s₀ clock fails admits E i (f <$> p) w := by
  refine Safe.map (h.mono fun r _ _ hr => ?_)
  cases r with
  | ok a => exact (hr a rfl).elim
  | error e => nofun

end Refused

section Permanent

/-- What a later moment `c₂` of a run shows of a token that was revoked at `c₁`. -/
structure NeverAgain (E : TokenEnv) (signedOut : SignOut) (req : ι → SessionRequest) (k : String)
    (c₁ c₂ : Config ι World SessionCall AppError SessionAnswer (SessionMark ι)) : Prop where
  revoked : ∀ row, c₂.state.sessions.find? k = some row → row.revoked = true
  refused : ∀ i token userId, E.hashToken token = k →
    req i = .validateAccess token ∨ req i = .validateRefresh token →
      c₁.pool i = (req i).process E signedOut → c₂.pool i ≠ .ret (.accepted userId)
  minted : ∀ i raw ip ua row, E.hashToken raw = k → req i = .rotate raw ip ua →
    .created i row ∈ c₂.marks → .claimed i k ∈ c₁.marks

variable [DecidableEq ι]

/-- Once the row that a token had is revoked or deleted, it stays so: the row never comes back
unrevoked, no later validation accepts the token, and no rotation mints for it but one that had
claimed the row by then. -/
theorem revocation_permanent (hE : E.Lawful) (hfresh : FreshIds E s₀)
    {c₀ c₁ c₂ : Config ι World SessionCall AppError SessionAnswer (SessionMark ι)}
    (h₀ : Reaches (sessionSetting clock fails fun _ _ _ => True)
      (sessionPool E signedOut s₀ req) c₀)
    (h₁ : Reaches (sessionSetting clock fails fun _ _ _ => True) c₀ c₁)
    (h₂ : Reaches (sessionSetting clock fails fun _ _ _ => True) c₁ c₂)
    {row : Session} (hrow : c₀.state.sessions.find? k = some row)
    (hgone : ∀ row', c₁.state.sessions.find? k = some row' → row'.revoked = true) :
    NeverAgain E signedOut req k c₁ c₂ := by
  have hsound₀ := (sessionPool_sound hE signedOut hfresh req clock fails
    fun _ _ _ => True).reaches h₀
  have hsound₁ := hsound₀.reaches h₁
  have hk : Retired E s₀ k c₁.toSnapshot :=
    ⟨(hsound₀.1.spent k row hrow).of_reachable (Protocol.refines hsound₀ h₁), hgone⟩
  have hrun := Protocol.refines hsound₁ h₂
  refine ⟨(hk.of_reachable hrun).2, ?_, ?_⟩
  · rintro i token userId rfl hreq hstart hret
    have hrefused : Refused signedOut req s₀ clock fails (fun _ _ _ => True) E i
        ((req i).process E signedOut) c₁.toSnapshot := by
      rcases hreq with hreq | hreq
      · rw [hreq]
        exact (validateAccessToken_refused hk).map _
      · rw [hreq]
        exact (validateRefreshToken_refused hk).map _
    rw [← hstart] at hrefused
    have hpost := ((hsound₁.update hrefused).reaches h₂).result hret
    rw [Function.update_self] at hpost
    exact hpost _ rfl
  · rintro i raw ip ua row' rfl hreq hcreated
    have hclaimed := (hsound₁.reaches h₂).1.createdClaimed i row' raw ip ua hcreated hreq
    have hold : Retired E s₀ (E.hashToken raw) c₂.toSnapshot ∧
        (.claimed i (E.hashToken raw) ∈ c₂.marks → .claimed i (E.hashToken raw) ∈ c₁.marks) := by
      refine hrun.invariant (J := fun w => Retired E s₀ (E.hashToken raw) w ∧
        (.claimed i (E.hashToken raw) ∈ w.marks → .claimed i (E.hashToken raw) ∈ c₁.marks))
        ⟨hk, id⟩ ?_ fun _ _ _ _ henv h => ⟨h.1.env henv.1, h.2⟩
      rintro j l w hinv hper - ⟨hretired, hsince⟩
      refine ⟨hretired.call hinv hper, fun hm => ?_⟩
      rcases Snapshot.mem_after.1 hm with hnew | hold
      · obtain ⟨-, -, found, hfound, hlive⟩ := SessionMark.of_eq_claimed hnew
        rw [hretired.2 found hfound] at hlive
        cases hlive
      · exact hsince hold
    exact hold.2 hclaimed

end Permanent

section Revoked

/-- A token is revoked and validated at the same time. -/
def revokeAndValidate : Bool → SessionRequest
  | false => .revoke "R"
  | true => .validateRefresh "R"

def revokeRun : Config Bool World SessionCall AppError SessionAnswer (SessionMark Bool) :=
  (sessionPool plainEnv (fun _ _ => false) plainWorld revokeAndValidate).schedule SessionMark.of
    [false, false]

/-- The token is revoked first; the validation that starts then refuses it. -/
theorem revocation_permanent_revoke :
    NeverAgain plainEnv (fun _ _ => false) revokeAndValidate "R" revokeRun
      (revokeRun.schedule SessionMark.of [true, true]) := by
  have hrun : ∀ (c : Config Bool World SessionCall AppError SessionAnswer (SessionMark Bool)) is,
      Reaches (sessionSetting (fun _ _ => True) (fun _ => False) fun _ _ _ => True) c
        (c.schedule SessionMark.of is) :=
    fun c is => Reaches.schedule (fun _ _ _ => trivial) is c
  have hrevoked : revokeRun.state.sessions.find? "R" = some
      { token := "R", tokenType := .refresh, userId := 1, expiresAt := 0, revoked := true,
        revokedAt := some 0 } := by decide +kernel
  refine revocation_permanent plainEnv_lawful freshIds_plainWorld .refl (hrun _ _) (hrun _ _)
    (rfl : plainWorld.sessions.find? "R" = some
      { token := "R", tokenType := .refresh, userId := 1, expiresAt := 0 }) fun row' hrow' => ?_
  rw [hrevoked, Option.some.injEq] at hrow'
  rw [← hrow']

end Revoked

end FifiAlert
