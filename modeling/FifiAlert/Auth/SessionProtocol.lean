import FifiAlert.Auth.SessionCalls
import FifiAlert.Auth.SingleUse

/-!
# All writers of the session table as a protocol

The token service with the two validations, the cleanup jobs, the revocation by
an administrator and the logout, seen from the session table. A row is inserted
under a hash that no row ever had, it is never unrevoked, and a pair is
remembered only on a row that the thread has claimed. So what is spent stays
spent: once the hash of a token has been in the table, and its row is revoked or
gone, it never comes back (`Retired.call`).
-/

namespace FifiAlert

open Concurrency Store

/-- What is asked of the services. -/
inductive SessionRequest where
  | generateAccess (user : UserWithRoles) (ipAddress userAgent : Option String)
  | generateRefresh (user : UserWithRoles) (ipAddress userAgent : Option String)
  | rotate (rawToken : String) (ipAddress userAgent : Option String)
  | revoke (token : String)
  | revokeAll (userId : ℕ) (exceptToken : Option String)
  | revokeSession (tokenHash : String)
  | deleteExpired
  | cleanupTokens
  | cleanupBans
  | validateAccess (token : String)
  | validateRefresh (token : String)
  | logout (req : AuthHeaders) (refreshToken : Option String)

/-- How a request ends well: with a token, a pair, the user whose token was accepted, or
nothing of interest. -/
inductive SessionAnswer where
  | token (minted : String × Time)
  | pair (p : IRotatedTokens)
  | accepted (userId : ℕ)
  | done
  deriving DecidableEq

/-- The process that serves a request. -/
def SessionRequest.process (E : TokenEnv) (signedOut : SignOut) :
    SessionRequest → SessionProcess SessionAnswer
  | generateAccess user ipAddress userAgent =>
      SessionAnswer.token <$>
        (TokenService.generateAccessToken E user ipAddress userAgent).relabel .token
  | generateRefresh user ipAddress userAgent =>
      SessionAnswer.token <$>
        (TokenService.generateRefreshToken E user ipAddress userAgent).relabel .token
  | rotate rawToken ipAddress userAgent =>
      SessionAnswer.pair <$>
        (TokenService.rotateRefreshToken E rawToken ipAddress userAgent).relabel .token
  | revoke token =>
      (fun _ => .done) <$> (TokenService.revokeToken E token).relabel SessionCall.token
  | revokeAll userId exceptToken =>
      (fun _ => .done) <$>
        (TokenService.revokeAllUserTokens E userId exceptToken).relabel SessionCall.token
  | revokeSession tokenHash =>
      (fun _ => .done) <$> AdminController.revokeSession signedOut tokenHash
  | deleteExpired => (fun _ => .done) <$> TokenService.cleanupExpiredTokens signedOut
  | cleanupTokens => (fun _ => .done) <$> TokenCleanupService.cleanupExpiredTokens signedOut
  | cleanupBans => (fun _ => .done) <$> TokenCleanupService.cleanupExpiredBans signedOut
  | validateAccess token =>
      (fun user => .accepted user.id) <$> TokenService.validateAccessToken E signedOut token
  | validateRefresh token => SessionAnswer.accepted <$> TokenService.validateRefreshToken E token
  | logout req refreshToken =>
      (fun _ => .done) <$> AuthController.logout E signedOut req refreshToken

/-- The notable calls of a run. -/
inductive SessionMark (ι : Type*) where
  | drew (i : ι) (jti : ℕ)
  | claimed (i : ι) (token : String)
  | created (i : ι) (row : Session)
  | revoked (i : ι) (token : String)
  deriving DecidableEq

namespace SessionMark

variable {ι : Type*}

/-- The mark of a call, from the state in which it is made. -/
def of (i : ι) : SessionCall → World → Option (SessionMark ι)
  | .token .randomUUID, w => some (drew i w.nextUUID)
  | .token (.sessionClaim token _), w =>
      if (w.sessions.find? token).any fun row => !row.revoked then some (claimed i token)
      else none
  | .token (.sessionCreate row), w =>
      if (w.sessions.find? row.token).isNone then some (created i row) else none
  | .token (.sessionRevoke token _), _ => some (revoked i token)
  | _, _ => none

section Inversion

variable {i j : ι} {l : SessionCall} {w : World}

theorem of_eq_drew {n : ℕ} (h : of i l w = some (drew j n)) :
    i = j ∧ l = .token .randomUUID ∧ n = w.nextUUID := by
  unfold of at h
  split at h
  · cases h
    exact ⟨rfl, rfl, rfl⟩
  · split at h <;> cases h
  · split at h <;> cases h
  · cases h
  · cases h

theorem of_eq_claimed {k : String} (h : of i l w = some (claimed j k)) :
    i = j ∧ (∃ date, l = .token (.sessionClaim k date)) ∧
      ∃ row, w.sessions.find? k = some row ∧ row.revoked = false := by
  unfold of at h
  split at h
  · cases h
  · split at h
    next hlive =>
        cases h
        obtain ⟨row, hrow, hrev⟩ := (Option.any_eq_true _ _).1 hlive
        exact ⟨rfl, ⟨_, rfl⟩, row, hrow, by simpa using hrev⟩
    next => cases h
  · split at h <;> cases h
  · cases h
  · cases h

theorem of_eq_created {row : Session} (h : of i l w = some (created j row)) :
    i = j ∧ l = .token (.sessionCreate row) ∧ w.sessions.find? row.token = none := by
  unfold of at h
  split at h
  · cases h
  · split at h <;> cases h
  · split at h
    next hnone =>
        cases h
        exact ⟨rfl, rfl, Option.isNone_iff_eq_none.1 hnone⟩
    next => cases h
  · cases h
  · cases h

end Inversion

end SessionMark

abbrev SessionSnapshot (ι : Type*) := Snapshot World (SessionMark ι)

/-- The surroundings of the services: others may move the clock as `clock` says and change users
and roles, but only the services touch the session table and draw ids. -/
def sessionSetting {ι : Type*} (clock : Time → Time → Prop) (fails : SessionCall → Prop)
    (admits : ι → SessionCall → SessionSnapshot ι → Prop) :
    Setting ι World SessionCall (SessionMark ι) where
  mark := SessionMark.of
  env := fun w w' =>
    w'.sessions = w.sessions ∧ w'.nextUUID = w.nextUUID ∧ clock w.now w'.now
  mayFail := fails
  admits := admits

namespace SessionCall

/-- What a call does to a row that it leaves in the table. -/
def onRow : SessionCall → Session → Session
  | token l, s => l.onRow s
  | sessionDropStale graceCutoff, s =>
      if s.staleReplacement graceCutoff then s.dropReplacement else s
  | sessionRevokeById tokenHash date, s => if s.token = tokenHash then s.revoke date else s
  | _, s => s

/-- Does a call leave the row in the table? -/
def keeps (signedOut : SignOut) : SessionCall → Session → Bool
  | sessionDeleteExpired now, s => !s.expired now
  | sessionDeleteRevoked thirtyDaysAgo, s => !s.longRevoked thirtyDaysAgo
  | signOut cookie, s => !signedOut cookie s
  | _, _ => true

theorem find?_effect {signedOut : SignOut} {l : SessionCall}
    (hl : ∀ row, l ≠ token (.sessionCreate row)) (w : World) (k : String) :
    (l.effect signedOut w).sessions.find? k =
      ((w.sessions.find? k).filter (l.keeps signedOut)).map l.onRow := by
  cases l with
  | token l =>
      have hcreate : ∀ row, l ≠ .sessionCreate row := fun row h => hl row (congrArg token h)
      rw [effect, TokenCall.find?_effect hcreate]
      cases w.sessions.find? k <;> rfl
  | sessionDropStale graceCutoff =>
      rw [effect, Table.find?_updateMany]
      cases w.sessions.find? k <;> rfl
  | sessionRevokeById tokenHash date =>
      rw [effect, Table.find?_updateMany]
      cases w.sessions.find? k <;> simp [keeps, onRow]
  | sessionDeleteExpired now =>
      rw [effect, Table.find?_deleteMany]
      exact Option.map_id'.symm
  | sessionDeleteRevoked thirtyDaysAgo =>
      rw [effect, Table.find?_deleteMany]
      exact Option.map_id'.symm
  | signOut cookie =>
      rw [effect, Table.find?_deleteMany]
      exact Option.map_id'.symm
  | _ => cases h : w.sessions.find? k <;> simp [effect, keeps, onRow, h, Option.filter_some]

section OnRow

variable (l : SessionCall) (s : Session)

@[simp] theorem token_onRow : (l.onRow s).token = s.token := by
  cases l <;> simp only [onRow, TokenCall.token_onRow] <;> split <;> rfl

@[simp] theorem userId_onRow : (l.onRow s).userId = s.userId := by
  cases l <;> simp only [onRow, TokenCall.userId_onRow] <;> split <;> rfl

@[simp] theorem tokenType_onRow : (l.onRow s).tokenType = s.tokenType := by
  cases l <;> simp only [onRow, TokenCall.tokenType_onRow] <;> split <;> rfl

variable {l s}

/-- Only the branch for a duplicate token ever unrevokes a row, or moves its expiry. -/
theorem revoked_onRow (hl : ∀ k e ip ua, l ≠ token (.sessionUnrevoke k e ip ua))
    (h : s.revoked = true) : (l.onRow s).revoked = true := by
  cases l with
  | token l =>
      exact TokenCall.revoked_onRow (fun k e ip ua hk => hl k e ip ua (congrArg token hk)) h
  | _ =>
      simp only [onRow]
      first
        | exact h
        | (split <;> first | exact h | rfl)

theorem expiresAt_onRow (hl : ∀ k e ip ua, l ≠ token (.sessionUnrevoke k e ip ua)) :
    (l.onRow s).expiresAt = s.expiresAt := by
  cases l with
  | token l =>
      cases l with
      | sessionUnrevoke k e ip ua => exact (hl k e ip ua rfl).elim
      | _ => simp only [onRow, TokenCall.onRow] <;> split <;> rfl
  | _ => simp only [onRow] <;> split <;> rfl

/-- A blob on a row was there before, or is written by this call. -/
theorem replacement_onRow {b : String} (h : (l.onRow s).replacementCiphertext = some b) :
    s.replacementCiphertext = some b ∨
      ∃ pair, l = token (.sessionStoreReplacement s.token pair b) := by
  cases l with
  | token l =>
      exact (TokenCall.replacement_onRow h).imp_right fun ⟨pair, hl⟩ => ⟨pair, congrArg token hl⟩
  | sessionDropStale graceCutoff =>
      simp only [onRow] at h
      split at h
      next => cases h
      next => exact .inl h
  | sessionRevokeById tokenHash date =>
      refine .inl ?_
      simp only [onRow] at h
      split at h <;> exact h
  | _ => exact .inl h

end OnRow

end SessionCall

section Permits

variable {ι : Type*}

/-- No token that is still to be minted has this hash. -/
def Spent (E : TokenEnv) (s₀ : World) (k : String) (w : SessionSnapshot ι) : Prop :=
  ∀ p e t, k = E.hashToken (E.sign p e t) →
    p.jti < s₀.nextUUID ∨ ∃ j row, .created j row ∈ w.marks ∧ row.token = k

/-- The hash is spent, and its row is revoked or gone. -/
def Retired (E : TokenEnv) (s₀ : World) (k : String) (w : SessionSnapshot ι) : Prop :=
  Spent E s₀ k w ∧ ∀ row, w.state.sessions.find? k = some row → row.revoked = true

/-- The refresh tokens in the remembered pairs are spent. -/
def PairsSpent (E : TokenEnv) (s₀ : World) (w : SessionSnapshot ι) : Prop :=
  ∀ k row b pair, w.state.sessions.find? k = some row → row.replacementCiphertext = some b →
    TokenService.decryptReplacement E b = some pair →
      Spent E s₀ (E.hashToken pair.refreshToken) w

/-- When a row may be inserted: its token was signed with an id the thread drew and is new, and
a rotation has claimed the row of its own token. -/
structure MayInsert (E : TokenEnv) (req : ι → SessionRequest) (i : ι) (row : Session)
    (w : SessionSnapshot ι) : Prop where
  new : w.state.sessions.find? row.token = none
  unrevoked : row.revoked = false
  noPair : row.replacementCiphertext = none
  signed : ∃ p e t, row.token = E.hashToken (E.sign p e t) ∧ .drew i p.jti ∈ w.marks
  first : ∀ j row', .created j row' ∈ w.marks → row'.token ≠ row.token
  claimed : ∀ raw ip ua, req i = .rotate raw ip ua → .claimed i (E.hashToken raw) ∈ w.marks

/-- When a pair may be remembered on a row: the thread has claimed the row, and the refresh token
of the pair is spent. -/
structure MayRemember (E : TokenEnv) (s₀ : World) (i : ι) (token blob : String)
    (w : SessionSnapshot ι) : Prop where
  claimed : .claimed i token ∈ w.marks
  spent : ∀ pair, TokenService.decryptReplacement E blob = some pair →
    Spent E s₀ (E.hashToken pair.refreshToken) w

/-- When the code makes each of its calls. -/
def SessionPermits (E : TokenEnv) (req : ι → SessionRequest) (s₀ : World) (i : ι) :
    SessionCall → SessionSnapshot ι → Prop
  | .token (.sessionCreate row), w => MayInsert E req i row w
  | .token (.sessionUnrevoke _ _ _ _), _ => False
  | .token (.sessionStoreReplacement token _ blob), w => MayRemember E s₀ i token blob w
  | _, _ => True

/-- What every run keeps, from the state `s₀` on. -/
structure SessionInv (E : TokenEnv) (req : ι → SessionRequest) (s₀ : World)
    (w : SessionSnapshot ι) : Prop where
  late : s₀.nextUUID ≤ w.state.nextUUID
  drawn : ∀ i n, .drew i n ∈ w.marks → s₀.nextUUID ≤ n ∧ n < w.state.nextUUID
  drewOnce : ∀ i j n, .drew i n ∈ w.marks → .drew j n ∈ w.marks → i = j
  signed : ∀ i row, .created i row ∈ w.marks →
    ∃ p e t, row.token = E.hashToken (E.sign p e t) ∧ .drew i p.jti ∈ w.marks
  createdClaimed : ∀ i row raw ip ua, .created i row ∈ w.marks → req i = .rotate raw ip ua →
    .claimed i (E.hashToken raw) ∈ w.marks
  claimedRetired : ∀ i k, .claimed i k ∈ w.marks → Retired E s₀ k w
  spent : ∀ k row, w.state.sessions.find? k = some row → Spent E s₀ k w
  bare : PairsOnRevoked s₀ → PairsOnRevoked w.state
  paired : PairsSpent E s₀ (⟨s₀, []⟩ : SessionSnapshot ι) → PairsSpent E s₀ w

theorem FreshIds.spent {E : TokenEnv} {s₀ : World} (h : FreshIds E s₀) {k : String}
    {row : Session} (hrow : s₀.sessions.find? k = some row) (w : SessionSnapshot ι) :
    Spent E s₀ k w := by
  rintro p e t rfl
  refine .inl (not_le.1 fun hle => ?_)
  rw [h p e t hle] at hrow
  cases hrow

theorem SessionInv.init {E : TokenEnv} (req : ι → SessionRequest) {s₀ : World}
    (h : FreshIds E s₀) : SessionInv E req s₀ (⟨s₀, []⟩ : SessionSnapshot ι) where
  late := le_rfl
  drawn := by simp
  drewOnce := by simp
  signed := by simp
  createdClaimed := by simp
  claimedRetired := by simp
  spent := fun _ _ hrow => h.spent hrow _
  bare := id
  paired := id

end Permits

section Step

variable {ι : Type*} {E : TokenEnv} {signedOut : SignOut} {req : ι → SessionRequest} {s₀ : World}
  {i : ι} {l : SessionCall} {w : SessionSnapshot ι}

theorem Spent.after {k : String} (h : Spent E s₀ k w) {next : World → World} :
    Spent E s₀ k (w.after SessionMark.of i l next) := by
  intro p e t hk
  refine (h p e t hk).imp_right ?_
  rintro ⟨j, row, hm, hrow⟩
  exact ⟨j, row, Snapshot.mem_after_of_mem hm, hrow⟩

/-- A row after a permitted call was there before, or was inserted by it. -/
theorem SessionPermits.row_origin (h : SessionPermits E req s₀ i l w) {k : String}
    {row' : Session} (hrow : (l.effect signedOut w.state).sessions.find? k = some row') :
    (∃ row, w.state.sessions.find? k = some row ∧ row' = l.onRow row) ∨
      (l = .token (.sessionCreate row') ∧ row'.token = k ∧ MayInsert E req i row' w) := by
  by_cases hl : ∃ new, l = .token (.sessionCreate new)
  · obtain ⟨new, rfl⟩ := hl
    have hmay : MayInsert E req i new w := h
    rw [SessionCall.effect, TokenCall.find?_create new w.state hmay.new] at hrow
    split at hrow
    next hk =>
        cases hrow
        exact .inr ⟨rfl, hk, hmay⟩
    next => exact .inl ⟨row', hrow, rfl⟩
  · rw [SessionCall.find?_effect (fun new he => hl ⟨new, he⟩)] at hrow
    obtain ⟨row, hr, rfl⟩ := Option.map_eq_some_iff.1 hrow
    exact .inl ⟨row, (Option.filter_eq_some_iff.1 hr).1, rfl⟩

theorem SessionPermits.not_unrevoke (h : SessionPermits E req s₀ i l w) :
    ∀ k e ip ua, l ≠ .token (.sessionUnrevoke k e ip ua) := by
  rintro k e ip ua rfl
  exact h

/-- A spent hash is not inserted again. -/
theorem MayInsert.ne_of_spent (hinv : SessionInv E req s₀ w) {row : Session}
    (h : MayInsert E req i row w) {k : String} (hk : Spent E s₀ k w) : row.token ≠ k := by
  rintro rfl
  obtain ⟨p, e, t, htoken, hdrew⟩ := h.signed
  rcases hk p e t htoken with hlt | ⟨j, row', hm, hrow'⟩
  · exact absurd (hinv.drawn i p.jti hdrew).1 (not_le.2 hlt)
  · exact h.first j row' hm hrow'

/-- What is retired stays retired. -/
theorem Retired.call (hinv : SessionInv E req s₀ w) (h : SessionPermits E req s₀ i l w)
    {k : String} (hk : Retired E s₀ k w) :
    Retired E s₀ k (w.after SessionMark.of i l (l.effect signedOut)) := by
  refine ⟨hk.1.after, fun row' hrow' => ?_⟩
  rcases h.row_origin hrow' with ⟨row, hrow, rfl⟩ | ⟨-, htoken, hmay⟩
  · exact SessionCall.revoked_onRow h.not_unrevoke (hk.2 row hrow)
  · exact (hmay.ne_of_spent hinv hk.1 htoken).elim

theorem SessionCall.nextUUID_effect (signedOut : SignOut) (l : SessionCall) (w : World) :
    w.nextUUID ≤ (l.effect signedOut w).nextUUID := by
  cases l with
  | token l => exact TokenCall.nextUUID_effect l w
  | _ => exact le_rfl

/-- Pairs are remembered on claimed rows only. -/
theorem SessionInv.bare_call (hinv : SessionInv E req s₀ w) (h : SessionPermits E req s₀ i l w)
    (hbare : PairsOnRevoked w.state) : PairsOnRevoked (l.effect signedOut w.state) := by
  intro k row' hrow' hrev'
  rcases h.row_origin hrow' with ⟨row, hrow, rfl⟩ | ⟨-, -, hmay⟩
  · have hrev : row.revoked = false := by
      by_contra hne
      rw [SessionCall.revoked_onRow h.not_unrevoke (by simpa using hne)] at hrev'
      cases hrev'
    cases hb : (l.onRow row).replacementCiphertext with
    | none => rfl
    | some b =>
        rcases SessionCall.replacement_onRow hb with hold | ⟨pair, rfl⟩
        · rw [hbare k row hrow hrev] at hold
          cases hold
        · have hmay : MayRemember E s₀ i row.token b w := h
          have hretired := hinv.claimedRetired i row.token hmay.claimed
          rw [Table.key_of_find? hrow] at hretired
          rw [hretired.2 row hrow] at hrev
          cases hrev
  · exact hmay.noPair

theorem SessionInv.paired_call (h : SessionPermits E req s₀ i l w) (hpaired : PairsSpent E s₀ w) :
    PairsSpent E s₀ (w.after SessionMark.of i l (l.effect signedOut)) := by
  intro k row' b pair hrow' hb hd
  rcases h.row_origin hrow' with ⟨row, hrow, rfl⟩ | ⟨-, -, hmay⟩
  · rcases SessionCall.replacement_onRow hb with hold | ⟨stored, rfl⟩
    · exact (hpaired k row b pair hrow hold hd).after
    · have hmay : MayRemember E s₀ i row.token b w := h
      exact (hmay.spent pair hd).after
  · rw [hmay.noPair] at hb
    cases hb

/-- The row that a claim finds is retired by it. -/
theorem SessionInv.retired_of_claim (hinv : SessionInv E req s₀ w) {k : String} {date : Time}
    {row : Session} (hrow : w.state.sessions.find? k = some row) (hlive : row.revoked = false) :
    Retired E s₀ k (w.after SessionMark.of i (.token (.sessionClaim k date))
      (SessionCall.effect signedOut (.token (.sessionClaim k date)))) := by
  refine ⟨(hinv.spent k row hrow).after, fun row' hrow' => ?_⟩
  rw [Snapshot.state_after, SessionCall.find?_effect (by simp), hrow, Option.filter_some] at hrow'
  have hk : row.token = k := Table.key_of_find? hrow
  have hrevoke : SessionCall.onRow (.token (.sessionClaim k date)) row = row.revoke date := by
    simp [SessionCall.onRow, TokenCall.onRow, Session.live, hk, hlive]
  have hkeeps : SessionCall.keeps signedOut (.token (.sessionClaim k date)) row = true := rfl
  rw [if_pos hkeeps, Option.map_some, hrevoke] at hrow'
  cases hrow'
  rfl

/-- The step lemma of the invariant. -/
theorem SessionInv.call (hinv : SessionInv E req s₀ w) (h : SessionPermits E req s₀ i l w) :
    SessionInv E req s₀ (w.after SessionMark.of i l (l.effect signedOut)) where
  late := hinv.late.trans (SessionCall.nextUUID_effect signedOut l w.state)
  drawn := by
    intro j n hm
    rcases Snapshot.mem_after.1 hm with hnew | hold
    · obtain ⟨-, rfl, rfl⟩ := SessionMark.of_eq_drew hnew
      exact ⟨hinv.late, Nat.lt_succ_self _⟩
    · exact (hinv.drawn j n hold).imp_right fun hlt =>
        hlt.trans_le (SessionCall.nextUUID_effect signedOut l w.state)
  drewOnce := by
    intro j j' n hm hm'
    rcases Snapshot.mem_after.1 hm with hnew | hold <;>
      rcases Snapshot.mem_after.1 hm' with hnew' | hold'
    · exact (SessionMark.of_eq_drew hnew).1.symm.trans (SessionMark.of_eq_drew hnew').1
    · obtain ⟨-, -, rfl⟩ := SessionMark.of_eq_drew hnew
      exact absurd (hinv.drawn j' _ hold').2 (lt_irrefl _)
    · obtain ⟨-, -, rfl⟩ := SessionMark.of_eq_drew hnew'
      exact absurd (hinv.drawn j _ hold).2 (lt_irrefl _)
    · exact hinv.drewOnce j j' n hold hold'
  signed := by
    intro j row hm
    have hsigned : ∃ p e t, row.token = E.hashToken (E.sign p e t) ∧ .drew j p.jti ∈ w.marks := by
      rcases Snapshot.mem_after.1 hm with hnew | hold
      · obtain ⟨rfl, rfl, -⟩ := SessionMark.of_eq_created hnew
        exact MayInsert.signed h
      · exact hinv.signed j row hold
    obtain ⟨p, e, t, htoken, hdrew⟩ := hsigned
    exact ⟨p, e, t, htoken, Snapshot.mem_after_of_mem hdrew⟩
  createdClaimed := by
    intro j row raw ip ua hm hreq
    refine Snapshot.mem_after_of_mem ?_
    rcases Snapshot.mem_after.1 hm with hnew | hold
    · obtain ⟨rfl, rfl, -⟩ := SessionMark.of_eq_created hnew
      exact MayInsert.claimed h raw ip ua hreq
    · exact hinv.createdClaimed j row raw ip ua hold hreq
  claimedRetired := by
    intro j k hm
    rcases Snapshot.mem_after.1 hm with hnew | hold
    · obtain ⟨-, ⟨date, rfl⟩, row, hrow, hlive⟩ := SessionMark.of_eq_claimed hnew
      exact hinv.retired_of_claim hrow hlive
    · exact (hinv.claimedRetired j k hold).call hinv h
  spent := by
    intro k row' hrow'
    rcases h.row_origin hrow' with ⟨row, hrow, -⟩ | ⟨rfl, rfl, hmay⟩
    · exact (hinv.spent k row hrow).after
    · intro p e t _
      refine .inr ⟨i, row', Snapshot.mem_after.2 (.inl ?_), rfl⟩
      simp [SessionMark.of, hmay.new]
  bare := fun h₀ => hinv.bare_call h (hinv.bare h₀)
  paired := fun h₀ => SessionInv.paired_call h (hinv.paired h₀)

/-- The writers of the session table as a protocol. -/
def sessionProtocol (E : TokenEnv) (signedOut : SignOut) (req : ι → SessionRequest) (s₀ : World)
    (clock : Time → Time → Prop) (fails : SessionCall → Prop)
    (admits : ι → SessionCall → SessionSnapshot ι → Prop) :
    Protocol (sessionSetting clock fails admits) where
  effect := SessionCall.effect signedOut
  permits := SessionPermits E req s₀
  inv := SessionInv E req s₀
  inv_call := fun hinv hper _ => hinv.call hper
  inv_env := by
    rintro s s' m ⟨hs, hu, -⟩ hinv
    exact
      { late := hu ▸ hinv.late
        drawn := fun i n hm => hu ▸ hinv.drawn i n hm
        drewOnce := hinv.drewOnce
        signed := hinv.signed
        createdClaimed := hinv.createdClaimed
        claimedRetired := fun i k hm =>
          ⟨(hinv.claimedRetired i k hm).1, fun row hrow =>
            (hinv.claimedRetired i k hm).2 row (hs ▸ hrow)⟩
        spent := fun k row hrow => hinv.spent k row (hs ▸ hrow)
        bare := fun h₀ k row hrow => hinv.bare h₀ k row (hs ▸ hrow)
        paired := fun h₀ k row b pair hrow => hinv.paired h₀ k row b pair (hs ▸ hrow) }

end Step

end FifiAlert
