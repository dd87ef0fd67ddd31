import FifiAlert.Invitation.PendingConflicts

/-!
# The conflicts are real

`create` and `resend` in the order of their code: where they answer that an invitation is pending,
the failed check has met one. Any number of requests in any interleaving and with any calls
failing: the conflict is real exactly when the invitation has not expired unnoticed.
-/

namespace FifiAlert

open Concurrency Store InvitationCall InvitationService

/-- The process stores no token, and answers no conflict with a pending invitation. -/
abbrev Unrefused (E : InvitationEnv) {α : Type} (p : InvitationProcess α) : Prop :=
  p.Confined (fun l next => next = l.effect E ∧ l.storesNothing) fun e => e ≠ invitePending

section Parts

variable {E : InvitationEnv} {α : Type}

theorem read_unrefused {l : InvitationCall} {g : World → α} (hread : id = l.effect E)
    (hl : l.storesNothing) : Unrefused E (read l g) :=
  Process.confined_query ⟨hread, hl⟩ nofun

theorem assertConfigured_unrefused : Unrefused E (assertConfigured E) := by
  unfold assertConfigured
  split
  · exact fun h => nomatch h
  · trivial

theorem isActiveLocale_unrefused (locale : Option String) :
    Unrefused E (isActiveLocale locale) := by
  cases locale with
  | none => trivial
  | some code => exact read_unrefused rfl trivial

theorem enforceSendLimits_unrefused (senderUserId : ℕ) :
    Unrefused E (enforceSendLimits E senderUserId) := by
  refine Process.Confined.bind (read_unrefused rfl trivial) fun now => ?_
  refine Process.Confined.bind (read_unrefused rfl trivial) fun daily => ?_
  split
  · exact fun h => nomatch h
  split
  · refine Process.Confined.bind (read_unrefused rfl trivial) fun hourly => ?_
    split
    · exact fun h => nomatch h
    · trivial
  · trivial

theorem enforceCooldown_unrefused (row : Invitation) : Unrefused E (enforceCooldown E row) := by
  refine Process.Confined.bind (read_unrefused rfl trivial) fun lastSend => ?_
  split
  · trivial
  · refine Process.Confined.bind (read_unrefused rfl trivial) fun now => ?_
    split
    · exact fun h => nomatch h
    · trivial

theorem queueDelivery_unrefused (delivery : Delivery) : Unrefused E (queueDelivery E delivery) :=
  Process.confined_modify ⟨rfl, trivial⟩ nofun

end Parts

section Walk

variable {ι : Type*} {E : InvitationEnv}
  {hinj : Function.Injective fun n => E.hashToken (E.mintToken n)} {i : ι}
  {r : InvitationRequest} {s : ConflictSnapshot ι} {α β : Type}

/-- The check of the thread met an invitation that stands in the way of the request. -/
def RefusedBy (E : InvitationEnv) (r : InvitationRequest) (i : ι) (s : ConflictSnapshot ι) :
    Prop :=
  ∃ w, .refused i w ∈ s.marks ∧ PendingUnique w.invitations ∧
    ∃ row ∈ w.invitations.rows, r.standsBefore E w row = true

/-- A request that answers with a conflict has met one. -/
abbrev ConflictSafe (E : InvitationEnv)
    (hinj : Function.Injective fun n => E.hashToken (E.mintToken n)) (i : ι)
    (r : InvitationRequest) (p : InvitationProcess α) (s : ConflictSnapshot ι) : Prop :=
  Safe (conflictProtocol E hinj).contract i
    (fun res s' => res = .error invitePending → RefusedBy E r i s') p s

theorem lasting_refusedBy :
    (conflictProtocol E hinj).Lasting i (fun _ => false) (RefusedBy E r i) := by
  refine .of_kept ?_ fun _ _ _ _ _ h => h
  rintro j l s - - - ⟨w, hm, hstands⟩
  exact ⟨w, Snapshot.mem_after_of_mem hm, hstands⟩

theorem conflictMark_of_refuses {l : InvitationCall} {w : World} (h : l.refuses w = true) :
    conflictMark i l w = some (.refused i w) := if_pos h

/-- Where the check fails, the state it met is on record. -/
theorem refusedBy_after {l : InvitationCall} {next : World → World}
    (hunique : PendingUnique s.state.invitations) (h : l.refuses s.state = true)
    (hstands : ∃ row ∈ s.state.invitations.rows, r.standsBefore E s.state row = true) :
    RefusedBy E r i (s.after conflictMark i l next) :=
  ⟨s.state, Snapshot.mem_after.2 (.inl (conflictMark_of_refuses h)), hunique, hstands⟩

theorem refuse_safe (h : RefusedBy E r i s) :
    ConflictSafe E hinj i r (.raise invitePending : InvitationProcess α) s :=
  Safe.raise fun _ hr _ _ => lasting_refusedBy.stable h hr

theorem raise_unrefused {e : AppError} (he : e ≠ invitePending) :
    ConflictSafe E hinj i r (.raise e : InvitationProcess α) s :=
  Safe.raise fun _ _ _ h => absurd (Except.error.inj h) he

theorem ret_unrefused {a : α} : ConflictSafe E hinj i r (.ret a : InvitationProcess α) s :=
  Safe.ret fun _ _ _ h => nomatch h

/-- A part of the code that stores nothing and does not refuse. -/
theorem unrefused_bind {asks : ConflictMark ι → Bool} {J : ConflictSnapshot ι → Prop}
    (hJ : (conflictProtocol E hinj).Lasting i asks J)
    (hminted : ∀ n, asks (.token (.minted i n)) = false)
    (hrefused : ∀ w, asks (.refused i w) = false) (hs : J s) {p : InvitationProcess α}
    {k : α → InvitationProcess β} (hp : Unrefused E p)
    (h : ∀ a s₁, J s₁ → ConflictSafe E hinj i r (k a) s₁) :
    ConflictSafe E hinj i r (p >>= k) s := by
  refine hJ.guarded_bind hs (hp.mono ?_ fun _ he => he) (fun a s₁ _ hs₁ => h a s₁ hs₁)
    fun e s₁ he _ _ heq => absurd (Except.error.inj heq) he
  rintro l next ⟨hnext, hl⟩
  refine ⟨hnext, fun s₁ id tokenHash hstored => ?_, fun w m hm => ?_⟩
  · have hnone := (inviteMark_of_storesNothing (i := i) hl s₁.state).1
    cases hnone.symm.trans hstored
  · change conflictMark i l w = some m at hm
    unfold conflictMark at hm
    split at hm
    · cases hm
      exact hrefused w
    · obtain ⟨m', hm', rfl⟩ := Option.map_eq_some_iff.1 hm
      obtain ⟨n, rfl⟩ := (inviteMark_of_storesNothing (i := i) hl w).2 m' hm'
      exact hminted n

/-- The same where nothing is relied on. -/
theorem plain_bind {p : InvitationProcess α} {k : α → InvitationProcess β} (hp : Unrefused E p)
    (h : ∀ a s₁, ConflictSafe E hinj i r (k a) s₁) : ConflictSafe E hinj i r (p >>= k) s :=
  unrefused_bind .nothing (fun _ => rfl) (fun _ => rfl) trivial hp fun a s₁ _ => h a s₁

variable [DecidableEq ι]

/-- The thread holds a token, in the finer history. -/
def HoldsToken (E : InvitationEnv) (i : ι) (n : ℕ) (s : ConflictSnapshot ι) : Prop :=
  Holds E i n (s.forget ConflictMark.invite?)

theorem lasting_holdsToken (n : ℕ) :
    (conflictProtocol E hinj).Lasting i
      (fun m => m.invite?.any (InviteMark.isStore i)) (HoldsToken E i n) :=
  .forget conflictSetting_refines rfl (fun s (h : (conflictProtocol E hinj).inv s) => h.1)
    (fun _ _ _ h => h) (@lasting_holds ι E i _ hinj n)

omit [DecidableEq ι] in
/-- The thread draws a token, which it holds from then on. -/
theorem mint_bind {k : String → InvitationProcess β}
    (h : ∀ n s₁, HoldsToken E i n s₁ → ConflictSafe E hinj i r (k (E.mintToken n)) s₁) :
    ConflictSafe E hinj i r (mintInviteToken E >>= k) s := by
  unfold mintInviteToken
  rw [bind_assoc]
  refine Protocol.Lasting.nothing.call_bind trivial rfl (fun _ _ _ _ _ _ h => nomatch h)
    (fun s₁ hinv _ => ?_) fun _ _ _ _ h => nomatch h
  refine h s₁.state.nextInviteToken _ ⟨List.mem_cons_self, fun id hstored => ?_⟩
  exact Nat.lt_irrefl _ (hinv.1.fresh id _ (wasStored_minted.1 hstored))

/-- The transaction that stores a token that the thread holds: where it meets a unique violation,
an invitation stands in the way. -/
theorem store_bind {n : ℕ} {l : InvitationCall} {g : World → Except PrismaError α}
    {k : α → InvitationProcess β} (hs : HoldsToken E i n s)
    (htoken : ∀ w id tokenHash, l.storedToken w = some (id, tokenHash) →
      tokenHash = E.hashToken (E.mintToken n))
    (hrefuses : ∀ w, (∀ v ∈ w.invitations.rows, v.tokenHash ≠ E.hashToken (E.mintToken n)) →
      g w = .error .P2002 →
        l.refuses w = true ∧ ∃ row ∈ w.invitations.rows, r.standsBefore E w row = true)
    (h : ∀ a s₁, ConflictSafe E hinj i r (k a) s₁) :
    ConflictSafe E hinj i r ((writeOr E l g).tryCatch onUniqueViolation >>= k) s := by
  refine Safe.bind (Safe.tryCatch (Protocol.safe_call rfl fun s₁ hr hinv => ?_))
  have hs₁ : HoldsToken E i n s₁ := (lasting_holdsToken n).stable hs hr
  refine ⟨fun _ => ⟨fun id tokenHash hstored => ?_, fun _ => ?_⟩, fun _ => ?_⟩
  · obtain rfl := htoken _ _ _ hstored
    exact ⟨n, rfl, hs₁.1, hs₁.2⟩
  · have hfresh : ∀ v ∈ s₁.state.invitations.rows,
        v.tokenHash ≠ E.hashToken (E.mintToken n) := by
      intro v hv hhash
      exact hs₁.2 v.id (hhash ▸ wasStored_of_lastStored (hinv.1.row v hv))
    cases hg : g s₁.state with
    | ok a =>
        simp only [hg, Except.mapError]
        exact Safe.ret fun s₂ _ _ => h a s₂
    | error e =>
        simp only [hg, Except.mapError]
        refine Safe.raise fun s₂ hr₂ _ => ?_
        cases e with
        | P2002 =>
            obtain ⟨hl, hstands⟩ := hrefuses s₁.state hfresh hg
            have hrefused := fun next => @refusedBy_after ι E i r s₁ l next hinv.2 hl hstands
            exact Safe.raise fun s₃ hr₃ _ _ => lasting_refusedBy.stable (hrefused _) (hr₂.trans hr₃)
        | _ => exact Safe.raise fun s₃ _ _ h => nomatch h
  · exact Safe.raise fun s₂ _ _ => Safe.raise fun s₃ _ _ h => nomatch h

omit [DecidableEq ι] in
/-- What follows the transaction. -/
theorem tail_safe (delivery : Delivery) (dto : InvitationDto) (s : ConflictSnapshot ι) :
    ConflictSafe E hinj i r (queueDelivery E delivery >>= fun _ => return dto) s :=
  plain_bind (queueDelivery_unrefused delivery) fun _ _ => ret_unrefused

/-- Where a unique violation is not the token's, an invitation stands in the way. -/
theorem exists_pendingTo_of_uniqueViolation {t : Invitations} {row : Invitation}
    (h : uniqueViolation t row = true) (hfresh : ∀ v ∈ t.rows, v.tokenHash ≠ row.tokenHash) :
    ∃ v ∈ t.rows, v.id ≠ row.id ∧ v.pendingTo row.senderUserId row.recipientEmail = true := by
  obtain ⟨v, hv, hviolates⟩ := List.any_eq_true.1 h
  simp only [Bool.and_eq_true, Bool.or_eq_true, decide_eq_true_eq] at hviolates
  obtain ⟨hid, htoken | ⟨-, hmeets⟩⟩ := hviolates
  · exact absurd htoken (hfresh v hv)
  · exact ⟨v, hv, hid, hmeets⟩

theorem resentRow_eq_P2002 {id : ℕ} {tokenHash : String} {date expiresAt : Time}
    {t : Invitations} (h : resentRow id tokenHash date expiresAt t = .error .P2002) :
    ∃ own, t.find? id = some own ∧
      uniqueViolation t (own.resent tokenHash date expiresAt) = true := by
  unfold resentRow at h
  cases hown : t.find? id with
  | none =>
      rw [hown] at h
      cases h
  | some own =>
      rw [hown] at h
      dsimp only at h
      split at h
      · rename_i huv
        exact ⟨own, rfl, huv⟩
      · cases h

theorem create_conflict (sender : ITokenUser) (dto : CreateInvitationDto) :
    ConflictSafe E hinj i (.create sender dto) (create E sender dto) s := by
  unfold create
  refine plain_bind assertConfigured_unrefused fun _ s₁ => ?_
  refine plain_bind (isActiveLocale_unrefused _) fun active s₂ => ?_
  dsimp only
  split
  · exact raise_unrefused nofun
  refine plain_bind (read_unrefused rfl trivial) fun existingUser s₃ => ?_
  split
  · exact raise_unrefused (by decide)
  refine Protocol.Lasting.nothing.call_bind trivial (f := id) rfl
    (fun _ _ _ _ _ _ h => nomatch h) (fun s₄ hinv _ => ?_) fun _ _ _ _ h => nomatch h
  split
  · rename_i hpending
    exact refuse_safe (refusedBy_after hinv.2 hpending (List.any_eq_true.1 hpending))
  refine plain_bind (enforceSendLimits_unrefused _) fun _ s₅ => ?_
  refine mint_bind fun n s₆ hs₆ => ?_
  refine unrefused_bind (lasting_holdsToken n) (fun _ => rfl) (fun _ => rfl) hs₆
    (read_unrefused rfl trivial) fun now s₇ hs₇ => ?_
  refine store_bind hs₇ (fun w id tokenHash hstored => ?_) (fun w hfresh hviolates => ?_)
    fun created s₈ => tail_safe _ _ s₈
  · dsimp only [storedToken] at hstored
    split at hstored <;> cases hstored
    rfl
  · split at hviolates
    · rename_i hrefuses
      obtain ⟨v, hv, -, hmeets⟩ := exists_pendingTo_of_uniqueViolation hrefuses hfresh
      exact ⟨hrefuses, v, hv, hmeets⟩
    · cases hviolates

theorem resend_conflict (senderUserId invitationId : ℕ) :
    ConflictSafe E hinj i (.resend senderUserId invitationId)
      (resend E senderUserId invitationId) s := by
  unfold resend findOwned
  refine plain_bind assertConfigured_unrefused fun _ s₁ => ?_
  rw [bind_assoc]
  refine Protocol.Lasting.nothing.call_bind trivial (f := id) rfl
    (fun _ _ _ _ _ _ h => nomatch h) (fun s₂ _ _ => ?_) fun _ _ _ _ h => nomatch h
  generalize s₂.after _ i _ _ = s₃
  cases hrow : (s₂.state.invitations.find? invitationId).filter
      fun row => row.senderUserId = senderUserId with
  | none => exact raise_unrefused nofun
  | some row =>
      have hid : row.id = invitationId :=
        Table.key_of_find? (Option.filter_eq_some_iff.1 hrow).1
      change ConflictSafe E hinj i _ (ite _ _ _) s₃
      split
      · exact raise_unrefused nofun
      refine plain_bind (read_unrefused rfl trivial) fun registered s₄ => ?_
      split
      · exact raise_unrefused (by decide)
      refine plain_bind (enforceCooldown_unrefused row) fun _ s₅ => ?_
      refine plain_bind (enforceSendLimits_unrefused _) fun _ s₆ => ?_
      refine mint_bind fun n s₇ hs₇ => ?_
      refine unrefused_bind (lasting_holdsToken n) (fun _ => rfl) (fun _ => rfl) hs₇
        (read_unrefused rfl trivial) fun now s₈ hs₈ => ?_
      refine store_bind hs₈ (fun w id tokenHash hstored => ?_) (fun w hfresh hviolates => ?_)
        fun updated s₉ => tail_safe _ _ s₉
      · dsimp only [storedToken] at hstored
        split at hstored <;> cases hstored
        rfl
      · have hres : resentRow row.id (E.hashToken (E.mintToken n)) now (now + E.ttlDays * DAY_MS)
            w.invitations = .error .P2002 := by
          cases hrow' : resentRow row.id (E.hashToken (E.mintToken n)) now
              (now + E.ttlDays * DAY_MS) w.invitations with
          | ok _ =>
              rw [hrow'] at hviolates
              cases hviolates
          | error e =>
              rw [hrow'] at hviolates
              cases hviolates
              rfl
        obtain ⟨own, hown, huv⟩ := resentRow_eq_P2002 hres
        obtain ⟨v, hv, hne, hmeets⟩ := exists_pendingTo_of_uniqueViolation huv hfresh
        refine ⟨by rw [refuses, hres], v, hv, ?_⟩
        rw [InvitationRequest.standsBefore, ← hid, hown, Option.any_some, Bool.and_eq_true]
        exact ⟨decide_eq_true hne, hmeets⟩

end Walk

/-- What may be asked of the invitations in which a conflict can be answered. -/
def InvitationRequest.invites : InvitationRequest → Prop
  | create _ _ => True
  | resend _ _ => True
  | _ => False

section Pool

variable {ι : Type*} [DecidableEq ι] {E : InvitationEnv}
  {hinj : Function.Injective fun n => E.hashToken (E.mintToken n)} {i : ι}
  {s : ConflictSnapshot ι}

theorem safe_conflictRequest (r : InvitationRequest) :
    Safe (conflictProtocol E hinj).contract i
      (fun res s' => r.invites → res = .error invitePending → RefusedBy E r i s')
      (r.process E) s := by
  have hother : ∀ {p : InvitationProcess InvitationAnswer}, ¬ r.invites →
      InvitationConfined E InvitationCall.storesNothing p →
        Safe (conflictProtocol E hinj).contract i
          (fun res s' => r.invites → res = .error invitePending → RefusedBy E r i s') p s := by
    intro p hr hp
    refine Safe.mono (Protocol.safe_of_confined (J := fun _ => True) (R := fun _ => True)
      (hp.mono ?_ fun _ _ => trivial) (fun _ _ _ _ => trivial) trivial)
      fun _ _ _ _ hinvites => absurd hinvites hr
    rintro l next ⟨hnext, hl⟩
    refine ⟨hnext, fun s₁ id tokenHash hstored => ?_, fun _ _ => trivial⟩
    have hnone := (inviteMark_of_storesNothing (i := i) hl s₁.state).1
    cases hnone.symm.trans hstored
  have hP : ∀ l : InvitationCall, l.isPlain → l.storesNothing := fun _ h => h.storesNothing
  cases r with
  | create sender dto =>
      refine Safe.map (Safe.mono (create_conflict sender dto) fun res s' _ hres _ he => hres ?_)
      cases res <;> cases he
      rfl
  | revoke senderUserId id =>
      exact hother (fun h => h) (.map _ (revoke_confined hP (fun _ _ => trivial) senderUserId id))
  | resend senderUserId id =>
      refine Safe.map (Safe.mono (resend_conflict senderUserId id) fun res s' _ hres _ he =>
        hres ?_)
      cases res <;> cases he
      rfl
  | deliver delivery =>
      exact hother (fun h => h) (.map _ (deliver_confined fun _ h => h.storesNothing))
  | _ => exact hother (fun h => h) (plainRequest_confined hP trivial)

/-- A pool of requests that has not started yet, with the history of the tokens. -/
def conflictPool (E : InvitationEnv) (w : World) (req : ι → InvitationRequest) :
    Config ι World InvitationCall AppError InvitationAnswer (ConflictMark ι) where
  state := w
  marks := (tokenHistory ι w).map .token
  pool := fun i => (req i).process E

/-- Any requests in any interleaving, with any calls failing: when `create` or `resend` has
answered that an invitation is pending, the check that failed met one, and the conflict was real
exactly when it met none that had expired. -/
theorem pendingConflict_real_iff (E : InvitationEnv)
    (hinj : Function.Injective fun n => E.hashToken (E.mintToken n)) {w₀ : World}
    (htokens : TokensInOrder E w₀) (hunique : PendingUnique w₀.invitations)
    (req : ι → InvitationRequest)
    {c : Config ι World InvitationCall AppError InvitationAnswer (ConflictMark ι)}
    (h : Reaches conflictSetting (conflictPool E w₀ req) c) {i : ι} (hinvites : (req i).invites)
    (hanswer : c.pool i = .raise invitePending) :
    ∃ w, .refused i w ∈ c.marks ∧
      (RealConflict E (req i) w ↔ ¬ StaleConflict E (req i) w) := by
  have hsound : Sound (conflictProtocol E hinj).contract
      (fun i res s => (req i).invites → res = .error invitePending → RefusedBy E (req i) i s)
      (conflictPool E w₀ req) := by
    refine ⟨⟨?_, hunique⟩, fun i => safe_conflictRequest (req i)⟩
    have hmarks : ((tokenHistory ι w₀).map ConflictMark.token).filterMap ConflictMark.invite? =
        tokenHistory ι w₀ := by
      rw [List.filterMap_map]
      exact List.filterMap_some
    change InviteLedger E ⟨w₀, ((tokenHistory ι w₀).map ConflictMark.token).filterMap _⟩
    rw [hmarks]
    exact htokens.ledger
  obtain ⟨w, hm, hindex, hstands⟩ := (hsound.reaches h).exception hanswer hinvites rfl
  exact ⟨w, hm, realConflict_iff hindex hstands⟩

end Pool

section Runs

instance (E : InvitationEnv) (r : InvitationRequest) (w : World) :
    Decidable (RealConflict E r w) := by
  unfold RealConflict
  infer_instance

instance (E : InvitationEnv) (r : InvitationRequest) (w : World) :
    Decidable (StaleConflict E r w) := by
  unfold StaleConflict
  infer_instance

/-- If this is a failed check, the state it met does not satisfy `p`. -/
def ConflictMark.lacks {ι : Type*} (p : World → Bool) : ConflictMark ι → Bool
  | token _ => true
  | refused _ w => !p w

/-- A pending invitation of user 1 that lasts until the moment 1, and an expired one to the same
address. -/
def waitingInvitations : Invitations :=
  withdrawWorld.invitations.insertNew
    { id := 6, senderUserId := 1, recipientEmail := "b@c.gr", tokenHash := "u", status := .EXPIRED }

def waitingWorld (now : Time) : World :=
  { invitedWorld with
    now, invitations := waitingInvitations, nextInvitation := 7, activeLanguages := ["en"] }

/-- User 1 invites the address again, and sends the expired invitation again. -/
def inviteAgain : Bool → InvitationRequest
  | false => .create ⟨1, some "s"⟩
      { recipientEmail := "b@c.gr", locale := "en", subject := "s"
        body := InvitationText.INVITE_LINK_PLACEHOLDER }
  | true => .resend 1 6

def askedAgain (now : Time) : Config Bool World InvitationCall AppError InvitationAnswer
    (ConflictMark Bool) :=
  (conflictPool eagerEnv (waitingWorld now) inviteAgain).schedule conflictMark
    (List.replicate 10 false ++ List.replicate 10 true)

theorem reaches_askedAgain (now : Time) :
    Reaches conflictSetting (conflictPool eagerEnv (waitingWorld now) inviteAgain)
      (askedAgain now) :=
  Reaches.schedule (fun _ _ _ => trivial) _ _

theorem tokensInOrder_waitingWorld (now : Time) : TokensInOrder eagerEnv (waitingWorld now) where
  unique := by
    change ∀ v ∈ waitingInvitations.rows, ∀ v' ∈ waitingInvitations.rows,
      v.tokenHash = v'.tokenHash → v.id = v'.id
    decide +kernel
  fresh := by
    intro v hv n hhash
    have hall : ∀ v ∈ waitingInvitations.rows,
        v.tokenHash = String.ofList ['t'] ∨ v.tokenHash = String.ofList ['u'] := by decide +kernel
    have hmem : 't' ∈ List.replicate n 'n' ∨ 'u' ∈ List.replicate n 'n' := by
      refine (hall v hv).imp (fun h => ?_) fun h => ?_
      · have hlist : ['t'] = List.replicate n 'n' := String.ofList_injective (h.symm.trans hhash)
        exact hlist ▸ List.mem_singleton_self 't'
      · have hlist : ['u'] = List.replicate n 'n' := String.ofList_injective (h.symm.trans hhash)
        exact hlist ▸ List.mem_singleton_self 'u'
    rcases hmem with h | h <;> exact absurd (List.eq_of_mem_replicate h) (by decide)
  known := by
    change ∀ v ∈ waitingInvitations.rows, v.id < 7
    decide +kernel

theorem pendingUnique_waitingWorld (now : Time) : PendingUnique (waitingWorld now).invitations := by
  change ∀ v ∈ waitingInvitations.rows, ∀ v' ∈ waitingInvitations.rows, v.isPending = true →
    v'.pendingTo v.senderUserId v.recipientEmail = true → v'.id = v.id
  decide +kernel

/-- While the pending invitation lasts, the conflict is real. -/
theorem pendingConflict_real_iff_waiting :
    ∃ w, .refused false w ∈ (askedAgain 1).marks ∧
      (RealConflict eagerEnv (inviteAgain false) w ↔
        ¬ StaleConflict eagerEnv (inviteAgain false) w) := by
  have hinj : Function.Injective fun n => eagerEnv.hashToken (eagerEnv.mintToken n) :=
    mintToken_withdrawEnv_inj
  exact pendingConflict_real_iff eagerEnv hinj (tokensInOrder_waitingWorld 1)
    (pendingUnique_waitingWorld 1) inviteAgain (reaches_askedAgain 1) (i := false) trivial
    (by rfl)

/-- It has expired, no call fails, and nothing else happens: both requests are refused, and there
is no invitation that they could conflict with. -/
theorem not_realConflict :
    Reaches conflictSetting (conflictPool eagerEnv (waitingWorld 2) inviteAgain) (askedAgain 2) ∧
      ∀ i, ((askedAgain 2).pool i).result? = some (.error invitePending) ∧
        ((askedAgain 2).marks.all fun m =>
          m.lacks fun w => RealConflict eagerEnv (inviteAgain i) w) = true :=
  ⟨reaches_askedAgain 2, by decide +kernel⟩

end Runs

end FifiAlert
