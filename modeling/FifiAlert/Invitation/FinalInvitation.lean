import FifiAlert.Invitation.InvitationProtocol
import FifiAlert.Invitation.RequestCalls

/-!
# Decided invitations stay decided

For any number of requests in any interleaving: while nobody decides an invitation
between the read and the write of a withdrawal or resend, a final status never changes,
and neither does what was recorded of an acceptance. The code does not establish the
condition: a withdrawal that read a pending row writes after the acceptance.
-/

namespace FifiAlert

open Concurrency Store InvitationCall InvitationService

section Threads

variable {ι : Type*} [DecidableEq ι] {E : InvitationEnv} {fails : InvitationCall → Prop} {i : ι}
  {α β : Type} {asks : DecisionMark ι → Bool} {J : InvitationSnapshot ι → Prop}
  {s : InvitationSnapshot ι} {id : ℕ}

theorem mayDecide_of_isPlain {l : InvitationCall} (hl : l.isPlain) (s : InvitationSnapshot ι) :
    MayDecide i l s := by
  cases l with
  | invitationCreate _ | invitationResend _ _ _ _ _ | invitationRevoke _ _ => exact hl.elim
  | _ => trivial

/-- The calls that leave no mark and need no permission. -/
def InvitationCall.decidesNothing : InvitationCall → Prop
  | invitationFindOwned _ _ => False
  | invitationAcceptByToken _ _ _ => False
  | invitationAcceptByEmail _ _ _ => False
  | l => l.isPlain

theorem InvitationCall.isLookup.decidesNothing {l : InvitationCall} (h : l.isLookup) :
    l.decidesNothing := by
  cases l with
  | dateNow | sendLogCount _ _ | sendLogFindLast _ => trivial
  | _ => exact h.elim

omit [DecidableEq ι] in
theorem of_decidesNothing {l : InvitationCall} (hl : l.decidesNothing) (w : World) :
    l.isPlain ∧ DecisionMark.of i l w = none := by
  cases l with
  | invitationFindOwned _ _ | invitationAcceptByToken _ _ _ | invitationAcceptByEmail _ _ _
  | invitationCreate _ | invitationResend _ _ _ _ _ | invitationRevoke _ _ => exact hl.elim
  | _ => exact ⟨hl, rfl⟩

/-- Steps around the read and the write keep what the request has read. -/
theorem safe_decidesNothing {p : InvitationProcess α}
    (hJ : (invitationProtocol E fails).Lasting i asks J) (hs : J s)
    (hp : InvitationConfined E InvitationCall.decidesNothing p) :
    Safe (invitationProtocol E fails).contract i (OnReturn fun _ s' => J s') p s := by
  refine hJ.quietly hs (hp.mono ?_ fun _ h => h)
  rintro l next ⟨hnext, hl⟩
  refine ⟨hnext, fun s₁ => ?_, fun w m hm => ?_⟩
  · exact mayDecide_of_isPlain (of_decidesNothing (i := i) hl s₁.state).1 s₁
  · change DecisionMark.of i l w = some m at hm
    rw [(of_decidesNothing hl w).2] at hm
    cases hm

theorem thread_of_isFound {j : ι} {l : InvitationCall} {w : World} {m : DecisionMark ι}
    (hm : DecisionMark.of j l w = some m) (hfound : m.isFound i id = true) : j = i := by
  cases m with
  | found thread id' =>
      have hthread : thread = i := by
        simp only [DecisionMark.isFound, Bool.and_eq_true, decide_eq_true_eq] at hfound
        exact hfound.1
      cases l with
      | invitationFindOwned id'' senderUserId =>
          cases hm
          exact hthread
      | _ => cases hm
  | accepted _ | revoked _ => cases hfound

/-- Until somebody accepts it, an invitation that was read is not accepted. -/
theorem lasting_notAccepted : (invitationProtocol E fails).Lasting i (DecisionMark.isFound i id)
    (KnownSince (DecisionMark.isFound i id) (DecisionMark.accepts id)
      (NotYet InvitationStatus.isAccepted id)) :=
  .known (fun _ _ _ _ _ _ hgood h => h.call hgood rfl rfl (fun _ => rfl)
      fun _ hmem => List.contains_iff_mem.2 hmem)
    (fun _ _ _ _ henv h => h.env henv) fun _ _ _ _ => thread_of_isFound

/-- Until somebody decides it, an invitation that was read is undecided. -/
theorem lasting_undecided : (invitationProtocol E fails).Lasting i (DecisionMark.isFound i id)
    (KnownSince (DecisionMark.isFound i id) (DecisionMark.decides id)
      (NotYet InvitationStatus.isDecided id)) :=
  .known (fun _ _ _ _ _ _ hgood h => h.call hgood rfl rfl
      (fun hspoils => absurd (decide_eq_true rfl) (Bool.eq_false_iff.1 hspoils))
      fun _ hmem => List.contains_iff_mem.2 hmem)
    (fun _ _ _ _ henv h => h.env henv) fun _ _ _ _ => thread_of_isFound

/-- What the request knows of the row that it has read. -/
def ReadUndecided (i : ι) (id : ℕ) (row : Invitation) (s : InvitationSnapshot ι) : Prop :=
  (row.status.isAccepted = false →
      KnownSince (DecisionMark.isFound i id) (DecisionMark.accepts id)
        (NotYet InvitationStatus.isAccepted id) s) ∧
    (row.status.isDecided = false →
      KnownSince (DecisionMark.isFound i id) (DecisionMark.decides id)
        (NotYet InvitationStatus.isDecided id) s)

theorem lasting_readUndecided (row : Invitation) : (invitationProtocol E fails).Lasting i
    (fun m => m.isFound i id || m.isFound i id) (ReadUndecided i id row) :=
  lasting_notAccepted.imp.and lasting_undecided.imp

theorem safe_readOwned (senderUserId : ℕ) :
    Safe (invitationProtocol E fails).contract i
      (OnReturn fun row s' => row.id = id ∧ ReadUndecided i id row s')
      (findOwned senderUserId id) s := by
  unfold findOwned
  refine Protocol.Lasting.nothing.query_bind trivial (by rfl) (fun _ => trivial) fun s₁ _ _ => ?_
  split
  next => exact Protocol.safe_onReturn_raise
  next row hrow =>
    have hfound := (Option.filter_eq_some_iff.1 hrow).1
    refine (lasting_readUndecided row).ret (And.intro ?_ ?_) fun s₂ _ hs₂ =>
      ⟨Table.key_of_find? hfound, hs₂⟩
    · exact fun h => .of ⟨row, hfound, h⟩
    · exact fun h => .of ⟨row, hfound, h⟩

theorem safe_revoke (senderUserId id : ℕ) :
    Safe (invitationProtocol E fails).contract i (OnReturn fun _ _ => True)
      (revoke E senderUserId id) s := by
  unfold revoke
  refine Protocol.safe_onReturn_bind
    (safe_decidesNothing .nothing trivial assertConfigured_confined) fun _ s₁ _ _ => ?_
  refine Protocol.safe_onReturn_bind (safe_readOwned senderUserId) ?_
  rintro row s₂ - ⟨rfl, hread⟩
  split
  next => exact Protocol.safe_onReturn_raise
  next hpending =>
    have hknown := hread.1 (by rw [not_not.1 hpending]; rfl)
    refine Protocol.safe_onReturn_bind
      (safe_decidesNothing lasting_notAccepted hknown (confined_read (by rfl) trivial))
      fun date s₃ _ hs₃ => ?_
    exact lasting_notAccepted.atomic hs₃ rfl (fun _ _ _ h => h) (fun _ => .nothing)
      fun _ _ _ _ _ => trivial

theorem safe_resendUndecided (senderUserId id : ℕ) :
    Safe (invitationProtocol E fails).contract i (OnReturn fun _ _ => True)
      (resend E senderUserId id) s := by
  unfold resend
  refine Protocol.safe_onReturn_bind
    (safe_decidesNothing .nothing trivial assertConfigured_confined) fun _ s₁ _ _ => ?_
  refine Protocol.safe_onReturn_bind (safe_readOwned senderUserId) ?_
  rintro row s₂ - ⟨rfl, hread⟩
  have hkeep : ∀ {α : Type} {p : InvitationProcess α} {s : InvitationSnapshot ι},
      KnownSince (DecisionMark.isFound i row.id) (DecisionMark.decides row.id)
        (NotYet InvitationStatus.isDecided row.id) s →
      InvitationConfined E InvitationCall.decidesNothing p →
      Safe (invitationProtocol E fails).contract i (OnReturn fun _ s' =>
        KnownSince (DecisionMark.isFound i row.id) (DecisionMark.decides row.id)
          (NotYet InvitationStatus.isDecided row.id) s') p s :=
    fun hs hp => safe_decidesNothing lasting_undecided hs hp
  split
  next => exact Protocol.safe_onReturn_raise
  next hopen =>
    have hs₂ := hread.2 (by
      revert hopen
      cases row.status <;> simp [InvitationStatus.isDecided])
    refine Protocol.safe_onReturn_bind (hkeep hs₂ (confined_read (by rfl) trivial))
      fun registered s₃ _ hs₃ => ?_
    split
    · exact Protocol.safe_onReturn_raise
    refine Protocol.safe_onReturn_bind
      (hkeep hs₃ (enforceCooldown_confined (fun _ h => h.decidesNothing) row))
      fun _ s₄ _ hs₄ => ?_
    refine Protocol.safe_onReturn_bind
      (hkeep hs₄ (enforceSendLimits_confined (fun _ h => h.decidesNothing) _))
      fun _ s₅ _ hs₅ => ?_
    refine Protocol.safe_onReturn_bind (hkeep hs₅ (mintInviteToken_confined trivial))
      fun rawToken s₆ _ hs₆ => ?_
    refine Protocol.safe_onReturn_bind (hkeep hs₆ (confined_read (by rfl) trivial))
      fun now s₇ _ hs₇ => ?_
    refine Protocol.safe_onReturn_bind
      (lasting_undecided.atomic_tryCatch hs₇ rfl (fun _ _ _ h => h) fun e s₈ => ?_)
      fun updated s₈ _ _ => ?_
    · unfold onUniqueViolation
      split <;> exact Protocol.safe_onReturn_raise
    · exact Protocol.safe_onReturn_bind
        (safe_decidesNothing .nothing trivial (queueDelivery_confined _ trivial))
        fun _ _ _ _ => Safe.ret fun _ _ _ => trivial

/-- The drafts of new invitations have no acceptance, and what decides an invitation has read
it undecided. -/
theorem safe_decision (r : InvitationRequest) :
    Safe (invitationProtocol E fails).contract i (fun _ _ => True) (r.process E) s := by
  have hother : ∀ p : InvitationProcess InvitationAnswer,
      InvitationConfined E (fun l => ∀ s : InvitationSnapshot ι, MayDecide i l s) p →
        Safe (invitationProtocol E fails).contract i (fun _ _ => True) p s := by
    intro p hp
    exact (Protocol.safe_of_permitted (J := fun _ => True) hp (fun _ _ _ _ _ _ h => h)
      (fun _ _ _ _ _ h => h) trivial).mono fun _ _ _ _ => trivial
  have hplain : ∀ l : InvitationCall, l.isPlain → ∀ s : InvitationSnapshot ι, MayDecide i l s :=
    fun _ h => mayDecide_of_isPlain h
  cases r with
  | create sender dto =>
      refine hother _ (.map _ (create_confined hplain ?_ sender dto))
      rintro draft hvia hat huser _ -
      exact ⟨hvia, hat, huser⟩
  | revoke senderUserId id =>
      exact Safe.map ((safe_revoke senderUserId id).mono fun _ _ _ _ => trivial)
  | resend senderUserId id =>
      exact Safe.map ((safe_resendUndecided senderUserId id).mono fun _ _ _ _ => trivial)
  | deliver delivery =>
      refine hother _ (.map _ (deliver_confined fun l hl => ?_))
      intro s
      cases l with
      | invitationCreate _ | invitationResend _ _ _ _ _ | invitationRevoke _ _ => exact hl.elim
      | _ => trivial
  | _ => exact hother _ (plainRequest_confined hplain trivial)

end Threads

section Pool

variable {ι : Type*} [DecidableEq ι]

/-- A pool of requests that has not started yet. -/
def invitationPool (E : InvitationEnv) (s₀ : World) (req : ι → InvitationRequest) :
    Config ι World InvitationCall AppError InvitationAnswer (DecisionMark ι) :=
  Config.init s₀ fun i => (req i).process E

/-- Every pool of requests follows the protocol. -/
theorem invitationPool_sound {E : InvitationEnv} {s₀ : World}
    (h₀ : AcceptancesRecorded s₀.invitations) (req : ι → InvitationRequest)
    (fails : InvitationCall → Prop) :
    Sound (invitationProtocol E fails).contract (fun _ _ _ => True) (invitationPool E s₀ req) :=
  ⟨h₀, fun i => safe_decision (req i)⟩

/-- Between any two moments of a run in which nobody decides an invitation between the read and
the write of a withdrawal or resend, every invitation keeps its final status and what was
recorded of its acceptance. -/
theorem finalInvitation_absorbing (E : InvitationEnv) (s₀ : World)
    (h₀ : AcceptancesRecorded s₀.invitations) (req : ι → InvitationRequest)
    (fails : InvitationCall → Prop)
    (c c' : Config ι World InvitationCall AppError InvitationAnswer (DecisionMark ι))
    (hc : Reaches (invitationSetting fails UndecidedMeanwhile) (invitationPool E s₀ req) c)
    (hc' : Reaches (invitationSetting fails UndecidedMeanwhile) c c')
    (id : ℕ) (row : Invitation) (hrow : c.state.invitations.find? id = some row) :
    ∃ row', c'.state.invitations.find? id = some row' ∧ row.Kept row' := by
  have hsound := (invitationPool_sound h₀ req fails).reaches hc
  refine Protocol.Reachable.invariant (Protocol.refines hsound hc')
    (J := fun w => ∃ row', w.state.invitations.find? id = some row' ∧ row.Kept row')
    ⟨row, hrow, .refl row⟩ ?_ ?_
  · rintro i l w hinv hper hmeets ⟨row', hrow', hkept⟩
    obtain ⟨row'', hrow'', hkept'⟩ :=
      WriteMeetsUndecided.row_kept (E := E) (MayDecide.meetsUndecided hper hmeets) hinv hrow'
    exact ⟨row'', hrow'', hkept.trans hkept'⟩
  · rintro s s' m hinv henv ⟨row', hrow', hkept⟩
    obtain ⟨row'', hrow'', hstatus, hvia, hat, huser⟩ := henv.rows id row' hrow'
    exact ⟨row'', hrow'', hkept.trans (.of_eq hstatus hvia hat huser)⟩

end Pool

/-- One invitation of user 1, still pending, and its withdrawal at the same time
as the arrival of user 2 through the link. -/
def withdrawWorld : World where
  invitations := Table.empty.insertNew
    { id := 5, senderUserId := 1, recipientEmail := "b@c.gr", tokenHash := "t", expiresAt := 1 }

def withdrawEnv : InvitationEnv where
  baseUrl := "https://app"
  hashToken := id
  mintToken := fun n => String.ofList (List.replicate n 'n')
  toLowerCase := id
  getFullYear := fun _ => 1970
  loadTemplate := fun data => .ok data.bodyHtml

def withdrawRace : Bool → InvitationRequest
  | false => .revoke 1 5
  | true => .acceptByToken "t" 2

theorem acceptancesRecorded_withdrawWorld : AcceptancesRecorded withdrawWorld.invitations := by
  intro id row hrow
  rcases Table.find?_of_insertNew hrow with h | ⟨-, -, rfl⟩
  · cases h
  · exact fun _ => ⟨rfl, rfl, rfl⟩

/-- The invitation once user 2 has come through the link. -/
def joinedInvitation : Invitation where
  id := 5
  senderUserId := 1
  recipientEmail := "b@c.gr"
  tokenHash := "t"
  expiresAt := 1
  status := .ACCEPTED
  acceptedVia := some .TOKEN
  acceptedAt := some 0
  convertedUserId := some 2

/-- The acceptance comes first, and the withdrawal stops at its check. -/
theorem finalInvitation_absorbing_acceptFirst :
    ∃ row', (((invitationPool withdrawEnv withdrawWorld withdrawRace).schedule
        DecisionMark.of [true, true]).schedule
          DecisionMark.of [false]).state.invitations.find? 5 = some row' ∧
      joinedInvitation.Kept row' :=
  finalInvitation_absorbing withdrawEnv withdrawWorld acceptancesRecorded_withdrawWorld
    withdrawRace (fun _ => False) _ _
    (Reaches.scheduleOk (S := invitationSetting (fun _ => False) UndecidedMeanwhile)
      (fun i l s => decide (UndecidedMeanwhile i l s)) (fun _ _ _ => of_decide_eq_true)
      (by decide +kernel))
    (Reaches.scheduleOk (S := invitationSetting (fun _ => False) UndecidedMeanwhile)
      (fun i l s => decide (UndecidedMeanwhile i l s)) (fun _ _ _ => of_decide_eq_true)
      (by decide +kernel))
    5 _ (by decide +kernel)

/-- The withdrawal reads the pending row, the recipient joins, and the withdrawal
writes: the accepted invitation becomes a revoked one. -/
theorem revoke_after_accept :
    ∃ c c', Reaches (invitationSetting (fun _ => False) fun _ _ _ => True)
        (invitationPool withdrawEnv withdrawWorld withdrawRace) c ∧
      Reaches (invitationSetting (fun _ => False) fun _ _ _ => True) c c' ∧
      (c.state.invitations.find? 5).map Invitation.status = some .ACCEPTED ∧
      (c'.state.invitations.find? 5).map Invitation.status = some .REVOKED := by
  refine ⟨_, _, Reaches.schedule (fun _ _ _ => trivial) [false, true, true] _,
    Reaches.schedule (fun _ _ _ => trivial) [false, false] _, ?_⟩
  exact ⟨by decide +kernel, by decide +kernel⟩

end FifiAlert
