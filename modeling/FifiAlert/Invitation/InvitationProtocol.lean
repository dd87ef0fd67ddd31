import FifiAlert.Concurrency.Since
import FifiAlert.Invitation.InvitationService

/-!
# The protocol of the invitation statuses

An invitation is decided when it is accepted or revoked. Acceptances, expiry and
failed deliveries carry the status in their `where` clause; `revoke` and `resend`
check it when they read the invitation and write by its id later. `UndecidedMeanwhile`
is the condition on what others do between the read and the write: while it holds, a
decided invitation keeps its status and what was recorded of its acceptance.
-/

namespace FifiAlert

open Concurrency Store

/-- The final statuses. -/
def InvitationStatus.isDecided : InvitationStatus → Bool
  | ACCEPTED => true
  | REVOKED => true
  | _ => false

def InvitationStatus.isAccepted : InvitationStatus → Bool
  | ACCEPTED => true
  | _ => false

namespace Invitation

/-- What was recorded of an acceptance stands on accepted rows only. -/
def AcceptanceRecorded (row : Invitation) : Prop :=
  row.status ≠ .ACCEPTED →
    row.acceptedVia = none ∧ row.acceptedAt = none ∧ row.convertedUserId = none

/-- What never changes: a final status, and an acceptance once it is recorded. -/
structure Kept (row row' : Invitation) : Prop where
  status : row.status.isDecided = true → row'.status = row.status
  acceptedVia : ∀ via, row.acceptedVia = some via → row'.acceptedVia = some via
  acceptedAt : ∀ date, row.acceptedAt = some date → row'.acceptedAt = some date
  convertedUserId : ∀ userId, row.convertedUserId = some userId →
    row'.convertedUserId = some userId

theorem Kept.refl (row : Invitation) : row.Kept row :=
  ⟨fun _ => rfl, fun _ h => h, fun _ h => h, fun _ h => h⟩

theorem Kept.trans {row row' row'' : Invitation} (h : row.Kept row') (h' : row'.Kept row'') :
    row.Kept row'' where
  status := fun hd => (h'.status (h.status hd ▸ hd)).trans (h.status hd)
  acceptedVia := fun via hv => h'.acceptedVia via (h.acceptedVia via hv)
  acceptedAt := fun date hd => h'.acceptedAt date (h.acceptedAt date hd)
  convertedUserId := fun userId hu => h'.convertedUserId userId (h.convertedUserId userId hu)

theorem Kept.of_eq {row row' : Invitation} (hstatus : row'.status = row.status)
    (hvia : row'.acceptedVia = row.acceptedVia) (hat : row'.acceptedAt = row.acceptedAt)
    (huser : row'.convertedUserId = row.convertedUserId) : row.Kept row' where
  status := fun _ => hstatus
  acceptedVia := fun _ h => hvia.trans h
  acceptedAt := fun _ h => hat.trans h
  convertedUserId := fun _ h => huser.trans h

/-- An undecided row without an acceptance may become anything. -/
theorem Kept.of_undecided {row row' : Invitation} (hrec : row.AcceptanceRecorded)
    (hopen : row.status.isDecided = false) : row.Kept row' := by
  have hnot : row.status ≠ .ACCEPTED := by
    rintro h
    rw [h] at hopen
    cases hopen
  obtain ⟨hvia, hat, huser⟩ := hrec hnot
  constructor <;> simp [hopen, hvia, hat, huser]

theorem isDecided_of_isPending {row : Invitation} (h : row.isPending = true) :
    row.status.isDecided = false := by
  have hpending : row.status = .PENDING := by simpa [isPending] using h
  rw [hpending]
  rfl

end Invitation

namespace InvitationCall

/-- What a call does to an invitation that is there. -/
def onRow (w : World) (l : InvitationCall) (row : Invitation) : Invitation :=
  match l with
  | invitationResend id tokenHash date expiresAt _ =>
      if row.id = id ∧ (resentRow id tokenHash date expiresAt w.invitations).isOk = true then
        row.resent tokenHash date expiresAt
      else row
  | invitationRevoke id date =>
      if row.id = id then { row with status := .REVOKED, revokedAt := some date } else row
  | invitationSweep senderUserId date =>
      if row.isPending && row.expiresAt < date && senderUserId.all (row.senderUserId = ·) then
        { row with status := .EXPIRED }
      else row
  | invitationAcceptByToken tokenHash date userId =>
      if row.tokenHash = tokenHash && row.isOpen date then row.accept .TOKEN date userId else row
  | invitationAcceptByEmail recipientEmail date userId =>
      if row.recipientEmail = recipientEmail && row.isOpen date then
        row.accept .EMAIL date userId
      else row
  | deliveryFailed logId _ invitation =>
      if (w.invitationSendLogs.find? logId).isSome && (row.id = invitation.id && row.isPending &&
          row.tokenHash = invitation.tokenHash) then
        { row with status := .EXPIRED }
      else row
  | _ => row

/-- No call removes an invitation, and only `create` adds one. -/
theorem find?_effect (E : InvitationEnv) {l : InvitationCall}
    (hl : ∀ invitation, l ≠ invitationCreate invitation) (w : World) (id : ℕ) :
    (l.effect E w).invitations.find? id = (w.invitations.find? id).map (l.onRow w) := by
  cases l with
  | invitationCreate invitation => exact (hl invitation rfl).elim
  | invitationResend id' tokenHash date expiresAt senderUserId =>
      cases hres : resentRow id' tokenHash date expiresAt w.invitations <;>
        cases h : w.invitations.find? id <;> simp [effect, onInvitations, onRow, h, hres]
  | deliveryFailed logId message invitation =>
      cases hlog : w.invitationSendLogs.find? logId <;> cases h : w.invitations.find? id <;>
        simp [effect, onInvitations, onRow, h, hlog]
  | _ => cases h : w.invitations.find? id <;> simp [effect, onInvitations, onRow, h]

end InvitationCall

/-- What shows of the decisions: a request read an invitation, invitations were accepted,
an invitation was withdrawn. -/
inductive DecisionMark (ι : Type*) where
  | found (thread : ι) (id : ℕ)
  | accepted (ids : List ℕ)
  | revoked (id : ℕ)
  deriving DecidableEq

abbrev InvitationSnapshot (ι : Type*) := Snapshot World (DecisionMark ι)

namespace DecisionMark

variable {ι : Type*}

/-- The invitations that an acceptance changes. -/
def openIds (p : Invitation → Bool) (date : Time) (w : World) : List ℕ :=
  (w.invitations.findMany fun row => p row && row.isOpen date).map Invitation.id

def of (i : ι) (l : InvitationCall) (w : World) : Option (DecisionMark ι) :=
  match l with
  | .invitationFindOwned id _ => some (found i id)
  | .invitationRevoke id _ => some (revoked id)
  | .invitationAcceptByToken tokenHash date _ =>
      some (accepted (openIds (fun row => row.tokenHash = tokenHash) date w))
  | .invitationAcceptByEmail recipientEmail date _ =>
      some (accepted (openIds (fun row => row.recipientEmail = recipientEmail) date w))
  | _ => none

def isFound [DecidableEq ι] (i : ι) (id : ℕ) : DecisionMark ι → Bool
  | found thread id' => thread = i && id' = id
  | _ => false

def accepts (id : ℕ) : DecisionMark ι → Bool
  | accepted ids => ids.contains id
  | _ => false

def decides (id : ℕ) : DecisionMark ι → Bool
  | found _ _ => false
  | accepted ids => ids.contains id
  | revoked id' => id' = id

theorem mem_openIds {p : Invitation → Bool} {date : Time} {w : World} {id : ℕ} {row : Invitation}
    (hrow : w.invitations.find? id = some row) (hp : (p row && row.isOpen date) = true) :
    id ∈ openIds p date w :=
  List.mem_map.2 ⟨row, List.mem_filter.2 ⟨Table.mem_of_find? hrow, hp⟩, Table.key_of_find? hrow⟩

end DecisionMark

/-- The condition under which decided invitations stay as they are: since a `revoke` has read
the invitation nobody has accepted it, and since a `resend` has read it nobody has accepted or
revoked it. -/
def UndecidedMeanwhile {ι : Type*} [DecidableEq ι] (i : ι) (l : InvitationCall)
    (s : InvitationSnapshot ι) : Prop :=
  match l with
  | .invitationRevoke id _ =>
      quietSince (DecisionMark.isFound i id) (DecisionMark.accepts id) s.marks = true
  | .invitationResend id _ _ _ _ =>
      quietSince (DecisionMark.isFound i id) (DecisionMark.decides id) s.marks = true
  | _ => True

instance {ι : Type*} [DecidableEq ι] (i : ι) (l : InvitationCall) (s : InvitationSnapshot ι) :
    Decidable (UndecidedMeanwhile i l s) := by
  unfold UndecidedMeanwhile
  cases l <;> infer_instance

/-- The invitation is there, and its status is none of the kind. -/
def NotYet (kind : InvitationStatus → Bool) (id : ℕ) (w : World) : Prop :=
  ∃ row, w.invitations.find? id = some row ∧ kind row.status = false

/-- The write of a `revoke` does not meet an accepted row, the write of a `resend` meets
neither an accepted nor a revoked one. -/
def WriteMeetsUndecided (l : InvitationCall) (w : World) : Prop :=
  match l with
  | .invitationRevoke id _ => NotYet InvitationStatus.isAccepted id w
  | .invitationResend id _ _ _ _ => NotYet InvitationStatus.isDecided id w
  | _ => True

/-- What others may do to the invitations: add rows, and change columns that do
not tell how an invitation ended. -/
structure InvitationsKept (w w' : World) : Prop where
  rows : ∀ id row, w.invitations.find? id = some row →
    ∃ row', w'.invitations.find? id = some row' ∧ row'.status = row.status ∧
      row'.acceptedVia = row.acceptedVia ∧ row'.acceptedAt = row.acceptedAt ∧
      row'.convertedUserId = row.convertedUserId
  added : ∀ id row', w.invitations.find? id = none → w'.invitations.find? id = some row' →
    row'.AcceptanceRecorded

/-- The surroundings of the invitation service. -/
def invitationSetting {ι : Type*} (fails : InvitationCall → Prop)
    (admits : ι → InvitationCall → InvitationSnapshot ι → Prop) :
    Setting ι World InvitationCall (DecisionMark ι) where
  mark := DecisionMark.of
  env := InvitationsKept
  mayFail := fails
  admits := admits

/-- The acceptance columns of the whole table are in order. -/
def AcceptancesRecorded (t : Invitations) : Prop :=
  ∀ id row, t.find? id = some row → row.AcceptanceRecorded

section Step

variable {E : InvitationEnv} {l : InvitationCall} {w : World}

/-- A call that meets undecided rows where it has to keeps what is final of a row,
and the row stays in order. -/
theorem WriteMeetsUndecided.onRow_kept (h : WriteMeetsUndecided l w) {id : ℕ} {row : Invitation}
    (hrow : w.invitations.find? id = some row) (hrec : row.AcceptanceRecorded) :
    row.Kept (l.onRow w row) ∧ (l.onRow w row).AcceptanceRecorded := by
  have hid := Table.key_of_find? hrow
  have hexpired : row.isPending = true →
      ({ row with status := .EXPIRED } : Invitation).AcceptanceRecorded := by
    intro hp _
    have hpending : row.status = .PENDING := by simpa [Invitation.isPending] using hp
    exact hrec (by simp [hpending])
  have hsame : row.Kept row ∧ row.AcceptanceRecorded := ⟨.refl row, hrec⟩
  cases l with
  | invitationResend id' tokenHash date expiresAt senderUserId =>
      simp only [InvitationCall.onRow]
      split
      next heq =>
        obtain ⟨rfl, -⟩ := heq
        obtain rfl : row.id = id := hid
        have hopen : row.status.isDecided = false := by
          simpa [WriteMeetsUndecided, NotYet, hrow] using h
        refine ⟨.of_undecided hrec hopen, fun _ => hrec ?_⟩
        rintro hacc
        rw [hacc] at hopen
        cases hopen
      next => exact hsame
  | invitationRevoke id' date =>
      simp only [InvitationCall.onRow]
      split
      next heq =>
        subst heq
        obtain rfl : row.id = id := hid
        have hopen : row.status.isAccepted = false := by
          simpa [WriteMeetsUndecided, NotYet, hrow] using h
        have hnot : row.status ≠ .ACCEPTED := by
          rintro hacc
          rw [hacc] at hopen
          cases hopen
        obtain ⟨hvia, hat, huser⟩ := hrec hnot
        refine ⟨⟨fun hd => ?_, by simp [hvia], by simp [hat], by simp [huser]⟩, fun _ => hrec hnot⟩
        revert hd hnot
        cases row.status <;> simp [InvitationStatus.isDecided]
      next => exact hsame
  | invitationSweep senderUserId date =>
      simp only [InvitationCall.onRow]
      split
      next hp =>
        simp only [Bool.and_eq_true] at hp
        exact ⟨.of_undecided hrec (Invitation.isDecided_of_isPending hp.1.1), hexpired hp.1.1⟩
      next => exact hsame
  | invitationAcceptByToken tokenHash date userId =>
      simp only [InvitationCall.onRow]
      split
      next hp =>
        simp only [Invitation.isOpen, Bool.and_eq_true] at hp
        refine ⟨.of_undecided hrec (Invitation.isDecided_of_isPending hp.2.1), ?_⟩
        exact fun hnot => (hnot rfl).elim
      next => exact hsame
  | invitationAcceptByEmail recipientEmail date userId =>
      simp only [InvitationCall.onRow]
      split
      next hp =>
        simp only [Invitation.isOpen, Bool.and_eq_true] at hp
        refine ⟨.of_undecided hrec (Invitation.isDecided_of_isPending hp.2.1), ?_⟩
        exact fun hnot => (hnot rfl).elim
      next => exact hsame
  | deliveryFailed logId message invitation =>
      simp only [InvitationCall.onRow]
      split
      next hp =>
        simp only [Bool.and_eq_true] at hp
        exact ⟨.of_undecided hrec (Invitation.isDecided_of_isPending hp.2.1.2), hexpired hp.2.1.2⟩
      next => exact hsame
  | _ => exact hsame

/-- After a call every row that was there is kept. -/
theorem WriteMeetsUndecided.row_kept (h : WriteMeetsUndecided l w)
    (hrec : AcceptancesRecorded w.invitations) {id : ℕ} {row : Invitation}
    (hrow : w.invitations.find? id = some row) :
    ∃ row', (l.effect E w).invitations.find? id = some row' ∧ row.Kept row' := by
  by_cases hl : ∃ invitation, l = .invitationCreate invitation
  · obtain ⟨invitation, rfl⟩ := hl
    refine ⟨row, ?_, .refl row⟩
    simp only [InvitationCall.effect, InvitationCall.onInvitations]
    split
    · exact hrow
    · exact Table.find?_insertNew_of_some hrow
  · refine ⟨l.onRow w row, ?_, (h.onRow_kept hrow (hrec id row hrow)).1⟩
    rw [InvitationCall.find?_effect E (fun invitation he => hl ⟨invitation, he⟩), hrow,
      Option.map_some]

/-- The invariant: a call keeps the table in order. A new invitation is drafted
without an acceptance. -/
theorem AcceptancesRecorded.call (hrec : AcceptancesRecorded w.invitations)
    (h : WriteMeetsUndecided l w)
    (hdraft : ∀ invitation, l = .invitationCreate invitation → invitation.AcceptanceRecorded) :
    AcceptancesRecorded (l.effect E w).invitations := by
  intro id row' hrow'
  by_cases hl : ∃ invitation, l = .invitationCreate invitation
  · obtain ⟨invitation, rfl⟩ := hl
    simp only [InvitationCall.effect, InvitationCall.onInvitations] at hrow'
    split at hrow'
    · exact hrec id row' hrow'
    · rcases Table.find?_of_insertNew hrow' with hrow | ⟨-, -, rfl⟩
      · exact hrec id row' hrow
      · exact hdraft invitation rfl
  · rw [InvitationCall.find?_effect E (fun invitation he => hl ⟨invitation, he⟩),
      Option.map_eq_some_iff] at hrow'
    obtain ⟨row, hrow, rfl⟩ := hrow'
    exact (h.onRow_kept hrow (hrec id row hrow)).2

theorem AcceptancesRecorded.env {w' : World} (hrec : AcceptancesRecorded w.invitations)
    (henv : InvitationsKept w w') : AcceptancesRecorded w'.invitations := by
  intro id row' hrow'
  cases hrow : w.invitations.find? id with
  | none => exact henv.added id row' hrow hrow'
  | some row =>
      obtain ⟨row'', hrow'', hstatus, hvia, hat, huser⟩ := henv.rows id row hrow
      obtain rfl := Option.some.inj (hrow'.symm.trans hrow'')
      intro hnot
      rw [hstatus] at hnot
      rw [hvia, hat, huser]
      exact hrec id row hrow hnot

end Step

section Meanwhile

variable {ι : Type*} {E : InvitationEnv} {i : ι} {l : InvitationCall} {w w' : World} {id : ℕ}
  {row : Invitation} {kind : InvitationStatus → Bool} {spoils : DecisionMark ι → Bool}

/-- A call that makes a status of the kind of another one says so in its mark. -/
theorem kind_onRow (hrow : w.invitations.find? id = some row) (hpending : kind .PENDING = false)
    (hexpired : kind .EXPIRED = false)
    (hrevoked : spoils (.revoked id) = false → kind .REVOKED = false)
    (haccepted : ∀ ids, id ∈ ids → spoils (.accepted ids) = true)
    (hmark : ∀ m, DecisionMark.of i l w = some m → spoils m = false)
    (h : kind row.status = false) : kind (l.onRow w row).status = false := by
  have hid := Table.key_of_find? hrow
  cases l with
  | invitationResend id' tokenHash date expiresAt senderUserId =>
      simp only [InvitationCall.onRow]
      split
      · exact hpending
      · exact h
  | invitationRevoke id' date =>
      simp only [InvitationCall.onRow]
      split
      next heq =>
        obtain rfl : id' = id := heq.symm.trans hid
        exact hrevoked (hmark _ rfl)
      next => exact h
  | invitationSweep senderUserId date =>
      simp only [InvitationCall.onRow]
      split
      · exact hexpired
      · exact h
  | invitationAcceptByToken tokenHash date userId =>
      simp only [InvitationCall.onRow]
      split
      next hp =>
        have hspoils := haccepted _
          (DecisionMark.mem_openIds (p := fun row => row.tokenHash = tokenHash) hrow hp)
        exact absurd hspoils (Bool.eq_false_iff.1 (hmark _ rfl))
      next => exact h
  | invitationAcceptByEmail recipientEmail date userId =>
      simp only [InvitationCall.onRow]
      split
      next hp =>
        have hspoils := haccepted _
          (DecisionMark.mem_openIds (p := fun row => row.recipientEmail = recipientEmail) hrow hp)
        exact absurd hspoils (Bool.eq_false_iff.1 (hmark _ rfl))
      next => exact h
  | deliveryFailed logId message invitation =>
      simp only [InvitationCall.onRow]
      split
      · exact hexpired
      · exact h
  | _ => exact h

theorem NotYet.call (h : NotYet kind id w)
    (hmark : ∀ m, DecisionMark.of i l w = some m → spoils m = false)
    (hpending : kind .PENDING = false) (hexpired : kind .EXPIRED = false)
    (hrevoked : spoils (.revoked id) = false → kind .REVOKED = false)
    (haccepted : ∀ ids, id ∈ ids → spoils (.accepted ids) = true) :
    NotYet kind id (l.effect E w) := by
  obtain ⟨row, hrow, hkind⟩ := h
  by_cases hl : ∃ invitation, l = .invitationCreate invitation
  · obtain ⟨invitation, rfl⟩ := hl
    refine ⟨row, ?_, hkind⟩
    simp only [InvitationCall.effect, InvitationCall.onInvitations]
    split
    · exact hrow
    · exact Table.find?_insertNew_of_some hrow
  · refine ⟨l.onRow w row, ?_,
      kind_onRow hrow hpending hexpired hrevoked haccepted hmark hkind⟩
    rw [InvitationCall.find?_effect E (fun invitation he => hl ⟨invitation, he⟩), hrow,
      Option.map_some]

theorem NotYet.env (h : NotYet kind id w) (henv : InvitationsKept w w') : NotYet kind id w' := by
  obtain ⟨row, hrow, hkind⟩ := h
  obtain ⟨row', hrow', hstatus, -⟩ := henv.rows id row hrow
  exact ⟨row', hrow', hstatus ▸ hkind⟩

end Meanwhile

section Protocol

variable {ι : Type*} [DecidableEq ι]

/-- A draft has no acceptance yet, and a request that decides an invitation, or opens it again,
has read it undecided. -/
def MayDecide (i : ι) (l : InvitationCall) (s : InvitationSnapshot ι) : Prop :=
  match l with
  | .invitationCreate draft => draft.AcceptanceRecorded
  | .invitationRevoke id _ => KnownSince (DecisionMark.isFound i id) (DecisionMark.accepts id)
      (NotYet InvitationStatus.isAccepted id) s
  | .invitationResend id _ _ _ _ => KnownSince (DecisionMark.isFound i id)
      (DecisionMark.decides id) (NotYet InvitationStatus.isDecided id) s
  | _ => True

variable {i : ι} {l : InvitationCall} {s : InvitationSnapshot ι}

/-- What a request has read undecided, and nobody has decided since, is undecided. -/
theorem MayDecide.meetsUndecided (h : MayDecide i l s) (hadm : UndecidedMeanwhile i l s) :
    WriteMeetsUndecided l s.state := by
  cases l with
  | invitationRevoke id date => exact h hadm
  | invitationResend id tokenHash date expiresAt senderUserId => exact h hadm
  | _ => trivial

/-- The protocol of the invitation statuses. -/
def invitationProtocol (E : InvitationEnv) (fails : InvitationCall → Prop) :
    Protocol (invitationSetting (ι := ι) fails UndecidedMeanwhile) where
  effect := InvitationCall.effect E
  permits := MayDecide
  inv := fun s => AcceptancesRecorded s.state.invitations
  inv_call := by
    intro i l s hinv hper hadm
    refine AcceptancesRecorded.call hinv (hper.meetsUndecided hadm) ?_
    rintro invitation rfl
    exact hper
  inv_env := fun henv hinv => hinv.env henv

end Protocol

end FifiAlert
