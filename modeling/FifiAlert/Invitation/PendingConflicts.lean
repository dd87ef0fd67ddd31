import FifiAlert.Concurrency.Forget
import FifiAlert.Invitation.LiveToken

/-!
# Conflicts with pending invitations

`create` and `resend` refuse a second pending invitation of a sender to an address. The checks look
at the status as it is stored, and a pending invitation that has expired keeps that status until
its sender lists the invitations. So the conflict is real exactly when no expired invitation that
still counts as pending was met (`pendingConflict_real_iff`).
-/

namespace FifiAlert

open Concurrency Store InvitationCall InvitationService

/-- Does this invitation stand in the way of the request? -/
def InvitationRequest.standsBefore (E : InvitationEnv) (w : World) :
    InvitationRequest → Invitation → Bool
  | create sender dto, row =>
      row.pendingTo sender.id (E.toLowerCase (String.ofList (Js.trim dto.recipientEmail.toList)))
  | resend _ id, row =>
      (w.invitations.find? id).any fun own =>
        row.id ≠ own.id && row.pendingTo own.senderUserId own.recipientEmail
  | _, _ => false

/-- There is another pending invitation of the sender to the address, and it has not expired. -/
def RealConflict (E : InvitationEnv) (r : InvitationRequest) (w : World) : Prop :=
  ∃ row ∈ w.invitations.rows, r.standsBefore E w row = true ∧ w.now ≤ row.expiresAt

/-- There is one that has expired, and nobody has swept it since. -/
def StaleConflict (E : InvitationEnv) (r : InvitationRequest) (w : World) : Prop :=
  ∃ row ∈ w.invitations.rows, r.standsBefore E w row = true ∧ row.expiresAt < w.now

/-- The partial unique index: one pending invitation of a sender to an address. -/
def PendingUnique (t : Invitations) : Prop :=
  ∀ v ∈ t.rows, ∀ v' ∈ t.rows, v.isPending = true →
    v'.pendingTo v.senderUserId v.recipientEmail = true → v'.id = v.id

section Pending

variable {E : InvitationEnv} {w w' : World} {t : Invitations} {v v' : Invitation}

theorem Invitation.pendingTo_iff {senderUserId : ℕ} {recipientEmail : String} :
    v.pendingTo senderUserId recipientEmail = true ↔ v.senderUserId = senderUserId ∧
      v.recipientEmail = recipientEmail ∧ v.isPending = true := by
  simp [Invitation.pendingTo, and_assoc]

/-- Invitations that are closed or removed leave the index in order. -/
theorem PendingUnique.closes (h : PendingUnique t) {t' : Invitations}
    (hrows : ∀ v' ∈ t'.rows, ∃ v ∈ t.rows, v.Closes v') : PendingUnique t' := by
  intro v₁ hv₁ v₂ hv₂ hpending hmeets
  obtain ⟨u₁, hu₁, hcloses₁⟩ := hrows v₁ hv₁
  obtain ⟨u₂, hu₂, hcloses₂⟩ := hrows v₂ hv₂
  obtain ⟨hsender, hrecipient, hpending₂⟩ := Invitation.pendingTo_iff.1 hmeets
  rw [hcloses₁.id, hcloses₂.id]
  refine h u₁ hu₁ u₂ hu₂ (hcloses₁.isPending hpending) (Invitation.pendingTo_iff.2 ⟨?_, ?_, ?_⟩)
  · rw [← hcloses₂.senderUserId, hsender, hcloses₁.senderUserId]
  · rw [← hcloses₂.recipientEmail, hrecipient, hcloses₁.recipientEmail]
  · exact hcloses₂.isPending hpending₂

/-- A row that no other row stands in the way of may be written. -/
theorem PendingUnique.write (h : PendingUnique t) {row : Invitation} {t' : Invitations}
    (hfree : uniqueViolation t row = false)
    (hrows : ∀ v ∈ t'.rows, v = row ∨ v ∈ t.rows ∧ v.id ≠ row.id) : PendingUnique t' := by
  have hother : ∀ v ∈ t.rows, v.id ≠ row.id → row.isPending = true →
      v.pendingTo row.senderUserId row.recipientEmail = false := by
    intro v hv hid hpending
    rw [Bool.eq_false_iff]
    intro hmeets
    have hviolates : uniqueViolation t row = true :=
      List.any_eq_true.2 ⟨v, hv, by simp [hid, hpending, hmeets]⟩
    rw [hfree] at hviolates
    cases hviolates
  intro v₁ hv₁ v₂ hv₂ hpending hmeets
  rcases hrows v₁ hv₁ with rfl | ⟨hold₁, hid₁⟩ <;> rcases hrows v₂ hv₂ with rfl | ⟨hold₂, hid₂⟩
  · rfl
  · rw [hother v₂ hold₂ hid₂ hpending] at hmeets
    cases hmeets
  · obtain ⟨hsender, hrecipient, hpending₂⟩ := Invitation.pendingTo_iff.1 hmeets
    have hnone := hother v₁ hold₁ hid₁ hpending₂
    rw [hsender, hrecipient, Bool.eq_false_iff] at hnone
    exact absurd (Invitation.pendingTo_iff.2 ⟨rfl, rfl, hpending⟩) hnone
  · exact h v₁ hold₁ v₂ hold₂ hpending hmeets

theorem uniqueViolation_of_resentRow {id : ℕ} {tokenHash : String} {date expiresAt : Time}
    (h : resentRow id tokenHash date expiresAt t = .ok v) : uniqueViolation t v = false := by
  unfold resentRow at h
  split at h
  · cases h
  dsimp only at h
  split at h
  · cases h
  · rename_i hfree
    cases h
    exact Bool.eq_false_iff.2 hfree

/-- Every call keeps the index in order. -/
theorem PendingUnique.call (h : PendingUnique w.invitations) (l : InvitationCall)
    (hknown : ∀ v ∈ w.invitations.rows, v.id < w.nextInvitation) :
    PendingUnique (l.effect E w).invitations := by
  cases hstored : l.storedToken w with
  | none => exact h.closes (rows_onInvitations hstored)
  | some stored =>
      cases l with
      | invitationCreate draft =>
          dsimp only [storedToken] at hstored
          split at hstored
          · cases hstored
          rename_i hfree
          rw [Bool.not_eq_true] at hfree
          refine h.write hfree fun v hv => ?_
          dsimp only [effect, onInvitations] at hv
          rw [hfree, if_neg Bool.false_ne_true] at hv
          rcases Table.mem_of_mem_insertNew hv with hv | rfl
          · exact .inr ⟨hv, Nat.ne_of_lt (hknown v hv)⟩
          · exact .inl rfl
      | invitationResend id tokenHash date expiresAt senderUserId =>
          dsimp only [storedToken] at hstored
          cases hrow : resentRow id tokenHash date expiresAt w.invitations with
          | error e =>
              rw [hrow] at hstored
              cases hstored
          | ok row =>
              have hid : row.id = id := id_of_resentRow hrow
              obtain ⟨own, hown, rfl⟩ := resentRow_eq_ok hrow
              refine h.write (uniqueViolation_of_resentRow hrow) fun v hv => ?_
              dsimp only [effect, onInvitations] at hv
              rw [hrow] at hv
              obtain ⟨u, hu, rfl⟩ := List.mem_map.1 hv
              by_cases hu' : u.id = id
              · have hsame := hu' ▸ Table.find?_of_mem hu
                obtain rfl := Option.some.inj (hown.symm.trans hsame)
                exact .inl (if_pos (decide_eq_true hu'))
              · rw [if_neg (by simpa using hu'), hid]
                exact .inr ⟨hu, hu'⟩
      | _ => cases hstored

theorem InvitationRequest.standsBefore_unique {r : InvitationRequest}
    (h : PendingUnique w.invitations) (hv : v ∈ w.invitations.rows) (hv' : v' ∈ w.invitations.rows)
    (hstands : r.standsBefore E w v = true) (hstands' : r.standsBefore E w v' = true) : v' = v := by
  have hmeets : ∀ {senderUserId : ℕ} {recipientEmail : String},
      v.pendingTo senderUserId recipientEmail = true →
        v'.pendingTo senderUserId recipientEmail = true → v' = v := by
    intro senderUserId recipientEmail hp hp'
    obtain ⟨rfl, rfl, hpending⟩ := Invitation.pendingTo_iff.1 hp
    have hid : v'.id = v.id := h v hv v' hv' hpending hp'
    have hfind := Table.find?_of_mem hv
    rw [← hid, Table.find?_of_mem hv'] at hfind
    exact Option.some.inj hfind
  cases r with
  | create sender dto => exact hmeets hstands hstands'
  | resend senderUserId id =>
      simp only [standsBefore, Option.any_eq_true, Bool.and_eq_true] at hstands hstands'
      obtain ⟨own, hown, -, hp⟩ := hstands
      obtain ⟨own', hown', -, hp'⟩ := hstands'
      obtain rfl := Option.some.inj (hown.symm.trans hown')
      exact hmeets hp hp'
  | _ => cases hstands

/-- A conflict is real or stale, and not both. -/
theorem realConflict_iff {r : InvitationRequest} (h : PendingUnique w.invitations)
    (hstands : ∃ row ∈ w.invitations.rows, r.standsBefore E w row = true) :
    RealConflict E r w ↔ ¬ StaleConflict E r w := by
  constructor
  · rintro ⟨v, hv, hv₀, hlive⟩ ⟨v', hv', hv₀', hexpired⟩
    obtain rfl := InvitationRequest.standsBefore_unique h hv hv' hv₀ hv₀'
    exact Int.not_lt.2 hlive hexpired
  · intro hstale
    obtain ⟨row, hrow, hrow₀⟩ := hstands
    exact ⟨row, hrow, hrow₀, Int.not_lt.1 fun hexpired => hstale ⟨row, hrow, hrow₀, hexpired⟩⟩

end Pending

/-- Does the check that this call makes on the pending invitations fail? -/
def InvitationCall.refuses (l : InvitationCall) (w : World) : Bool :=
  match l with
  | invitationFindPending senderUserId recipientEmail =>
      w.invitations.rows.any (Invitation.pendingTo senderUserId recipientEmail)
  | invitationCreate draft =>
      uniqueViolation w.invitations { draft with id := w.nextInvitation }
  | invitationResend id tokenHash date expiresAt _ =>
      match resentRow id tokenHash date expiresAt w.invitations with
      | .error .P2002 => true
      | _ => false
  | _ => false

/-- The history of the tokens, and the states in which the check of a thread failed. -/
inductive ConflictMark (ι : Type*) where
  | token (m : InviteMark ι)
  | refused (thread : ι) (met : World)

section Protocol

variable {ι : Type*}

/-- The mark without the checks. -/
def ConflictMark.invite? : ConflictMark ι → Option (InviteMark ι)
  | token m => some m
  | refused _ _ => none

abbrev ConflictSnapshot (ι : Type*) := Snapshot World (ConflictMark ι)

def conflictMark (i : ι) (l : InvitationCall) (w : World) : Option (ConflictMark ι) :=
  if l.refuses w then some (.refused i w) else (inviteMark i l w).map .token

theorem storedToken_of_refuses {l : InvitationCall} {w : World} (h : l.refuses w = true) :
    l.storedToken w = none := by
  cases l with
  | invitationCreate draft => exact if_pos h
  | invitationResend id tokenHash date expiresAt senderUserId =>
      dsimp only [refuses, storedToken] at h ⊢
      cases hrow : resentRow id tokenHash date expiresAt w.invitations with
      | error e => rfl
      | ok row =>
          rw [hrow] at h
          cases h
  | _ => rfl

theorem inviteMark_of_refuses {l : InvitationCall} {w : World} (h : l.refuses w = true) (i : ι) :
    inviteMark i l w = none := by
  rcases inviteMark_cases i l w with rfl | ⟨id, tokenHash, hstored, -⟩ | ⟨-, hmark⟩
  · cases h
  · rw [storedToken_of_refuses h] at hstored
    cases hstored
  · exact hmark

/-- What others may do: let time pass, remove invitations and close them. -/
structure InvitationsClose (w w' : World) : Prop where
  now : w.now ≤ w'.now
  row : ∀ v' ∈ w'.invitations.rows, ∃ v ∈ w.invitations.rows, v.Closes v'
  nextInvitation : w.nextInvitation ≤ w'.nextInvitation
  nextInviteToken : w.nextInviteToken ≤ w'.nextInviteToken

theorem InvitationsClose.tokensStay {w w' : World} (h : InvitationsClose w w') :
    TokensStay w w' where
  now := h.now
  row := fun v' hv' => by
    obtain ⟨v, hv, hcloses⟩ := h.row v' hv'
    exact ⟨v, hv, hcloses.wanes⟩
  nextInvitation := h.nextInvitation
  nextInviteToken := h.nextInviteToken

/-- The surroundings of the invitation service. Any call may fail. -/
def conflictSetting : Setting ι World InvitationCall (ConflictMark ι) where
  mark := conflictMark
  env := InvitationsClose
  mayFail := fun _ => True
  admits := fun _ _ _ => True

theorem conflictSetting_refines :
    (conflictSetting (ι := ι)).Refines ConflictMark.invite? inviteSetting where
  mark := by
    intro i l w
    change (conflictMark i l w).bind ConflictMark.invite? = inviteMark i l w
    unfold conflictMark
    split
    · rename_i h
      rw [inviteMark_of_refuses h]
      rfl
    · cases inviteMark i l w <;> rfl
  env := fun _ _ h => h.tokensStay
  mayFail := fun _ h => h
  admits := fun _ _ _ h => h

variable {E : InvitationEnv} {hinj : Function.Injective fun n => E.hashToken (E.mintToken n)}

/-- The protocol of the invite tokens, with the index of the pending invitations. -/
def conflictProtocol (E : InvitationEnv)
    (hinj : Function.Injective fun n => E.hashToken (E.mintToken n)) :
    Protocol (conflictSetting (ι := ι)) where
  effect := InvitationCall.effect E
  permits := fun i l s => (inviteProtocol E hinj).permits i l (s.forget ConflictMark.invite?)
  inv := fun s => InviteLedger E (s.forget ConflictMark.invite?) ∧
    PendingUnique s.state.invitations
  inv_call := by
    rintro i l s ⟨hledger, hunique⟩ hper -
    refine ⟨?_, hunique.call l hledger.known⟩
    rw [conflictSetting_refines.after]
    exact hledger.call hinj hper
  inv_env := fun henv hinv => ⟨hinv.1.stay henv.tokensStay, hinv.2.closes henv.row⟩

end Protocol

end FifiAlert
