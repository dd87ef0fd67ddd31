import FifiAlert.Invitation.InviteTokens

/-!
# The protocol of the invite tokens

Every call of the invitation service either mints a token, stores one in an invitation, or
leaves the tokens and can only close invitations. Every request stores at most the token it
minted itself, so any number of requests keep the history in order.
-/

namespace FifiAlert

open Concurrency Store InvitationCall InvitationService

section Effect

variable {E : InvitationEnv} {w : World}

/-- The same invitation, no more open than before. -/
structure Invitation.Closes (v v' : Invitation) : Prop where
  id : v'.id = v.id
  tokenHash : v'.tokenHash = v.tokenHash
  senderUserId : v'.senderUserId = v.senderUserId
  recipientEmail : v'.recipientEmail = v.recipientEmail
  expiresAt : v'.expiresAt = v.expiresAt
  isPending : v'.isPending = true → v.isPending = true

theorem Invitation.Closes.refl (v : Invitation) : v.Closes v :=
  ⟨rfl, rfl, rfl, rfl, rfl, fun h => h⟩

theorem Invitation.Closes.wanes {v v' : Invitation} (h : v.Closes v') : v.Wanes v' where
  id := h.id
  tokenHash := h.tokenHash
  isPending := h.isPending
  expiresAt := Int.le_of_eq h.expiresAt

theorem closes_of_map {rows : List Invitation} {p : Invitation → Bool}
    {f : Invitation → Invitation} {v' : Invitation}
    (hv' : v' ∈ rows.map fun r => if p r then f r else r)
    (hcloses : ∀ v : Invitation, v.Closes (f v)) : ∃ v ∈ rows, v.Closes v' := by
  obtain ⟨v, hv, rfl⟩ := List.mem_map.1 hv'
  refine ⟨v, hv, ?_⟩
  split
  · exact hcloses v
  · exact .refl v

/-- A row that is closed keeps everything else. -/
theorem Invitation.Closes.of_closed {v v' : Invitation} (hid : v'.id = v.id)
    (htoken : v'.tokenHash = v.tokenHash) (hsender : v'.senderUserId = v.senderUserId)
    (hrecipient : v'.recipientEmail = v.recipientEmail) (hexpires : v'.expiresAt = v.expiresAt)
    (hstatus : v'.status ≠ .PENDING) : v.Closes v' where
  id := hid
  tokenHash := htoken
  senderUserId := hsender
  recipientEmail := hrecipient
  expiresAt := hexpires
  isPending := fun h => absurd (of_decide_eq_true h) hstatus

/-- What a call that stores nothing and mints nothing does to the invitations. -/
theorem rows_onInvitations {l : InvitationCall} (hstored : l.storedToken w = none) :
    ∀ v' ∈ (l.onInvitations w).rows, ∃ v ∈ w.invitations.rows, v.Closes v' := by
  have hsame : ∀ v' ∈ w.invitations.rows, ∃ v ∈ w.invitations.rows, v.Closes v' :=
    fun v hv => ⟨v, hv, .refl v⟩
  cases l with
  | invitationCreate invitation =>
      have hviolates :
          uniqueViolation w.invitations { invitation with id := w.nextInvitation } = true := by
        by_contra hfree
        dsimp only [storedToken] at hstored
        rw [if_neg hfree] at hstored
        cases hstored
      dsimp only [onInvitations]
      rw [if_pos hviolates]
      exact hsame
  | invitationResend id tokenHash date expiresAt senderUserId =>
      dsimp only [onInvitations]
      dsimp only [storedToken] at hstored
      cases hrow : resentRow id tokenHash date expiresAt w.invitations with
      | ok row =>
          rw [hrow] at hstored
          cases hstored
      | error e => exact hsame
  | invitationRevoke id date =>
      exact fun v' hv' => closes_of_map hv' fun v => .of_closed rfl rfl rfl rfl rfl nofun
  | invitationSweep senderUserId date =>
      exact fun v' hv' => closes_of_map hv' fun v => .of_closed rfl rfl rfl rfl rfl nofun
  | invitationAcceptByToken tokenHash date userId =>
      exact fun v' hv' => closes_of_map hv' fun v => .of_closed rfl rfl rfl rfl rfl nofun
  | invitationAcceptByEmail recipientEmail date userId =>
      exact fun v' hv' => closes_of_map hv' fun v => .of_closed rfl rfl rfl rfl rfl nofun
  | deliveryFailed logId message invitation =>
      dsimp only [onInvitations]
      split
      · exact fun v' hv' => closes_of_map hv' fun v => .of_closed rfl rfl rfl rfl rfl nofun
      · exact hsame
  | _ => exact hsame

/-- The counters and the clock after a call. -/
theorem counters_effect (E : InvitationEnv) (l : InvitationCall) (w : World) :
    (l.effect E w).now = w.now ∧ w.nextInvitation ≤ (l.effect E w).nextInvitation ∧
      w.nextInviteToken ≤ (l.effect E w).nextInviteToken := by
  have hsame : w.now = w.now ∧ w.nextInvitation ≤ w.nextInvitation ∧
    w.nextInviteToken ≤ w.nextInviteToken := ⟨rfl, Nat.le_refl _, Nat.le_refl _⟩
  cases l with
  | invitationCreate invitation =>
      dsimp only [effect, onLogs]
      split
      · exact hsame
      · exact ⟨rfl, Nat.le_succ _, Nat.le_refl _⟩
  | invitationResend id tokenHash date expiresAt senderUserId =>
      dsimp only [effect, onLogs]
      split <;> exact hsame
  | randomBytes => exact ⟨rfl, Nat.le_refl _, Nat.le_succ _⟩
  | _ => exact hsame

theorem tokensStay_effect {l : InvitationCall} (hstored : l.storedToken w = none) :
    TokensStay w (l.effect E w) where
  now := Int.le_of_eq (counters_effect E l w).1.symm
  row := fun v' hv' => by
    obtain ⟨v, hv, hcloses⟩ := rows_onInvitations hstored v' hv'
    exact ⟨v, hv, hcloses.wanes⟩
  nextInvitation := (counters_effect E l w).2.1
  nextInviteToken := (counters_effect E l w).2.2

/-- A call that stores a token stores it in one invitation, and leaves the others. -/
theorem stores_effect {l : InvitationCall} {id : ℕ} {tokenHash : String}
    (hknown : ∀ v ∈ w.invitations.rows, v.id < w.nextInvitation)
    (hstored : l.storedToken w = some (id, tokenHash)) : Stores id tokenHash w (l.effect E w) := by
  cases l with
  | invitationCreate invitation =>
      dsimp only [storedToken] at hstored
      split at hstored
      · cases hstored
      rename_i hfree
      cases hstored
      have hnew : w.invitations.find? w.nextInvitation = none :=
        Table.find?_eq_none_iff.2 fun v hv => Nat.ne_of_lt (hknown v hv)
      dsimp only [effect, onLogs, onInvitations]
      rw [if_neg hfree, if_neg hfree]
      constructor
      · rfl
      · intro v' hv'
        rw [Table.insertNew_rows hnew, List.mem_append, List.mem_singleton] at hv'
        rcases hv' with hv' | rfl
        · exact .inr ⟨Nat.ne_of_lt (hknown v' hv'), v', hv', .refl v'⟩
        · exact .inl ⟨rfl, rfl⟩
      · exact Nat.lt_succ_self _
      · exact Nat.le_succ _
      · rfl
  | invitationResend id' tokenHash' date expiresAt senderUserId =>
      dsimp only [storedToken] at hstored
      cases hrow : resentRow id' tokenHash' date expiresAt w.invitations with
      | error e =>
          rw [hrow] at hstored
          cases hstored
      | ok row =>
          rw [hrow] at hstored
          cases hstored
          obtain ⟨v₀, hv₀, -⟩ := resentRow_eq_ok hrow
          dsimp only [effect, onLogs, onInvitations]
          rw [hrow]
          constructor
          · rfl
          · intro v' hv'
            obtain ⟨v, hv, rfl⟩ := List.mem_map.1 hv'
            by_cases hid : v.id = id
            · rw [if_pos (decide_eq_true hid)]
              exact .inl ⟨hid, rfl⟩
            · rw [if_neg (by simpa using hid)]
              exact .inr ⟨hid, v, hv, .refl v⟩
          · exact Table.key_of_find? hv₀ ▸ hknown v₀ (Table.mem_of_find? hv₀)
          · exact Nat.le_refl _
          · rfl
  | _ => cases hstored

end Effect

section Protocol

variable {ι : Type*}

/-- The surroundings of the invitation service. Any call may fail. -/
def inviteSetting : Setting ι World InvitationCall (InviteMark ι) where
  mark := inviteMark
  env := TokensStay
  mayFail := fun _ => True
  admits := fun _ _ _ => True

variable {E : InvitationEnv} {i : ι} {s : InviteSnapshot ι} {l : InvitationCall}

/-- What the history says of a call: it mints, it stores, or it says nothing. -/
theorem inviteMark_cases (i : ι) (l : InvitationCall) (w : World) :
    l = .randomBytes ∨
      (∃ id tokenHash, l.storedToken w = some (id, tokenHash) ∧
        inviteMark i l w = some (.stored (some i) id tokenHash)) ∨
      (l.storedToken w = none ∧ inviteMark i l w = none) := by
  cases l with
  | randomBytes => exact .inl rfl
  | invitationCreate invitation =>
      cases h : (invitationCreate invitation).storedToken w with
      | none => exact .inr (.inr ⟨rfl, congrArg (Option.map _) h⟩)
      | some stored => exact .inr (.inl ⟨stored.1, stored.2, rfl, congrArg (Option.map _) h⟩)
  | invitationResend id tokenHash date expiresAt senderUserId =>
      cases h : (invitationResend id tokenHash date expiresAt senderUserId).storedToken w with
      | none => exact .inr (.inr ⟨rfl, congrArg (Option.map _) h⟩)
      | some stored => exact .inr (.inl ⟨stored.1, stored.2, rfl, congrArg (Option.map _) h⟩)
  | _ => exact .inr (.inr ⟨rfl, rfl⟩)

theorem after_stored {id : ℕ} {tokenHash : String}
    (hmark : inviteMark i l s.state = some (.stored (some i) id tokenHash)) :
    s.after inviteMark i l (l.effect E) =
      ⟨l.effect E s.state, .stored (some i) id tokenHash :: s.marks⟩ := by
  unfold Snapshot.after
  rw [hmark]
  rfl

theorem after_unmarked (hmark : inviteMark i l s.state = none) :
    s.after inviteMark i l (l.effect E) = ⟨l.effect E s.state, s.marks⟩ := by
  unfold Snapshot.after
  rw [hmark]
  rfl

/-- Every call that may be made keeps the history in order. -/
theorem InviteLedger.call (hinj : Function.Injective fun n => E.hashToken (E.mintToken n))
    (h : InviteLedger E s) (hmay : ∀ id tokenHash, l.storedToken s.state = some (id, tokenHash) →
      MayStoreInvite E i tokenHash s.marks) :
    InviteLedger E (s.after inviteMark i l (l.effect E)) := by
  rcases inviteMark_cases i l s.state with rfl | ⟨id, tokenHash, hstored, hmark⟩ | ⟨hnone, hmark⟩
  · exact h.mint i
  · rw [after_stored hmark]
    exact h.store hinj (hmay id tokenHash hstored) (stores_effect h.known hstored)
  · rw [after_unmarked hmark]
    exact h.stay (tokensStay_effect hnone)

/-- The protocol of the invite tokens. -/
def inviteProtocol (E : InvitationEnv)
    (hinj : Function.Injective fun n => E.hashToken (E.mintToken n)) :
    Protocol (inviteSetting (ι := ι)) where
  effect := InvitationCall.effect E
  permits := fun i l s => ∀ id tokenHash, l.storedToken s.state = some (id, tokenHash) →
    MayStoreInvite E i tokenHash s.marks
  inv := InviteLedger E
  inv_call := fun hinv hmay _ => hinv.call hinj hmay
  inv_env := fun henv hinv => hinv.stay henv

/-- The thread holds a token: it minted it, and nobody has stored it. -/
def Holds (E : InvitationEnv) (i : ι) (n : ℕ) (s : InviteSnapshot ι) : Prop :=
  .minted i n ∈ s.marks ∧ ∀ id, ¬ WasStored id (E.hashToken (E.mintToken n)) s.marks

/-- The thread has stored a token. -/
def InviteMark.isStore [DecidableEq ι] (i : ι) : InviteMark ι → Bool
  | stored thread _ _ => thread = some i
  | minted _ _ => false

variable [DecidableEq ι] {hinj : Function.Injective fun n => E.hashToken (E.mintToken n)}

/-- A token that a thread holds is its own until it stores it. -/
theorem lasting_holds (n : ℕ) :
    (inviteProtocol E hinj).Lasting i (InviteMark.isStore i) (Holds E i n) where
  call := by
    rintro j l s hinv hmay - hask ⟨hminted, hnew⟩
    rcases inviteMark_cases j l s.state with rfl | ⟨id, tokenHash, hstored, hmark⟩ | ⟨-, hmark⟩
    · exact ⟨List.mem_cons_of_mem _ hminted,
        fun id hstored => hnew id (wasStored_minted.1 hstored)⟩
    · rw [show (inviteSetting (ι := ι)).mark = inviteMark from rfl,
        show (inviteProtocol E hinj).effect l = l.effect E from rfl, after_stored hmark]
      refine ⟨List.mem_cons_of_mem _ hminted, fun id' hstored' => ?_⟩
      rcases wasStored_stored.1 hstored' with ⟨-, hhash⟩ | hstored'
      · obtain ⟨n', hhash', hminted', -⟩ := hmay id tokenHash hstored
        have hn : n = n' := hinj (hhash.trans hhash')
        have hji : j = i := hinv.owner j i n' hminted' (hn ▸ hminted)
        have hno := hask _ hmark
        rw [InviteMark.isStore, hji, decide_eq_false_iff_not] at hno
        exact hno rfl
      · exact hnew id' hstored'
    · rw [show (inviteSetting (ι := ι)).mark = inviteMark from rfl,
        show (inviteProtocol E hinj).effect l = l.effect E from rfl, after_unmarked hmark]
      exact ⟨hminted, hnew⟩
  env := fun _ _ _ _ _ h => h
  own := by
    intro j l w m hm hask
    rcases inviteMark_cases j l w with rfl | ⟨id, tokenHash, -, hmark⟩ | ⟨-, hmark⟩
    · cases hm
      cases hask
    · cases hmark.symm.trans hm
      exact Option.some.inj (of_decide_eq_true hask)
    · cases hmark.symm.trans hm

end Protocol

end FifiAlert
