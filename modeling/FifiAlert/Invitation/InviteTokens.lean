import FifiAlert.Concurrency.Since
import FifiAlert.Invitation.RequestCalls

/-!
# The tokens of the invitations

The history of the tokens: which thread minted which token, and which invitation the hash of
a token was stored in. A token is stored once, in one invitation, by the thread that minted
it, and an invitation carries the hash that was stored in it last. An invitation that was
not stored anew can only stop being open.
-/

namespace FifiAlert

open Concurrency Store InvitationCall InvitationService

/-- The notable calls: a thread minted a token, and a token was stored in an invitation, by a
thread or before the run. -/
inductive InviteMark (ι : Type*) where
  | minted (thread : ι) (n : ℕ)
  | stored (thread : Option ι) (id : ℕ) (tokenHash : String)
  deriving DecidableEq

abbrev InviteSnapshot (ι : Type*) := Snapshot World (InviteMark ι)

section Marks

variable {ι : Type*}

/-- The hash that was stored in this invitation. -/
def InviteMark.storedIn (id : ℕ) : InviteMark ι → Option String
  | stored _ id' tokenHash => if id' = id then some tokenHash else none
  | minted _ _ => none

/-- The hash stored last in an invitation. The marks come newest first. -/
def lastStored (id : ℕ) (marks : List (InviteMark ι)) : Option String :=
  marks.findSome? (InviteMark.storedIn id)

def WasStored (id : ℕ) (tokenHash : String) (marks : List (InviteMark ι)) : Prop :=
  ∃ thread, .stored thread id tokenHash ∈ marks

variable {id id' n : ℕ} {tokenHash tokenHash' : String} {thread : Option ι} {i : ι}
  {marks : List (InviteMark ι)}

theorem lastStored_stored :
    lastStored id (.stored thread id' tokenHash :: marks) =
      if id' = id then some tokenHash else lastStored id marks := by
  unfold lastStored
  rw [List.findSome?_cons]
  by_cases h : id' = id <;> simp [InviteMark.storedIn, h]

theorem wasStored_minted :
    WasStored id tokenHash (.minted i n :: marks) ↔ WasStored id tokenHash marks := by
  unfold WasStored
  simp

theorem wasStored_stored :
    WasStored id tokenHash (.stored thread id' tokenHash' :: marks) ↔
      (id = id' ∧ tokenHash = tokenHash') ∨ WasStored id tokenHash marks := by
  unfold WasStored
  constructor
  · rintro ⟨thread', h⟩
    rcases List.mem_cons.1 h with heq | h
    · cases heq
      exact .inl ⟨rfl, rfl⟩
    · exact .inr ⟨thread', h⟩
  · rintro (⟨rfl, rfl⟩ | ⟨thread', h⟩)
    · exact ⟨thread, List.mem_cons_self⟩
    · exact ⟨thread', List.mem_cons_of_mem _ h⟩

theorem wasStored_of_lastStored (h : lastStored id marks = some tokenHash) :
    WasStored id tokenHash marks := by
  obtain ⟨m, hm, hstored⟩ := List.exists_of_findSome?_eq_some h
  cases m with
  | minted i n => cases hstored
  | stored thread id' tokenHash' =>
      by_cases hid : id' = id
      · have heq : some tokenHash' = some tokenHash := (if_pos hid).symm.trans hstored
        cases heq
        exact ⟨thread, hid ▸ hm⟩
      · have hnone : none = some tokenHash := (if_neg hid).symm.trans hstored
        cases hnone

end Marks

/-- The invitation and the hash that a call stores, when it does. -/
def InvitationCall.storedToken (l : InvitationCall) (w : World) : Option (ℕ × String) :=
  match l with
  | invitationCreate invitation =>
      if uniqueViolation w.invitations { invitation with id := w.nextInvitation } then none
      else some (w.nextInvitation, invitation.tokenHash)
  | invitationResend id tokenHash date expiresAt _ =>
      match resentRow id tokenHash date expiresAt w.invitations with
      | .ok _ => some (id, tokenHash)
      | .error _ => none
  | _ => none

def inviteMark {ι : Type*} (i : ι) (l : InvitationCall) (w : World) : Option (InviteMark ι) :=
  match l with
  | .randomBytes => some (.minted i w.nextInviteToken)
  | l => (l.storedToken w).map fun stored => .stored (some i) stored.1 stored.2

/-- The same token, no more open than before. -/
structure Invitation.Wanes (v v' : Invitation) : Prop where
  id : v'.id = v.id
  tokenHash : v'.tokenHash = v.tokenHash
  isPending : v'.isPending = true → v.isPending = true
  expiresAt : v'.expiresAt ≤ v.expiresAt

theorem Invitation.Wanes.refl (v : Invitation) : v.Wanes v := ⟨rfl, rfl, fun h => h, Int.le_refl _⟩

theorem Invitation.Wanes.isOpen {v v' : Invitation} (h : v.Wanes v') {now now' : Time}
    (hnow : now ≤ now') (hopen : v'.isOpen now' = true) : v.isOpen now = true := by
  unfold Invitation.isOpen at hopen ⊢
  rw [Bool.and_eq_true, decide_eq_true_eq] at hopen ⊢
  exact ⟨h.isPending hopen.1,
    Int.lt_of_le_of_lt hnow (Int.lt_of_lt_of_le hopen.2 h.expiresAt)⟩

/-- What others may do: let time pass, remove invitations and close them. -/
structure TokensStay (w w' : World) : Prop where
  now : w.now ≤ w'.now
  row : ∀ v' ∈ w'.invitations.rows, ∃ v ∈ w.invitations.rows, v.Wanes v'
  nextInvitation : w.nextInvitation ≤ w'.nextInvitation
  nextInviteToken : w.nextInviteToken ≤ w'.nextInviteToken

/-- What a call does that stores a token in an invitation. -/
structure Stores (id : ℕ) (tokenHash : String) (w w' : World) : Prop where
  now : w'.now = w.now
  row : ∀ v' ∈ w'.invitations.rows, (v'.id = id ∧ v'.tokenHash = tokenHash) ∨
    (v'.id ≠ id ∧ ∃ v ∈ w.invitations.rows, v.Wanes v')
  id : id < w'.nextInvitation
  nextInvitation : w.nextInvitation ≤ w'.nextInvitation
  nextInviteToken : w'.nextInviteToken = w.nextInviteToken

/-- The invariant of the history. -/
structure InviteLedger {ι : Type*} (E : InvitationEnv) (s : InviteSnapshot ι) : Prop where
  row : ∀ v ∈ s.state.invitations.rows, lastStored v.id s.marks = some v.tokenHash
  once : ∀ id id' tokenHash, WasStored id tokenHash s.marks → WasStored id' tokenHash s.marks →
    id = id'
  fresh : ∀ id n, WasStored id (E.hashToken (E.mintToken n)) s.marks → n < s.state.nextInviteToken
  drawn : ∀ i n, .minted i n ∈ s.marks → n < s.state.nextInviteToken
  owner : ∀ i j n, .minted i n ∈ s.marks → .minted j n ∈ s.marks → i = j
  known : ∀ v ∈ s.state.invitations.rows, v.id < s.state.nextInvitation

/-- The thread minted this token, and nobody has stored it. -/
def MayStoreInvite {ι : Type*} (E : InvitationEnv) (i : ι) (tokenHash : String)
    (marks : List (InviteMark ι)) : Prop :=
  ∃ n, tokenHash = E.hashToken (E.mintToken n) ∧ .minted i n ∈ marks ∧
    ∀ id, ¬ WasStored id tokenHash marks

namespace InviteLedger

variable {ι : Type*} {E : InvitationEnv} {w w' : World} {marks : List (InviteMark ι)}

/-- No two invitations carry the same hash. -/
theorem unique (h : InviteLedger E ⟨w, marks⟩) {v v' : Invitation} (hv : v ∈ w.invitations.rows)
    (hv' : v' ∈ w.invitations.rows) (heq : v.tokenHash = v'.tokenHash) : v.id = v'.id := by
  have hstored := wasStored_of_lastStored (h.row v hv)
  rw [heq] at hstored
  exact h.once _ _ _ hstored (wasStored_of_lastStored (h.row v' hv'))

theorem stay (h : InviteLedger E ⟨w, marks⟩) (hstay : TokensStay w w') :
    InviteLedger E ⟨w', marks⟩ where
  row := by
    intro v' hv'
    obtain ⟨v, hv, hwanes⟩ := hstay.row v' hv'
    rw [hwanes.id, hwanes.tokenHash]
    exact h.row v hv
  once := h.once
  fresh := fun id n hstored => Nat.lt_of_lt_of_le (h.fresh id n hstored) hstay.nextInviteToken
  drawn := fun i n hm => Nat.lt_of_lt_of_le (h.drawn i n hm) hstay.nextInviteToken
  owner := h.owner
  known := by
    intro v' hv'
    obtain ⟨v, hv, hwanes⟩ := hstay.row v' hv'
    rw [hwanes.id]
    exact Nat.lt_of_lt_of_le (h.known v hv) hstay.nextInvitation

theorem mint (h : InviteLedger E ⟨w, marks⟩) (i : ι) :
    InviteLedger E ⟨{ w with nextInviteToken := w.nextInviteToken + 1 },
      .minted i w.nextInviteToken :: marks⟩ where
  row := h.row
  once := fun id id' tokenHash hstored hstored' =>
    h.once id id' tokenHash (wasStored_minted.1 hstored) (wasStored_minted.1 hstored')
  fresh := fun id n hstored => Nat.lt_succ_of_lt (h.fresh id n (wasStored_minted.1 hstored))
  drawn := by
    intro j n hm
    rcases List.mem_cons.1 hm with heq | hm
    · cases heq
      exact Nat.lt_succ_self _
    · exact Nat.lt_succ_of_lt (h.drawn j n hm)
  owner := by
    intro j k n hm hm'
    rcases List.mem_cons.1 hm with heq | hm <;> rcases List.mem_cons.1 hm' with heq' | hm'
    · cases heq
      cases heq'
      rfl
    · cases heq
      exact absurd (h.drawn k _ hm') (Nat.lt_irrefl _)
    · cases heq'
      exact absurd (h.drawn j _ hm) (Nat.lt_irrefl _)
    · exact h.owner j k n hm hm'
  known := h.known

/-- A token may be stored by the thread that minted it, once. -/
theorem store (hinj : Function.Injective fun n => E.hashToken (E.mintToken n))
    (h : InviteLedger E ⟨w, marks⟩) {i : ι} {id : ℕ} {tokenHash : String}
    (hmay : MayStoreInvite E i tokenHash marks) (hstores : Stores id tokenHash w w') :
    InviteLedger E ⟨w', .stored (some i) id tokenHash :: marks⟩ := by
  obtain ⟨n, hhash, hminted, hnew⟩ := hmay
  constructor
  · intro v' hv'
    rw [lastStored_stored]
    rcases hstores.row v' hv' with ⟨hid, htoken⟩ | ⟨hne, v, hv, hwanes⟩
    · rw [if_pos hid.symm, htoken]
    · rw [if_neg (Ne.symm hne), hwanes.id, hwanes.tokenHash]
      exact h.row v hv
  · intro id₁ id₂ tokenHash' h₁ h₂
    rcases wasStored_stored.1 h₁ with ⟨rfl, rfl⟩ | hold₁ <;>
      rcases wasStored_stored.1 h₂ with ⟨rfl, hh⟩ | hold₂
    · rfl
    · exact absurd hold₂ (hnew id₂)
    · rw [hh] at hold₁
      exact absurd hold₁ (hnew id₁)
    · exact h.once id₁ id₂ tokenHash' hold₁ hold₂
  · intro id' n' hstored
    have hlt : n' < w.nextInviteToken := by
      rcases wasStored_stored.1 hstored with ⟨-, hh⟩ | hstored
      · have hn : n' = n := hinj (hh.trans hhash)
        exact hn ▸ h.drawn i n hminted
      · exact h.fresh id' n' hstored
    exact Nat.lt_of_lt_of_eq hlt hstores.nextInviteToken.symm
  · intro j n' hm
    have hlt := h.drawn j n' ((List.mem_cons.1 hm).resolve_left nofun)
    exact Nat.lt_of_lt_of_eq hlt hstores.nextInviteToken.symm
  · intro j k n' hm hm'
    exact h.owner j k n' ((List.mem_cons.1 hm).resolve_left nofun)
      ((List.mem_cons.1 hm').resolve_left nofun)
  · intro v' hv'
    rcases hstores.row v' hv' with ⟨hid, -⟩ | ⟨-, v, hv, hwanes⟩
    · exact hid ▸ hstores.id
    · rw [hwanes.id]
      exact Nat.lt_of_lt_of_le (h.known v hv) hstores.nextInvitation

end InviteLedger

end FifiAlert
