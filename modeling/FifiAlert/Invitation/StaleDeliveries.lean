import FifiAlert.Concurrency.Forget
import FifiAlert.Invitation.DeliveryBooks
import FifiAlert.Invitation.LiveToken

/-!
# Deliveries of an older send

Any number of invitation requests in any interleaving and with any calls failing: a pending
invitation has been neither withdrawn nor accepted since its last send (`Undecided`), so a delivery
never touches an invitation that something has happened to since the send that it delivers.
-/

namespace FifiAlert

open Concurrency Store InvitationCall InvitationService

/-- The invitations that a withdrawal or an acceptance decides. -/
def InvitationCall.decides (l : InvitationCall) (w : World) : Option (List ℕ) :=
  match l with
  | invitationRevoke id _ => some [id]
  | invitationAcceptByToken tokenHash date _ =>
      some ((w.invitations.findMany fun r => r.tokenHash = tokenHash && r.isOpen date).map
        Invitation.id)
  | invitationAcceptByEmail recipientEmail date _ =>
      some ((w.invitations.findMany fun r => r.recipientEmail = recipientEmail &&
        r.isOpen date).map Invitation.id)
  | _ => none

/-- The history of the tokens, of the decisions and of the deliveries. -/
inductive RecordMark (ι : Type*) where
  | token (m : InviteMark ι)
  | decided (ids : List ℕ)
  | delivery (m : DeliveryMark ι)
  deriving DecidableEq

namespace RecordMark

variable {ι : Type*}

def invite? : RecordMark ι → Option (InviteMark ι)
  | token m => some m
  | _ => none

def delivery? : RecordMark ι → Option (DeliveryMark ι)
  | delivery m => some m
  | _ => none

def of (i : ι) (l : InvitationCall) (w : World) : Option (RecordMark ι) :=
  match inviteMark i l w, DeliveryMark.of i l w with
  | some m, _ => some (token m)
  | none, some m => some (delivery m)
  | none, none => (l.decides w).map decided

/-- Was this hash stored in the invitation? -/
def stores (id : ℕ) (tokenHash : String) : RecordMark ι → Bool
  | token (.stored _ id' tokenHash') => id' = id && tokenHash' = tokenHash
  | _ => false

/-- Was any hash stored in the invitation? -/
def storesIn (id : ℕ) : RecordMark ι → Bool
  | token (.stored _ id' _) => id' = id
  | _ => false

/-- Was the invitation withdrawn or accepted? -/
def decidesOn (id : ℕ) : RecordMark ι → Bool
  | decided ids => ids.contains id
  | _ => false

/-- Was the invitation resent, withdrawn or accepted? -/
def touches (id : ℕ) (m : RecordMark ι) : Bool := m.storesIn id || m.decidesOn id

theorem of_delivery {i : ι} {l : InvitationCall} {w : World} {m : DeliveryMark ι}
    (h : DeliveryMark.of i l w = some m) : inviteMark i l w = none := by
  cases l with
  | sendMail _ => rfl
  | sendLogSent _ => rfl
  | deliveryFailed _ _ _ => rfl
  | _ => cases h

theorem bind_invite? (i : ι) (l : InvitationCall) (w : World) :
    (of i l w).bind invite? = inviteMark i l w := by
  unfold of
  split
  · rename_i hm
    exact hm.symm
  · rename_i hnone _
    exact hnone.symm
  · rename_i hnone _
    rw [hnone]
    cases l.decides w <;> rfl

theorem bind_delivery? (i : ι) (l : InvitationCall) (w : World) :
    (of i l w).bind delivery? = DeliveryMark.of i l w := by
  unfold of
  split
  · rename_i hm
    cases hd : DeliveryMark.of i l w with
    | none => rfl
    | some m => cases hm.symm.trans (of_delivery hd)
  · rename_i hd
    exact hd.symm
  · rename_i hd
    rw [hd]
    cases l.decides w <;> rfl

end RecordMark

section Setting

variable {ι : Type*}

abbrev RecordSnapshot (ι : Type*) := Snapshot World (RecordMark ι)

/-- What others may do: let time pass, remove invitations, close them, and write the send log,
but record no send as failed. -/
structure RecordsStay (w w' : World) : Prop where
  tokens : TokensStay w w'
  sends : ∀ logId, w'.sendFailed logId = true → w.sendFailed logId = true

/-- The surroundings of the invitation service. Any call may fail. -/
def recordSetting : Setting ι World InvitationCall (RecordMark ι) where
  mark := RecordMark.of
  env := RecordsStay
  mayFail := fun _ => True
  admits := fun _ _ _ => True

theorem recordSetting_refines_invite :
    (recordSetting (ι := ι)).Refines RecordMark.invite? inviteSetting where
  mark := RecordMark.bind_invite?
  env := fun _ _ h => h.tokens
  mayFail := fun _ h => h
  admits := fun _ _ _ h => h

theorem recordSetting_refines_delivery :
    (recordSetting (ι := ι)).Refines RecordMark.delivery? deliverySetting where
  mark := RecordMark.bind_delivery?
  env := fun _ _ h => h.sends
  mayFail := fun _ h => h
  admits := fun _ _ _ h => h

variable {E : InvitationEnv} {i : ι} {l : InvitationCall} {w : World} {s : RecordSnapshot ι}

/-- What is decided is not pending any more. -/
theorem isPending_of_decides {ids : List ℕ} (h : l.decides w = some ids) {v : Invitation}
    (hv : v ∈ (l.onInvitations w).rows) (hid : v.id ∈ ids) : v.isPending = false := by
  have haccept : ∀ {p : Invitation → Bool} {f : Invitation → Invitation},
      (∀ u, (f u).id = u.id) → (∀ u, (f u).isPending = false) →
        v ∈ (w.invitations.rows.map fun u => if p u then f u else u) →
          v.id ∈ (w.invitations.findMany p).map Invitation.id → v.isPending = false := by
    intro p f hf hdone hmem hin
    obtain ⟨u, hu, rfl⟩ := List.mem_map.1 hmem
    obtain ⟨u', hu', heq⟩ := List.mem_map.1 hin
    obtain ⟨hu'', hp⟩ := Table.mem_findMany.1 hu'
    have hsame : u' = u := by
      have hkey : u'.id = u.id := by
        rw [heq]
        split
        · exact hf u
        · rfl
      have hfind := Table.find?_of_mem hu
      rw [← hkey, Table.find?_of_mem hu''] at hfind
      exact Option.some.inj hfind
    rw [← hsame, if_pos hp]
    exact hdone u'
  cases l with
  | invitationRevoke id date =>
      cases h
      obtain ⟨u, hu, rfl⟩ := List.mem_map.1 hv
      by_cases hu' : u.id = id
      · simp [hu', Invitation.isPending]
      · simp [hu'] at hid
  | invitationAcceptByToken tokenHash date userId =>
      cases h
      exact haccept (p := fun u => u.tokenHash = tokenHash && u.isOpen date)
        (f := Invitation.accept .TOKEN date userId) (fun _ => rfl) (fun _ => rfl) hv hid
  | invitationAcceptByEmail recipientEmail date userId =>
      cases h
      exact haccept (p := fun u => u.recipientEmail = recipientEmail && u.isOpen date)
        (f := Invitation.accept .EMAIL date userId) (fun _ => rfl) (fun _ => rfl) hv hid
  | _ => cases h

/-- A pending invitation was not withdrawn or accepted since a token was last stored in it. -/
def Undecided (s : RecordSnapshot ι) : Prop :=
  ∀ v ∈ s.state.invitations.rows, v.isPending = true →
    quietSince (RecordMark.storesIn v.id) (RecordMark.decidesOn v.id) s.marks = true

theorem Undecided.call (h : Undecided s)
    (hknown : ∀ v ∈ s.state.invitations.rows, v.id < s.state.nextInvitation) (i : ι)
    (l : InvitationCall) : Undecided (s.after RecordMark.of i l (l.effect E)) := by
  intro v' hv' hpending
  rw [Snapshot.state_after] at hv'
  change quietSince _ _ ((RecordMark.of i l s.state).toList ++ s.marks) = true
  rcases inviteMark_cases i l s.state with rfl | ⟨id, tokenHash, hstored, hmark⟩ | ⟨hnone, hmark⟩
  · refine (quietSince_append ?_).2 ⟨?_, h v' hv' hpending⟩ <;> rintro m ⟨⟩ <;> rfl
  · have hm : RecordMark.of i l s.state = some (.token (.stored (some i) id tokenHash)) := by
      unfold RecordMark.of
      rw [hmark]
    rw [hm]
    rcases (stores_effect hknown hstored).row v' hv' with ⟨rfl, -⟩ | ⟨hne, v, hv, hwanes⟩
    · simp [quietSince, RecordMark.storesIn]
    · refine (quietSince_append ?_).2 ⟨?_, ?_⟩
      · rintro m ⟨⟩
        exact decide_eq_false fun heq => hne heq.symm
      · rintro m ⟨⟩
        rfl
      · rw [hwanes.id]
        exact h v hv (hwanes.isPending hpending)
  · obtain ⟨v, hv, hcloses⟩ := rows_onInvitations hnone v' hv'
    have hquiet := h v hv (hcloses.isPending hpending)
    rw [← hcloses.id] at hquiet
    have hm : ∀ m, RecordMark.of i l s.state = some m →
        m.storesIn v'.id = false ∧ m.decidesOn v'.id = false := by
      intro m hm
      unfold RecordMark.of at hm
      rw [hmark] at hm
      split at hm
      · rename_i hsome
        cases hsome
      · cases hm
        exact ⟨rfl, rfl⟩
      · obtain ⟨ids, hids, rfl⟩ := Option.map_eq_some_iff.1 hm
        refine ⟨rfl, Bool.eq_false_iff.2 fun hin => ?_⟩
        have hdone := isPending_of_decides hids hv' (List.contains_iff_mem.1 hin)
        cases hpending.symm.trans hdone
    exact (quietSince_append fun m h => (hm m h).1).2 ⟨fun m h => (hm m h).2, hquiet⟩

theorem Undecided.env {w' : World} {m : List (RecordMark ι)}
    (h : Undecided (⟨w, m⟩ : RecordSnapshot ι)) (henv : RecordsStay w w') :
    Undecided (⟨w', m⟩ : RecordSnapshot ι) := by
  intro v' hv' hpending
  obtain ⟨v, hv, hwanes⟩ := henv.tokens.row v' hv'
  rw [hwanes.id]
  exact h v hv (hwanes.isPending hpending)

/-- When the last token stored in an undecided invitation is this one, nothing has happened to the
invitation since it was stored. -/
theorem quietSince_stores {id : ℕ} {tokenHash : String} {marks : List (RecordMark ι)}
    (hlast : lastStored id (marks.filterMap RecordMark.invite?) = some tokenHash)
    (hquiet : quietSince (RecordMark.storesIn id) (RecordMark.decidesOn id) marks = true) :
    quietSince (RecordMark.stores id tokenHash) (RecordMark.touches id) marks = true := by
  induction marks with
  | nil => cases hquiet
  | cons m marks ih =>
      have hskip : lastStored id (marks.filterMap RecordMark.invite?) = some tokenHash →
          m.storesIn id = false →
            quietSince (RecordMark.stores id tokenHash) (RecordMark.touches id) (m :: marks) =
              true := by
        intro hrest hstores
        simp only [quietSince, hstores, Bool.false_or, Bool.and_eq_true] at hquiet
        simp only [quietSince, RecordMark.touches, hstores, Bool.false_or, Bool.or_eq_true,
          Bool.and_eq_true]
        exact .inr ⟨hquiet.1, ih hrest hquiet.2⟩
      cases m with
      | token m =>
          cases m with
          | minted i n => exact hskip hlast rfl
          | stored thread id' tokenHash' =>
              have hlast' : lastStored id
                  (.stored thread id' tokenHash' :: marks.filterMap RecordMark.invite?) =
                    some tokenHash := hlast
              rw [lastStored_stored] at hlast'
              by_cases hid : id' = id
              · rw [if_pos hid] at hlast'
                cases hlast'
                simp [quietSince, RecordMark.stores, hid]
              · rw [if_neg hid] at hlast'
                exact hskip hlast' (decide_eq_false hid)
      | decided ids => exact hskip hlast rfl
      | delivery m => exact hskip hlast rfl

end Setting

section Pool

variable {ι : Type*} [DecidableEq ι] {E : InvitationEnv} {w₀ : World}
  {req : ι → InvitationRequest} {i : ι} {d : Delivery}
  {c : Config ι World InvitationCall AppError InvitationAnswer (RecordMark ι)}

/-- A pool of requests that has not started yet, with the history of the tokens. -/
def recordPool (E : InvitationEnv) (w : World) (req : ι → InvitationRequest) :
    Config ι World InvitationCall AppError InvitationAnswer (RecordMark ι) where
  state := w
  marks := (tokenHistory ι w).map .token
  pool := fun i => (req i).process E

omit [DecidableEq ι] in
theorem forget_recordPool :
    (recordPool E w₀ req).forget RecordMark.invite? = invitePool E w₀ req := by
  unfold Config.forget Snapshot.forget recordPool invitePool
  have hmarks : ((tokenHistory ι w₀).map RecordMark.token).filterMap RecordMark.invite? =
      tokenHistory ι w₀ := by
    rw [List.filterMap_map]
    exact List.filterMap_some
  rw [hmarks]

/-- The tokens are in order all along. -/
theorem inviteLedger_of_reaches (hinj : Function.Injective fun n => E.hashToken (E.mintToken n))
    (htokens : TokensInOrder E w₀) (h : Reaches recordSetting (recordPool E w₀ req) c) :
    InviteLedger E (c.toSnapshot.forget RecordMark.invite?) := by
  have hrun := h.forget recordSetting_refines_invite
  rw [forget_recordPool] at hrun
  exact ((invitePool_sound hinj htokens req).reaches hrun).1

omit [DecidableEq ι] in
theorem undecided_recordPool : Undecided (recordPool E w₀ req).toSnapshot := by
  intro v hv _
  have hm : RecordMark.token (.stored none v.id v.tokenHash) ∈
      (tokenHistory ι w₀).map RecordMark.token :=
    List.mem_map_of_mem (List.mem_map_of_mem hv)
  refine quietSince_of_never hm (decide_eq_true rfl) fun m hm => ?_
  obtain ⟨m', -, rfl⟩ := List.mem_map.1 hm
  rfl

theorem undecided_of_reaches (hinj : Function.Injective fun n => E.hashToken (E.mintToken n))
    (htokens : TokensInOrder E w₀) (h : Reaches recordSetting (recordPool E w₀ req) c) :
    Undecided c.toSnapshot := by
  refine Reaches.confined_along
    (K := fun s => InviteLedger E (s.forget RecordMark.invite?))
    (P := fun _ l next => next = l.effect E ∧ True) (R := fun _ _ => True)
    (fun d hd => inviteLedger_of_reaches hinj htokens hd) ?_ ?_
    (fun i => (req i).process_confined E) h undecided_recordPool
  · rintro i l _ s ⟨rfl, -⟩ - hledger hs
    exact hs.call hledger.known i l
  · exact fun w w' m henv _ hs => hs.env henv

/-- A delivery makes the calls of a delivery of its own send. -/
theorem delivers_of_reaches (h : Reaches recordSetting (recordPool E w₀ req) c)
    (hreq : req i = .deliver d) {l : InvitationCall} {next : World → World}
    {rest : World → InvitationProcess InvitationAnswer} {fault : InvitationProcess InvitationAnswer}
    (hp : c.pool i = .call l next rest fault) : next = l.effect E ∧ l.delivers d := by
  have hpool := Reaches.pool_confined (P := fun j l next => req j = .deliver d →
    next = l.effect E ∧ l.delivers d) (R := fun _ _ => True) (fun j => ?_) h i
  · rw [hp] at hpool
    exact hpool.1 hreq
  · by_cases hj : req j = .deliver d
    · change ((req j).process E).Confined _ _
      rw [hj]
      exact Process.Confined.mono (.map _ (deliver_confined fun _ hl => hl)) (fun _ _ hl _ => hl)
        fun _ h => h
    · exact ((req j).process_confined E).mono (fun _ _ _ h => absurd h hj) fun _ h => h

/-- A call of a delivery changes no invitation, unless the send that it delivers is the last thing
that has happened to it. -/
theorem invitations_of_staleDelivery
    (hinj : Function.Injective fun n => E.hashToken (E.mintToken n))
    (htokens : TokensInOrder E w₀) (h : Reaches recordSetting (recordPool E w₀ req) c)
    (hreq : req i = .deliver d) {l : InvitationCall} {next : World → World}
    {rest : World → InvitationProcess InvitationAnswer} {fault : InvitationProcess InvitationAnswer}
    (hp : c.pool i = .call l next rest fault)
    (hstale : quietSince (RecordMark.stores d.invitation.id d.invitation.tokenHash)
      (RecordMark.touches d.invitation.id) c.marks = false) :
    (next c.state).invitations = c.state.invitations := by
  obtain ⟨rfl, hl⟩ := delivers_of_reaches h hreq hp
  cases l with
  | userFindUnique _ => rfl
  | dateNow => rfl
  | sendMail _ => rfl
  | sendLogSent _ => rfl
  | deliveryFailed logId message invitation =>
      obtain ⟨-, rfl⟩ := hl
      have hledger := inviteLedger_of_reaches hinj htokens h
      dsimp only [effect, onInvitations]
      split
      · refine Table.updateMany_of_forall_not fun v hv => Bool.eq_false_iff.2 fun hmatch => ?_
        simp only [Bool.and_eq_true, decide_eq_true_eq] at hmatch
        obtain ⟨⟨hid, hpending⟩, hhash⟩ := hmatch
        have hquiet := undecided_of_reaches hinj htokens h v hv hpending
        have hlast := hledger.row v hv
        rw [hid, hhash] at hlast
        rw [hid] at hquiet
        cases (quietSince_stores hlast hquiet).symm.trans hstale
      · rfl
  | _ => exact hl.elim

end Pool

end FifiAlert
