import FifiAlert.Concurrency.Since
import FifiAlert.Invitation.RequestCalls

/-!
# The books of the deliveries

A delivery hands the message to the provider and records that it was sent. When anything on the
way fails, it records the send as failed and expires the invitation instead. The history says what
every delivery has done, and a send is on record as failed only when its delivery has compensated
(`DeliveryLedger`).

A delivery that answers that the message was sent has recorded so, one that answers that it was
not has compensated, and one that fails has done neither.
-/

namespace FifiAlert

open Concurrency Store InvitationCall InvitationService

/-- The send is on record as failed. -/
def World.sendFailed (w : World) (logId : ℕ) : Bool :=
  (w.invitationSendLogs.find? logId).any fun r => r.outcome = .failed

/-- The row of the send log that a delivery writes. -/
def InvitationCall.book? : InvitationCall → Option ℕ
  | sendLogSent logId => some logId
  | deliveryFailed logId _ _ => some logId
  | _ => none

/-- The notable calls of a delivery: the provider took the message, the send was recorded as sent,
and it was recorded as failed, which expired these invitations. -/
inductive DeliveryMark (ι : Type*) where
  | accepted (i : ι)
  | logged (i : ι)
  | compensated (i : ι) (expired : List ℕ)
  deriving DecidableEq

namespace DeliveryMark

variable {ι : Type*}

def thread : DeliveryMark ι → ι
  | accepted i => i
  | logged i => i
  | compensated i _ => i

def isLogged : DeliveryMark ι → Bool
  | logged _ => true
  | _ => false

def isCompensated : DeliveryMark ι → Bool
  | compensated _ _ => true
  | _ => false

/-- A call that finds its row of the send log leaves a mark. -/
def of (i : ι) : InvitationCall → World → Option (DeliveryMark ι)
  | .sendMail _, _ => some (accepted i)
  | .sendLogSent logId, w =>
      if (w.invitationSendLogs.find? logId).isSome then some (logged i) else none
  | .deliveryFailed logId _ invitation, w =>
      if (w.invitationSendLogs.find? logId).isSome then
        some (compensated i ((w.invitations.findMany fun r => r.id = invitation.id &&
          r.isPending && r.tokenHash = invitation.tokenHash).map Invitation.id))
      else none
  | _, _ => none

theorem thread_of (i : ι) (l : InvitationCall) (w : World) (m : DeliveryMark ι)
    (h : of i l w = some m) : m.thread = i := by
  cases l with
  | sendMail mail =>
      cases h
      rfl
  | sendLogSent logId =>
      simp only [of, Option.ite_none_right_eq_some] at h
      cases h.2
      rfl
  | deliveryFailed logId message invitation =>
      simp only [of, Option.ite_none_right_eq_some] at h
      cases h.2
      rfl
  | _ => cases h

/-- A call that keeps no books says at most that the provider took a message. -/
theorem of_noBook {i : ι} {l : InvitationCall} (hl : l.book? = none) {w : World}
    {m : DeliveryMark ι} (h : of i l w = some m) : m = accepted i := by
  cases l with
  | sendMail mail => exact (Option.some.inj h).symm
  | sendLogSent logId => cases hl
  | deliveryFailed logId message invitation => cases hl
  | _ => cases h

end DeliveryMark

section Effect

variable {E : InvitationEnv} {w : World} {logId : ℕ}

theorem sendFailed_insertNew {log : InvitationSendLog} {w w' : World}
    (h : w'.invitationSendLogs = w.invitationSendLogs.insertNew log)
    (hlog : log.outcome = .queued) (logId : ℕ) : w'.sendFailed logId = w.sendFailed logId := by
  unfold World.sendFailed
  rw [h]
  cases hfind : w.invitationSendLogs.find? log.id with
  | some _ => rw [Table.insertNew_of_some hfind]
  | none =>
      rw [Table.find?_insertNew hfind]
      by_cases hid : log.id = logId
      · rw [if_pos hid, ← hid, hfind, Option.any_some, hlog]
        rfl
      · rw [if_neg hid]

/-- Only the books of a send say whether it failed. -/
theorem sendFailed_effect {l : InvitationCall} (hl : l.book? ≠ some logId) :
    (l.effect E w).sendFailed logId = w.sendFailed logId := by
  cases l with
  | invitationCreate invitation =>
      dsimp only [effect, onLogs]
      split
      · rfl
      · exact sendFailed_insertNew rfl rfl logId
  | invitationResend id tokenHash date expiresAt senderUserId =>
      dsimp only [effect, onLogs]
      split
      · exact sendFailed_insertNew rfl rfl logId
      · rfl
  | sendLogSent logId' =>
      have hne : logId ≠ logId' := fun he => hl (congrArg some he.symm)
      simp only [World.sendFailed, effect, onLogs, Table.find?_updateMany_ite, if_neg hne]
  | deliveryFailed logId' message invitation =>
      have hne : logId ≠ logId' := fun he => hl (congrArg some he.symm)
      simp only [World.sendFailed, effect, onLogs, Table.find?_updateMany_ite, if_neg hne]
  | _ => rfl

theorem sendFailed_sendLogSent :
    ((sendLogSent logId).effect E w).sendFailed logId = false := by
  simp only [World.sendFailed, effect, onLogs, Table.find?_updateMany_self]
  cases w.invitationSendLogs.find? logId <;> rfl

theorem sendFailed_deliveryFailed {message : String} {invitation : Invitation} :
    ((deliveryFailed logId message invitation).effect E w).sendFailed logId =
      (w.invitationSendLogs.find? logId).isSome := by
  simp only [World.sendFailed, effect, onLogs, Table.find?_updateMany_self]
  cases w.invitationSendLogs.find? logId <;> rfl

end Effect

section Protocol

variable {ι : Type*} [DecidableEq ι]

abbrev DeliverySnapshot (ι : Type*) := Snapshot World (DeliveryMark ι)

/-- The surroundings of the deliveries: nobody else records a send as failed, though its row may
be removed. Any call may fail. -/
def deliverySetting : Setting ι World InvitationCall (DeliveryMark ι) where
  mark := DeliveryMark.of
  env := fun w w' => ∀ logId, w'.sendFailed logId = true → w.sendFailed logId = true
  mayFail := fun _ => True
  admits := fun _ _ _ => True

/-- Every row of the send log has one delivery, which has not failed when the run begins. -/
structure DeliveredOnce (req : ι → InvitationRequest) (w : World) : Prop where
  once : ∀ i j d d', req i = .deliver d → req j = .deliver d' → d.logId = d'.logId → i = j
  unfailed : ∀ i d, req i = .deliver d → w.sendFailed d.logId = false

/-- A send is on record as failed only when its delivery has compensated, and a delivery that has
recorded its send as sent does not compensate. -/
def DeliveryLedger (req : ι → InvitationRequest) (s : DeliverySnapshot ι) : Prop :=
  ∀ i d, req i = .deliver d →
    (s.state.sendFailed d.logId = true →
      (s.own DeliveryMark.thread i).any DeliveryMark.isCompensated = true) ∧
    ((s.own DeliveryMark.thread i).any DeliveryMark.isLogged = true →
      (s.own DeliveryMark.thread i).any DeliveryMark.isCompensated = false)

/-- The delivery has not kept its books yet. -/
def BooksOpen (own : List (DeliveryMark ι)) : Prop :=
  own.any DeliveryMark.isLogged = false ∧ own.any DeliveryMark.isCompensated = false

/-- The books of a send are kept by its delivery, and once. -/
def MayBook (req : ι → InvitationRequest) (i : ι) (l : InvitationCall) (s : DeliverySnapshot ι) :
    Prop :=
  ∀ logId, l.book? = some logId →
    (∃ d, req i = .deliver d ∧ d.logId = logId) ∧ BooksOpen (s.own DeliveryMark.thread i)

variable {req : ι → InvitationRequest} {E : InvitationEnv} {w : World} {i : ι}
  {s : DeliverySnapshot ι} {l : InvitationCall}

theorem DeliveryLedger.init (h : DeliveredOnce req w) :
    DeliveryLedger req (⟨w, []⟩ : DeliverySnapshot ι) :=
  fun i d hd =>
    ⟨fun hfailed => absurd ((h.unfailed i d hd).symm.trans hfailed) nofun, fun _ => rfl⟩

/-- What a call leaves in the history of a delivery that is not concerned. -/
theorem any_own_after {p : DeliveryMark ι → Bool} (hp : ∀ i, p (.accepted i) = false) (j : ι)
    (hl : i = j → l.book? = none) :
    ((s.after DeliveryMark.of i l (l.effect E)).own DeliveryMark.thread j).any p =
      (s.own DeliveryMark.thread j).any p := by
  by_cases hij : i = j
  · subst hij
    rw [Snapshot.own_after_self DeliveryMark.thread_of]
    cases hm : DeliveryMark.of i l s.state with
    | none => rfl
    | some m =>
        rw [DeliveryMark.of_noBook (hl rfl) hm]
        simp [hp]
  · rw [Snapshot.own_after_ne DeliveryMark.thread_of hij]

theorem DeliveryLedger.call (hone : DeliveredOnce req w) (h : DeliveryLedger req s)
    (hmay : MayBook req i l s) :
    DeliveryLedger req (s.after DeliveryMark.of i l (l.effect E)) := by
  intro j d hd
  obtain ⟨hfailed, hlogged⟩ := h j d hd
  by_cases hbook : i = j ∧ l.book? ≠ none
  · obtain ⟨rfl, hbook⟩ := hbook
    obtain ⟨logId, hlogId⟩ := Option.ne_none_iff_exists'.1 hbook
    obtain ⟨⟨d', hd', hlog⟩, hopen, hopen'⟩ := hmay logId hlogId
    obtain rfl : d' = d := InvitationRequest.deliver.inj (hd'.symm.trans hd)
    rw [Snapshot.own_after_self DeliveryMark.thread_of, Snapshot.state_after, hlog]
    cases l with
    | sendLogSent logId' =>
        obtain rfl := Option.some.inj hlogId
        rw [← hlog, sendFailed_sendLogSent, DeliveryMark.of]
        split <;> simp [DeliveryMark.isLogged, DeliveryMark.isCompensated, hopen']
    | deliveryFailed logId' message invitation =>
        obtain rfl := Option.some.inj hlogId
        rw [sendFailed_deliveryFailed, DeliveryMark.of]
        split
        · rename_i hrow
          simp [DeliveryMark.isLogged, DeliveryMark.isCompensated, hopen, hrow]
        · rename_i hrow
          simp [hopen, hopen', hrow]
    | _ => cases hlogId
  · have hquiet : i = j → l.book? = none := fun hij => by_contra fun hl => hbook ⟨hij, hl⟩
    rw [any_own_after (fun _ => rfl) j hquiet, any_own_after (fun _ => rfl) j hquiet,
      Snapshot.state_after, sendFailed_effect]
    · exact ⟨hfailed, hlogged⟩
    · intro hl
      obtain ⟨⟨d', hd', hlog⟩, -⟩ := hmay d.logId hl
      have hij : i = j := hone.once i j d' d hd' hd hlog
      rw [hquiet hij] at hl
      cases hl

/-- The protocol of the books. -/
def deliveryProtocol (E : InvitationEnv) (hone : DeliveredOnce req w) :
    Protocol (deliverySetting (ι := ι)) where
  effect := InvitationCall.effect E
  permits := MayBook req
  inv := DeliveryLedger req
  inv_call := fun hinv hmay _ => hinv.call hone hmay
  inv_env := fun henv hinv i d hd =>
    ⟨fun hfailed => (hinv i d hd).1 (henv d.logId hfailed), (hinv i d hd).2⟩

end Protocol

end FifiAlert

namespace FifiAlert

open Concurrency Store InvitationCall InvitationService

/-- The process keeps no books. -/
abbrev Unbooked (E : InvitationEnv) {α : Type} (p : InvitationProcess α) : Prop :=
  InvitationConfined E (fun l => l.book? = none) p

section Walk

variable {ι : Type*} [DecidableEq ι] {req : ι → InvitationRequest} {w : World}
  {E : InvitationEnv} {hone : DeliveredOnce req w} {i : ι} {d : Delivery} {s : DeliverySnapshot ι}
  {α β : Type}

/-- The marks of the thread. -/
abbrev ownMarks (i : ι) (s : DeliverySnapshot ι) : List (DeliveryMark ι) :=
  s.own DeliveryMark.thread i

theorem lasting_ownDelivery (A : List (DeliveryMark ι) → Prop) :
    (deliveryProtocol E hone).Lasting i (fun m => decide (m.thread = i))
      fun s => A (ownMarks i s) :=
  .ownList DeliveryMark.thread_of A

/-- How a delivery that answers with `b`, or fails, has kept its books. -/
def BooksKept (i : ι) (s : DeliverySnapshot ι) : Except AppError Bool → Prop
  | .ok true => (ownMarks i s).any DeliveryMark.isLogged = true
  | .ok false => (ownMarks i s).any DeliveryMark.isCompensated = true
  | .error _ => BooksOpen (ownMarks i s)

/-- A part of the delivery that leaves its books open. -/
theorem unbooked_safe {p : InvitationProcess α} (hp : Unbooked E p)
    (hs : BooksOpen (ownMarks i s)) :
    Safe (deliveryProtocol E hone).contract i (fun _ s' => BooksOpen (ownMarks i s')) p s := by
  refine Safe.mono (Protocol.safe_of_guarded (R := fun _ => True) (hp.mono ?_ fun _ _ => trivial)
    (fun s s' hs hr => (lasting_ownDelivery _).stable hs hr) hs) fun _ _ _ hr => hr.1
  rintro l next ⟨hnext, hl⟩
  refine ⟨hnext, fun s₁ _ _ hs₁ => ⟨fun logId hlogId => ?_, ?_⟩⟩
  · rw [hl] at hlogId
    cases hlogId
  · have hkeep := fun p hp => any_own_after (E := E) (s := s₁) (i := i) (l := l) (p := p) hp i
      fun _ => hl
    exact ⟨(hkeep _ fun _ => rfl).trans hs₁.1, (hkeep _ fun _ => rfl).trans hs₁.2⟩

/-- A write to the books that needs its row of the send log: it leaves its mark, or the books stay
open. -/
theorem book_safe {l : InvitationCall} {b : Bool} {p : DeliveryMark ι → Bool}
    (hreq : req i = .deliver d) (hl : l.book? = some d.logId) (hs : BooksOpen (ownMarks i s))
    (hfound : ∀ w : World, (w.invitationSendLogs.find? d.logId).isSome = true →
      ∃ m, DeliveryMark.of i l w = some m ∧ p m = true)
    (hmissing : ∀ w : World, ¬ (w.invitationSendLogs.find? d.logId).isSome = true →
      DeliveryMark.of i l w = none) :
    Safe (deliveryProtocol E hone).contract i
      (fun r s' => match r with
        | .ok b' => b' = b ∧ (ownMarks i s').any p = true
        | .error _ => BooksOpen (ownMarks i s'))
      (writeOr E l (fun w =>
        if (w.invitationSendLogs.find? d.logId).isSome then .ok () else .error .P2025) >>=
          fun _ => return b) s := by
  refine Safe.bind (Protocol.safe_call rfl fun s₁ hr hinv => ?_)
  have hs₁ : BooksOpen (ownMarks i s₁) := (lasting_ownDelivery _).stable hs hr
  refine ⟨fun _ => ⟨fun logId hlogId => ⟨⟨d, hreq, ?_⟩, hs₁⟩, fun _ => ?_⟩, fun _ => ?_⟩
  · exact Option.some.inj (hl.symm.trans hlogId)
  · have hown : ownMarks i (s₁.after DeliveryMark.of i l (l.effect E)) =
        (DeliveryMark.of i l s₁.state).toList ++ ownMarks i s₁ :=
      Snapshot.own_after_self DeliveryMark.thread_of i l _
    by_cases hrow : (s₁.state.invitationSendLogs.find? d.logId).isSome = true
    · obtain ⟨m, hm, hp⟩ := hfound s₁.state hrow
      have hmarked : (ownMarks i (s₁.after DeliveryMark.of i l (l.effect E))).any p = true := by
        rw [hown, hm]
        simp [hp]
      simp only [hrow, if_true, Except.mapError]
      refine Safe.ret fun s₂ hr₂ _ => Safe.ret fun s₃ hr₃ _ => ⟨rfl, ?_⟩
      exact (lasting_ownDelivery fun own => own.any p = true).stable hmarked (hr₂.trans hr₃)
    · have hopen : BooksOpen (ownMarks i (s₁.after DeliveryMark.of i l (l.effect E))) := by
        rw [hown, hmissing s₁.state hrow]
        exact hs₁
      simp only [hrow, Except.mapError]
      exact Safe.raise fun s₂ hr₂ _ => (lasting_ownDelivery _).stable hopen hr₂
  · exact Safe.raise fun s₂ hr₂ _ => (lasting_ownDelivery _).stable hs₁ hr₂

theorem send_unbooked (d : Delivery) (senderName : String) : Unbooked E (send E d senderName) := by
  unfold send
  refine Process.Confined.bind (confined_read (by rfl) rfl) fun now => ?_
  split
  · trivial
  · exact confined_write rfl

theorem deliver_books (hreq : req i = .deliver d) (hs : BooksOpen (ownMarks i s)) :
    Safe (deliveryProtocol E hone).contract i (fun r s' => BooksKept i s' r) (deliver E d) s := by
  have hread : Unbooked E (read (.userFindUnique d.invitation.senderUserId)
      fun w => senderOf w d.invitation) := confined_read (by rfl) rfl
  refine Safe.bind (Safe.mono (unbooked_safe hread hs) fun r s₁ _ hs₁ => ?_)
  cases r with
  | error e => exact hs₁
  | ok sender =>
      refine Safe.tryCatch (Safe.bind (Safe.mono (unbooked_safe (send_unbooked d _) hs₁) ?_))
      have hcatch : ∀ (e : AppError) s₂, BooksOpen (ownMarks i s₂) →
          Safe (deliveryProtocol E hone).contract i (fun r s' => BooksKept i s' r)
            (writeOr E (.deliveryFailed d.logId (String.ofList (e.message.toList.take 500))
              d.invitation) (fun w => if (w.invitationSendLogs.find? d.logId).isSome
                then .ok () else .error .P2025) >>= fun _ => return false) s₂ := by
        intro e s₂ hs₂
        refine Safe.mono (book_safe (p := DeliveryMark.isCompensated) hreq rfl hs₂
          (fun w hrow => ⟨_, if_pos hrow, rfl⟩) fun w hrow => if_neg hrow) fun r s₃ _ hr => ?_
        cases r with
        | error e => exact hr
        | ok b =>
            obtain ⟨rfl, hmarked⟩ := hr
            exact hmarked
      intro r s₂ _ hs₂
      cases r with
      | error e => exact hcatch e s₂ hs₂
      | ok _ =>
          refine Safe.mono (book_safe (p := DeliveryMark.isLogged) hreq rfl hs₂
            (fun w hrow => ⟨_, if_pos hrow, rfl⟩) fun w hrow => if_neg hrow) fun r s₃ _ hr => ?_
          cases r with
          | error e => exact hcatch e s₃ hr
          | ok b =>
              obtain ⟨rfl, hmarked⟩ := hr
              exact hmarked

end Walk

end FifiAlert
