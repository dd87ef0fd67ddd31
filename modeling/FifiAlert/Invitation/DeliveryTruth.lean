import FifiAlert.Invitation.DeliveryBooks
import FifiAlert.Invitation.StaleDeliveries

/-!
# What the books of a delivery tell

Any number of invitation requests in any interleaving and with any calls failing. Once the
provider has taken the message of a delivery, the books tell the truth about it (`TrueBooks`)
exactly when it could be recorded that it was sent, or the compensation failed as well.
-/

namespace FifiAlert

open Concurrency Store InvitationCall InvitationService

theorem InvitationCall.isPlain.book? {l : InvitationCall} (h : l.isPlain) : l.book? = none := by
  cases l with
  | sendLogSent _ => exact h.elim
  | deliveryFailed _ _ _ => exact h.elim
  | _ => rfl

section Books

variable {ι : Type*} [DecidableEq ι] {E : InvitationEnv} {w₀ : World}
  {req : ι → InvitationRequest} {i : ι} {d : Delivery} {s : RecordSnapshot ι}

/-- How a delivery that has ended has kept its books. -/
def BooksEnded (i : ι) (s : DeliverySnapshot ι) : Except AppError InvitationAnswer → Prop
  | .ok (.delivered b) => BooksKept i s (.ok b)
  | .ok _ => True
  | .error e => BooksKept i s (.error e)

theorem safe_deliveryRequest {hone : DeliveredOnce req w₀} {s : DeliverySnapshot ι}
    {r : InvitationRequest} (hreq : req i = r) (hs : BooksOpen (ownMarks i s)) :
    Safe (deliveryProtocol E hone).contract i
      (fun res s' => ∀ d, r = .deliver d → BooksEnded i s' res) (r.process E) s := by
  have hother : ∀ {p : InvitationProcess InvitationAnswer}, (∀ d, r ≠ .deliver d) →
      Unbooked E p → Safe (deliveryProtocol E hone).contract i
        (fun res s' => ∀ d, r = .deliver d → BooksEnded i s' res) p s := fun hr hp =>
    Safe.mono (unbooked_safe hp hs) fun _ _ _ _ d hd => absurd hd (hr d)
  have hP : ∀ l : InvitationCall, l.isPlain → l.book? = none := fun _ h => h.book?
  cases r with
  | create sender dto =>
      exact hother (fun _ h => nomatch h)
        (.map _ (create_confined hP (fun _ _ _ _ => rfl) sender dto))
  | revoke senderUserId id =>
      exact hother (fun _ h => nomatch h)
        (.map _ (revoke_confined hP (fun _ _ => rfl) senderUserId id))
  | resend senderUserId id =>
      exact hother (fun _ h => nomatch h)
        (.map _ (resend_confined hP (fun _ _ _ _ _ => rfl) senderUserId id))
  | deliver delivery =>
      refine Safe.map (Safe.mono (deliver_books hreq hs) fun r s' _ hr d _ => ?_)
      cases r with
      | ok b => exact hr
      | error e => exact hr
  | _ => exact hother (fun _ h => nomatch h) (plainRequest_confined hP trivial)

variable {c : Config ι World InvitationCall AppError InvitationAnswer (RecordMark ι)}

omit [DecidableEq ι] in
theorem forget_recordPool_delivery :
    (recordPool E w₀ req).forget RecordMark.delivery? =
      Config.init w₀ fun i => (req i).process E := by
  unfold Config.forget Snapshot.forget recordPool Config.init
  have hmarks : ((tokenHistory ι w₀).map RecordMark.token).filterMap
      (RecordMark.delivery? (ι := ι)) = [] := by
    rw [List.filterMap_map]
    exact List.filterMap_eq_nil_iff.2 fun _ _ => rfl
  rw [hmarks]

/-- Every delivery keeps its books in the order of its code. -/
theorem deliverySound_of_reaches (hone : DeliveredOnce req w₀)
    (h : Reaches recordSetting (recordPool E w₀ req) c) :
    Sound (deliveryProtocol E hone).contract
      (fun i res s => ∀ d, req i = .deliver d → BooksEnded i s res)
      (c.forget RecordMark.delivery?) := by
  have hrun := h.forget recordSetting_refines_delivery
  rw [forget_recordPool_delivery] at hrun
  refine Sound.reaches (c := Config.init w₀ fun i => (req i).process E) ⟨?_, fun i => ?_⟩ hrun
  · exact DeliveryLedger.init hone
  · exact safe_deliveryRequest rfl ⟨rfl, rfl⟩

/-- The books tell the truth about a message that was sent: it is not on record as failed, and its
delivery has never put it there, which is what expires the invitation. -/
structure TrueBooks (i : ι) (d : Delivery) (s : RecordSnapshot ι) : Prop where
  sent : s.state.sendFailed d.logId = false
  stands : ∀ ids, .delivery (.compensated i ids) ∉ s.marks

theorem mem_ownMarks {m : DeliveryMark ι} :
    m ∈ ownMarks i (s.forget RecordMark.delivery?) ↔ .delivery m ∈ s.marks ∧ m.thread = i := by
  have hforget : m ∈ s.marks.filterMap RecordMark.delivery? ↔ .delivery m ∈ s.marks := by
    rw [List.mem_filterMap]
    constructor
    · rintro ⟨m', hm', heq⟩
      cases m' with
      | delivery m' => exact Option.some.inj heq ▸ hm'
      | token m' => cases heq
      | decided ids => cases heq
    · exact fun hm => ⟨_, hm, rfl⟩
  rw [Snapshot.mem_own]
  exact and_congr_left fun _ => hforget

theorem any_isLogged :
    (ownMarks i (s.forget RecordMark.delivery?)).any DeliveryMark.isLogged = true ↔
      .delivery (.logged i) ∈ s.marks := by
  rw [List.any_eq_true]
  constructor
  · rintro ⟨m, hm, hlogged⟩
    cases m with
    | logged j =>
        obtain ⟨hmem, rfl⟩ := mem_ownMarks.1 hm
        exact hmem
    | accepted j => cases hlogged
    | compensated j ids => cases hlogged
  · exact fun hm => ⟨_, mem_ownMarks.2 ⟨hm, rfl⟩, rfl⟩

theorem any_isCompensated :
    (ownMarks i (s.forget RecordMark.delivery?)).any DeliveryMark.isCompensated = true ↔
      ∃ ids, .delivery (.compensated i ids) ∈ s.marks := by
  rw [List.any_eq_true]
  constructor
  · rintro ⟨m, hm, hcompensated⟩
    cases m with
    | compensated j ids =>
        obtain ⟨hmem, rfl⟩ := mem_ownMarks.1 hm
        exact ⟨ids, hmem⟩
    | accepted j => cases hcompensated
    | logged j => cases hcompensated
  · exact fun ⟨ids, hm⟩ => ⟨_, mem_ownMarks.2 ⟨hm, rfl⟩, rfl⟩

theorem trueBooks_iff (hledger : DeliveryLedger req (s.forget RecordMark.delivery?))
    (hreq : req i = .deliver d) :
    TrueBooks i d s ↔
      (ownMarks i (s.forget RecordMark.delivery?)).any DeliveryMark.isCompensated = false := by
  constructor
  · refine fun h => Bool.eq_false_iff.2 fun hany => ?_
    obtain ⟨ids, hm⟩ := any_isCompensated.1 hany
    exact h.stands ids hm
  · intro h
    refine ⟨Bool.eq_false_iff.2 fun hfailed => ?_, fun ids hm => ?_⟩
    · cases h.symm.trans ((hledger i d hreq).1 hfailed)
    · cases h.symm.trans (any_isCompensated.2 ⟨ids, hm⟩)

/-- Any requests in any interleaving, with any calls failing. Once the provider has taken the
message of a delivery, its books tell the truth wherever it was recorded that the message was
sent, and wherever the delivery ends with an error; where it ends with an answer, they do so
exactly when that was recorded. And no call of a delivery changes an invitation that was resent,
withdrawn or accepted since the send that it delivers. -/
theorem deliveryBooks_true (E : InvitationEnv)
    (hinj : Function.Injective fun n => E.hashToken (E.mintToken n)) {w₀ : World}
    (htokens : TokensInOrder E w₀) (req : ι → InvitationRequest) (hone : DeliveredOnce req w₀)
    {c : Config ι World InvitationCall AppError InvitationAnswer (RecordMark ι)}
    (h : Reaches recordSetting (recordPool E w₀ req) c) {i : ι} {d : Delivery}
    (hreq : req i = .deliver d) :
    (.delivery (.accepted i) ∈ c.marks →
      (.delivery (.logged i) ∈ c.marks → TrueBooks i d c.toSnapshot) ∧
      (∀ b, c.pool i = .ret (.delivered b) →
        (TrueBooks i d c.toSnapshot ↔ .delivery (.logged i) ∈ c.marks)) ∧
      ∀ e, c.pool i = .raise e → TrueBooks i d c.toSnapshot) ∧
    ∀ l next rest fault, c.pool i = .call l next rest fault →
      quietSince (RecordMark.stores d.invitation.id d.invitation.tokenHash)
        (RecordMark.touches d.invitation.id) c.marks = false →
      (next c.state).invitations = c.state.invitations := by
  have hsound := deliverySound_of_reaches hone h
  have hledger : DeliveryLedger req (c.toSnapshot.forget RecordMark.delivery?) := hsound.1
  have htrue := trueBooks_iff hledger hreq
  have hlogged : .delivery (.logged i) ∈ c.marks → TrueBooks i d c.toSnapshot := fun hm =>
    htrue.2 ((hledger i d hreq).2 (any_isLogged.2 hm))
  refine ⟨fun _ => ⟨hlogged, fun b hb => ⟨fun hbooks => ?_, hlogged⟩, fun e he => ?_⟩, ?_⟩
  · have hkept : BooksKept i _ (.ok b) := hsound.result hb d hreq
    cases b with
    | true => exact any_isLogged.1 hkept
    | false => cases (htrue.1 hbooks).symm.trans hkept
  · have hopen : BooksOpen (ownMarks i (c.toSnapshot.forget RecordMark.delivery?)) :=
      hsound.exception he d hreq
    exact htrue.2 hopen.2
  · intro l next rest fault hp hstale
    exact invitations_of_staleDelivery hinj htokens h hreq hp hstale

end Books

section Runs

/-- The send of the invitation is in the log. -/
def bookedWorld : World :=
  { invitedWorld with
    invitationSendLogs := Table.empty.insertNew
      { id := 7, invitationId := 5, senderUserId := 1, recipientHash := "b@c.gr" }
    nextSendLog := 8 }

def bookedSend : Delivery where
  invitation :=
    { id := 5, senderUserId := 1, recipientEmail := "b@c.gr", tokenHash := "t", expiresAt := 1 }
  rawToken := "t"
  toAddress := "b@c.gr"
  logId := 7

/-- The send is delivered, and the invitation may be sent again. -/
def sendTwice : Bool → InvitationRequest
  | false => .deliver bookedSend
  | true => .resend 1 5

def sentInTurn (is : List Bool) :
    Config Bool World InvitationCall AppError InvitationAnswer (RecordMark Bool) :=
  (recordPool eagerEnv bookedWorld sendTwice).schedule RecordMark.of is

theorem reaches_sentInTurn (is : List Bool) :
    Reaches recordSetting (recordPool eagerEnv bookedWorld sendTwice) (sentInTurn is) :=
  Reaches.schedule (fun _ _ _ => trivial) _ _

theorem deliveredOnce_sendTwice : DeliveredOnce sendTwice bookedWorld where
  once := by
    rintro (_ | _) (_ | _) d d' hd hd' -
    · rfl
    · cases hd'
    · cases hd
    · rfl
  unfailed := by
    rintro (_ | _) d hd
    · cases hd
      decide +kernel
    · cases hd

theorem tokensInOrder_bookedWorld : TokensInOrder eagerEnv bookedWorld where
  unique := tokensInOrder_invitedWorld.unique
  fresh := tokensInOrder_invitedWorld.fresh
  known := tokensInOrder_invitedWorld.known

/-- The invitation is sent again before the provider refuses the first message. -/
def refusedAfterResend :
    Config Bool World InvitationCall AppError InvitationAnswer (RecordMark Bool) :=
  (sentInTurn (List.replicate 10 true ++ List.replicate 2 false)).drop false

theorem reaches_refusedAfterResend :
    Reaches recordSetting (recordPool eagerEnv bookedWorld sendTwice) refusedAfterResend :=
  Relation.ReflTransGen.trans (reaches_sentInTurn _) (Reaches.drop fun _ => trivial)

/-- A message that was sent and recorded, and one that was refused after the invitation had been
sent again. -/
theorem deliveryBooks_true_sent :
    TrueBooks false bookedSend (sentInTurn (List.replicate 4 false)).toSnapshot ∧
      (refusedAfterResend.move RecordMark.of false).state.invitations =
        refusedAfterResend.state.invitations := by
  have hinj : Function.Injective fun n => eagerEnv.hashToken (eagerEnv.mintToken n) :=
    mintToken_withdrawEnv_inj
  constructor
  · exact ((deliveryBooks_true eagerEnv hinj tokensInOrder_bookedWorld sendTwice
      deliveredOnce_sendTwice (reaches_sentInTurn _) rfl).1 (by decide +kernel)).1
        (by decide +kernel)
  · exact (deliveryBooks_true eagerEnv hinj tokensInOrder_bookedWorld sendTwice
      deliveredOnce_sendTwice reaches_refusedAfterResend (i := false) rfl).2 _ _ _ _ (by rfl)
        (by decide +kernel)

/-- The provider takes the message, but that cannot be recorded. -/
def unrecorded :
    Config Bool World InvitationCall AppError InvitationAnswer (RecordMark Bool) :=
  ((sentInTurn (List.replicate 3 false)).drop false).move RecordMark.of false

/-- Nothing else happens, and the message that was taken is on record as failed, its invitation
expired. -/
theorem not_trueBooks :
    Reaches recordSetting (recordPool eagerEnv bookedWorld sendTwice) unrecorded ∧
      .delivery (.accepted false) ∈ unrecorded.marks ∧
      (unrecorded.pool false).result? = some (.ok (.delivered false)) ∧
      unrecorded.state.sendFailed 7 = true ∧
      (unrecorded.state.invitations.find? 5).map Invitation.status = some .EXPIRED := by
  refine ⟨?_, by decide +kernel, by decide +kernel, by decide +kernel, by decide +kernel⟩
  exact Relation.ReflTransGen.trans (Relation.ReflTransGen.trans (reaches_sentInTurn _)
    (Reaches.drop fun _ => trivial)) (Reaches.move (S := recordSetting) fun _ => trivial)

end Runs

end FifiAlert
