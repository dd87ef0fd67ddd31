import FifiAlert.Invitation.FinalInvitation
import FifiAlert.Invitation.InviteProtocol

/-!
# The live token of an invitation

For any number of requests in any interleaving: a link is shown as valid exactly when an
acceptance through it would change one invitation, a token that has stopped validating never
validates again, and of the tokens ever stored in an invitation only the last one validates.
-/

namespace FifiAlert

open Concurrency Store InvitationCall InvitationService InvitationText

section Threads

variable {ι : Type*} {E : InvitationEnv} {i : ι} {α β : Type}
  {hinj : Function.Injective fun n => E.hashToken (E.mintToken n)}
  {asks : InviteMark ι → Bool} {J : InviteSnapshot ι → Prop} {s : InviteSnapshot ι}

theorem inviteMark_of_storesNothing {l : InvitationCall} (hl : l.storesNothing) (w : World) :
    l.storedToken w = none ∧ ∀ m, inviteMark i l w = some m → ∃ n, m = .minted i n := by
  cases l with
  | invitationCreate _ | invitationResend _ _ _ _ _ => exact hl.elim
  | randomBytes => exact ⟨rfl, fun m hm => ⟨w.nextInviteToken, (Option.some.inj hm).symm⟩⟩
  | _ => exact ⟨rfl, nofun⟩

/-- A process that stores nothing keeps what the thread relies on. -/
theorem safe_storesNothing {p : InvitationProcess α}
    (hJ : (inviteProtocol E hinj).Lasting i asks J) (hask : ∀ n, asks (.minted i n) = false)
    (hs : J s) (hp : InvitationConfined E InvitationCall.storesNothing p) :
    Safe (inviteProtocol E hinj).contract i (OnReturn fun _ s' => J s') p s := by
  refine hJ.quietly hs (hp.mono ?_ fun _ h => h)
  rintro l next ⟨hnext, hl⟩
  refine ⟨hnext, fun s₁ id tokenHash hstored => ?_, fun w m hm => ?_⟩
  · rw [(inviteMark_of_storesNothing (i := i) hl s₁.state).1] at hstored
    cases hstored
  · obtain ⟨n, rfl⟩ := (inviteMark_of_storesNothing (i := i) hl w).2 m hm
    exact hask n

theorem safe_storesNothing_bind {p : InvitationProcess α} {k : α → InvitationProcess β}
    {Q : β → InviteSnapshot ι → Prop}
    (hp : InvitationConfined E InvitationCall.storesNothing p)
    (hk : ∀ a s', Safe (inviteProtocol E hinj).contract i (OnReturn Q) (k a) s') :
    Safe (inviteProtocol E hinj).contract i (OnReturn Q) (p >>= k) s :=
  Protocol.safe_onReturn_bind (safe_storesNothing .nothing (fun _ => rfl) trivial hp)
    fun a s' _ _ => hk a s'

variable [DecidableEq ι]

/-- A minted token is held by the thread that drew it. -/
theorem safe_mintInviteToken :
    Safe (inviteProtocol E hinj).contract i
      (OnReturn fun rawToken s' => ∃ n, rawToken = E.mintToken n ∧ Holds E i n s')
      (mintInviteToken E) s := by
  unfold mintInviteToken
  refine Protocol.Lasting.nothing.modify_bind trivial rfl (fun s₁ _ _ h => nomatch h) ?_
  intro s₁ hinv _
  refine (lasting_holds s₁.state.nextInviteToken).ret ⟨List.mem_cons_self, fun id hstored => ?_⟩
    fun s₂ _ hs₂ => ⟨s₁.state.nextInviteToken, rfl, hs₂⟩
  exact Nat.lt_irrefl _ (hinv.fresh id _ (wasStored_minted.1 hstored))

/-- The transaction that stores a token that the thread holds. -/
theorem safe_store {n : ℕ} {l : InvitationCall} {g : World → Except PrismaError α}
    (hs : Holds E i n s) (hl : ∀ w id tokenHash, l.storedToken w = some (id, tokenHash) →
      tokenHash = E.hashToken (E.mintToken n)) :
    Safe (inviteProtocol E hinj).contract i (OnReturn fun _ _ => True)
      ((writeOr E l g).tryCatch onUniqueViolation) s := by
  refine (lasting_holds n).atomic_tryCatch hs rfl ?_ ?_
  · rintro s₁ - - ⟨hminted, hnew⟩ id tokenHash hstored
    obtain rfl := hl _ _ _ hstored
    exact ⟨n, rfl, hminted, hnew⟩
  · intro e s₁
    unfold onUniqueViolation
    split <;> exact Protocol.safe_onReturn_raise

omit [DecidableEq ι] in
theorem safe_tail (delivery : Delivery) (dto : InvitationDto) (s : InviteSnapshot ι) :
    Safe (inviteProtocol E hinj).contract i (OnReturn fun _ _ => True)
      (queueDelivery E delivery >>= fun _ => return dto) s :=
  safe_storesNothing_bind (queueDelivery_confined delivery trivial) fun _ _ =>
    Safe.ret fun _ _ _ => trivial

theorem safe_createInvite (sender : ITokenUser) (dto : CreateInvitationDto) :
    Safe (inviteProtocol E hinj).contract i (OnReturn fun _ _ => True) (create E sender dto)
      s := by
  unfold create
  refine safe_storesNothing_bind assertConfigured_confined fun _ s₁ => ?_
  refine safe_storesNothing_bind (isActiveLocale_confined (fun _ => trivial) _) ?_
  intro active s₂
  dsimp only
  split
  · exact Protocol.safe_onReturn_raise
  refine safe_storesNothing_bind (confined_read (by rfl) trivial) fun existingUser s₃ => ?_
  split
  · exact Protocol.safe_onReturn_raise
  refine safe_storesNothing_bind (confined_read (by rfl) trivial) fun pending s₄ => ?_
  split
  · exact Protocol.safe_onReturn_raise
  refine safe_storesNothing_bind (enforceSendLimits_confined (fun _ h => h.storesNothing) _)
    fun _ s₅ => ?_
  refine Protocol.safe_onReturn_bind safe_mintInviteToken ?_
  rintro - s₆ - ⟨n, rfl, hs₆⟩
  refine Protocol.safe_onReturn_bind (safe_storesNothing (lasting_holds n) (fun _ => rfl) hs₆
    (confined_read (by rfl) trivial)) fun now s₇ _ hs₇ => ?_
  refine Protocol.safe_onReturn_bind (safe_store hs₇ ?_) fun created s₈ _ _ => ?_
  · intro w id tokenHash hstored
    dsimp only [storedToken] at hstored
    split at hstored <;> cases hstored
    rfl
  · exact safe_tail _ _ s₈

theorem safe_resendInvite (senderUserId id : ℕ) :
    Safe (inviteProtocol E hinj).contract i (OnReturn fun _ _ => True) (resend E senderUserId id)
      s := by
  unfold resend
  refine safe_storesNothing_bind assertConfigured_confined fun _ s₁ => ?_
  refine safe_storesNothing_bind (findOwned_confined (fun _ h => h.storesNothing) _ _)
    fun row s₂ => ?_
  split
  · exact Protocol.safe_onReturn_raise
  refine safe_storesNothing_bind (confined_read (by rfl) trivial) fun registered s₃ => ?_
  split
  · exact Protocol.safe_onReturn_raise
  refine safe_storesNothing_bind (enforceCooldown_confined (fun _ h => h.storesNothing) row)
    fun _ s₄ => ?_
  refine safe_storesNothing_bind (enforceSendLimits_confined (fun _ h => h.storesNothing) _)
    fun _ s₅ => ?_
  refine Protocol.safe_onReturn_bind safe_mintInviteToken ?_
  rintro - s₆ - ⟨n, rfl, hs₆⟩
  refine Protocol.safe_onReturn_bind (safe_storesNothing (lasting_holds n) (fun _ => rfl) hs₆
    (confined_read (by rfl) trivial)) fun now s₇ _ hs₇ => ?_
  refine Protocol.safe_onReturn_bind (safe_store hs₇ ?_) fun updated s₈ _ _ => ?_
  · intro w id tokenHash hstored
    dsimp only [storedToken] at hstored
    split at hstored <;> cases hstored
    rfl
  · exact safe_tail _ _ s₈

theorem safe_invitationRequest (r : InvitationRequest) :
    Safe (inviteProtocol E hinj).contract i (fun _ _ => True) (r.process E) s := by
  have hnothing : ∀ (p : InvitationProcess InvitationAnswer),
      InvitationConfined E InvitationCall.storesNothing p →
        Safe (inviteProtocol E hinj).contract i (fun _ _ => True) p s := fun p hp =>
    (safe_storesNothing .nothing (fun _ => rfl) trivial hp).mono fun _ _ _ _ => trivial
  have hP : ∀ l : InvitationCall, l.isPlain → l.storesNothing := fun _ h => h.storesNothing
  cases r with
  | create sender dto =>
      exact Safe.map ((safe_createInvite sender dto).mono fun _ _ _ _ => trivial)
  | revoke senderUserId id =>
      exact hnothing _ (.map _ (revoke_confined hP (fun _ _ => trivial) senderUserId id))
  | resend senderUserId id =>
      exact Safe.map ((safe_resendInvite senderUserId id).mono fun _ _ _ _ => trivial)
  | deliver delivery => exact hnothing _ (.map _ (deliver_confined fun _ h => h.storesNothing))
  | _ => exact hnothing _ (plainRequest_confined hP trivial)

end Threads

/-- The link with this token is shown as valid. -/
def Validates (E : InvitationEnv) (rawToken : String) (w : World) : Prop :=
  ∃ dto, ((preview E rawToken).run w).1 = .ok dto

section Validity

variable {E : InvitationEnv} {w : World} {rawToken : String}

theorem preview_run (henabled : E.enabled = true)
    (hshape : isPlausibleInviteToken rawToken = true) :
    ((preview E rawToken).run w).1 =
      match w.invitations.rows.find? fun r => r.tokenHash = E.hashToken rawToken with
      | some row =>
          if row.status = .PENDING ∧ w.now < row.expiresAt then
            .ok { recipientEmail := row.recipientEmail, recipientName := row.recipientName
                  locale := row.locale, senderName := senderDisplayName (senderOf w row) }
          else .error (.notFound "Invitation not found or no longer valid")
      | none => .error (.notFound "Invitation not found or no longer valid") := by
  cases hrow : w.invitations.rows.find? fun r => r.tokenHash = E.hashToken rawToken with
  | none =>
      simp [preview, assertConfigured, henabled, hshape, InvitationCall.read, hrow]
  | some row =>
      by_cases hpending : row.status = .PENDING
      · by_cases hexpired : row.expiresAt ≤ w.now
        · have hnot : ¬ w.now < row.expiresAt := Int.not_lt.2 hexpired
          simp [preview, assertConfigured, henabled, hshape, InvitationCall.read, hrow,
            hpending, hexpired, hnot]
        · have hlt : w.now < row.expiresAt := Int.not_le.1 hexpired
          simp [preview, assertConfigured, henabled, hshape, InvitationCall.read, hrow,
            hpending, hexpired, hlt]
      · simp [preview, assertConfigured, henabled, hshape, InvitationCall.read, hrow, hpending]

theorem plausible_of_validates (h : Validates E rawToken w) :
    isPlausibleInviteToken rawToken = true := by
  obtain ⟨dto, hrun⟩ := h
  by_contra hnot
  rw [Bool.not_eq_true] at hnot
  by_cases henabled : E.enabled = true <;>
    simp [preview, assertConfigured, henabled, hnot] at hrun

theorem isOpen_iff {row : Invitation} {now : Time} :
    row.isOpen now = true ↔ row.status = .PENDING ∧ now < row.expiresAt := by
  simp [Invitation.isOpen, Invitation.isPending]

/-- A link is valid when its invitation is open. -/
theorem exists_open_of_validates (henabled : E.enabled = true) (h : Validates E rawToken w) :
    ∃ v ∈ w.invitations.rows, v.tokenHash = E.hashToken rawToken ∧ v.isOpen w.now = true := by
  have hshape := plausible_of_validates h
  obtain ⟨dto, hrun⟩ := h
  rw [preview_run henabled hshape] at hrun
  cases hrow : w.invitations.rows.find? fun r => r.tokenHash = E.hashToken rawToken with
  | none =>
      rw [hrow] at hrun
      cases hrun
  | some row =>
      rw [hrow] at hrun
      dsimp only at hrun
      split at hrun
      · rename_i hopen
        have hhash : row.tokenHash = E.hashToken rawToken := by simpa using List.find?_some hrow
        exact ⟨row, List.mem_of_find?_eq_some hrow, hhash, isOpen_iff.2 hopen⟩
      · cases hrun

theorem validates_iff (henabled : E.enabled = true)
    (hshape : isPlausibleInviteToken rawToken = true)
    (hunique : ∀ v ∈ w.invitations.rows, ∀ v' ∈ w.invitations.rows,
      v.tokenHash = v'.tokenHash → v.id = v'.id) :
    Validates E rawToken w ↔
      ∃ v ∈ w.invitations.rows, v.tokenHash = E.hashToken rawToken ∧ v.isOpen w.now = true := by
  constructor
  · exact exists_open_of_validates henabled
  · rintro ⟨v, hv, hhash, hopen⟩
    unfold Validates
    rw [preview_run henabled hshape]
    cases hrow : w.invitations.rows.find? fun r => r.tokenHash = E.hashToken rawToken with
    | none =>
        have hno := List.find?_eq_none.1 hrow v hv
        exact absurd (decide_eq_true hhash) hno
    | some row =>
        have hmem := List.mem_of_find?_eq_some hrow
        have hhash' : row.tokenHash = E.hashToken rawToken := by simpa using List.find?_some hrow
        have hid := hunique row hmem v hv (hhash'.trans hhash.symm)
        have hsame : w.invitations.find? row.id = some row := Table.find?_of_mem hmem
        rw [hid, Table.find?_of_mem hv] at hsame
        cases hsame
        exact ⟨_, if_pos (isOpen_iff.1 hopen)⟩

theorem accept_ne {date : Time} {via : InvitationAcceptedVia} {userId : ℕ} {row : Invitation}
    (h : row.isOpen date = true) : row.accept via date userId ≠ row := by
  intro heq
  have hstatus : InvitationStatus.ACCEPTED = .PENDING :=
    (congrArg Invitation.status heq).trans (isOpen_iff.1 h).1
  cases hstatus

/-- The statement of an acceptance changes the open invitations with the hash. -/
theorem changed_accept (tokenHash : String) (date : Time) (userId : ℕ) (w : World) :
    w.invitations.changed
        ((invitationAcceptByToken tokenHash date userId).effect E w).invitations =
      w.invitations.findMany fun r => r.tokenHash = tokenHash && r.isOpen date :=
  Table.changed_updateMany (Invitation.accept_id .TOKEN date userId) fun _ h =>
    accept_ne (Bool.and_eq_true_iff.1 h).2

/-- The invitations that an acceptance through a link changes. -/
def acceptedThrough (E : InvitationEnv) (rawToken : String) (w : World) (userId : ℕ) :
    List Invitation :=
  w.invitations.changed ((acceptByToken E rawToken userId).run w).2.invitations

theorem acceptedThrough_eq (userId : ℕ) :
    acceptedThrough E rawToken w userId =
      w.invitations.findMany fun r => r.tokenHash = E.hashToken rawToken && r.isOpen w.now :=
  changed_accept _ _ userId w

/-- An acceptance through a link answers with the number of the invitations it changes, and it
accepts these for the user. -/
structure Accepts (E : InvitationEnv) (rawToken : String) (w : World) (userId : ℕ) : Prop where
  answer : ((acceptByToken E rawToken userId).run w).1 =
    .ok (acceptedThrough E rawToken w userId).length
  rows : ((acceptByToken E rawToken userId).run w).2.invitations.rows =
    w.invitations.rows.map fun v =>
      if v ∈ acceptedThrough E rawToken w userId then v.accept .TOKEN w.now userId else v

theorem accepts_acceptByToken (userId : ℕ) : Accepts E rawToken w userId where
  answer := by
    rw [acceptedThrough_eq]
    exact congrArg Except.ok List.countP_eq_length_filter
  rows := by
    refine List.map_congr_left fun v (hv : v ∈ w.invitations.rows) => ?_
    simp only [acceptedThrough_eq, Table.findMany, List.mem_filter, hv, true_and]

theorem length_findMany_le_one {date : Time} {tokenHash : String}
    (hunique : ∀ v ∈ w.invitations.rows, ∀ v' ∈ w.invitations.rows,
      v.tokenHash = v'.tokenHash → v.id = v'.id) :
    (w.invitations.findMany fun r => r.tokenHash = tokenHash && r.isOpen date).length ≤ 1 := by
  rw [Table.findMany, ← List.countP_eq_length_filter]
  apply Table.count_le_one
  intro r hr r' hr' hp hp'
  rw [Bool.and_eq_true, decide_eq_true_eq] at hp hp'
  exact hunique r hr r' hr' (hp.1.trans hp'.1.symm)

end Validity

/-- The tokens that the invitations carried before the run. -/
def tokenHistory (ι : Type*) (w : World) : List (InviteMark ι) :=
  w.invitations.rows.map fun v => .stored none v.id v.tokenHash

/-- Before the run: the invitations carry different hashes, none of a token still to be minted,
and the numbers in use were drawn. -/
structure TokensInOrder (E : InvitationEnv) (w : World) : Prop where
  unique : ∀ v ∈ w.invitations.rows, ∀ v' ∈ w.invitations.rows,
    v.tokenHash = v'.tokenHash → v.id = v'.id
  fresh : ∀ v ∈ w.invitations.rows, ∀ n, v.tokenHash = E.hashToken (E.mintToken n) →
    n < w.nextInviteToken
  known : ∀ v ∈ w.invitations.rows, v.id < w.nextInvitation

theorem lastStored_tokenHistory {ι : Type*} {w : World} {v : Invitation}
    (hv : v ∈ w.invitations.rows) : lastStored v.id (tokenHistory ι w) = some v.tokenHash := by
  have hnodup := w.invitations.nodup
  unfold tokenHistory
  generalize w.invitations.rows = rows at hv hnodup
  induction rows with
  | nil => cases hv
  | cons r rows ih =>
      rw [List.map_cons, List.nodup_cons] at hnodup
      rw [List.map_cons, lastStored_stored]
      rcases List.mem_cons.1 hv with rfl | hv
      · rw [if_pos rfl]
      · have hne : r.id ≠ v.id := fun he => hnodup.1 (he ▸ List.mem_map_of_mem hv)
        rw [if_neg hne]
        exact ih hv hnodup.2

theorem wasStored_tokenHistory {ι : Type*} {w : World} {id : ℕ} {tokenHash : String}
    (h : WasStored id tokenHash (tokenHistory ι w)) :
    ∃ v ∈ w.invitations.rows, v.id = id ∧ v.tokenHash = tokenHash := by
  obtain ⟨thread, hmem⟩ := h
  obtain ⟨v, hv, heq⟩ := List.mem_map.1 hmem
  cases heq
  exact ⟨v, hv, rfl, rfl⟩

theorem TokensInOrder.ledger {ι : Type*} {E : InvitationEnv} {w : World}
    (h : TokensInOrder E w) : InviteLedger E (⟨w, tokenHistory ι w⟩ : InviteSnapshot ι) where
  row := fun v hv => lastStored_tokenHistory hv
  once := by
    intro id id' tokenHash hstored hstored'
    obtain ⟨v, hv, rfl, hhash⟩ := wasStored_tokenHistory hstored
    obtain ⟨v', hv', rfl, hhash'⟩ := wasStored_tokenHistory hstored'
    exact h.unique v hv v' hv' (hhash.trans hhash'.symm)
  fresh := by
    intro id n hstored
    obtain ⟨v, hv, -, hhash⟩ := wasStored_tokenHistory hstored
    exact h.fresh v hv n hhash
  drawn := by
    intro i n hm
    obtain ⟨v, -, heq⟩ := List.mem_map.1 hm
    cases heq
  owner := by
    intro i j n hm
    obtain ⟨v, -, heq⟩ := List.mem_map.1 hm
    cases heq
  known := h.known

section Pool

variable {ι : Type*}

/-- A pool of requests that has not started yet, with the history of the tokens. -/
def invitePool (E : InvitationEnv) (w : World) (req : ι → InvitationRequest) :
    Config ι World InvitationCall AppError InvitationAnswer (InviteMark ι) where
  state := w
  marks := tokenHistory ι w
  pool := fun i => (req i).process E

/-- A token that was stored and whose invitation is not open any more. -/
def InviteSpent {ι : Type*} (tokenHash : String) (s : InviteSnapshot ι) : Prop :=
  (∃ id, WasStored id tokenHash s.marks) ∧
    ∀ v ∈ s.state.invitations.rows, v.tokenHash = tokenHash → v.isOpen s.state.now = false

theorem WasStored.suffix {ι : Type*} {id : ℕ} {tokenHash : String}
    {marks marks' : List (InviteMark ι)} (h : WasStored id tokenHash marks)
    (hsuffix : marks <:+ marks') : WasStored id tokenHash marks' :=
  h.imp fun _ hmem => hsuffix.subset hmem

theorem InviteSpent.of_rows {ι : Type*} {tokenHash : String} {w w' : World}
    {marks marks' : List (InviteMark ι)} (h : InviteSpent tokenHash ⟨w, marks⟩)
    (hsuffix : marks <:+ marks') (hnow : w.now ≤ w'.now)
    (hrow : ∀ v' ∈ w'.invitations.rows, v'.tokenHash = tokenHash →
      ∃ v ∈ w.invitations.rows, v.Wanes v') : InviteSpent tokenHash ⟨w', marks'⟩ := by
  obtain ⟨⟨id, hstored⟩, hclosed⟩ := h
  refine ⟨⟨id, hstored.suffix hsuffix⟩, fun v' hv' hhash => ?_⟩
  obtain ⟨v, hv, hwanes⟩ := hrow v' hv' hhash
  rw [Bool.eq_false_iff]
  intro hopen
  have hwas := hclosed v hv (hwanes.tokenHash.symm.trans hhash)
  rw [hwanes.isOpen hnow hopen] at hwas
  cases hwas

/-- A spent token stays spent: it is not stored again, and nothing opens its invitation. -/
theorem spent_of_reachable {E : InvitationEnv}
    {hinj : Function.Injective fun n => E.hashToken (E.mintToken n)} {tokenHash : String}
    {s s' : InviteSnapshot ι} (h : (inviteProtocol E hinj).Reachable s s')
    (hs : InviteSpent tokenHash s) : InviteSpent tokenHash s' := by
  refine h.invariant hs ?_ ?_
  · rintro i l s hinv hmay - hs
    rcases inviteMark_cases i l s.state with rfl | ⟨id, tokenHash', hstored, hmark⟩ | ⟨hnone, hmark⟩
    · exact hs.of_rows (List.suffix_cons _ _) (Int.le_refl _) fun v hv _ => ⟨v, hv, .refl v⟩
    · have hstores := stores_effect (E := E) hinv.known hstored
      have hspent : InviteSpent tokenHash
          ⟨l.effect E s.state, .stored (some i) id tokenHash' :: s.marks⟩ := by
        refine hs.of_rows (List.suffix_cons _ _) (Int.le_of_eq hstores.now.symm) ?_
        intro v' hv' hhash
        rcases hstores.row v' hv' with ⟨-, hhash'⟩ | ⟨-, hold⟩
        · obtain ⟨id', hwas⟩ := hs.1
          obtain ⟨n, -, -, hnew⟩ := hmay id tokenHash' hstored
          exact absurd (hhash.symm.trans hhash' ▸ hwas) (hnew id')
        · exact hold
      exact (after_stored (E := E) hmark).symm ▸ hspent
    · have hstay : TokensStay s.state (l.effect E s.state) := tokensStay_effect hnone
      have hspent : InviteSpent tokenHash ⟨l.effect E s.state, s.marks⟩ :=
        hs.of_rows (List.suffix_refl _) hstay.now fun v' hv' _ => hstay.row v' hv'
      exact (after_unmarked (E := E) hmark).symm ▸ hspent
  · exact fun w w' m _ henv hs =>
      hs.of_rows (List.suffix_refl _) henv.now fun v' hv' _ => henv.row v' hv'

namespace InviteLedger

variable {E : InvitationEnv} {s : InviteSnapshot ι} {rawToken : String}

/-- A token that validates was stored in the invitation that it opens. -/
theorem wasStored_of_validates (h : InviteLedger E s) (henabled : E.enabled = true)
    (hvalid : Validates E rawToken s.state) :
    ∃ id, WasStored id (E.hashToken rawToken) s.marks ∧
      lastStored id s.marks = some (E.hashToken rawToken) := by
  obtain ⟨v, hv, hhash, -⟩ := exists_open_of_validates henabled hvalid
  have hrow := h.row v hv
  rw [hhash] at hrow
  exact ⟨v.id, wasStored_of_lastStored hrow, hrow⟩

/-- Of the tokens stored in an invitation only the last one validates. -/
theorem lastStored_of_validates (h : InviteLedger E s) (henabled : E.enabled = true) {id : ℕ}
    (hstored : WasStored id (E.hashToken rawToken) s.marks)
    (hvalid : Validates E rawToken s.state) :
    lastStored id s.marks = some (E.hashToken rawToken) := by
  obtain ⟨id', hstored', hlast⟩ := h.wasStored_of_validates henabled hvalid
  rw [h.once id id' _ hstored hstored']
  exact hlast

/-- A token that was stored and does not validate is spent. -/
theorem spent_of_not_validates (h : InviteLedger E s) (henabled : E.enabled = true)
    (hshape : isPlausibleInviteToken rawToken = true) {id : ℕ}
    (hstored : WasStored id (E.hashToken rawToken) s.marks)
    (hnot : ¬ Validates E rawToken s.state) : InviteSpent (E.hashToken rawToken) s := by
  rw [validates_iff henabled hshape fun v hv v' hv' => h.unique hv hv'] at hnot
  refine ⟨⟨id, hstored⟩, fun v hv hhash => ?_⟩
  rw [Bool.eq_false_iff]
  exact fun hopen => hnot ⟨v, hv, hhash, hopen⟩

/-- The statement of an acceptance changes at most one invitation. -/
theorem changed_accept_le_one (h : InviteLedger E s) (tokenHash : String) (date : Time)
    (userId : ℕ) :
    (s.state.invitations.changed ((invitationAcceptByToken tokenHash date userId).effect E
      s.state).invitations).length ≤ 1 := by
  rw [changed_accept]
  exact length_findMany_le_one fun v hv v' hv' => h.unique hv hv'

/-- A link is valid exactly when an acceptance through it changes one invitation. -/
theorem validates_iff_accepts (h : InviteLedger E s) (henabled : E.enabled = true)
    (hshape : isPlausibleInviteToken rawToken = true) (userId : ℕ) :
    Validates E rawToken s.state ↔
      (acceptedThrough E rawToken s.state userId).length = 1 := by
  have hunique : ∀ v ∈ s.state.invitations.rows, ∀ v' ∈ s.state.invitations.rows,
      v.tokenHash = v'.tokenHash → v.id = v'.id := fun v hv v' hv' => h.unique hv hv'
  rw [validates_iff henabled hshape hunique, acceptedThrough_eq]
  constructor
  · rintro ⟨v, hv, hhash, hopen⟩
    refine Nat.le_antisymm (length_findMany_le_one hunique) (List.length_pos_of_mem
      (a := v) (List.mem_filter.2 ⟨hv, ?_⟩))
    rw [Bool.and_eq_true, decide_eq_true_eq]
    exact ⟨hhash, hopen⟩
  · intro hone
    obtain ⟨v, hmem⟩ := List.exists_mem_of_length_pos (Nat.lt_of_lt_of_eq Nat.one_pos hone.symm)
    obtain ⟨hv, hp⟩ := List.mem_filter.1 hmem
    rw [Bool.and_eq_true, decide_eq_true_eq] at hp
    exact ⟨v, hv, hp⟩

end InviteLedger

theorem InviteSpent.not_validates {E : InvitationEnv} {s : InviteSnapshot ι} {rawToken : String}
    (h : InviteSpent (E.hashToken rawToken) s) (henabled : E.enabled = true) :
    ¬ Validates E rawToken s.state := by
  intro hvalid
  obtain ⟨v, hv, hhash, hopen⟩ := exists_open_of_validates henabled hvalid
  rw [h.2 v hv hhash] at hopen
  cases hopen

variable [DecidableEq ι]

theorem invitePool_sound {E : InvitationEnv}
    (hinj : Function.Injective fun n => E.hashToken (E.mintToken n)) {w : World}
    (hw : TokensInOrder E w) (req : ι → InvitationRequest) :
    Sound (inviteProtocol E hinj).contract (fun _ _ _ => True) (invitePool E w req) :=
  ⟨hw.ledger, fun i => safe_invitationRequest (req i)⟩

/-- In every run of invitation requests: a plausible link is shown as valid exactly when an
acceptance through it changes one invitation; an acceptance answers with the number of the
invitations that it accepts, and its statement, whenever it comes, changes no more than one; a
token that has stopped validating never validates again; only stored tokens validate, and of the
tokens stored in an invitation, before the run or in it, only the one stored last, so at most
one. -/
theorem inviteToken_oneWay (E : InvitationEnv) (henabled : E.enabled = true)
    (hhash : Function.Injective E.hashToken) (hmint : Function.Injective E.mintToken) (w : World)
    (hw : TokensInOrder E w) (req : ι → InvitationRequest)
    {c : Config ι World InvitationCall AppError InvitationAnswer (InviteMark ι)}
    (hc : Reaches inviteSetting (invitePool E w req) c) :
    (∀ rawToken userId, isPlausibleInviteToken rawToken = true →
      (Validates E rawToken c.state ↔
        (acceptedThrough E rawToken c.state userId).length = 1)) ∧
    (∀ rawToken userId, Accepts E rawToken c.state userId) ∧
    (∀ tokenHash date userId,
      (c.state.invitations.changed ((invitationAcceptByToken tokenHash date userId).effect E
        c.state).invitations).length ≤ 1) ∧
    (∀ c' c'', Reaches inviteSetting c c' → Reaches inviteSetting c' c'' → ∀ rawToken,
      Validates E rawToken c.state → ¬ Validates E rawToken c'.state →
        ¬ Validates E rawToken c''.state) ∧
    (∀ rawToken, Validates E rawToken c.state →
      ∃ id, WasStored id (E.hashToken rawToken) c.marks) ∧
    (∀ id rawToken, WasStored id (E.hashToken rawToken) c.marks → Validates E rawToken c.state →
      lastStored id c.marks = some (E.hashToken rawToken) ∧
        ∀ rawToken', WasStored id (E.hashToken rawToken') c.marks →
          Validates E rawToken' c.state → rawToken' = rawToken) := by
  have hsound := (invitePool_sound (hhash.comp hmint) hw req).reaches hc
  have hledger : InviteLedger E c.toSnapshot := hsound.1
  refine ⟨fun rawToken userId hshape => ?_, fun _ userId => accepts_acceptByToken userId,
    hledger.changed_accept_le_one, ?_, ?_, ?_⟩
  · exact hledger.validates_iff_accepts henabled hshape userId
  · intro c' c'' hc' hc'' rawToken hvalid hnot
    obtain ⟨id, hstored, -⟩ := hledger.wasStored_of_validates henabled hvalid
    have hsound' := hsound.reaches hc'
    have hledger' : InviteLedger E c'.toSnapshot := hsound'.1
    have hspent : InviteSpent (E.hashToken rawToken) c'.toSnapshot :=
      hledger'.spent_of_not_validates henabled (plausible_of_validates hvalid)
        (hstored.suffix hc'.marks_suffix) hnot
    exact (spent_of_reachable (Protocol.refines hsound' hc'') hspent).not_validates henabled
  · intro rawToken hvalid
    obtain ⟨id, hstored, -⟩ := hledger.wasStored_of_validates henabled hvalid
    exact ⟨id, hstored⟩
  · intro id rawToken hstored hvalid
    have hlast := hledger.lastStored_of_validates henabled hstored hvalid
    refine ⟨hlast, fun rawToken' hstored' hvalid' => ?_⟩
    have hlast' := hledger.lastStored_of_validates henabled hstored' hvalid'
    exact hhash (Option.some.inj (hlast'.symm.trans hlast))

end Pool

/-- The invitation of `withdrawWorld`, with the counters past what it uses. -/
def invitedWorld : World :=
  { withdrawWorld with nextInvitation := 6, nextInviteToken := 2 }

/-- No wait before a resend. -/
def eagerEnv : InvitationEnv := { withdrawEnv with resendCooldownMinutes := 0 }

theorem mintToken_withdrawEnv_inj : Function.Injective withdrawEnv.mintToken := by
  intro n m h
  have hlist : List.replicate n 'n' = List.replicate m 'n' := String.ofList_injective h
  have hlength := congrArg List.length hlist
  rwa [List.length_replicate, List.length_replicate] at hlength

theorem tokensInOrder_invitedWorld : TokensInOrder eagerEnv invitedWorld where
  unique := by decide +kernel
  fresh := by
    intro v hv n hhash
    have hall : ∀ v ∈ invitedWorld.invitations.rows, v.tokenHash = String.ofList ['t'] := by
      decide +kernel
    have hlist : ['t'] = List.replicate n 'n' :=
      String.ofList_injective ((hall v hv).symm.trans hhash)
    have hmem : 't' ∈ List.replicate n 'n' := hlist ▸ List.mem_singleton_self 't'
    exact absurd (List.eq_of_mem_replicate hmem) (by decide)
  known := by decide +kernel

/-- A resend of the invitation, and user 2 following the new link. -/
def resendAndJoin : Bool → InvitationRequest
  | false => .resend 1 5
  | true => .acceptByToken "nn" 2

/-- After the resend the new token is the one that validates. -/
theorem inviteToken_oneWay_resent :
    lastStored 5 ((invitePool eagerEnv invitedWorld resendAndJoin).schedule inviteMark
      (List.replicate 10 false)).marks = some "nn" := by
  have hstored : (InviteMark.stored (some false) 5 "nn") ∈
      ((invitePool eagerEnv invitedWorld resendAndJoin).schedule inviteMark
        (List.replicate 10 false)).marks := by decide +kernel
  have hvalid : Validates eagerEnv "nn" ((invitePool eagerEnv invitedWorld resendAndJoin).schedule
      inviteMark (List.replicate 10 false)).state :=
    (validates_iff (by decide) (by decide +kernel) (by decide +kernel)).2 (by decide +kernel)
  exact ((inviteToken_oneWay eagerEnv (by decide) Function.injective_id mintToken_withdrawEnv_inj
    invitedWorld tokensInOrder_invitedWorld resendAndJoin
    (Reaches.schedule (fun _ _ _ => trivial) _ _)).2.2.2.2.2 5 "nn" ⟨_, hstored⟩ hvalid).1

end FifiAlert
