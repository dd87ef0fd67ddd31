import FifiAlert.Auth.PasskeyManagement

/-!
# Passkeys stay with their owners

For any number of ceremonies, listings, renamings and removals of passkeys and deletions of users,
in any interleaving and with any of their calls failing: the passkeys are what the history wrote.
A passkey is registered by its user who answered a challenge, it is used by a login that its key
has signed, and its owner alone renames it and removes it.
-/

namespace FifiAlert

open Concurrency Store PasskeyService

/-- The same key of the same user. -/
structure Passkey.SameCredential (p q : Passkey) : Prop where
  userId : p.userId = q.userId
  credentialId : p.credentialId = q.credentialId
  publicKey : p.publicKey = q.publicKey

def NameFits (name : String) : Prop :=
  name ≠ "" ∧ Js.utf16Length name.toList ≤ PASSKEY_NAME_MAX_LENGTH

/-- Passkeys under their ids, which have been given out, each with a credential of its own. -/
structure PasskeysOrderly (A : PasskeyEnv) (next : ℕ) (rows : String → Option Passkey) : Prop where
  keyed : ∀ id p, rows id = some p → p.id = id
  issued : ∀ id p, rows id = some p → ∃ n < next, id = A.cuid n
  unique : ∀ id p id' p', rows id = some p → rows id' = some p' →
    p.credentialId = p'.credentialId → id = id'
  named : ∀ id p, rows id = some p → NameFits p.name

/-- The ids were given out one after the other. -/
def GivenInTurn (A : PasskeyEnv) (first next : ℕ) (ids : List String) : Prop :=
  ∃ ns : List ℕ, ids = ns.map A.cuid ∧ ns.Nodup ∧ ∀ n ∈ ns, first ≤ n ∧ n < next

/-- The id that a call gave out. -/
def CredentialMark.newId {ι : Type*} : CredentialMark ι → Option String
  | registered _ p => some p.id
  | _ => none

section History

variable {ι : Type*} (A : PasskeyEnv) (req : ι → CredentialRequest) (i : ι)

/-- The thread took a challenge that was issued to the user for a registration, and the library
accepts its response to it. -/
def Attested (input : PasskeyRegisterDto) (userId : ℕ) (info : RegistrationInfo)
    (marks : List (CredentialMark ι)) : Prop :=
  ∃ c verification, .consumed i c ∈ marks ∧ c.type = .register ∧ c.userId = some userId ∧
    A.verifyRegistrationResponse A.passkeyConfig input.response c.challenge = .ok verification ∧
    verification.verified = true ∧ verification.registrationInfo = some info

/-- The thread took a challenge for a login, and the library accepts its response to it as signed
with the key of the passkey. -/
def Asserted (input : PasskeyLoginVerifyDto) (p : Passkey) (info : VerifiedAuthenticationResponse)
    (marks : List (CredentialMark ι)) : Prop :=
  ∃ c, .consumed i c ∈ marks ∧ c.type = .login ∧ .read i p ∈ marks ∧
    A.verifyAuthenticationResponse A.passkeyConfig input.response c.challenge p = .ok info ∧
    info.verified = true

/-- The credential comes from a registration by its user. -/
def RegisteredBy (userId : ℕ) (credentialId : String) (publicKey : List UInt8)
    (marks : List (CredentialMark ι)) : Prop :=
  ∃ input info, req i = .ceremony (.finishRegistration userId input) ∧
    Attested A i input userId info marks ∧ credentialId = info.credential.id ∧
    publicKey = info.credential.publicKey

/-- The login was signed with this passkey, as it was when the login read it, and its user has
verified the address. -/
def SignedBy (p : Passkey) (info : VerifiedAuthenticationResponse)
    (marks : List (CredentialMark ι)) : Prop :=
  ∃ input owner, req i = .ceremony (.finishLogin input) ∧ Asserted A i input p info marks ∧
    .foundOwner i owner ∈ marks ∧ owner.id = p.userId ∧ owner.emailVerified = true

/-- The passkeys of the user, the newest first. -/
structure ListsOwn (rows : String → Option Passkey) (userId : ℕ) (listed : List Passkey) :
    Prop where
  sorted : listed.Pairwise fun p q => q.createdAt ≤ p.createdAt
  nodup : listed.Nodup
  mem_iff : ∀ p, p ∈ listed ↔ rows p.id = some p ∧ p.userId = userId

/-- What a call found out or did was right after the history before it. -/
def CredentialMark.Justified (start : World) (older : List (CredentialMark ι)) :
    CredentialMark ι → Prop
  | consumed _ _ => True
  | foundOwner _ _ => True
  | read _ p => writtenPasskeys start older p.id = some p
  | listed i passkeys => ∃ userId, req i = .list userId ∧
      ListsOwn (writtenPasskeys start older) userId passkeys
  | registered i p => RegisteredBy A req i p.userId p.credentialId p.publicKey older ∧
      NameFits p.name ∧ ∀ id q, writtenPasskeys start older id = some q →
        q.id ≠ p.id ∧ q.credentialId ≠ p.credentialId
  | used i id info _ => ∃ p q, writtenPasskeys start older id = some p ∧
      SignedBy A req i q info older ∧ q.id = id ∧ q.SameCredential p
  | renamed i id name => ∃ p text, writtenPasskeys start older id = some p ∧ NameFits name ∧
      req i = .rename p.userId id text ∧ name = String.ofList (Js.trim text.toList)
  | removed i id => ∃ p, writtenPasskeys start older id = some p ∧ req i = .remove p.userId id
  | userDeleted i userId => req i = .deleteUser userId

def AllJustified (start : World) : List (CredentialMark ι) → Prop
  | [] => True
  | m :: older => m.Justified A req start older ∧ AllJustified start older

end History

theorem AllJustified.of_split {ι : Type*} {A : PasskeyEnv} {req : ι → CredentialRequest}
    {start : World} {newer older : List (CredentialMark ι)} {m : CredentialMark ι}
    (h : AllJustified A req start (newer ++ m :: older)) : m.Justified A req start older := by
  induction newer with
  | nil => exact h.1
  | cons m' newer ih => exact ih h.2

/-- No passkey with this id will ever be one of which this is false. -/
structure Remains (A : PasskeyEnv) (id : String) (C : Passkey → Prop) (w : World) : Prop where
  issued : ∃ n < w.nextPasskey, id = A.cuid n
  found : ∀ p, w.passkeys.find? id = some p → C p

section Permits

variable {ι : Type*}

open CredentialCall in
def CredentialPermits (A : PasskeyEnv) (req : ι → CredentialRequest) (i : ι)
    (l : CredentialCall) (s : CredentialSnapshot ι) : Prop :=
  match l with
  | ceremony (.passkeyCreate data) => NameFits data.name ∧
      RegisteredBy A req i data.userId data.credentialId data.publicKey s.marks
  | ceremony (.auth (.passkeyUpdate id newCounter backedUp)) =>
      ∃ q, SignedBy A req i q ⟨true, newCounter, backedUp⟩ s.marks ∧ q.id = id ∧
        Remains A id q.SameCredential s.state
  | passkeyRename id name => NameFits name ∧ ∃ userId text, req i = .rename userId id text ∧
      name = String.ofList (Js.trim text.toList) ∧
        Remains A id (fun p => p.userId = userId) s.state
  | passkeyDelete id => ∃ userId, req i = .remove userId id ∧
      Remains A id (fun p => p.userId = userId) s.state
  | passkeyFindOwn userId => req i = .list userId
  | deletion (.userDelete userId) => req i = .deleteUser userId
  | l => l.IsAside A

/-- Others may do anything but touch the passkeys. -/
structure LeavesPasskeys (w w' : World) : Prop where
  passkeys : w'.passkeys = w.passkeys
  next : w'.nextPasskey = w.nextPasskey

def credentialSetting (A : PasskeyEnv) (orders : ι → RowOrder) (fails : CredentialCall → Prop) :
    Setting ι World CredentialCall (CredentialMark ι) where
  mark := credentialMark A orders
  env := LeavesPasskeys
  mayFail := fails
  admits := fun _ _ _ => True

/-- What holds of the passkeys and their history at any time. -/
structure CredentialInv (A : PasskeyEnv) (req : ι → CredentialRequest) (start : World)
    (s : CredentialSnapshot ι) : Prop where
  written : s.state.passkeys.find? = writtenPasskeys start s.marks
  orderly : PasskeysOrderly A s.state.nextPasskey s.state.passkeys.find?
  justified : AllJustified A req start s.marks
  le : start.nextPasskey ≤ s.state.nextPasskey
  given : GivenInTurn A start.nextPasskey s.state.nextPasskey
    (s.marks.filterMap CredentialMark.newId)

end Permits

namespace GivenInTurn

variable {A : PasskeyEnv} {first next next' : ℕ} {ids : List String}

theorem of_le (h : GivenInTurn A first next ids) (hnext : next ≤ next') :
    GivenInTurn A first next' ids := by
  obtain ⟨ns, rfl, hnodup, hns⟩ := h
  exact ⟨ns, rfl, hnodup, fun n hn => ⟨(hns n hn).1, (hns n hn).2.trans_le hnext⟩⟩

theorem cons (h : GivenInTurn A first next ids) (hle : first ≤ next) :
    GivenInTurn A first (next + 1) (A.cuid next :: ids) := by
  obtain ⟨ns, rfl, hnodup, hns⟩ := h
  refine ⟨next :: ns, rfl, List.nodup_cons.2 ⟨fun hmem => ?_, hnodup⟩, fun n hn => ?_⟩
  · exact Nat.lt_irrefl _ (hns next hmem).2
  · rcases List.mem_cons.1 hn with rfl | hn
    · exact ⟨hle, Nat.lt_succ_self n⟩
    · exact ⟨(hns n hn).1, (hns n hn).2.trans (Nat.lt_succ_self next)⟩

theorem nodup (h : GivenInTurn A first next ids) (hcuid : Function.Injective A.cuid) :
    ids.Nodup := by
  obtain ⟨ns, rfl, hnodup, -⟩ := h
  exact hnodup.map hcuid

/-- An id that was given out was not there at the start. -/
theorem find?_eq_none {rows : String → Option Passkey} {id : String}
    (h : GivenInTurn A first next ids) (hcuid : Function.Injective A.cuid)
    (hrows : PasskeysOrderly A first rows) (hid : id ∈ ids) : rows id = none := by
  obtain ⟨ns, rfl, -, hns⟩ := h
  obtain ⟨n, hn, rfl⟩ := List.mem_map.1 hid
  rw [Option.eq_none_iff_forall_ne_some]
  intro p hp
  obtain ⟨n', hn', heq⟩ := hrows.issued _ p hp
  exact absurd ((hns n hn).1.trans_lt (hcuid heq ▸ hn')) (Nat.lt_irrefl first)

end GivenInTurn

namespace PasskeysOrderly

variable {A : PasskeyEnv} {next next' : ℕ} {rows : String → Option Passkey}

theorem of_le (h : PasskeysOrderly A next rows) (hnext : next ≤ next') :
    PasskeysOrderly A next' rows where
  keyed := h.keyed
  issued := fun id p hp => (h.issued id p hp).imp fun _ hn => ⟨hn.1.trans_le hnext, hn.2⟩
  unique := h.unique
  named := h.named

theorem put {p : Passkey} (h : PasskeysOrderly A next rows) (hid : p.id = A.cuid next)
    (hname : NameFits p.name) (hfresh : ∀ id q, rows id = some q →
      q.id ≠ p.id ∧ q.credentialId ≠ p.credentialId) :
    PasskeysOrderly A (next + 1) ((RowEvent.put p.id p).apply rows) where
  keyed := by
    intro id q hq
    rcases RowEvent.of_apply_put hq with ⟨rfl, rfl⟩ | hq
    · rfl
    · exact h.keyed id q hq
  issued := by
    intro id q hq
    rcases RowEvent.of_apply_put hq with ⟨rfl, rfl⟩ | hq
    · exact ⟨next, Nat.lt_succ_self next, hid⟩
    · exact (h.of_le (Nat.le_succ next)).issued id q hq
  unique := by
    intro id q id' q' hq hq' hcredential
    rcases RowEvent.of_apply_put hq with ⟨hid, hrow⟩ | hold
    · rcases RowEvent.of_apply_put hq' with ⟨hid', -⟩ | hold'
      · exact hid.trans hid'.symm
      · exact absurd (hcredential.symm.trans (congrArg _ hrow)) (hfresh id' q' hold').2
    · rcases RowEvent.of_apply_put hq' with ⟨-, hrow'⟩ | hold'
      · exact absurd (hcredential.trans (congrArg _ hrow')) (hfresh id q hold).2
      · exact h.unique id q id' q' hold hold' hcredential
  named := by
    intro id q hq
    rcases RowEvent.of_apply_put hq with ⟨rfl, rfl⟩ | hq
    · exact hname
    · exact h.named id q hq

theorem change {id₀ : String} {f : Passkey → Passkey} (h : PasskeysOrderly A next rows)
    (hid : ∀ p, (f p).id = p.id) (hcredential : ∀ p, (f p).credentialId = p.credentialId)
    (hname : ∀ p, NameFits p.name → NameFits (f p).name) :
    PasskeysOrderly A next ((RowEvent.change id₀ f).apply rows) := by
  have hold : ∀ id q, (RowEvent.change id₀ f).apply rows id = some q → ∃ p, rows id = some p ∧
      q.id = p.id ∧ q.credentialId = p.credentialId ∧ NameFits q.name := by
    intro id q hq
    obtain ⟨p, hp, rfl | rfl⟩ := RowEvent.of_apply_change hq
    · exact ⟨_, hp, rfl, rfl, h.named id _ hp⟩
    · exact ⟨p, hp, hid p, hcredential p, hname p (h.named id p hp)⟩
  refine ⟨fun id q hq => ?_, fun id q hq => ?_, fun id q id' q' hq hq' heq => ?_,
    fun id q hq => ?_⟩
  · obtain ⟨p, hp, hsame, -⟩ := hold id q hq
    exact hsame.trans (h.keyed id p hp)
  · obtain ⟨p, hp, -⟩ := hold id q hq
    exact h.issued id p hp
  · obtain ⟨p, hp, -, hsame, -⟩ := hold id q hq
    obtain ⟨p', hp', -, hsame', -⟩ := hold id' q' hq'
    exact h.unique id p id' p' hp hp' (hsame.symm.trans (heq.trans hsame'))
  · obtain ⟨p, -, -, -, hnamed⟩ := hold id q hq
    exact hnamed

theorem drop {gone : Passkey → Bool} (h : PasskeysOrderly A next rows) :
    PasskeysOrderly A next ((RowEvent.drop gone).apply rows) where
  keyed := fun id p hp => h.keyed id p (RowEvent.of_apply_drop hp)
  issued := fun id p hp => h.issued id p (RowEvent.of_apply_drop hp)
  unique := fun id p id' p' hp hp' =>
    h.unique id p id' p' (RowEvent.of_apply_drop hp) (RowEvent.of_apply_drop hp')
  named := fun id p hp => h.named id p (RowEvent.of_apply_drop hp)

end PasskeysOrderly

section Step

variable {ι : Type*} {A : PasskeyEnv} {req : ι → CredentialRequest} {orders : ι → RowOrder} {i : ι}
  {l : CredentialCall} {s : CredentialSnapshot ι} {start w : World} {m : CredentialMark ι}

theorem createPasskey_spec (data : PasskeyData) (w : World) :
    (∃ e, w.createPasskey A data = (.error e, w)) ∨
      ∃ w', w.createPasskey A data = (.ok (data.row (A.cuid w.nextPasskey) w.now), w') ∧
        w.passkeys.find? (A.cuid w.nextPasskey) = none ∧ w.passkeyOf data.credentialId = none ∧
        w'.passkeys = w.passkeys.insertNew (data.row (A.cuid w.nextPasskey) w.now) ∧
        w'.nextPasskey = w.nextPasskey + 1 := by
  unfold World.createPasskey
  dsimp only
  split
  · exact .inl ⟨_, rfl⟩
  · split
    · exact .inl ⟨_, rfl⟩
    next htaken =>
      have hfree : w.passkeyOf data.credentialId = none ∧
          w.passkeys.find? (data.row (A.cuid w.nextPasskey) w.now).id = none := by
        simpa using htaken
      exact .inr ⟨_, rfl, hfree.2, hfree.1, rfl, rfl⟩

/-- The passkeys of a deleted user go. -/
theorem passkeys_deleteUser (id : ℕ) (w : World) :
    (w.delete (.user, id)).passkeys = w.passkeys.deleteMany fun p => p.userId = id := by
  change w.passkeys.deleteMany _ = _
  congr 1
  funext p
  have huser : w.goneWith (.user, id) (.user, p.userId) = decide (p.userId = id) := by
    cases hrow : w.rowOf (.user, p.userId) with
    | none => simp [World.goneWith, hrow]
    | some row => simp [World.goneWith, hrow, World.cascading_rowOf_user hrow]
  change ((none : Option EntityKey).any _ || [(Entity.user, p.userId)].any _) = _
  simp [huser]

theorem bind_map_none {α β γ : Type*} {o : Option α} {f : α → β} {g : β → Option γ}
    (h : ∀ a, g (f a) = none) : (o.map f).bind g = none := by
  cases o with
  | none => rfl
  | some a => exact h a

/-- What a call does to the passkeys is what its mark says. -/
theorem find?_effect (orders : ι → RowOrder) (hper : CredentialPermits A req i l s) :
    (l.effect A s.state).passkeys.find? = replay s.state.passkeys.find?
      ((credentialMark A orders i l s.state).bind CredentialMark.event).toList := by
  have haside : l.IsAside A →
      (credentialMark A orders i l s.state).bind CredentialMark.event = none →
      (l.effect A s.state).passkeys.find? = replay s.state.passkeys.find?
        ((credentialMark A orders i l s.state).bind CredentialMark.event).toList := by
    intro h hnone
    rw [hnone, (h s.state).1]
    rfl
  have hchange : ∀ (id : String) (f : Passkey → Passkey) (hf : ∀ p, (f p).id = p.id)
      (m : CredentialMark ι), m.event = some (.change id f) →
      (s.state.passkeys.updateMany (fun p => p.id = id) f hf).find? =
        replay s.state.passkeys.find? (((s.state.passkeys.find? id).map fun _ => m).bind
          CredentialMark.event).toList := by
    intro id f hf m hm
    rw [Table.find?_updateMany_change]
    cases hid : s.state.passkeys.find? id with
    | none =>
        exact RowEvent.apply_change_of_none hid
    | some p =>
        change _ = replay _ m.event.toList
        rw [hm]
        rfl
  cases l with
  | ceremony l =>
      cases l with
      | passkeyCreate data =>
          change (s.state.createPasskey A data).2.passkeys.find? = replay _
            (((s.state.createPasskey A data).1.toOption.map _).bind _).toList
          rcases createPasskey_spec (A := A) data s.state with
            ⟨e, hcreate⟩ | ⟨w', hcreate, hid, -, hrows, -⟩
          · rw [hcreate]
            rfl
          · rw [hcreate, hrows]
            exact Table.find?_insertNew_put hid
      | auth l =>
          cases l with
          | passkeyUpdate id newCounter backedUp =>
              exact hchange id _ (Passkey.used_id _ s.state.now) _ rfl
          | challengeConsume id => exact haside hper (bind_map_none fun _ => rfl)
          | passkeyFindUnique credentialId => exact haside hper (bind_map_none fun _ => rfl)
          | user l =>
              cases l with
              | userFindUnique id => exact haside hper (bind_map_none fun _ => rfl)
              | _ => exact haside hper rfl
          | _ => exact haside hper rfl
      | _ => exact haside hper rfl
  | passkeyRename id name => exact hchange id (Passkey.named name) (fun _ => rfl) _ rfl
  | passkeyDelete id =>
      change (s.state.passkeys.deleteMany _).find? = replay _
        (((s.state.passkeys.find? id).map _).bind _).toList
      rw [Table.find?_deleteMany_drop]
      cases hid : s.state.passkeys.find? id with
      | none =>
          refine RowEvent.apply_drop_of_forall fun id' p hp => decide_eq_false ?_
          rintro rfl
          rw [Table.key_of_find? hp, hp] at hid
          cases hid
      | some p => rfl
  | passkeyFindOwn userId => rfl
  | passkeyFindFirst id userId => rfl
  | deletion l =>
      cases l with
      | userDelete id =>
          change (if (s.state.rowOf (.user, id)).isSome then s.state.delete (.user, id)
            else s.state).passkeys.find? = replay _
              (((s.state.users.find? id).map fun _ => _).bind _).toList
          cases hid : s.state.users.find? id with
          | none =>
              rw [World.rowOf, hid]
              rfl
          | some user =>
              rw [World.rowOf, hid, Option.map_some, Option.isSome_some, if_pos rfl,
                passkeys_deleteUser, Table.find?_deleteMany_drop]
              rfl
      | _ => exact haside hper rfl

theorem nextPasskey_effect (hper : CredentialPermits A req i l s) :
    s.state.nextPasskey ≤ (l.effect A s.state).nextPasskey := by
  have haside : l.IsAside A → s.state.nextPasskey ≤ (l.effect A s.state).nextPasskey :=
    fun h => (h s.state).2.ge
  cases l with
  | ceremony l =>
      cases l with
      | passkeyCreate data =>
          change _ ≤ (s.state.createPasskey A data).2.nextPasskey
          rcases createPasskey_spec (A := A) data s.state with
            ⟨e, hcreate⟩ | ⟨w', hcreate, -, -, -, hnext⟩
          · rw [hcreate]
          · rw [hcreate, hnext]
            exact Nat.le_succ _
      | auth l =>
          cases l with
          | passkeyUpdate id newCounter backedUp => exact le_rfl
          | user l => cases l <;> exact haside hper
          | _ => exact haside hper
      | _ => exact haside hper
  | deletion l =>
      cases l with
      | userDelete id =>
          change _ ≤ (if (s.state.rowOf (.user, id)).isSome then s.state.delete (.user, id)
            else s.state).nextPasskey
          split <;> exact le_rfl
      | _ => exact haside hper
  | _ => exact le_rfl

/-- A new passkey gets the next id. -/
theorem registered_next {j : ι} {p : Passkey}
    (h : credentialMark A orders i l s.state = some (.registered j p)) :
    p.id = A.cuid s.state.nextPasskey ∧
      (l.effect A s.state).nextPasskey = s.state.nextPasskey + 1 := by
  unfold credentialMark at h
  split at h
  case h_5 data =>
    rcases createPasskey_spec (A := A) data s.state with
      ⟨e, hcreate⟩ | ⟨w', hcreate, -, -, -, hnext⟩
    · rw [hcreate] at h
      cases h
    · rw [hcreate] at h
      obtain ⟨p', hp', heq⟩ := Option.map_eq_some_iff.1 h
      cases heq
      cases hp'
      refine ⟨rfl, ?_⟩
      change (s.state.createPasskey A data).2.nextPasskey = _
      rw [hcreate, hnext]
  all_goals simp at h

theorem listsOwn_ownPasskeys (O : RowOrder) (userId : ℕ) (w : World) :
    ListsOwn w.passkeys.find? userId (w.ownPasskeys O userId) where
  sorted := (O.sorted _ (fun p q => by simpa using le_total q.createdAt p.createdAt)
    (fun p q r hpq hqr => by
      simp only [decide_eq_true_eq] at hpq hqr ⊢
      exact hqr.trans hpq) _).imp fun h => of_decide_eq_true h
  nodup := ((O.perm _ _).nodup_iff).2 ((List.Nodup.of_map _ w.passkeys.nodup).filter _)
  mem_iff := by
    intro p
    rw [World.ownPasskeys, RowOrder.mem_sort, Table.mem_findMany, decide_eq_true_eq,
      Table.find?_eq_some_iff]
    simp

/-- The mark of a permitted call is justified. -/
theorem justified_mark (hinv : CredentialInv A req start s) (hper : CredentialPermits A req i l s)
    (h : credentialMark A orders i l s.state = some m) : m.Justified A req start s.marks := by
  unfold credentialMark at h
  split at h
  · obtain ⟨c, -, rfl⟩ := Option.map_eq_some_iff.1 h
    trivial
  · obtain ⟨p, hp, rfl⟩ := Option.map_eq_some_iff.1 h
    change writtenPasskeys start s.marks p.id = some p
    rw [← hinv.written]
    exact Table.find?_of_mem (List.mem_of_find?_eq_some hp)
  · obtain ⟨owner, -, rfl⟩ := Option.map_eq_some_iff.1 h
    trivial
  · obtain ⟨p, hp, rfl⟩ := Option.map_eq_some_iff.1 h
    obtain ⟨q, hsigned, hid, hremains⟩ := hper
    exact ⟨p, q, hinv.written ▸ hp, hsigned, hid, hremains.found p hp⟩
  case h_5 data =>
    obtain ⟨hname, hregistered⟩ := hper
    rcases createPasskey_spec (A := A) data s.state with
      ⟨e, hcreate⟩ | ⟨w', hcreate, hid, hcredential, -, -⟩
    · rw [hcreate] at h
      cases h
    · rw [hcreate] at h
      obtain ⟨p, hp, rfl⟩ := Option.map_eq_some_iff.1 h
      cases hp
      refine ⟨hregistered, hname, fun id q hq => ?_⟩
      rw [← hinv.written] at hq
      refine ⟨fun heq => ?_, ?_⟩
      · have hkey : id = A.cuid s.state.nextPasskey :=
          (hinv.orderly.keyed id q hq).symm.trans heq
        rw [← hkey, hq] at hid
        cases hid
      · exact of_decide_eq_false (Bool.eq_false_iff.2
          (List.find?_eq_none.1 hcredential q (Table.mem_of_find? hq)))
  · obtain rfl := Option.some.inj h
    exact ⟨_, hper, hinv.written ▸ listsOwn_ownPasskeys (orders i) _ s.state⟩
  · obtain ⟨p, hp, rfl⟩ := Option.map_eq_some_iff.1 h
    obtain ⟨hname, userId, text, hreq, htext, hremains⟩ := hper
    obtain rfl : p.userId = userId := hremains.found p hp
    exact ⟨p, text, hinv.written ▸ hp, hname, hreq, htext⟩
  · obtain ⟨p, hp, rfl⟩ := Option.map_eq_some_iff.1 h
    obtain ⟨userId, hreq, hremains⟩ := hper
    obtain rfl : p.userId = userId := hremains.found p hp
    exact ⟨p, hinv.written ▸ hp, hreq⟩
  · obtain ⟨user, -, rfl⟩ := Option.map_eq_some_iff.1 h
    exact hper
  · cases h

/-- The passkeys stay in order when a call does what it may. -/
theorem orderly_effect (hinv : CredentialInv A req start s) (hper : CredentialPermits A req i l s) :
    PasskeysOrderly A (l.effect A s.state).nextPasskey (l.effect A s.state).passkeys.find? := by
  have hnext := nextPasskey_effect hper
  rw [find?_effect (fun _ => RowOrder.insertion) hper]
  generalize hmark : credentialMark A (fun _ => RowOrder.insertion) i l s.state = mark
  have hkept := hinv.orderly.of_le hnext
  cases mark with
  | none => exact hkept
  | some m =>
      have hjust := justified_mark hinv hper hmark
      cases m with
      | registered j p =>
          obtain ⟨hid, hlast⟩ := registered_next hmark
          rw [hlast]
          exact hinv.orderly.put hid hjust.2.1 fun id q hq => hjust.2.2 id q (hinv.written ▸ hq)
      | used j id info now =>
          exact hkept.change (fun _ => rfl) (fun _ => rfl) fun _ h => h
      | renamed j id name =>
          obtain ⟨p, text, -, hname, -⟩ := hjust
          exact hkept.change (fun _ => rfl) (fun _ => rfl) fun _ _ => hname
      | removed j id => exact hkept.drop
      | userDeleted j userId => exact hkept.drop
      | _ => exact hkept

theorem writtenPasskeys_append (start : World) (new : Option (CredentialMark ι))
    (marks : List (CredentialMark ι)) : writtenPasskeys start (new.toList ++ marks) =
      replay (writtenPasskeys start marks) (new.bind CredentialMark.event).toList := by
  unfold writtenPasskeys
  rw [List.filterMap_append, replay_append]
  cases new with
  | none => rfl
  | some m => cases hm : m.event <;> simp [hm]

/-- A passkey that is registered gets an id that was not given out before. -/
theorem given_append (hinv : CredentialInv A req start s) (hper : CredentialPermits A req i l s) :
    GivenInTurn A start.nextPasskey (l.effect A s.state).nextPasskey
      (((credentialMark A orders i l s.state).toList ++ s.marks).filterMap
        CredentialMark.newId) := by
  have hkept := hinv.given.of_le (nextPasskey_effect hper)
  cases hmark : credentialMark A orders i l s.state with
  | none => exact hkept
  | some m =>
      cases m with
      | registered j p =>
          obtain ⟨hid, hnext⟩ := registered_next hmark
          rw [hnext]
          change GivenInTurn A _ _ (p.id :: s.marks.filterMap CredentialMark.newId)
          rw [hid]
          exact hinv.given.cons hinv.le
      | _ => exact hkept

theorem CredentialInv.call (hinv : CredentialInv A req start s)
    (hper : CredentialPermits A req i l s) :
    CredentialInv A req start (s.after (credentialMark A orders) i l (l.effect A)) where
  written := by
    change (l.effect A s.state).passkeys.find? = writtenPasskeys start
      ((credentialMark A orders i l s.state).toList ++ s.marks)
    rw [writtenPasskeys_append, ← hinv.written, find?_effect orders hper]
  orderly := orderly_effect hinv hper
  justified := by
    change AllJustified A req start ((credentialMark A orders i l s.state).toList ++ s.marks)
    cases hmark : credentialMark A orders i l s.state with
    | none => exact hinv.justified
    | some m => exact ⟨justified_mark hinv hper hmark, hinv.justified⟩
  le := hinv.le.trans (nextPasskey_effect hper)
  given := given_append hinv hper

theorem CredentialInv.env {w' : World} {marks : List (CredentialMark ι)}
    (henv : LeavesPasskeys w w') (hinv : CredentialInv A req start ⟨w, marks⟩) :
    CredentialInv A req start ⟨w', marks⟩ where
  written := henv.passkeys ▸ hinv.written
  orderly := henv.passkeys ▸ henv.next ▸ hinv.orderly
  justified := hinv.justified
  le := henv.next ▸ hinv.le
  given := henv.next ▸ hinv.given

/-- What is true of the passkey with an id, and of every passkey with its credential. -/
theorem Remains.effect {C : Passkey → Prop} {id : String} (hcuid : Function.Injective A.cuid)
    (hC : ∀ p q : Passkey, q.SameCredential p → C p → C q) (hper : CredentialPermits A req i l s)
    (h : Remains A id C s.state) :
    Remains A id C (l.effect A s.state) where
  issued := h.issued.imp fun n hn => ⟨hn.1.trans_le (nextPasskey_effect hper), hn.2⟩
  found := by
    intro p hp
    rw [find?_effect (fun _ => RowOrder.insertion) hper] at hp
    generalize hmark : credentialMark A (fun _ => RowOrder.insertion) i l s.state = mark at hp
    cases mark with
    | none => exact h.found p hp
    | some m =>
        cases m with
        | registered j q =>
            rcases RowEvent.of_apply_put hp with ⟨hid, -⟩ | hp
            · obtain ⟨n, hn, hissued⟩ := h.issued
              have heq := hcuid ((hissued.symm.trans hid).trans (registered_next hmark).1)
              exact absurd heq hn.ne
            · exact h.found p hp
        | used j id' info now =>
            obtain ⟨q, hq, rfl | rfl⟩ := RowEvent.of_apply_change hp
            · exact h.found _ hq
            · exact hC q _ ⟨rfl, rfl, rfl⟩ (h.found q hq)
        | renamed j id' name =>
            obtain ⟨q, hq, rfl | rfl⟩ := RowEvent.of_apply_change hp
            · exact h.found _ hq
            · exact hC q _ ⟨rfl, rfl, rfl⟩ (h.found q hq)
        | removed j id' => exact h.found p (RowEvent.of_apply_drop hp)
        | userDeleted j userId => exact h.found p (RowEvent.of_apply_drop hp)
        | _ => exact h.found p hp

def credentialProtocol (A : PasskeyEnv) (orders : ι → RowOrder) (req : ι → CredentialRequest)
    (start : World) (fails : CredentialCall → Prop) :
    Protocol (credentialSetting A orders fails) where
  effect := CredentialCall.effect A
  permits := CredentialPermits A req
  inv := CredentialInv A req start
  inv_call := fun hinv hper _ => hinv.call hper
  inv_env := fun henv hinv => hinv.env henv

end Step

end FifiAlert
