import FifiAlert.Auth.PasskeyChallenge
import FifiAlert.Auth.PasskeyOwners

/-!
# Answers on passkeys

What a request on the passkeys answers is what its own calls found and did.
-/

namespace FifiAlert

open Concurrency Store PasskeyService

section Answers

variable {ι : Type*} {marks marks' : List (CredentialMark ι)} {A : PasskeyEnv} {start : World}
  {i : ι}

/-- A call of the history, with what was written before it. -/
def AtMark (start : World) (marks : List (CredentialMark ι))
    (Q : CredentialMark ι → (String → Option Passkey) → Prop) : Prop :=
  ∃ newer m older, marks = newer ++ m :: older ∧ Q m (writtenPasskeys start older)

/-- What the answer to a request says of its calls. -/
def CredentialAnswer.Shows (A : PasskeyEnv) (start : World) (request : CredentialRequest) (i : ι)
    (marks : List (CredentialMark ι)) : CredentialAnswer → Prop
  | ceremony (.options _) => True
  | ceremony (.registered dto) => ∃ p, .registered i p ∈ marks ∧ dto = toPasskeyDto A p
  | ceremony (.loggedIn userId) => AtMark start marks fun m rows =>
      ∃ id info now p, m = .used i id info now ∧ rows id = some p ∧ p.userId = userId
  | listed dtos => ∃ passkeys, .listed i passkeys ∈ marks ∧ dtos = passkeys.map (toPasskeyDto A)
  | renamed dto => AtMark start marks fun m rows =>
      ∃ id name p, m = .renamed i id name ∧ rows id = some p ∧ dto = toPasskeyDto A (p.named name)
  | done => (∀ userId id, request = .remove userId id → .removed i id ∈ marks) ∧
      ∀ userId, request = .deleteUser userId → .userDeleted i userId ∈ marks

theorem AtMark.mono {Q : CredentialMark ι → (String → Option Passkey) → Prop}
    (h : AtMark start marks Q) (new : List (CredentialMark ι)) : AtMark start (new ++ marks) Q := by
  obtain ⟨newer, m, older, rfl, hQ⟩ := h
  exact ⟨new ++ newer, m, older, (List.append_assoc ..).symm, hQ⟩

theorem AtMark.after {Q : CredentialMark ι → (String → Option Passkey) → Prop}
    {orders : ι → RowOrder} {l : CredentialCall} {next : World → World}
    {s : CredentialSnapshot ι} {m : CredentialMark ι}
    (hmark : credentialMark A orders i l s.state = some m)
    (h : Q m (writtenPasskeys start s.marks)) :
    AtMark start (s.after (credentialMark A orders) i l next).marks Q := by
  change AtMark start ((credentialMark A orders i l s.state).toList ++ s.marks) Q
  rw [hmark]
  exact ⟨[], m, s.marks, rfl, h⟩

end Answers

section Threads

variable {ι : Type*} {A : PasskeyEnv} {orders : ι → RowOrder} {req : ι → CredentialRequest}
  {start : World} {fails : CredentialCall → Prop} {i : ι} {l : CredentialCall}
  {s : CredentialSnapshot ι} {hcuid : Function.Injective A.cuid}

/-- What more history does not take away. -/
theorem lasting_history {Q : List (CredentialMark ι) → Prop}
    (hQ : ∀ marks new, Q marks → Q (new ++ marks)) :
    (credentialProtocol A orders req start fails).Lasting i (fun _ => false) fun s => Q s.marks :=
  .of_kept (fun _ _ s _ _ _ h => hQ s.marks _ h) fun _ _ _ _ _ h => h

theorem lasting_atMark (Q : CredentialMark ι → (String → Option Passkey) → Prop) :
    (credentialProtocol A orders req start fails).Lasting i (fun _ => false)
      fun s => AtMark start s.marks Q :=
  lasting_history (Q := fun marks => AtMark start marks Q) fun _ new h => h.mono new

theorem lasting_attested (input : PasskeyRegisterDto) (userId : ℕ) (info : RegistrationInfo) :
    (credentialProtocol A orders req start fails).Lasting i (fun _ => false)
      fun s => Attested A i input userId info s.marks :=
  lasting_history fun _ _ ⟨c, v, hmem, h⟩ => ⟨c, v, List.mem_append_right _ hmem, h⟩

theorem lasting_asserted (input : PasskeyLoginVerifyDto) (p : Passkey)
    (info : VerifiedAuthenticationResponse) :
    (credentialProtocol A orders req start fails).Lasting i (fun _ => false)
      fun s => Asserted A i input p info s.marks :=
  lasting_history fun _ _ ⟨c, hmem, htype, hread, h⟩ =>
    ⟨c, List.mem_append_right _ hmem, htype, List.mem_append_right _ hread, h⟩

theorem lasting_remains {C : Passkey → Prop} {id : String} (hcuid : Function.Injective A.cuid)
    (hC : ∀ p q : Passkey, q.SameCredential p → C p → C q) :
    (credentialProtocol A orders req start fails).Lasting i (fun _ => false)
      fun s => Remains A id C s.state :=
  .of_kept (fun _ _ _ _ hper _ h => h.effect hcuid hC hper) fun _ _ _ _ henv h =>
    ⟨henv.next ▸ h.issued, fun p hp => h.found p (henv.passkeys ▸ hp)⟩

/-- A passkey that was found keeps its user and its key. -/
theorem remains_of_found {w : World} {p : Passkey} {C : Passkey → Prop}
    (h : PasskeysOrderly A w.nextPasskey w.passkeys.find?) (hp : w.passkeys.find? p.id = some p)
    (hC : C p) : Remains A p.id C w where
  issued := h.issued p.id p hp
  found := fun _ hq => Option.some.inj (hp.symm.trans hq) ▸ hC

/-- The calls that leave the passkeys alone. -/
def AsideCall (A : PasskeyEnv) (req : ι → CredentialRequest) (i : ι) (l : CredentialCall)
    (next : World → World) : Prop :=
  next = l.effect A ∧ ∀ s, CredentialPermits A req i l s

theorem startRegistration_aside (userId : ℕ) :
    ((startRegistration A userId).relabel CredentialCall.ceremony).Confined (AsideCall A req i)
      fun _ => True := by
  refine Process.Confined.relabel ?_
  unfold startRegistration
  split
  · trivial
  refine (Process.confined_query ⟨rfl, fun _ _ => ⟨rfl, rfl⟩⟩ trivial).bind fun user => ?_
  cases user with
  | none => trivial
  | some user =>
      refine (Process.confined_query ⟨rfl, fun _ _ => ⟨rfl, rfl⟩⟩ trivial).bind fun existing => ?_
      refine (Process.confined_modify ⟨rfl, fun _ _ => ⟨rfl, rfl⟩⟩ trivial).bind fun bytes => ?_
      exact (Process.confined_modify ⟨rfl, fun _ _ => ⟨rfl, rfl⟩⟩ trivial).bind fun _ => trivial

theorem startLogin_aside :
    ((startLogin A).relabel CredentialCall.ceremony).Confined (AsideCall A req i)
      fun _ => True := by
  refine Process.Confined.relabel ?_
  unfold startLogin
  split
  · trivial
  refine (Process.confined_modify ⟨rfl, fun _ _ => ⟨rfl, rfl⟩⟩ trivial).bind fun bytes => ?_
  exact (Process.confined_modify ⟨rfl, fun _ _ => ⟨rfl, rfl⟩⟩ trivial).bind fun _ => trivial

end Threads

section Ceremonies

variable {ι : Type*} {A : PasskeyEnv} {orders : ι → RowOrder} {req : ι → CredentialRequest}
  {start : World} {fails : CredentialCall → Prop} {i : ι} {s : CredentialSnapshot ι}

/-- The challenge that a finish call gets is one that the thread took. -/
theorem safe_consume_bind {β : Type} {Q : β → CredentialSnapshot ι → Prop} {challengeId : String}
    {k : Option StoredPasskeyChallenge → CredentialProcess β}
    (hk : ∀ stored s', (∀ c, stored = some c → .consumed i c ∈ s'.marks) →
      Safe (credentialProtocol A orders req start fails).contract i (OnReturn Q) (k stored) s') :
    Safe (credentialProtocol A orders req start fails).contract i (OnReturn Q)
      (((consume challengeId).relabel PasskeyCall.auth).relabel CredentialCall.ceremony >>= k)
      s := by
  unfold consume
  split
  · exact hk none s fun c h => absurd h (Option.some_ne_none c).symm
  · refine Protocol.Lasting.nothing.modify_bind trivial rfl (fun _ _ => ⟨rfl, rfl⟩)
      fun s₁ _ _ => hk _ _ fun c hc => Snapshot.mem_after.2 (.inl ?_)
    change (s₁.state.challenge challengeId).map _ = _
    rw [hc]
    rfl

theorem nameFits_of_chars {cs : List Char} (hne : cs ≠ [])
    (hle : Js.utf16Length cs ≤ PASSKEY_NAME_MAX_LENGTH) : NameFits (String.ofList cs) := by
  refine ⟨fun h => hne ?_, by rwa [String.toList_ofList]⟩
  rw [← String.toList_ofList (l := cs), h]
  rfl

theorem nameFits_default (date : String) :
    NameFits ("Passkey " ++ String.ofList (date.toList.take 10)) := by
  have hchars : "Passkey " ++ String.ofList (date.toList.take 10) =
      String.ofList ("Passkey ".toList ++ date.toList.take 10) := by
    rw [String.ofList_append, String.ofList_toList]
  rw [hchars]
  refine nameFits_of_chars (by simp) ?_
  have hle := Js.utf16Length_le (date.toList.take 10)
  have hten := List.length_take_le 10 date.toList
  have hprefix : Js.utf16Length "Passkey ".toList = 8 := by decide
  rw [Js.utf16Length_append, hprefix, PASSKEY_NAME_MAX_LENGTH]
  omega

theorem safe_normalisePasskeyName {input : PasskeyRegisterDto} {userId : ℕ}
    {info : RegistrationInfo} (hs : Attested A i input userId info s.marks)
    (name : Option String) :
    Safe (credentialProtocol A orders req start fails).contract i
      (OnReturn fun name s => NameFits name ∧ Attested A i input userId info s.marks)
      ((normalisePasskeyName A name).relabel CredentialCall.ceremony) s := by
  have hJ : (credentialProtocol A orders req start fails).Lasting i (fun _ => false)
      fun s => Attested A i input userId info s.marks := lasting_attested input userId info
  unfold normalisePasskeyName
  dsimp only
  split
  next hne =>
    exact hJ.ret hs fun _ _ h =>
      ⟨nameFits_of_chars (Js.utf16Take_ne_nil (by decide) hne) (Js.utf16Length_take_le _ _), h⟩
  next =>
    rw [Process.relabel_bind]
    exact hJ.kept_bind hs rfl (fun _ _ => ⟨rfl, rfl⟩) fun s₁ _ _ hafter =>
      hJ.ret hafter fun _ _ h => ⟨nameFits_default _, h⟩

/-- A passkey is in the history when it is there. -/
theorem safe_insertCredential {input : PasskeyRegisterDto} {userId : ℕ} {info : RegistrationInfo}
    (hreq : req i = .ceremony (.finishRegistration userId input))
    (hs : Attested A i input userId info s.marks) :
    Safe (credentialProtocol A orders req start fails).contract i
      (OnReturn fun dto s => ∃ p, .registered i p ∈ s.marks ∧ dto = toPasskeyDto A p)
      ((insertCredential A userId input info).relabel CredentialCall.ceremony) s := by
  unfold insertCredential
  rw [Process.relabel_tryCatch]
  refine Protocol.safe_onReturn_tryCatch ?_ fun e s' => ?_
  · split
    next => exact Protocol.safe_onReturn_raise
    next transports _ =>
      rw [Process.relabel_bind]
      refine Protocol.safe_onReturn_bind (safe_normalisePasskeyName hs input.name)
        fun name s₁ _ h₁ => ?_
      rw [Process.relabel_bind, Process.relabel_atomic]
      refine Protocol.safe_onReturn_bind ((lasting_attested input userId info).atomic h₁.2 rfl
        (fun s₂ _ _ h₂ => ⟨h₁.1, input, info, hreq, h₂, rfl, rfl⟩)
        (fun p => .marked (.registered i p)) fun p s₂ _ _ hp => Snapshot.mem_after.2 (.inl ?_))
        fun p s₂ _ h₂ => (Protocol.Lasting.marked _).ret h₂ fun _ _ h => ⟨p, h, rfl⟩
      change (World.createPasskey A _ s₂.state).1.toOption.map _ = _
      rw [hp]
      rfl
  · split <;> exact Protocol.safe_onReturn_raise

theorem safe_registerCredential {input : PasskeyRegisterDto} {userId : ℕ}
    {info : Option RegistrationInfo} (hreq : req i = .ceremony (.finishRegistration userId input))
    (hs : ∀ found, info = some found → Attested A i input userId found s.marks) :
    Safe (credentialProtocol A orders req start fails).contract i
      (OnReturn fun dto s => ∃ p, .registered i p ∈ s.marks ∧ dto = toPasskeyDto A p)
      ((registerCredential A userId input info).relabel CredentialCall.ceremony) s := by
  cases info with
  | none => exact Protocol.safe_onReturn_raise
  | some info =>
      unfold registerCredential
      rw [Process.relabel_bind]
      refine (lasting_attested input userId info).kept_bind (hs info rfl) rfl
        (fun _ _ => ⟨rfl, rfl⟩) fun s₁ _ _ hafter => ?_
      split
      · exact Protocol.safe_onReturn_raise
      · exact safe_insertCredential hreq hafter

theorem safe_registration {input : PasskeyRegisterDto} {userId : ℕ}
    (hreq : req i = .ceremony (.finishRegistration userId input)) :
    Safe (credentialProtocol A orders req start fails).contract i
      (OnReturn fun dto s => ∃ p, .registered i p ∈ s.marks ∧ dto = toPasskeyDto A p)
      ((finishRegistration A userId input).relabel CredentialCall.ceremony) s := by
  unfold finishRegistration
  split
  · exact Protocol.safe_onReturn_raise
  rw [Process.relabel_bind]
  refine safe_consume_bind fun stored s₁ hstored => ?_
  unfold answerRegistration
  split
  · exact Protocol.safe_onReturn_raise
  next c hc =>
    obtain ⟨rfl, hissued⟩ := Option.filter_eq_some_iff.1 hc
    obtain ⟨htype, huser⟩ : c.type = .register ∧ c.userId = some userId := by
      simpa using hissued
    split
    · exact Protocol.safe_onReturn_raise
    next verification hverification =>
      refine safe_registerCredential hreq fun found hfound => ?_
      split at hfound
      next hverified =>
        exact ⟨c, verification, hstored c rfl, htype, huser, hverification, hverified, hfound⟩
      next => cases hfound

/-- What a login knows when it writes. -/
def Signs (A : PasskeyEnv) (i : ι) (input : PasskeyLoginVerifyDto) (q : Passkey)
    (info : VerifiedAuthenticationResponse) (s : CredentialSnapshot ι) : Prop :=
  Asserted A i input q info s.marks ∧ Remains A q.id q.SameCredential s.state

theorem lasting_signs (hcuid : Function.Injective A.cuid) (input : PasskeyLoginVerifyDto)
    (q : Passkey) (info : VerifiedAuthenticationResponse) :
    (credentialProtocol A orders req start fails).Lasting i (fun _ => false)
      (Signs A i input q info) :=
  (lasting_asserted input q info).and (lasting_remains hcuid fun _ _ hsame h =>
    ⟨h.userId.trans hsame.userId.symm, h.credentialId.trans hsame.credentialId.symm,
      h.publicKey.trans hsame.publicKey.symm⟩)

/-- The user that a login answers is the one of the passkey that it has used. -/
def LoggedIn (start : World) (i : ι) (userId : ℕ) (s : CredentialSnapshot ι) : Prop :=
  AtMark start s.marks fun m rows =>
    ∃ id info now p, m = .used i id info now ∧ rows id = some p ∧ p.userId = userId

theorem safe_recordUse_credential {input : PasskeyLoginVerifyDto} {q : Passkey} {owner : User}
    {info : VerifiedAuthenticationResponse} (hcuid : Function.Injective A.cuid)
    (hreq : req i = .ceremony (.finishLogin input)) (hs : Signs A i input q info s)
    (howner : .foundOwner i owner ∈ s.marks) (hid : owner.id = q.userId)
    (hverified : owner.emailVerified = true) :
    Safe (credentialProtocol A orders req start fails).contract i
      (OnReturn fun _ s => LoggedIn start i q.userId s)
      (((recordUse q info).relabel PasskeyCall.auth).relabel CredentialCall.ceremony) s := by
  unfold recordUse
  rw [Process.relabel_atomic, Process.relabel_atomic]
  have hinfo : info = ⟨true, info.newCounter, info.credentialBackedUp⟩ := by
    obtain ⟨c, -, -, -, -, h⟩ := hs.1
    rw [← h]
  refine ((lasting_signs hcuid input q info).and (.marked (.foundOwner i owner))).atomic
    ⟨hs, howner⟩ ?_ (fun s₁ _ _ h₁ => ?_) (fun _ => lasting_atMark _)
    fun u s₁ hinv h₁ hu => ?_
  · funext w
    change { w with passkeys := _ } = { w with passkeys := _ }
    rw [hinfo]
  · exact ⟨q, ⟨input, owner, hreq, hinfo ▸ h₁.1.1, h₁.2, hid, hverified⟩, rfl, h₁.1.2⟩
  · cases hrow : s₁.state.passkeys.find? q.id with
    | none =>
        rw [hrow] at hu
        cases hu
    | some p =>
        have hmark : credentialMark A orders i (.ceremony (.auth (.passkeyUpdate q.id
            info.newCounter info.credentialBackedUp))) s₁.state =
              some (.used i q.id info s₁.state.now) := by
          change (s₁.state.passkeys.find? q.id).map _ = _
          rw [hrow, Option.map_some, ← hinfo]
        exact AtMark.after hmark ⟨q.id, info, s₁.state.now, p, rfl,
          hinv.written ▸ hrow, (h₁.1.2.found p hrow).userId.symm⟩

/-- A login past the signature. -/
theorem safe_signedLogin {input : PasskeyLoginVerifyDto} {q : Passkey}
    {info : VerifiedAuthenticationResponse} (hcuid : Function.Injective A.cuid)
    (hreq : req i = .ceremony (.finishLogin input)) (hs : Signs A i input q info s) :
    Safe (credentialProtocol A orders req start fails).contract i (OnReturn (LoggedIn start i))
      (((do
        let owner ← Process.query (.user (.userFindUnique q.userId)) (.prisma .other)
          fun w => w.users.find? q.userId
        acceptOwner q info owner : AuthProcess ℕ).relabel PasskeyCall.auth).relabel
          CredentialCall.ceremony) s := by
  rw [Process.relabel_bind, Process.relabel_bind]
  refine (lasting_signs hcuid input q info).kept_bind hs rfl (fun _ _ => ⟨rfl, rfl⟩)
    fun s₁ _ _ hafter => ?_
  cases howner : s₁.state.users.find? q.userId with
  | none => exact Protocol.safe_onReturn_raise
  | some owner =>
      have hfound : CredentialMark.foundOwner i owner ∈ (s₁.after (credentialMark A orders) i
          (.ceremony (.auth (.user (.userFindUnique q.userId)))) (CredentialCall.effect A
            (.ceremony (.auth (.user (.userFindUnique q.userId)))))).marks := by
        refine Snapshot.mem_after.2 (.inl ?_)
        change (s₁.state.users.find? q.userId).map _ = _
        rw [howner]
        rfl
      unfold acceptOwner
      dsimp only
      split
      · exact Protocol.safe_onReturn_raise
      next hverified =>
        rw [Process.relabel_bind, Process.relabel_bind]
        refine Protocol.safe_onReturn_bind (safe_recordUse_credential hcuid hreq hafter hfound
          (Table.key_of_find? howner) (by simpa using hverified)) fun _ s₂ _ h₂ => ?_
        exact (lasting_atMark _).ret h₂ fun _ _ h => h

theorem safe_login {input : PasskeyLoginVerifyDto} (hcuid : Function.Injective A.cuid)
    (hreq : req i = .ceremony (.finishLogin input)) :
    Safe (credentialProtocol A orders req start fails).contract i (OnReturn (LoggedIn start i))
      (((finishLogin A.toLoginEnv input).relabel PasskeyCall.auth).relabel
        CredentialCall.ceremony) s := by
  unfold finishLogin
  split
  · exact Protocol.safe_onReturn_raise
  rw [Process.relabel_bind, Process.relabel_bind]
  refine safe_consume_bind fun stored s₁ hstored => ?_
  cases stored with
  | none => exact Protocol.safe_onReturn_raise
  | some c =>
      unfold answerChallenge
      dsimp only
      split
      · exact Protocol.safe_onReturn_raise
      next htype =>
        split
        · exact Protocol.safe_onReturn_raise
        next credential _ =>
          rw [Process.relabel_bind, Process.relabel_bind]
          refine Protocol.Lasting.kept_bind (.marked (.consumed i c)) (hstored c rfl) rfl
            (fun _ _ => ⟨rfl, rfl⟩) fun s₂ hinv _ hafter => ?_
          cases hread : s₂.state.passkeyOf credential with
          | none => exact Protocol.safe_onReturn_raise
          | some q =>
              unfold acceptAssertion
              dsimp only
              split
              · exact Protocol.safe_onReturn_raise
              next info hinfo =>
                split
                · exact Protocol.safe_onReturn_raise
                next hverified =>
                  have hrow := Table.find?_of_mem (List.mem_of_find?_eq_some hread)
                  refine safe_signedLogin hcuid hreq ⟨⟨c, hafter, not_not.1 htype,
                    Snapshot.mem_after.2 (.inl ?_), hinfo, by simpa using hverified⟩,
                    remains_of_found hinv.orderly hrow ⟨rfl, rfl, rfl⟩⟩
                  change (s₂.state.passkeyOf credential).map _ = _
                  rw [hread]
                  rfl

end Ceremonies

section Management

variable {ι : Type*} {A : PasskeyEnv} {orders : ι → RowOrder} {req : ι → CredentialRequest}
  {start : World} {fails : CredentialCall → Prop} {i : ι} {s : CredentialSnapshot ι}

theorem safe_listPasskeys {userId : ℕ} (hreq : req i = .list userId) :
    Safe (credentialProtocol A orders req start fails).contract i
      (OnReturn fun dtos s => ∃ passkeys, .listed i passkeys ∈ s.marks ∧
        dtos = passkeys.map (toPasskeyDto A)) (list A (orders i) userId) s :=
  Protocol.Lasting.nothing.query_bind trivial rfl (fun _ => hreq) fun s₁ _ _ =>
    (Protocol.Lasting.marked (.listed i (s₁.state.ownPasskeys (orders i) userId))).ret
      (Snapshot.mem_after.2 (.inl rfl)) fun _ _ h => ⟨_, h, rfl⟩

theorem lasting_ownedBy (hcuid : Function.Injective A.cuid) (userId : ℕ) (id : String) :
    (credentialProtocol A orders req start fails).Lasting i (fun _ => false)
      fun s => Remains A id (fun p => p.userId = userId) s.state :=
  lasting_remains hcuid fun _ _ hsame h => hsame.userId.trans h

/-- The passkey with the id is the user's. -/
theorem safe_findOwnedPasskey (hcuid : Function.Injective A.cuid) (userId : ℕ) (id : String) :
    Safe (credentialProtocol A orders req start fails).contract i
      (OnReturn fun p s => p.id = id ∧ Remains A id (fun p => p.userId = userId) s.state)
      (findOwned userId id) s := by
  refine Protocol.Lasting.nothing.query_bind trivial rfl (fun _ _ => ⟨rfl, rfl⟩)
    fun s₁ hinv _ => ?_
  cases hfound : (s₁.state.passkeys.find? id).filter fun p => p.userId = userId with
  | none => exact Protocol.safe_onReturn_raise
  | some p =>
      obtain ⟨hp, huser⟩ := Option.filter_eq_some_iff.1 hfound
      obtain rfl : p.id = id := Table.key_of_find? hp
      refine (lasting_ownedBy hcuid userId p.id).ret ?_ fun _ _ h => ⟨rfl, h⟩
      exact remains_of_found hinv.orderly hp (of_decide_eq_true huser)

theorem safe_rename {userId : ℕ} {id name : String} (hcuid : Function.Injective A.cuid)
    (hreq : req i = .rename userId id name) :
    Safe (credentialProtocol A orders req start fails).contract i
      (OnReturn fun dto s => AtMark start s.marks fun m rows => ∃ id name p,
        m = .renamed i id name ∧ rows id = some p ∧ dto = toPasskeyDto A (p.named name))
      (rename A userId id name) s := by
  unfold rename
  dsimp only
  split
  · exact Protocol.safe_onReturn_raise
  next hname =>
    obtain ⟨hne, hle⟩ := not_or.1 hname
    refine Protocol.safe_onReturn_bind (safe_findOwnedPasskey hcuid userId id)
      fun existing s₁ _ h₁ => ?_
    obtain ⟨rfl, hremains⟩ := h₁
    generalize htext : String.ofList (Js.trim name.toList) = text
    have hfits : NameFits text := htext ▸ nameFits_of_chars hne (Nat.le_of_not_lt hle)
    refine Protocol.safe_onReturn_bind ((lasting_ownedBy hcuid userId existing.id).atomic hremains
      rfl (fun s₂ _ _ h₂ => ⟨hfits, userId, name, hreq, htext.symm, h₂⟩)
      (fun row => lasting_atMark fun m rows => ∃ id name p, m = .renamed i id name ∧
        rows id = some p ∧ row = p.named name) fun row s₂ hinv _ hrow => ?_)
      fun row s₂ _ h₂ => (lasting_atMark _).ret h₂ fun _ _ h => ?_
    · cases hp : s₂.state.passkeys.find? existing.id with
      | none =>
          rw [hp] at hrow
          cases hrow
      | some p =>
          rw [hp] at hrow
          cases hrow
          refine AtMark.after (m := .renamed i existing.id text) ?_
            ⟨existing.id, text, p, rfl, hinv.written ▸ hp, rfl⟩
          change (s₂.state.passkeys.find? existing.id).map _ = _
          rw [hp]
          rfl
    · obtain ⟨newer, m, older, hmarks, id, name, p, hm, hp, rfl⟩ := h
      exact ⟨newer, m, older, hmarks, id, name, p, hm, hp, rfl⟩

theorem safe_removePasskey {userId : ℕ} {id : String} (hcuid : Function.Injective A.cuid)
    (hreq : req i = .remove userId id) :
    Safe (credentialProtocol A orders req start fails).contract i
      (OnReturn fun _ s => .removed i id ∈ s.marks) (remove A userId id) s := by
  refine Protocol.safe_onReturn_bind (safe_findOwnedPasskey hcuid userId id)
    fun existing s₁ _ h₁ => ?_
  obtain ⟨rfl, hremains⟩ := h₁
  refine (lasting_ownedBy hcuid userId existing.id).atomic hremains rfl
    (fun s₂ _ _ h₂ => ⟨userId, hreq, h₂⟩) (fun _ => .marked _) fun _ s₂ _ _ hrow => ?_
  refine Snapshot.mem_after.2 (.inl ?_)
  change (s₂.state.passkeys.find? existing.id).map _ = _
  cases hp : s₂.state.passkeys.find? existing.id with
  | none =>
      rw [hp] at hrow
      cases hrow
  | some p => rfl

theorem safe_deleteAccount {userId : ℕ} (hreq : req i = .deleteUser userId) :
    Safe (credentialProtocol A orders req start fails).contract i
      (OnReturn fun _ s => .userDeleted i userId ∈ s.marks)
      ((UserService.delete userId).relabel CredentialCall.deletion) s := by
  unfold UserService.delete
  rw [Process.relabel_bind]
  refine Protocol.Lasting.nothing.query_bind trivial rfl (fun _ _ => ⟨rfl, rfl⟩)
    fun s₁ _ _ => ?_
  split
  · exact Protocol.safe_onReturn_raise
  · rw [DeletionCall.deleteRow, Process.relabel_atomic]
    refine Protocol.Lasting.nothing.atomic trivial rfl (fun _ _ _ _ => hreq) (fun _ => .marked _)
      fun user s₂ _ _ huser => Snapshot.mem_after.2 (.inl ?_)
    change (s₂.state.users.find? userId).map _ = _
    cases hrow : s₂.state.users.find? userId with
    | none =>
        rw [hrow] at huser
        cases huser
    | some user => rfl

end Management

section Runs

variable {ι : Type*} {A : PasskeyEnv} {orders : ι → RowOrder} {req : ι → CredentialRequest}
  {start : World} {fails : CredentialCall → Prop} {i : ι} {s : CredentialSnapshot ι}

theorem safe_aside {α : Type} {p : CredentialProcess α}
    (hp : p.Confined (AsideCall A req i) fun _ => True) :
    Safe (credentialProtocol A orders req start fails).contract i (OnReturn fun _ _ => True) p
      s := by
  refine Safe.mono (Protocol.safe_of_permitted (J := fun _ => True) hp
    (fun _ _ _ _ _ _ _ => trivial) (fun _ _ _ _ _ _ => trivial) trivial) fun r s' _ _ => ?_
  cases r <;> trivial

theorem safe_credentialRequest (hcuid : Function.Injective A.cuid) :
    Safe (credentialProtocol A orders req start fails).contract i
      (OnReturn fun answer s => answer.Shows A start (req i) i s.marks)
      ((req i).process A (orders i)) s := by
  cases hreq : req i with
  | ceremony request =>
      refine Protocol.safe_onReturn_map (R := fun answer s =>
        (CredentialAnswer.ceremony answer).Shows A start (.ceremony request) i s.marks) ?_
        fun _ _ h => h
      cases request with
      | startRegistration userId =>
          rw [PasskeyRequest.process, Process.relabel_map]
          exact Protocol.safe_onReturn_map (safe_aside (startRegistration_aside userId))
            fun _ _ _ => trivial
      | startLogin =>
          rw [PasskeyRequest.process, Process.relabel_map]
          exact Protocol.safe_onReturn_map (safe_aside startLogin_aside) fun _ _ _ => trivial
      | finishRegistration userId input =>
          rw [PasskeyRequest.process, Process.relabel_map]
          exact Protocol.safe_onReturn_map (safe_registration hreq) fun _ _ h => h
      | finishLogin input =>
          rw [PasskeyRequest.process, Process.relabel_map]
          exact Protocol.safe_onReturn_map (safe_login hcuid hreq) fun _ _ h => h
  | list userId => exact Protocol.safe_onReturn_map (safe_listPasskeys hreq) fun _ _ h => h
  | rename userId id name =>
      exact Protocol.safe_onReturn_map (safe_rename hcuid hreq) fun _ _ h => h
  | remove userId id =>
      refine Protocol.safe_onReturn_map (safe_removePasskey hcuid hreq) fun _ _ h =>
        ⟨fun _ _ heq => ?_, nofun⟩
      cases heq
      exact h
  | deleteUser userId =>
      refine Protocol.safe_onReturn_map (safe_deleteAccount hreq) fun _ _ h =>
        ⟨nofun, fun _ heq => ?_⟩
      cases heq
      exact h

abbrev CredentialConfig (ι : Type*) :=
  Config ι World CredentialCall AppError CredentialAnswer (CredentialMark ι)

def credentialPool (A : PasskeyEnv) (orders : ι → RowOrder) (start : World)
    (req : ι → CredentialRequest) : CredentialConfig ι :=
  .init start fun i => (req i).process A (orders i)

/-- What holds of the passkeys after a run from `start`. -/
structure PasskeysKept (A : PasskeyEnv) (start : World) (req : ι → CredentialRequest)
    (c : CredentialConfig ι) : Prop where
  written : ∀ id, c.state.passkeys.find? id = writtenPasskeys start c.marks id
  orderly : PasskeysOrderly A c.state.nextPasskey c.state.passkeys.find?
  justified : ∀ newer m older, c.marks = newer ++ m :: older → m.Justified A req start older
  /-- No two registrations got one id, and none got an id of the start. -/
  given : (c.marks.filterMap CredentialMark.newId).Nodup ∧
    ∀ id ∈ c.marks.filterMap CredentialMark.newId, start.passkeys.find? id = none
  answers : ∀ i answer, c.pool i = .ret answer → answer.Shows A start (req i) i c.marks

variable [DecidableEq ι]

/-- In every interleaving the passkeys are what the history wrote, and everything in the history was
done by a request that had the right to. -/
theorem passkeys_kept (hcuid : Function.Injective A.cuid)
    (h₀ : PasskeysOrderly A start.nextPasskey start.passkeys.find?) {c : CredentialConfig ι}
    (h : Reaches (credentialSetting A orders fails) (credentialPool A orders start req) c) :
    PasskeysKept A start req c := by
  have hsound : Sound (credentialProtocol A orders req start fails).contract
      (fun i => OnReturn fun answer s => answer.Shows A start (req i) i s.marks)
      (credentialPool A orders start req) :=
    ⟨⟨rfl, h₀, trivial, le_rfl, [], rfl, List.nodup_nil, fun _ hn => absurd hn List.not_mem_nil⟩,
      fun _ => safe_credentialRequest hcuid⟩
  have hend := hsound.reaches h
  exact ⟨fun id => congrFun hend.1.written id, hend.1.orderly,
    fun newer m older hmarks => AllJustified.of_split (hmarks ▸ hend.1.justified),
    ⟨hend.1.given.nodup hcuid, fun _ hid => hend.1.given.find?_eq_none hcuid h₀ hid⟩,
    fun i answer hret => hend.result hret⟩

end Runs

section Example

theorem orderly_empty (A : PasskeyEnv) (next : ℕ) : PasskeysOrderly A next fun _ => none where
  keyed := fun _ p h => absurd h.symm (Option.some_ne_none p)
  issued := fun _ p h => absurd h.symm (Option.some_ne_none p)
  unique := fun _ p _ _ h => absurd h.symm (Option.some_ne_none p)
  named := fun _ p h => absurd h.symm (Option.some_ne_none p)

/-- User 1 registers a passkey and renames it, which user 2 tries to remove. -/
def passkeyRequests : Fin 5 → CredentialRequest
  | 0 => .ceremony (.startRegistration 1)
  | 1 => .ceremony (.finishRegistration 1
      { challengeId := plainPasskeys.challengeId 0, response := .obj [("id", .str "d")] })
  | 2 => .remove 2 (plainPasskeys.cuid 0)
  | 3 => .rename 1 (plainPasskeys.cuid 0) " Key "
  | 4 => .list 1

def passkeyRun : CredentialConfig (Fin 5) :=
  (credentialPool plainPasskeys (fun _ => RowOrder.insertion) registeringWorld
    passkeyRequests).schedule (credentialMark plainPasskeys fun _ => RowOrder.insertion)
      [0, 0, 0, 0, 1, 1, 1, 1, 2, 3, 3, 4]

theorem passkeys_kept_renamed :
    PasskeysKept plainPasskeys registeringWorld passkeyRequests passkeyRun :=
  passkeys_kept tally_injective (orderly_empty plainPasskeys 0)
    (Reaches.schedule (S := credentialSetting plainPasskeys (fun _ => RowOrder.insertion)
      fun _ => False) (fun _ _ _ => trivial) _ _)

example : (passkeyRun.pool 2).result?.map Except.isOk = some false ∧
    (passkeyRun.state.passkeys.rows.map Passkey.name) = ["Key"] := by
  decide +kernel

end Example

end FifiAlert
