import FifiAlert.Auth.ChallengeLedger
import FifiAlert.Auth.PasskeyLogin

/-!
# A challenge is good for one ceremony

Any number of ceremonies of any users, in any interleaving: a challenge passes the check of one
finish call at most, that call belongs to the ceremony the challenge was issued for, and comes
within five minutes. A finish call that starts after the challenge was issued leaves it consumed,
however it ends.
-/

namespace FifiAlert

open Concurrency Store PasskeyCall PasskeyService

/-- The finish call did not get past the check of the challenge. -/
def Rejected {α : Type} (r : Except AppError α) : Prop :=
  r = .error (.badRequest [unknownChallenge]) ∨ r = .error (.serviceUnavailable notConfigured)

/-- An exception for another reason. -/
def IsLater (e : AppError) : Prop :=
  e ≠ .badRequest [unknownChallenge] ∧ e ≠ .serviceUnavailable notConfigured

theorem not_rejected_of_isLater {α : Type} {e : AppError} (h : IsLater e) :
    ¬ Rejected (.error e : Except AppError α) := by
  rintro (heq | heq)
  · exact h.1 (Except.error.inj heq)
  · exact h.2 (Except.error.inj heq)

theorem rejected_map {α β : Type} (f : α → β) (r : Except AppError α) :
    Rejected (r.map f) ↔ Rejected r := by
  cases r with
  | error e => simp [Rejected, Except.map]
  | ok a => simp [Rejected, Except.map]

/-- The call touches the challenges of nobody. -/
def PasskeyCall.IsPlain (l : PasskeyCall) : Prop :=
  (∀ challenge type userId, l ≠ challengeSet challenge type userId) ∧
    ∀ id, l ≠ auth (.challengeConsume id)

section Protocol

variable {ι : Type*}

/-- The surroundings: time passes, keys of the store run out, and a call of the database may
fail. The store answers. -/
def challengeSetting (A : PasskeyEnv) (req : ι → PasskeyRequest) (fails : PasskeyCall → Prop) :
    Setting ι World PasskeyCall (ChallengeMark ι) where
  mark := challengeMark A req
  env := StoreShrinks
  mayFail := fun l => fails l ∧ ∀ id, l ≠ auth (.challengeConsume id)
  admits := fun _ _ _ => True

/-- The protocol of the ceremonies. -/
def challengeProtocol (A : PasskeyEnv) (hfresh : Function.Injective A.challengeId)
    (req : ι → PasskeyRequest) (fails : PasskeyCall → Prop) :
    Protocol (challengeSetting A req fails) where
  effect := PasskeyCall.effect A
  permits := fun i l _ => CeremonyPermits A req i l
  inv := ChallengeLedger A req
  inv_call := fun hinv hper _ => hinv.call hfresh hper
  inv_env := fun henv hinv => hinv.shrink henv

end Protocol

section Calls

variable {A : PasskeyEnv}

/-- What the calls of a ceremony do besides storing and consuming the challenge. -/
def Plainly (A : PasskeyEnv) (l : PasskeyCall) (next : World → World) : Prop :=
  next = l.effect A ∧ l.IsPlain

theorem isPlain_auth {l : AuthCall} (h : ∀ id, l ≠ .challengeConsume id) : (auth l).IsPlain :=
  ⟨fun _ _ _ => nofun, fun id he => h id (PasskeyCall.auth.inj he)⟩

theorem recordUse_plain (passkey : Passkey) (info : VerifiedAuthenticationResponse) :
    ((recordUse passkey info).relabel auth).Confined (Plainly A) IsLater := by
  unfold recordUse
  rw [Process.relabel_atomic]
  refine Process.confined_atomic ⟨rfl, isPlain_auth fun _ h => by cases h⟩ ?_
    ⟨by simp, by simp⟩
  intro w e he
  cases hrow : w.passkeys.find? passkey.id with
  | none =>
      simp only [hrow] at he
      cases he
      exact ⟨by simp, by simp⟩
  | some p =>
      simp only [hrow] at he
      cases he

theorem acceptAssertion_plain (stored : StoredPasskeyChallenge) (response : Js.Json)
    (passkey : Option Passkey) :
    ((acceptAssertion A.toLoginEnv stored response passkey).relabel auth).Confined (Plainly A)
      IsLater := by
  cases passkey with
  | none => exact ⟨by simp, by simp⟩
  | some passkey =>
      unfold acceptAssertion
      dsimp only
      split
      · exact ⟨by simp, by simp⟩
      split
      · exact ⟨by simp, by simp⟩
      rw [Process.relabel_bind]
      refine (Process.confined_query ⟨rfl, isPlain_auth fun _ h => by cases h⟩
        ⟨by simp, by simp⟩).bind fun owner => ?_
      cases owner with
      | none => exact ⟨by simp, by simp⟩
      | some owner =>
          unfold acceptOwner
          dsimp only
          split
          · exact ⟨by simp, by simp⟩
          · rw [Process.relabel_bind]
            exact (recordUse_plain passkey _).bind fun _ => trivial

/-- `finishLogin` past the check. -/
theorem answerChallenge_plain (response : Js.Json) {stored : StoredPasskeyChallenge}
    (h : stored.type = .login) :
    ((answerChallenge A.toLoginEnv response (some stored)).relabel auth).Confined (Plainly A)
      IsLater := by
  unfold answerChallenge
  dsimp only
  rw [if_neg (not_not.2 h)]
  split
  · exact ⟨by simp, by simp⟩
  · rw [Process.relabel_bind]
    exact (Process.confined_query ⟨rfl, isPlain_auth fun _ h => by cases h⟩
      ⟨by simp, by simp⟩).bind fun passkey => acceptAssertion_plain stored response passkey

theorem normalisePasskeyName_plain (name : Option String) :
    (normalisePasskeyName A name).Confined (Plainly A) IsLater := by
  unfold normalisePasskeyName
  dsimp only
  split
  · trivial
  · exact (Process.confined_query ⟨rfl, isPlain_auth fun _ h => by cases h⟩
      ⟨by simp, by simp⟩).bind fun _ => trivial

theorem isLater_of_mapM {elems : List Js.Json} {f : Js.Json → Except AppError String}
    (hf : ∀ x e, f x = .error e → IsLater e) {e : AppError} (h : elems.mapM f = .error e) :
    IsLater e := by
  induction elems with
  | nil => cases h
  | cons x elems ih =>
      rw [List.mapM_cons] at h
      cases hx : f x with
      | error e' =>
          rw [hx] at h
          cases h
          exact hf x e hx
      | ok a =>
          rw [hx] at h
          cases hrest : elems.mapM f with
          | error e' =>
              rw [hrest] at h
              cases h
              exact ih hrest
          | ok as =>
              rw [hrest] at h
              cases h

theorem isLater_of_transports {credential : RegisteredCredential} {response : Js.Json}
    {e : AppError} (h : transportsOf credential response = .error e) : IsLater e := by
  unfold transportsOf at h
  split at h
  · cases h
  unfold spreadTransports at h
  split at h
  · cases h
  · cases h
  · refine isLater_of_mapM (fun x e he => ?_) h
    cases x <;> cases he <;> exact ⟨by simp, by simp⟩
  · cases h
  · cases h
    exact ⟨by simp, by simp⟩

theorem insertCredential_plain (userId : ℕ) (input : PasskeyRegisterDto) (info : RegistrationInfo) :
    (insertCredential A userId input info).Confined (Plainly A) IsLater := by
  have hhandler : ∀ error, IsLater error →
      (if error = AppError.prisma .P2002 then .raise (.conflict alreadyRegistered)
        else .raise error : PasskeyProcess PasskeyDto).Confined (Plainly A) IsLater := by
    intro error herror
    split
    · exact ⟨by simp, by simp⟩
    · exact herror
  unfold insertCredential
  refine Process.Confined.tryCatch (T := IsLater) ?_ hhandler
  split
  next e htransports => exact isLater_of_transports htransports
  next transports htransports =>
    refine (normalisePasskeyName_plain input.name).bind fun name => ?_
    refine Process.Confined.bind ?_ fun _ => trivial
    refine Process.confined_atomic ⟨rfl, fun _ _ _ => nofun, fun _ => nofun⟩ ?_
      ⟨by simp, by simp⟩
    intro w e he
    unfold World.createPasskey at he
    dsimp only at he
    split at he
    · cases he
      exact ⟨by simp, by simp⟩
    · split at he
      · cases he
        exact ⟨by simp, by simp⟩
      · cases he

/-- `finishRegistration` past the check. -/
theorem answerRegistration_plain (userId : ℕ) (input : PasskeyRegisterDto)
    {stored : Option StoredPasskeyChallenge} (h : (issuedTo userId stored).isSome = true) :
    (answerRegistration A userId input stored).Confined (Plainly A) IsLater := by
  have hregister : ∀ info, (registerCredential A userId input info).Confined (Plainly A)
      IsLater := by
    intro info
    cases info with
    | none => exact ⟨by simp [verificationFailed, unknownChallenge], by simp⟩
    | some info =>
        unfold registerCredential
        refine (Process.confined_query ⟨rfl, isPlain_auth fun _ h => by cases h⟩
          ⟨by simp, by simp⟩).bind fun duplicate => ?_
        split
        · exact ⟨by simp, by simp⟩
        · exact insertCredential_plain userId input info
  obtain ⟨c, hc⟩ := Option.isSome_iff_exists.1 h
  unfold answerRegistration
  rw [hc]
  dsimp only
  split
  · exact ⟨by simp [verificationFailed, unknownChallenge], by simp⟩
  · exact hregister _

end Calls

section Threads

variable {ι : Type*} {A : PasskeyEnv} {hfresh : Function.Injective A.challengeId}
  {req : ι → PasskeyRequest} {fails : PasskeyCall → Prop} {i : ι} {s : ChallengeSnapshot ι}

theorem ceremonyPermits_of_isPlain {l : PasskeyCall} (h : l.IsPlain) : CeremonyPermits A req i l :=
  ⟨fun challenge type userId he => absurd he (h.1 challenge type userId),
    fun id he => absurd he (h.2 id)⟩

/-- The challenge was issued and is no longer in the store. -/
def Gone (A : PasskeyEnv) (id : String) (w : World) : Prop :=
  w.passkeyChallenges.find? id = none ∧ ∃ n < w.nextChallenge, id = A.challengeId n

theorem Gone.shrink {id : String} {w w' : World} (h : Gone A id w) (hw : StoreShrinks w w') :
    Gone A id w' :=
  ⟨hw.find?_none h.1, h.2.imp fun _ hn => ⟨Nat.lt_of_lt_of_le hn.1 hw.next, hn.2⟩⟩

theorem lasting_gone (id : String) :
    (challengeProtocol A hfresh req fails).Lasting i (fun _ => false)
      fun s => Gone A id s.state := by
  refine .of_kept (fun j l s _ _ _ h => ?_) fun w w' m _ henv h => h.shrink henv
  change Gone A id (l.effect A s.state)
  rcases challenge_cases A req j l s.state with ⟨challenge, type, userId, rfl⟩ | ⟨id', rfl⟩ |
    ⟨-, hsame⟩
  · obtain ⟨hnone, n, hn, rfl⟩ := h
    refine ⟨?_, n, Nat.lt_succ_of_lt hn, rfl⟩
    change (s.state.storeChallenge A challenge type userId).passkeyChallenges.find? _ = none
    rw [World.find?_storeChallenge, if_neg fun heq => Nat.ne_of_gt hn (hfresh heq)]
    exact hnone
  · exact h.shrink (storeShrinks_consume A id' s.state).1
  · exact h.shrink hsame.shrinks

theorem lasting_passed (id : String) :
    (challengeProtocol A hfresh req fails).Lasting i (fun _ => false)
      fun s => ∃ t, .passed i id t ∈ s.marks :=
  .of_kept (fun _ _ _ _ _ _ h => h.imp fun _ => Snapshot.mem_after_of_mem) fun _ _ _ _ _ h => h

theorem lasting_issued (id : String) :
    (challengeProtocol A hfresh req fails).Lasting i (fun _ => false)
      fun s => ∃ j type userId t, .issued j id type userId t ∈ s.marks :=
  .of_kept (fun _ _ _ _ _ _ ⟨j, type, userId, t, h⟩ =>
    ⟨j, type, userId, t, Snapshot.mem_after_of_mem h⟩) fun _ _ _ _ _ h => h

theorem lasting_notPassed [DecidableEq ι] (id : String) :
    (challengeProtocol A hfresh req fails).Lasting i (ChallengeMark.isPassing i id)
      fun s => ∀ t, .passed i id t ∉ s.marks where
  call := by
    intro j l s _ _ _ hask h t hm
    rcases Snapshot.mem_after.1 hm with hnew | hold
    · have hno := hask _ hnew
      simp [ChallengeMark.isPassing] at hno
    · exact h t hold
  env := fun _ _ _ _ _ h => h
  own := fun j l w m hm h =>
    (thread_challengeMark hm).symm.trans (ChallengeMark.thread_of_isPassing h)

/-- How a finish call ends. When it had not passed before, it has passed now unless it was
rejected; when its challenge had been issued before, the challenge is consumed. -/
def Finished {α : Type} (req : ι → PasskeyRequest) (p q : Prop) (i : ι) (r : Except AppError α)
    (s : ChallengeSnapshot ι) : Prop :=
  ∀ id, (req i).challengeId? = some id →
    (p → ((∃ t, .passed i id t ∈ s.marks) ↔ ¬ Rejected r)) ∧
    (q → s.state.passkeyChallenges.find? id = none)

variable [DecidableEq ι] {p q : Prop} {id : String} {α : Type}

omit [DecidableEq ι] in
theorem finished_rejected {e : AppError} (hid : (req i).challengeId? = some id)
    (he : Rejected (.error e : Except AppError α)) (hp : p → ∀ t, .passed i id t ∉ s.marks)
    (hq : q → s.state.passkeyChallenges.find? id = none) :
    Finished req p q i (.error e : Except AppError α) s := by
  intro id' hid'
  cases hid.symm.trans hid'
  refine ⟨fun h => iff_of_false ?_ (not_not.2 he), hq⟩
  rintro ⟨t, ht⟩
  exact hp h t ht

theorem challengeId_ne_empty (n : ℕ) : A.challengeId n ≠ "" := by
  intro h
  have hlist := congrArg String.toList h
  simp [PasskeyEnv.challengeId] at hlist

/-- A finish call from its `GETDEL` on. -/
theorem safe_consume {k : Option StoredPasskeyChallenge → PasskeyProcess α}
    (hid : (req i).challengeId? = some id)
    (hrej : ∀ stored, (req i).accepts stored = false →
      k stored = .raise (.badRequest [unknownChallenge]))
    (hacc : ∀ stored, (req i).accepts stored = true → (k stored).Confined (Plainly A) IsLater)
    (hp : p → ∀ t, .passed i id t ∉ s.marks)
    (hq : q → ∃ j type userId t, .issued j id type userId t ∈ s.marks) :
    Safe (challengeProtocol A hfresh req fails).contract i (Finished req p q i)
      ((consume id).relabel auth >>= k) s := by
  have hnot : (challengeProtocol A hfresh req fails).Lasting i _ _ :=
    (lasting_notPassed id).imp (p := p)
  have hissued : (challengeProtocol A hfresh req fails).Lasting i _ _ :=
    (lasting_issued id).imp (p := q)
  have hgone : (challengeProtocol A hfresh req fails).Lasting i _ _ :=
    (lasting_gone id).imp (p := q)
  have hunknown : Rejected (.error (.badRequest [unknownChallenge]) : Except AppError α) := .inl rfl
  unfold consume
  split
  next hempty =>
    have hnone : (req i).accepts none = false := by cases req i <;> rfl
    rw [Process.pure_eq, Process.relabel_ret, Process.ret_bind, hrej none hnone]
    refine Safe.raise fun s₁ hr hinv => finished_rejected hid hunknown (hnot.stable hp hr) ?_
    intro h
    obtain ⟨j, type, userId, t, ht⟩ := hissued.stable hq hr h
    obtain ⟨n, -, hn⟩ := hinv.drawn j id type userId t ht
    exact absurd (hn.symm.trans hempty) (challengeId_ne_empty n)
  next =>
    rw [Process.relabel_modify]
    refine Protocol.safe_modify_bind rfl (fun h => h.2 id rfl) fun s₁ hr hinv _ => ⟨?_, fun _ => ?_⟩
    · exact ⟨fun _ _ _ => nofun, fun id' h => by cases h; exact hid⟩
    generalize hs₂ : s₁.after (challengeSetting A req fails).mark i _ _ = s₂
    have hgone₂ : q → Gone A id s₂.state := by
      intro h
      obtain ⟨j, type, userId, t, ht⟩ := hissued.stable hq hr h
      rw [← hs₂]
      exact ⟨(storeShrinks_consume A id s₁.state).2, hinv.drawn j id type userId t ht⟩
    cases haccepts : (req i).accepts (s₁.state.challenge id) with
    | false =>
        have hnot₂ : p → ∀ t, .passed i id t ∉ s₂.marks := by
          intro h t ht
          rw [← hs₂] at ht
          rcases Snapshot.mem_after.1 ht with hnew | hold
          · simp [challengeSetting, challengeMark, haccepts] at hnew
          · exact hnot.stable hp hr h t hold
        rw [hrej _ haccepts]
        exact Safe.raise fun s₃ hr₃ _ =>
          finished_rejected hid hunknown (hnot.stable hnot₂ hr₃)
            fun h => (hgone.stable hgone₂ hr₃ h).1
    | true =>
        have hpassed : ∃ t, .passed i id t ∈ s₂.marks := by
          refine ⟨s₁.state.now, ?_⟩
          rw [← hs₂]
          exact Snapshot.mem_after.2 (.inl (by simp [challengeSetting, challengeMark, haccepts]))
        have hJ : (challengeProtocol A hfresh req fails).Lasting i _ _ :=
          (lasting_passed id).and hgone
        refine Safe.mono (hJ.guarded ⟨hpassed, hgone₂⟩ ((hacc _ haccepts).mono ?_ fun _ h => h)) ?_
        · rintro l next ⟨hnext, hplain⟩
          exact ⟨hnext, fun _ => ceremonyPermits_of_isPlain hplain, fun _ _ _ => rfl⟩
        · intro r s₃ _ hr₃ id' hid'
          cases hid.symm.trans hid'
          refine ⟨fun _ => iff_of_true hr₃.1.1 ?_, fun h => (hr₃.1.2 h).1⟩
          cases r with
          | ok a => simp [Rejected]
          | error e => exact not_rejected_of_isLater (hr₃.2 e rfl)

/-- Before the check that passkeys are configured. -/
theorem safe_whenEnabled {process : PasskeyProcess α} (hid : (req i).challengeId? = some id)
    (hp : p → ∀ t, .passed i id t ∉ s.marks)
    (hq : q → ∃ j type userId t, .issued j id type userId t ∈ s.marks)
    (h : Safe (challengeProtocol A hfresh req fails).contract i (Finished req p q i) process s) :
    Safe (challengeProtocol A hfresh req fails).contract i (Finished req p q i)
      (if !A.passkeyConfig.enabled then .raise (.serviceUnavailable notConfigured) else process)
      s := by
  split
  next hoff =>
    refine Safe.raise fun s₁ hr hinv => finished_rejected hid (.inr rfl)
      (((lasting_notPassed id).imp (p := p)).stable hp hr) fun h => ?_
    obtain ⟨j, type, userId, t, ht⟩ := ((lasting_issued id).imp (p := q)).stable hq hr h
    have hon := (hinv.issuer j id type userId t ht).1
    rw [hon] at hoff
    cases hoff
  next => exact h

theorem safe_finishRegistration {userId : ℕ} {input : PasskeyRegisterDto}
    (hreq : req i = .finishRegistration userId input)
    (hp : p → ∀ t, .passed i input.challengeId t ∉ s.marks)
    (hq : q → ∃ j type owner t, .issued j input.challengeId type owner t ∈ s.marks) :
    Safe (challengeProtocol A hfresh req fails).contract i (Finished req p q i)
      (finishRegistration A userId input) s := by
  have hid : (req i).challengeId? = some input.challengeId := by rw [hreq]; rfl
  refine safe_whenEnabled hid hp hq (safe_consume hid (fun stored h => ?_) (fun stored h => ?_)
    hp hq)
  · rw [hreq] at h
    have hnone : issuedTo userId stored = none := by
      rwa [← Option.not_isSome_iff_eq_none, Bool.not_eq_true]
    unfold answerRegistration
    rw [hnone]
  · rw [hreq] at h
    exact answerRegistration_plain userId input h

theorem safe_finishLogin_ceremony {input : PasskeyLoginVerifyDto}
    (hreq : req i = .finishLogin input) (hp : p → ∀ t, .passed i input.challengeId t ∉ s.marks)
    (hq : q → ∃ j type owner t, .issued j input.challengeId type owner t ∈ s.marks) :
    Safe (challengeProtocol A hfresh req fails).contract i (Finished req p q i)
      ((finishLogin A.toLoginEnv input).relabel auth) s := by
  have hid : (req i).challengeId? = some input.challengeId := by rw [hreq]; rfl
  have hprocess : (finishLogin A.toLoginEnv input).relabel auth =
      if !A.passkeyConfig.enabled then .raise (.serviceUnavailable notConfigured)
      else (consume input.challengeId).relabel auth >>= fun stored =>
        (answerChallenge A.toLoginEnv input.response stored).relabel auth := by
    unfold finishLogin
    split
    · rfl
    · exact Process.relabel_bind auth _ _
  rw [hprocess]
  refine safe_whenEnabled hid hp hq (safe_consume hid (fun stored h => ?_) (fun stored h => ?_)
    hp hq)
  · rw [hreq] at h
    cases stored with
    | none => rfl
    | some c =>
        have hother : c.type ≠ .login := by simpa [PasskeyRequest.accepts] using h
        unfold answerChallenge
        dsimp only
        rw [if_pos hother]
        rfl
  · rw [hreq] at h
    obtain ⟨c, rfl⟩ : ∃ c, stored = some c := by
      cases stored with
      | none => cases h
      | some c => exact ⟨c, rfl⟩
    exact answerChallenge_plain input.response (by simpa [PasskeyRequest.accepts] using h)

end Threads

section Starts

variable {ι : Type*} {A : PasskeyEnv} {req : ι → PasskeyRequest} {i : ι}

/-- The calls that a request may make. -/
def Permitted (A : PasskeyEnv) (req : ι → PasskeyRequest) (i : ι) (l : PasskeyCall)
    (next : World → World) : Prop :=
  next = l.effect A ∧ CeremonyPermits A req i l

theorem permitted_of_isPlain {l : PasskeyCall} {next : World → World} (hnext : next = l.effect A)
    (h : l.IsPlain) : Permitted A req i l next :=
  ⟨hnext, ceremonyPermits_of_isPlain h⟩

theorem createChallenge_permitted {challenge : String} {type : PasskeyChallengeType}
    {userId : Option ℕ} (hon : A.passkeyConfig.enabled = true)
    (hstores : (req i).Stores type userId) :
    (createChallenge A challenge type userId).Confined (Permitted A req i) fun _ => True := by
  refine Process.confined_modify ⟨rfl, fun challenge' type' userId' h => ?_, fun _ => nofun⟩ trivial
  cases h
  exact ⟨hon, hstores⟩

theorem randomBytes_permitted :
    randomBytes.Confined (Permitted A req i) fun _ => True :=
  Process.confined_modify (permitted_of_isPlain rfl (isPlain_auth fun _ h => by cases h)) trivial

theorem startRegistration_permitted {userId : ℕ} (hreq : req i = .startRegistration userId) :
    (startRegistration A userId).Confined (Permitted A req i) fun _ => True := by
  unfold startRegistration
  split
  · trivial
  rename_i hon
  refine (Process.confined_query (permitted_of_isPlain rfl
    (isPlain_auth fun _ h => by cases h)) trivial).bind fun user => ?_
  cases user with
  | none => trivial
  | some user =>
      refine (Process.confined_query (permitted_of_isPlain rfl
        ⟨fun _ _ _ h => (by cases h), fun _ h => (by cases h)⟩) trivial).bind fun existing =>
          randomBytes_permitted.bind fun bytes => ?_
      refine (createChallenge_permitted (by simpa using hon) ?_).bind fun _ => trivial
      rw [hreq]
      exact ⟨rfl, rfl⟩

theorem startLogin_permitted (hreq : req i = .startLogin) :
    (startLogin A).Confined (Permitted A req i) fun _ => True := by
  unfold startLogin
  split
  · trivial
  rename_i hon
  refine randomBytes_permitted.bind fun bytes =>
    (createChallenge_permitted (by simpa using hon) ?_).bind fun _ => trivial
  rw [hreq]
  exact ⟨rfl, rfl⟩

end Starts

section Requests

variable {ι : Type*} [DecidableEq ι] {A : PasskeyEnv} {hfresh : Function.Injective A.challengeId}
  {req : ι → PasskeyRequest} {fails : PasskeyCall → Prop} {i : ι} {s : ChallengeSnapshot ι}
  {p q : Prop}

omit [DecidableEq ι] in
theorem safe_started {α : Type} {process : PasskeyProcess α} (hid : (req i).challengeId? = none)
    (h : process.Confined (Permitted A req i) fun _ => True) :
    Safe (challengeProtocol A hfresh req fails).contract i (Finished req p q i) process s := by
  refine Safe.mono (Protocol.safe_of_confined (J := fun _ => True) (h.mono ?_ fun _ h => h)
    (fun _ _ _ _ => trivial) trivial) fun r s' _ _ id h => ?_
  · rintro l next ⟨hnext, hper⟩
    exact ⟨hnext, fun _ => hper, fun _ _ => trivial⟩
  · rw [hid] at h
    cases h

omit [DecidableEq ι] in
theorem finished_map {α β : Type} (f : α → β) {r : Except AppError α}
    (h : Finished req p q i r s) : Finished req p q i (r.map f) s := by
  intro id hid
  rw [rejected_map]
  exact h id hid

/-- Each request keeps the protocol and ends as it should. -/
theorem safe_ceremony
    (hp : p → ∀ id, (req i).challengeId? = some id → ∀ t, .passed i id t ∉ s.marks)
    (hq : q → ∀ id, (req i).challengeId? = some id →
      ∃ j type owner t, .issued j id type owner t ∈ s.marks) :
    Safe (challengeProtocol A hfresh req fails).contract i (Finished req p q i)
      ((req i).process A) s := by
  cases hreq : req i with
  | startRegistration userId =>
      have hid : (req i).challengeId? = none := by rw [hreq]; rfl
      exact Safe.map ((safe_started hid (startRegistration_permitted hreq)).mono
        fun r s' _ h => finished_map _ h)
  | startLogin =>
      have hid : (req i).challengeId? = none := by rw [hreq]; rfl
      exact Safe.map ((safe_started hid (startLogin_permitted hreq)).mono
        fun r s' _ h => finished_map _ h)
  | finishRegistration userId input =>
      have hid : (req i).challengeId? = some input.challengeId := by rw [hreq]; rfl
      exact Safe.map ((safe_finishRegistration hreq (fun h => hp h _ hid)
        fun h => hq h _ hid).mono fun r s' _ h => finished_map _ h)
  | finishLogin input =>
      have hid : (req i).challengeId? = some input.challengeId := by rw [hreq]; rfl
      exact Safe.map ((safe_finishLogin_ceremony hreq (fun h => hp h _ hid)
        fun h => hq h _ hid).mono fun r s' _ h => finished_map _ h)

end Requests

theorem challengeId_injective {A : PasskeyEnv} (h : Function.Injective A.base64url) :
    Function.Injective A.challengeId := by
  intro n m heq
  apply h
  have hlist := congrArg String.toList heq
  simp only [PasskeyEnv.challengeId, String.toList_append] at hlist
  exact String.toList_injective (List.append_cancel_left hlist)

/-- The run of the requests. -/
def ceremonies {ι : Type*} (A : PasskeyEnv) (req : ι → PasskeyRequest) (w₀ : World) :
    Config ι World PasskeyCall AppError PasskeyAnswer (ChallengeMark ι) :=
  Config.init w₀ fun i => (req i).process A

/-- In every run of the ceremonies of any users: a challenge passes the check of one finish call
at most; that call finishes the ceremony it was issued for, within five minutes; a finish call
passed the check exactly when it was not rejected; and when it began after the challenge was
issued, the challenge is consumed, however the call ended. -/
theorem challenge_oneCeremony {ι : Type*} [DecidableEq ι] (A : PasskeyEnv)
    (hfresh : Function.Injective A.base64url) (req : ι → PasskeyRequest)
    (fails : PasskeyCall → Prop) (w₀ : World)
    (hnew : ∀ n, w₀.nextChallenge ≤ n → w₀.passkeyChallenges.find? (A.challengeId n) = none)
    {c : Config ι World PasskeyCall AppError PasskeyAnswer (ChallengeMark ι)}
    (h : Reaches (challengeSetting A req fails) (ceremonies A req w₀) c) :
    (∀ id, (passedBy id c.marks).length ≤ 1) ∧
    (∀ j id type owner t₀, .issued j id type owner t₀ ∈ c.marks → (req j).Stores type owner ∧
      ∀ i t, .passed i id t ∈ c.marks →
        (req j).Finishes (req i) ∧ (req i).challengeId? = some id ∧
          t₀ ≤ t ∧ t < t₀ + PASSKEY_CHALLENGE_TTL_SECONDS * 1000) ∧
    (∀ i id r, (req i).challengeId? = some id → (c.pool i).result? = some r →
      ((∃ t, .passed i id t ∈ c.marks) ↔ ¬ Rejected r)) ∧
    ∀ c' i id, Reaches (challengeSetting A req fails) c c' → c.pool i = (req i).process A →
      (req i).challengeId? = some id → (∃ j type owner t, .issued j id type owner t ∈ c.marks) →
      (c'.pool i).result?.isSome = true → c'.state.passkeyChallenges.find? id = none := by
  have hinj := challengeId_injective hfresh
  have hsound : Sound (challengeProtocol A hinj req fails).contract (Finished req True False)
      (ceremonies A req w₀) :=
    ⟨.init hnew, fun i => safe_ceremony (fun _ _ _ _ => List.not_mem_nil) False.elim⟩
  have hend := hsound.reaches h
  have hledger : ChallengeLedger A req c.toSnapshot := hend.1
  refine ⟨hledger.once, fun j id type owner t₀ hj => ?_, fun i id r hid hr => ?_,
    fun c' i id h' hpool hid hissued hended => ?_⟩
  · refine ⟨(hledger.issuer j id type owner t₀ hj).2.1, fun i t hi => ?_⟩
    obtain ⟨hfinishes, hle, hlt⟩ := hledger.matched j id type owner t₀ hj i t hi
    exact ⟨hfinishes, hledger.own i id t hi, hle, hlt⟩
  · cases hp : c.pool i with
    | ret a =>
        rw [hp] at hr
        cases hr
        exact (hend.result hp id hid).1 trivial
    | raise e =>
        rw [hp] at hr
        cases hr
        exact (hend.exception hp id hid).1 trivial
    | call l next rest fault =>
        rw [hp] at hr
        cases hr
  · have hstart : Safe (challengeProtocol A hinj req fails).contract i (Finished req False True i)
        (c.pool i) c.toSnapshot := by
      rw [hpool]
      refine safe_ceremony False.elim fun _ id' hid' => ?_
      cases hid.symm.trans hid'
      exact hissued
    have hend' := (hend.update hstart).reaches h'
    have hpost : ∀ r, (c'.pool i).result? = some r → Finished req False True i r c'.toSnapshot := by
      intro r hr
      cases hp : c'.pool i with
      | ret a =>
          rw [hp] at hr
          cases hr
          simpa using hend'.result hp
      | raise e =>
          rw [hp] at hr
          cases hr
          simpa using hend'.exception hp
      | call l next rest fault =>
          rw [hp] at hr
          cases hr
    obtain ⟨r, hr⟩ := Option.isSome_iff_exists.1 hended
    exact (hpost r hr id hid).2 trivial

section Example

/-- Passkeys are configured; the library finds one new credential in every attestation. -/
def plainPasskeys : PasskeyEnv where
  toLoginEnv := counterLogin
  rpName := "Fifi Alert"
  generateRegistrationOptions := fun bytes _ => { challenge := tally bytes, options := [] }
  generateAuthenticationOptions := fun bytes _ => { challenge := tally bytes, options := [] }
  verifyRegistrationResponse := fun _ _ _ =>
    .ok { verified := true
          registrationInfo := some
            { credential := { id := "d", publicKey := [], counter := 0 }, aaguid := "0"
              credentialDeviceType := "singleDevice", credentialBackedUp := false } }
  base64url := tally
  cuid := tally
  toISOString := fun _ => "2026-10-17T00:00:00.000Z"

def registeringWorld : World where
  users := Table.empty.insertNew { id := 1, email := "a@b.c", emailVerified := true }

/-- User 1 registers a passkey, and answers the challenge twice. -/
def registerTwice (i : Fin 3) : PasskeyRequest :=
  if i = 0 then .startRegistration 1
  else .finishRegistration 1
    { challengeId := plainPasskeys.challengeId 0, response := .obj [("id", .str "d")] }

/-- The first answer is accepted, and it alone passed the check. -/
theorem challenge_oneCeremony_twice :
    ∃ c, Reaches (challengeSetting plainPasskeys registerTwice fun _ => False)
        (ceremonies plainPasskeys registerTwice registeringWorld) c ∧
      (∃ a, c.pool 1 = .ret a) ∧ (∃ e, c.pool 2 = .raise e) ∧
      1 ∈ passedBy (plainPasskeys.challengeId 0) c.marks ∧
      (passedBy (plainPasskeys.challengeId 0) c.marks).length ≤ 1 := by
  have hreach := Reaches.schedule
    (S := challengeSetting plainPasskeys registerTwice fun _ => False) (fun _ _ _ => trivial)
    [0, 0, 0, 0, 1, 2, 1, 1, 1] (ceremonies plainPasskeys registerTwice registeringWorld)
  have honce := (challenge_oneCeremony plainPasskeys tally_injective registerTwice
    (fun _ => False) registeringWorld (fun _ _ => rfl) hreach).1
  refine ⟨_, hreach, Process.exists_ret_of_result? (by decide +kernel), ?_, by decide +kernel,
    honce _⟩
  exact ⟨.badRequest [unknownChallenge], rfl⟩

end Example

end FifiAlert
