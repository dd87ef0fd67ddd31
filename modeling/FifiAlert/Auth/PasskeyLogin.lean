import FifiAlert.Auth.BanGate
import FifiAlert.Concurrency.Since

/-!
# The counter of a passkey

A login with a passkey verifies the response against the counter it read, and later writes the
counter of the response. The history says who read a passkey, and who wrote which counter over
which. No write of a run lowers the counter if and only if no login was surpassed: between its
read and its write, no other wrote a greater counter. The service does not see to that.

Any number of logins with passkeys, in any interleaving and with any calls failing: no write
lowers a counter if and only if no login was surpassed, and then the counters only grow from one
moment of the run to a later one. Two logins that overlap can end with the lower of their
counters, so a clone that answers with that counter plus one is let in.
-/

namespace FifiAlert

open Concurrency Store AuthCall

/-- The counter of a passkey. A passkey that is not there counts as never used. -/
def World.passkeyCounter (w : World) (id : String) : ℕ :=
  ((w.passkeys.find? id).map Passkey.counter).getD 0

theorem World.passkeyCounter_of_passkeyOf {w : World} {credentialId : String} {p : Passkey}
    (h : w.passkeyOf credentialId = some p) : w.passkeyCounter p.id = p.counter := by
  have hfind : w.passkeys.find? p.id = some p := Table.find?_of_mem (List.mem_of_find?_eq_some h)
  rw [passkeyCounter, hfind, Option.map_some, Option.getD_some]

/-- What the calls of a login with a passkey do. -/
def AuthCall.onPasskeys : AuthCall → World → World
  | challengeConsume challengeId, w =>
    { w with
      passkeyChallenges := w.passkeyChallenges.deleteMany fun c => c.challengeId = challengeId }
  | passkeyUpdate id newCounter backedUp, w =>
    { w with
      passkeys := w.passkeys.updateMany (fun p => p.id = id)
        (Passkey.used ⟨true, newCounter, backedUp⟩ w.now) (Passkey.used_id _ w.now) }
  | _, w => w

/-- The notable calls: a login read a passkey, and it wrote a new counter over the old one. -/
inductive CounterMark (ι : Type*) where
  | read (thread : ι) (id : String)
  | wrote (thread : ι) (id : String) (old new : ℕ)
  deriving DecidableEq

abbrev CounterSnapshot (ι : Type*) := Snapshot World (CounterMark ι)

def counterMark {ι : Type*} (i : ι) (l : AuthCall) (w : World) : Option (CounterMark ι) :=
  match l with
  | passkeyFindUnique credentialId => (w.passkeyOf credentialId).map fun p => .read i p.id
  | passkeyUpdate id newCounter _ =>
    (w.passkeys.find? id).map fun p => .wrote i id p.counter newCounter
  | _ => none

namespace CounterMark

variable {ι : Type*}

def thread : CounterMark ι → ι
  | read i _ => i
  | wrote i _ _ _ => i

def isRead [DecidableEq ι] (i : ι) (id : String) : CounterMark ι → Bool
  | read j id' => j = i && id' = id
  | wrote _ _ _ _ => false

/-- A counter above `n` was written to this passkey. -/
def surpasses (id : String) (n : ℕ) : CounterMark ι → Bool
  | wrote _ id' _ new => id' = id && decide (n < new)
  | read _ _ => false

theorem thread_of_isRead [DecidableEq ι] {i : ι} {id : String} {m : CounterMark ι}
    (h : isRead i id m = true) : m.thread = i := by
  cases m with
  | read j id' => exact of_decide_eq_true (Bool.and_eq_true_iff.1 h).1
  | wrote j id' old new => cases h

end CounterMark

theorem thread_counterMark {ι : Type*} {i : ι} {l : AuthCall} {w : World} {m : CounterMark ι}
    (h : counterMark i l w = some m) : m.thread = i := by
  cases l with
  | passkeyFindUnique credentialId =>
      obtain ⟨p, -, rfl⟩ := Option.map_eq_some_iff.1 h
      rfl
  | passkeyUpdate id newCounter backedUp =>
      obtain ⟨p, -, rfl⟩ := Option.map_eq_some_iff.1 h
      rfl
  | _ => cases h

/-- No write of the history lowered a counter. -/
def NoneLowered {ι : Type*} (marks : List (CounterMark ι)) : Prop :=
  ∀ i id old new, CounterMark.wrote i id old new ∈ marks → old ≤ new

/-- No login of the history was surpassed: since it read the passkey, no counter was written
that is above the one it wrote. The marks come newest first. -/
def NoneSurpassed {ι : Type*} [DecidableEq ι] : List (CounterMark ι) → Prop
  | [] => True
  | .read _ _ :: marks => NoneSurpassed marks
  | .wrote i id _ new :: marks =>
    quietSince (CounterMark.isRead i id) (CounterMark.surpasses id new) marks = true ∧
      NoneSurpassed marks

instance decidableNoneSurpassed {ι : Type*} [DecidableEq ι] :
    (marks : List (CounterMark ι)) → Decidable (NoneSurpassed marks)
  | [] => inferInstanceAs (Decidable True)
  | .read _ _ :: marks => decidableNoneSurpassed marks
  | .wrote _ _ _ _ :: marks => @instDecidableAnd _ _ inferInstance (decidableNoneSurpassed marks)

section Marks

variable {ι : Type*} {i : ι} {id : String} {old new : ℕ} {marks : List (CounterMark ι)}

theorem noneLowered_read : NoneLowered (.read i id :: marks) ↔ NoneLowered marks := by
  simp [NoneLowered]

theorem noneLowered_wrote :
    NoneLowered (.wrote i id old new :: marks) ↔ old ≤ new ∧ NoneLowered marks := by
  constructor
  · intro h
    exact ⟨h i id old new List.mem_cons_self,
      fun j id' o n hm => h j id' o n (List.mem_cons_of_mem _ hm)⟩
  · rintro ⟨hle, h⟩ j id' o n hm
    rcases List.mem_cons.1 hm with heq | hm
    · cases heq
      exact hle
    · exact h j id' o n hm

end Marks

/-- What a call does to the counters: it writes one, or it leaves them all. -/
theorem counter_cases {ι : Type*} (i : ι) (l : AuthCall) (s : CounterSnapshot ι) :
    (∃ id new backedUp, l = passkeyUpdate id new backedUp ∧
      counterMark i l s.state = some (.wrote i id (s.state.passkeyCounter id) new) ∧
      ∀ id', (l.onPasskeys s.state).passkeyCounter id' =
        if id = id' then new else s.state.passkeyCounter id') ∨
    ((∀ m, counterMark i l s.state = some m → ∃ j id, m = .read j id) ∧
      ∀ id', (l.onPasskeys s.state).passkeyCounter id' = s.state.passkeyCounter id') := by
  cases l with
  | passkeyUpdate id new backedUp =>
      cases hrow : s.state.passkeys.find? id with
      | none =>
          refine .inr ⟨fun m hm => ?_, fun id' => ?_⟩
          · simp [counterMark, hrow] at hm
          · by_cases hid : id = id'
            · subst hid
              simp [World.passkeyCounter, onPasskeys, hrow]
            · cases hrow' : s.state.passkeys.find? id' with
              | none => simp [World.passkeyCounter, onPasskeys, hrow']
              | some p =>
                  have hne : p.id ≠ id := fun he =>
                    hid (he.symm.trans (Table.key_of_find? hrow'))
                  simp [World.passkeyCounter, onPasskeys, hrow', hne]
      | some p =>
          refine .inl ⟨id, new, backedUp, rfl, ?_, fun id' => ?_⟩
          · simp [counterMark, hrow, World.passkeyCounter]
          · by_cases hid : id = id'
            · subst hid
              simp [World.passkeyCounter, onPasskeys, hrow, Table.key_of_find? hrow, Passkey.used]
            · rw [if_neg hid]
              cases hrow' : s.state.passkeys.find? id' with
              | none => simp [World.passkeyCounter, onPasskeys, hrow']
              | some q =>
                  have hne : q.id ≠ id := fun he =>
                    hid (he.symm.trans (Table.key_of_find? hrow'))
                  simp [World.passkeyCounter, onPasskeys, hrow', hne]
  | passkeyFindUnique credentialId =>
      refine .inr ⟨fun m hm => ?_, fun _ => rfl⟩
      obtain ⟨p, -, rfl⟩ := Option.map_eq_some_iff.1 hm
      exact ⟨i, p.id, rfl⟩
  | _ => exact .inr ⟨forall_of_unmarked rfl, fun _ => rfl⟩

section Ledger

variable {ι : Type*} [DecidableEq ι]

/-- The invariant of the history. While no write has lowered a counter, each counter stands at
the greatest value written. -/
structure CounterLedger (s : CounterSnapshot ι) : Prop where
  lowered_iff : NoneLowered s.marks ↔ NoneSurpassed s.marks
  top : NoneLowered s.marks → ∀ i id old new, CounterMark.wrote i id old new ∈ s.marks →
    new ≤ s.state.passkeyCounter id

/-- A login writes a counter when it has read the passkey, and the counter stood no higher then
or since, as long as it has not been surpassed. -/
def MayWrite (i : ι) (l : AuthCall) (s : CounterSnapshot ι) : Prop :=
  ∀ id new backedUp, l = passkeyUpdate id new backedUp →
    CounterMark.read i id ∈ s.marks ∧
    KnownSince (CounterMark.isRead i id) (CounterMark.surpasses id new)
      (fun w => w.passkeyCounter id ≤ new) s

variable {i : ι} {w w' : World} {marks : List (CounterMark ι)} {s : CounterSnapshot ι}

theorem CounterLedger.init (w : World) : CounterLedger (ι := ι) ⟨w, []⟩ where
  lowered_iff := iff_of_true nofun trivial
  top := fun _ _ _ _ _ h => absurd h List.not_mem_nil

theorem CounterLedger.silent (h : CounterLedger ⟨w, marks⟩) (new : Option (CounterMark ι))
    (hnew : ∀ m, new = some m → ∃ j id, m = .read j id)
    (hcount : ∀ id, w'.passkeyCounter id = w.passkeyCounter id) :
    CounterLedger ⟨w', new.toList ++ marks⟩ := by
  cases new with
  | none =>
      refine ⟨h.lowered_iff, fun hl j id old n hm => ?_⟩
      rw [hcount id]
      exact h.top hl j id old n hm
  | some m =>
      obtain ⟨j, id', rfl⟩ := hnew m rfl
      refine ⟨noneLowered_read.trans h.lowered_iff, fun hl j id old n hm => ?_⟩
      rw [hcount id]
      rcases List.mem_cons.1 hm with heq | hm
      · cases heq
      · exact h.top (noneLowered_read.1 hl) j id old n hm

/-- While nothing was lowered, a login whose counter is not below the one in the row was not
surpassed. -/
theorem CounterLedger.not_surpassed {id : String} {new : ℕ} (h : CounterLedger s)
    (hread : CounterMark.read i id ∈ s.marks) (hl : NoneLowered s.marks)
    (hle : s.state.passkeyCounter id ≤ new) :
    quietSince (CounterMark.isRead i id) (CounterMark.surpasses id new) s.marks = true := by
  refine quietSince_of_never hread (by simp [CounterMark.isRead]) fun m hm => ?_
  cases m with
  | read j id' => rfl
  | wrote j id' old n =>
      by_cases hid : id' = id
      · subst hid
        simpa [CounterMark.surpasses] using Nat.le_trans (h.top hl j id' old n hm) hle
      · simp [CounterMark.surpasses, hid]

theorem CounterLedger.wrote {id : String} {new : ℕ} (h : CounterLedger ⟨w, marks⟩)
    (hread : CounterMark.read i id ∈ marks)
    (hknows : KnownSince (CounterMark.isRead i id) (CounterMark.surpasses id new)
      (fun w => w.passkeyCounter id ≤ new) ⟨w, marks⟩)
    (hcount : ∀ id', w'.passkeyCounter id' = if id = id' then new else w.passkeyCounter id') :
    CounterLedger ⟨w', .wrote i id (w.passkeyCounter id) new :: marks⟩ := by
  constructor
  · rw [noneLowered_wrote]
    constructor
    · rintro ⟨hle, hl⟩
      exact ⟨h.not_surpassed hread hl hle, h.lowered_iff.1 hl⟩
    · rintro ⟨hquiet, hs⟩
      exact ⟨hknows hquiet, h.lowered_iff.2 hs⟩
  · intro hl j id' old n hm
    obtain ⟨hle, hl⟩ := noneLowered_wrote.1 hl
    rw [hcount id']
    split
    next heq =>
      subst heq
      rcases List.mem_cons.1 hm with hm | hm
      · cases hm
        exact Nat.le_refl _
      · exact Nat.le_trans (h.top hl j id old n hm) hle
    next hne =>
      rcases List.mem_cons.1 hm with hm | hm
      · cases hm
        exact absurd rfl hne
      · exact h.top hl j id' old n hm

theorem CounterLedger.call {l : AuthCall} (h : CounterLedger s) (hmay : MayWrite i l s) :
    CounterLedger (s.after counterMark i l l.onPasskeys) := by
  rcases counter_cases i l s with ⟨id, new, backedUp, hl, hmark, hcount⟩ | ⟨hsilent, hcount⟩
  · obtain ⟨hread, hknows⟩ := hmay id new backedUp hl
    unfold Snapshot.after
    rw [hmark]
    exact h.wrote hread hknows hcount
  · exact h.silent _ hsilent hcount

end Ledger

section Protocol

variable {ι : Type*} [DecidableEq ι]

/-- The surroundings: the others may do anything but change a counter. -/
def counterSetting {ι : Type*} (fails : AuthCall → Prop) :
    Setting ι World AuthCall (CounterMark ι) where
  mark := counterMark
  env := fun w w' => ∀ id, w'.passkeyCounter id = w.passkeyCounter id
  mayFail := fails
  admits := fun _ _ _ => True

/-- The protocol of the logins with a passkey. -/
def counterProtocol (fails : AuthCall → Prop) : Protocol (counterSetting (ι := ι) fails) where
  effect := onPasskeys
  permits := MayWrite
  inv := CounterLedger
  inv_call := fun hinv hper _ => hinv.call hper
  inv_env := fun henv hinv => hinv.silent none nofun henv

variable {fails : AuthCall → Prop} {i : ι} {s : CounterSnapshot ι}

theorem lasting_hasRead (id : String) :
    (counterProtocol fails).Lasting i (fun _ => false)
      fun s => CounterMark.read i id ∈ s.marks :=
  .of_kept (fun _ _ _ _ _ _ h => Snapshot.mem_after_of_mem h) fun _ _ _ _ _ h => h

/-- A login knows that the counter is not above `n` until it is surpassed. -/
theorem lasting_counter_le (id : String) (n : ℕ) :
    (counterProtocol fails).Lasting i (CounterMark.isRead i id)
      (KnownSince (CounterMark.isRead i id) (CounterMark.surpasses id n)
        fun w => w.passkeyCounter id ≤ n) := by
  refine .known (fun j l s _ _ _ hgood h => ?_) (fun w w' m _ henv h => ?_) fun j l w m hm h => ?_
  · rcases counter_cases j l s with ⟨id', new, -, -, hmark, hcount⟩ | ⟨-, hcount⟩
    · change (onPasskeys l s.state).passkeyCounter id ≤ n
      rw [hcount id]
      split
      next heq =>
        have hbelow := hgood _ hmark
        simpa [CounterMark.surpasses, heq] using hbelow
      next => exact h
    · change (onPasskeys l s.state).passkeyCounter id ≤ n
      rw [hcount id]
      exact h
  · rw [henv id]
    exact h
  · exact (thread_counterMark hm).symm.trans (CounterMark.thread_of_isRead h)

end Protocol

end FifiAlert

namespace FifiAlert

open Concurrency Store AuthCall PasskeyService

/-- `verifyAuthenticationResponse` refuses a response whose counter is not above the one it is
given, unless both are 0. -/
def RefusesStaleCounter (A : LoginEnv) : Prop :=
  ∀ response challenge passkey info,
    A.verifyAuthenticationResponse A.passkeyConfig response challenge passkey = .ok info →
      passkey.counter < info.newCounter ∨ (passkey.counter = 0 ∧ info.newCounter = 0)

section Threads

variable {ι : Type*} [DecidableEq ι] {A : LoginEnv} {fails : AuthCall → Prop} {i : ι}
  {s : CounterSnapshot ι}

theorem mayWrite_of_ne {l : AuthCall} (h : ∀ id new backedUp, l ≠ passkeyUpdate id new backedUp)
    (s : CounterSnapshot ι) : MayWrite i l s :=
  fun id new backedUp hl => absurd hl (h id new backedUp)

theorem safe_recordUse {passkey : Passkey} {info : VerifiedAuthenticationResponse}
    (hread : CounterMark.read i passkey.id ∈ s.marks)
    (hknows : KnownSince (CounterMark.isRead i passkey.id)
      (CounterMark.surpasses passkey.id info.newCounter)
      (fun w => w.passkeyCounter passkey.id ≤ info.newCounter) s) :
    Safe (counterProtocol fails).contract i (fun _ _ => True) (recordUse passkey info) s := by
  have hJ : (counterProtocol fails).Lasting i _ _ :=
    (lasting_hasRead passkey.id).and (lasting_counter_le passkey.id info.newCounter)
  unfold recordUse
  refine Protocol.safe_call rfl fun s₁ hr _ => ⟨fun _ => ⟨?_, fun _ => ?_⟩, fun _ => ?_⟩
  · intro id new backedUp hl
    cases hl
    exact hJ.stable ⟨hread, hknows⟩ hr
  · dsimp only
    cases s₁.state.passkeys.find? passkey.id with
    | none => exact fun _ _ _ => trivial
    | some p => exact fun _ _ _ => trivial
  · exact fun _ _ _ => trivial

theorem safe_acceptOwner {passkey : Passkey} {info : VerifiedAuthenticationResponse}
    (hread : CounterMark.read i passkey.id ∈ s.marks)
    (hknows : KnownSince (CounterMark.isRead i passkey.id)
      (CounterMark.surpasses passkey.id info.newCounter)
      (fun w => w.passkeyCounter passkey.id ≤ info.newCounter) s) (owner : Option User) :
    Safe (counterProtocol fails).contract i (fun _ _ => True)
      (acceptOwner passkey info owner) s := by
  cases owner with
  | none => exact Safe.raise fun _ _ _ => trivial
  | some owner =>
      unfold acceptOwner
      dsimp only
      split
      · exact Safe.raise fun _ _ _ => trivial
      · apply Safe.bind
        refine Safe.mono (safe_recordUse hread hknows) fun r s₁ _ _ => ?_
        cases r with
        | ok _ => exact Safe.ret fun _ _ _ => trivial
        | error e => trivial

/-- The counter of the response is not below the one that was read, so what the login knows of
the counter it reads is what it needs to write. -/
theorem safe_acceptAssertion (hverify : RefusesStaleCounter A) {stored : StoredPasskeyChallenge}
    {response : Js.Json} (passkey : Option Passkey)
    (hread : ∀ p, passkey = some p → CounterMark.read i p.id ∈ s.marks ∧
      s.state.passkeyCounter p.id = p.counter) :
    Safe (counterProtocol fails).contract i (fun _ _ => True)
      (acceptAssertion A stored response passkey) s := by
  cases passkey with
  | none => exact Safe.raise fun _ _ _ => trivial
  | some p =>
      obtain ⟨hmem, hcounter⟩ := hread p rfl
      unfold acceptAssertion
      dsimp only
      split
      · exact Safe.raise fun _ _ _ => trivial
      rename_i info hinfo
      split
      · exact Safe.raise fun _ _ _ => trivial
      have hle : p.counter ≤ info.newCounter := by
        have hnew := hverify response stored.challenge p info hinfo
        omega
      have hknows : KnownSince (CounterMark.isRead i p.id)
          (CounterMark.surpasses p.id info.newCounter)
          (fun w => w.passkeyCounter p.id ≤ info.newCounter) s := .of (hcounter ▸ hle)
      have hJ : (counterProtocol fails).Lasting i _ _ :=
        (lasting_hasRead p.id).and (lasting_counter_le p.id info.newCounter)
      refine hJ.call_bind ⟨hmem, hknows⟩ (by rfl)
        (fun s₁ _ _ _ => mayWrite_of_ne (fun _ _ _ h => by cases h) s₁) ?_
        fun _ _ _ _ => trivial
      intro s₁ _ hs₁
      exact safe_acceptOwner hs₁.1 hs₁.2 _

theorem safe_finishLogin (hverify : RefusesStaleCounter A) (input : PasskeyLoginVerifyDto) :
    Safe (counterProtocol fails).contract i (fun _ _ => True) (finishLogin A input) s := by
  have hJ := Protocol.Lasting.nothing (P := counterProtocol (ι := ι) fails) (i := i)
  have hanswer : ∀ stored s, Safe (counterProtocol (ι := ι) fails).contract i (fun _ _ => True)
      (answerChallenge A input.response stored) s := by
    intro stored s
    cases stored with
    | none => exact Safe.raise fun _ _ _ => trivial
    | some stored =>
        unfold answerChallenge
        dsimp only
        split
        · exact Safe.raise fun _ _ _ => trivial
        split
        · exact Safe.raise fun _ _ _ => trivial
        rename_i credential _
        refine hJ.call_bind trivial (by rfl)
          (fun s₁ _ _ _ => mayWrite_of_ne (fun _ _ _ h => by cases h) s₁) ?_
          fun _ _ _ _ => trivial
        intro s₁ _ _
        refine safe_acceptAssertion hverify _ fun p hp => ⟨?_, ?_⟩
        · exact Snapshot.mem_after.2 (.inl (by simp [counterSetting, counterMark, hp]))
        · exact World.passkeyCounter_of_passkeyOf hp
  unfold finishLogin
  split
  · exact Safe.raise fun _ _ _ => trivial
  unfold consume
  split
  · exact hanswer none s
  · exact hJ.call_bind trivial (by rfl)
      (fun s₁ _ _ _ => mayWrite_of_ne (fun _ _ _ h => by cases h) s₁)
      (fun s₁ _ _ => hanswer _ _) fun _ _ _ _ => trivial

end Threads

/-- In every run of passkey logins: no write lowers a counter if and only if no login was
surpassed between its read and its write, and then no counter falls from one state of the run
to a later one. -/
theorem passkeyCounter_monotone_iff {ι : Type*} [DecidableEq ι] (A : LoginEnv)
    (hverify : RefusesStaleCounter A) (fails : AuthCall → Prop) (w₀ : World)
    (req : ι → PasskeyLoginVerifyDto) {c c' : Config ι World AuthCall AppError ℕ (CounterMark ι)}
    (h : Reaches (counterSetting fails) (Config.init w₀ fun i => finishLogin A (req i)) c)
    (h' : Reaches (counterSetting fails) c c') :
    (NoneLowered c'.marks ↔ NoneSurpassed c'.marks) ∧
      (NoneSurpassed c'.marks →
        ∀ id, c.state.passkeyCounter id ≤ c'.state.passkeyCounter id) := by
  have hsound : Sound (counterProtocol fails).contract (fun _ _ _ => True)
      (Config.init w₀ fun i => finishLogin A (req i)) :=
    ⟨.init w₀, fun i => safe_finishLogin hverify (req i)⟩
  have hc := hsound.reaches h
  have hledger : CounterLedger c'.toSnapshot := (hc.reaches h').1
  refine ⟨hledger.lowered_iff, fun hs => ?_⟩
  have hgrown : NoneLowered c'.marks →
      ∀ id, c.state.passkeyCounter id ≤ c'.state.passkeyCounter id := by
    refine (Protocol.refines hc h').invariant
      (J := fun s => NoneLowered s.marks →
        ∀ id, c.state.passkeyCounter id ≤ s.state.passkeyCounter id)
      (fun _ _ => Nat.le_refl _) ?_ ?_
    · intro i l s _ _ _ hJ
      change NoneLowered ((counterMark i l s.state).toList ++ s.marks) →
        ∀ id, c.state.passkeyCounter id ≤ (l.onPasskeys s.state).passkeyCounter id
      intro hl id
      rcases counter_cases i l s with ⟨id', new, -, -, hmark, hcount⟩ | ⟨hsilent, hcount⟩
      · rw [hmark] at hl
        obtain ⟨hle, hl⟩ := noneLowered_wrote.1 hl
        rw [hcount id]
        split
        next heq => exact Nat.le_trans (heq ▸ hJ hl id) hle
        next => exact hJ hl id
      · rw [hcount id]
        refine hJ (fun j id' old new hm => hl j id' old new ?_) id
        exact List.mem_append_right _ hm
    · intro w w' m _ henv hJ hl id
      rw [henv id]
      exact hJ hl id
  exact hgrown (hledger.lowered_iff.2 hs)

section Authenticator

/-- The value of a character in base64url. -/
def base64urlValue (c : Char) : ℕ :=
  if c = '-' then 62
  else if c = '_' then 63
  else if '0' ≤ c ∧ c ≤ '9' then c.toNat + 4
  else if 'a' ≤ c ∧ c ≤ 'z' then c.toNat - 71
  else c.toNat - 65

/-- The counter in the authenticator data of a response without extensions: the last four of
its 37 bytes. -/
def signCount (response : Js.Json) : ℕ :=
  match (response.get? "response").bind fun r => r.get? "authenticatorData" with
  | some (.str data) =>
    ((data.toList.drop 44).foldl (fun n c => n * 64 + base64urlValue c) 0) / 16
  | _ => 0

/-- The signatures are good; the library checks the counters. -/
def counterLogin : LoginEnv :=
  { openLogin with
    verifyAuthenticationResponse := fun _ response _ passkey =>
      let counter := signCount response
      if (0 < counter ∨ 0 < passkey.counter) ∧ counter ≤ passkey.counter then
        .error (.error ("Response counter value " ++ toString counter ++
          " was lower than expected " ++ toString passkey.counter))
      else .ok { verified := true, newCounter := counter, credentialBackedUp := false } }

theorem counterLogin_refuses : RefusesStaleCounter counterLogin := by
  intro response challenge passkey info h
  dsimp only [counterLogin] at h
  split at h
  · cases h
  · cases h
    dsimp only
    omega

/-- A response of the authenticator with the credential `c`, over the authenticator data. -/
def assertionOf (authenticatorData : String) : Js.Json :=
  .obj [("id", .str "c"), ("response", .obj [("authenticatorData", .str authenticatorData)])]

/-- The responses with the counters 6 and 7. -/
def sixth : Js.Json := assertionOf "2DEGWaDuJIuvCu4CzJenMEobiMjgAwaz4eeNhehc09oFAAAABg"
def seventh : Js.Json := assertionOf "2DEGWaDuJIuvCu4CzJenMEobiMjgAwaz4eeNhehc09oFAAAABw"

/-- The passkey of user 1 has the counter 5, and two logins have been started. -/
def twoLoginsWorld : World where
  users := Table.empty.insertNew { id := 1, email := "a@b.c", emailVerified := true }
  passkeys := Table.empty.insertNew { id := "p", userId := 1, credentialId := "c", counter := 5 }
  passkeyChallenges := (Table.empty.insertNew
    { challengeId := "c_1", challenge := "1", type := .login, expiresAt := 300000 }).insertNew
    { challengeId := "c_2", challenge := "2", type := .login, expiresAt := 300000 }

/-- The responses of the two logins. -/
def twoLogins (i : Fin 2) : PasskeyLoginVerifyDto :=
  if i = 0 then { challengeId := "c_1", response := sixth }
  else { challengeId := "c_2", response := seventh }

def passkeyPool : Config (Fin 2) World AuthCall AppError ℕ (CounterMark (Fin 2)) :=
  Config.init twoLoginsWorld fun i => finishLogin counterLogin (twoLogins i)

/-- One login after the other: the counter goes from 5 to 6 to 7. -/
theorem passkeyCounter_monotone_iff_inOrder :
    NoneLowered (passkeyPool.schedule counterMark [0, 0, 0, 0, 1, 1, 1, 1]).marks ∧
      (passkeyPool.schedule counterMark [0, 0, 0, 0]).state.passkeyCounter "p" = 6 ∧
      (passkeyPool.schedule counterMark [0, 0, 0, 0, 1, 1, 1, 1]).state.passkeyCounter "p" = 7 := by
  have hreach : Reaches (counterSetting fun _ => False) passkeyPool
      (passkeyPool.schedule counterMark [0, 0, 0, 0, 1, 1, 1, 1]) :=
    Reaches.schedule (fun _ _ _ => trivial) _ _
  have hsurpassed : NoneSurpassed
      (passkeyPool.schedule counterMark [0, 0, 0, 0, 1, 1, 1, 1]).marks := by
    decide +kernel
  have hiff := (passkeyCounter_monotone_iff counterLogin counterLogin_refuses (fun _ => False)
    twoLoginsWorld twoLogins hreach .refl).1
  exact ⟨hiff.2 hsurpassed, by decide +kernel, by decide +kernel⟩

/-- Both logins read the counter 5. The second writes 7, and then the first writes 6. -/
theorem passkeyCounter_falls :
    RefusesStaleCounter counterLogin ∧
      ∃ c c', Reaches (counterSetting fun _ => False) passkeyPool c ∧
        Reaches (counterSetting fun _ => False) c c' ∧
        c.state.passkeyCounter "p" = 7 ∧ c'.state.passkeyCounter "p" = 6 := by
  refine ⟨counterLogin_refuses, passkeyPool.schedule counterMark [0, 0, 0, 1, 1, 1, 1],
    (passkeyPool.schedule counterMark [0, 0, 0, 1, 1, 1, 1]).schedule counterMark [0],
    Reaches.schedule (fun _ _ _ => trivial) _ _, Reaches.schedule (fun _ _ _ => trivial) _ _,
    by decide +kernel, by decide +kernel⟩

end Authenticator

end FifiAlert
