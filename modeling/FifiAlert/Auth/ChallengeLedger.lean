import FifiAlert.Auth.PasskeyLogin
import FifiAlert.Auth.PasskeyService

/-!
# Challenges and their history

The history of a run of ceremonies says who was issued which challenge, when and for what, and
which finish calls passed the check of the challenge they named or were refused by it. A call of
the store issues a challenge, or consumes one, or leaves the store alone. The ledger holds what
follows for the challenges: an id is passed at most once, by a call of the kind and the user it
was issued for, and in time.
-/

namespace FifiAlert

open Concurrency Store PasskeyCall

namespace PasskeyRequest

/-- The challenge that a finish call names. -/
def challengeId? : PasskeyRequest → Option String
  | finishRegistration _ input => some input.challengeId
  | finishLogin input => some input.challengeId
  | _ => none

/-- The check of the challenge that was consumed. -/
def accepts : PasskeyRequest → Option StoredPasskeyChallenge → Bool
  | finishRegistration userId _, stored => (PasskeyService.issuedTo userId stored).isSome
  | finishLogin _, stored => stored.any fun c => c.type = .login
  | _, _ => false

/-- The challenge that a start call stores. -/
def Stores (type : PasskeyChallengeType) (owner : Option ℕ) : PasskeyRequest → Prop
  | startRegistration userId => type = .register ∧ owner = some userId
  | startLogin => type = .login ∧ owner = none
  | _ => False

/-- The finish call of the ceremony that the start call began. -/
def Finishes : (start finish : PasskeyRequest) → Prop
  | startRegistration userId, finishRegistration userId' _ => userId' = userId
  | startLogin, finishLogin _ => True
  | _, _ => False

theorem finishes_of_accepts {start finish : PasskeyRequest} {stored : StoredPasskeyChallenge}
    (h : start.Stores stored.type stored.userId) (ha : finish.accepts (some stored) = true) :
    start.Finishes finish := by
  cases finish with
  | finishRegistration userId input =>
      have hcheck : stored.type = .register ∧ stored.userId = some userId := by
        simpa [accepts, PasskeyService.issuedTo, Option.isSome_filter] using ha
      cases start with
      | startRegistration userId' => exact Option.some.inj (hcheck.2.symm.trans h.2)
      | startLogin => cases hcheck.1.symm.trans h.1
      | finishRegistration _ _ => exact h
      | finishLogin _ => exact h
  | finishLogin input =>
      have hcheck : stored.type = .login := by simpa [accepts] using ha
      cases start with
      | startRegistration userId' => cases hcheck.symm.trans h.1
      | startLogin => trivial
      | finishRegistration _ _ => exact h
      | finishLogin _ => exact h
  | startRegistration _ => cases ha
  | startLogin => cases ha

end PasskeyRequest

/-- What a call of the ceremonies does. -/
def PasskeyCall.effect (A : PasskeyEnv) : PasskeyCall → World → World
  | auth (.session (.token l)), w => l.effect w
  | auth l, w => l.onPasskeys w
  | challengeSet challenge type userId, w => w.storeChallenge A challenge type userId
  | passkeyFindMany _, w => w
  | passkeyCreate data, w => (w.createPasskey A data).2

/-- The notable calls: a challenge was issued, and a finish call consumed the challenge it
named and passed the check, or was refused. -/
inductive ChallengeMark (ι : Type*) where
  | issued (thread : ι) (challengeId : String) (type : PasskeyChallengeType) (userId : Option ℕ)
      (time : Time)
  | passed (thread : ι) (challengeId : String) (time : Time)
  | refused (thread : ι) (challengeId : String)
  deriving DecidableEq

abbrev ChallengeSnapshot (ι : Type*) := Snapshot World (ChallengeMark ι)

def challengeMark {ι : Type*} (A : PasskeyEnv) (req : ι → PasskeyRequest) (i : ι)
    (l : PasskeyCall) (w : World) : Option (ChallengeMark ι) :=
  match l with
  | challengeSet _ type userId =>
    some (.issued i (A.challengeId w.nextChallenge) type userId w.now)
  | auth (.challengeConsume challengeId) =>
    if (req i).accepts (w.challenge challengeId) then some (.passed i challengeId w.now)
    else some (.refused i challengeId)
  | _ => none

namespace ChallengeMark

variable {ι : Type*}

def thread : ChallengeMark ι → ι
  | issued i _ _ _ _ => i
  | passed i _ _ => i
  | refused i _ => i

def isPassing [DecidableEq ι] (i : ι) (id : String) : ChallengeMark ι → Bool
  | passed j id' _ => j = i && id' = id
  | _ => false

theorem thread_of_isPassing [DecidableEq ι] {i : ι} {id : String} {m : ChallengeMark ι}
    (h : isPassing i id m = true) : m.thread = i := by
  cases m with
  | passed j id' t => exact of_decide_eq_true (Bool.and_eq_true_iff.1 h).1
  | issued _ _ _ _ _ => cases h
  | refused _ _ => cases h

/-- The thread that passed the check of this challenge. -/
def passer (id : String) : ChallengeMark ι → Option ι
  | passed i id' _ => if id' = id then some i else none
  | _ => none

end ChallengeMark

theorem thread_challengeMark {ι : Type*} {A : PasskeyEnv} {req : ι → PasskeyRequest} {i : ι}
    {l : PasskeyCall} {w : World} {m : ChallengeMark ι} (h : challengeMark A req i l w = some m) :
    m.thread = i := by
  unfold challengeMark at h
  split at h
  · cases h
    rfl
  · split at h <;> (cases h; rfl)
  · cases h

/-- The finish calls that passed the check of a challenge, the last one first. -/
def passedBy {ι : Type*} (id : String) (marks : List (ChallengeMark ι)) : List ι :=
  marks.filterMap (ChallengeMark.passer id)

theorem mem_passedBy {ι : Type*} {id : String} {marks : List (ChallengeMark ι)} {i : ι} :
    i ∈ passedBy id marks ↔ ∃ t, ChallengeMark.passed i id t ∈ marks := by
  constructor
  · intro h
    obtain ⟨m, hm, hi⟩ := List.mem_filterMap.1 h
    cases m with
    | passed j id' t =>
        simp only [ChallengeMark.passer] at hi
        split at hi
        next heq =>
          cases hi
          exact ⟨t, heq ▸ hm⟩
        next => cases hi
    | issued _ _ _ _ _ => cases hi
    | refused _ _ => cases hi
  · rintro ⟨t, ht⟩
    exact List.mem_filterMap.2 ⟨_, ht, if_pos rfl⟩

/-- The state of the store: its challenges, the next id, and the time. -/
structure SameStore (w w' : World) : Prop where
  challenges : w'.passkeyChallenges = w.passkeyChallenges
  next : w'.nextChallenge = w.nextChallenge
  now : w'.now = w.now

theorem SameStore.rfl {w : World} : SameStore w w := ⟨Eq.refl _, Eq.refl _, Eq.refl _⟩

/-- The challenge that is stored next. -/
def World.newChallenge (A : PasskeyEnv) (challenge : String) (type : PasskeyChallengeType)
    (userId : Option ℕ) (w : World) : StoredPasskeyChallenge where
  challengeId := A.challengeId w.nextChallenge
  challenge := challenge
  type := type
  userId := userId
  expiresAt := w.now + PASSKEY_CHALLENGE_TTL_SECONDS * 1000

theorem World.find?_storeChallenge (A : PasskeyEnv) (challenge : String)
    (type : PasskeyChallengeType) (userId : Option ℕ) (w : World) (id : String) :
    (w.storeChallenge A challenge type userId).passkeyChallenges.find? id =
      if A.challengeId w.nextChallenge = id then some (w.newChallenge A challenge type userId)
      else w.passkeyChallenges.find? id := by
  have hfree : (w.passkeyChallenges.deleteMany fun c =>
      c.challengeId = A.challengeId w.nextChallenge).find? (A.challengeId w.nextChallenge) =
        none := by
    rw [Table.find?_deleteMany, Option.filter_eq_none_iff]
    intro e he
    simp [Table.key_of_find? he]
  change (Table.insertNew _ (w.newChallenge A challenge type userId)).find? id = _
  rw [Table.find?_insertNew hfree]
  change (if A.challengeId w.nextChallenge = id then _ else _) = _
  split
  next => exact Eq.refl _
  next hne =>
    rw [Table.find?_deleteMany]
    cases he : w.passkeyChallenges.find? id with
    | none => exact Eq.refl _
    | some e =>
        have hkey : e.challengeId ≠ A.challengeId w.nextChallenge := fun h =>
          hne (h.symm.trans (Table.key_of_find? he))
        simp [hkey]

/-- A call issues a challenge, or consumes one, or leaves the store alone. -/
theorem challenge_cases {ι : Type*} (A : PasskeyEnv) (req : ι → PasskeyRequest) (i : ι)
    (l : PasskeyCall) (w : World) :
    (∃ challenge type userId, l = challengeSet challenge type userId) ∨
    (∃ id, l = auth (.challengeConsume id)) ∨
    (challengeMark A req i l w = none ∧ SameStore w (l.effect A w)) := by
  cases l with
  | challengeSet challenge type userId => exact .inl ⟨challenge, type, userId, rfl⟩
  | passkeyFindMany userId => exact .inr (.inr ⟨rfl, .rfl⟩)
  | passkeyCreate data =>
      refine .inr (.inr ⟨rfl, ?_⟩)
      dsimp only [effect, World.createPasskey]
      split
      · exact .rfl
      · split
        · exact .rfl
        · exact ⟨rfl, rfl, rfl⟩
  | auth l =>
      cases l with
      | challengeConsume id => exact .inr (.inl ⟨id, rfl⟩)
      | session l =>
          cases l with
          | token l => exact .inr (.inr ⟨rfl, by cases l <;> exact ⟨rfl, rfl, rfl⟩⟩)
          | _ => exact .inr (.inr ⟨rfl, .rfl⟩)
      | _ => exact .inr (.inr ⟨rfl, ⟨rfl, rfl, rfl⟩⟩)

section Ledger

variable {ι : Type*}

/-- The invariant of the history. -/
structure ChallengeLedger (A : PasskeyEnv) (req : ι → PasskeyRequest) (s : ChallengeSnapshot ι) :
    Prop where
  unused : ∀ n, s.state.nextChallenge ≤ n →
    s.state.passkeyChallenges.find? (A.challengeId n) = none
  drawn : ∀ j id type userId t, .issued j id type userId t ∈ s.marks →
    ∃ n < s.state.nextChallenge, id = A.challengeId n
  issuer : ∀ j id type userId t, .issued j id type userId t ∈ s.marks →
    A.passkeyConfig.enabled = true ∧ (req j).Stores type userId ∧ t ≤ s.state.now
  entry : ∀ j id type userId t, .issued j id type userId t ∈ s.marks →
    ∀ e, s.state.passkeyChallenges.find? id = some e →
      e.type = type ∧ e.userId = userId ∧ e.expiresAt = t + PASSKEY_CHALLENGE_TTL_SECONDS * 1000
  gone : ∀ i id t, .passed i id t ∈ s.marks → s.state.passkeyChallenges.find? id = none ∧
    ∀ n, s.state.nextChallenge ≤ n → A.challengeId n ≠ id
  once : ∀ id, (passedBy id s.marks).length ≤ 1
  own : ∀ i id t, .passed i id t ∈ s.marks → (req i).challengeId? = some id
  matched : ∀ j id type userId t₀, .issued j id type userId t₀ ∈ s.marks →
    ∀ i t, .passed i id t ∈ s.marks →
      (req j).Finishes (req i) ∧ t₀ ≤ t ∧ t < t₀ + PASSKEY_CHALLENGE_TTL_SECONDS * 1000

/-- A start call issues a challenge of its kind, a finish call consumes the one it names. -/
def CeremonyPermits (A : PasskeyEnv) (req : ι → PasskeyRequest) (i : ι) (l : PasskeyCall) : Prop :=
  (∀ challenge type userId, l = challengeSet challenge type userId →
    A.passkeyConfig.enabled = true ∧ (req i).Stores type userId) ∧
  ∀ id, l = auth (.challengeConsume id) → (req i).challengeId? = some id

variable {A : PasskeyEnv} {req : ι → PasskeyRequest} {w w' : World}
  {marks : List (ChallengeMark ι)} {i : ι}

/-- Challenges may only vanish, ids be drawn, and time pass. -/
structure StoreShrinks (w w' : World) : Prop where
  challenges : ∀ id e, w'.passkeyChallenges.find? id = some e →
    w.passkeyChallenges.find? id = some e
  next : w.nextChallenge ≤ w'.nextChallenge
  now : w.now ≤ w'.now

theorem StoreShrinks.find?_none (h : StoreShrinks w w') {id : String}
    (hid : w.passkeyChallenges.find? id = none) : w'.passkeyChallenges.find? id = none := by
  cases he : w'.passkeyChallenges.find? id with
  | none => rfl
  | some e => exact absurd (h.challenges id e he) (by simp [hid])

theorem SameStore.shrinks (h : SameStore w w') : StoreShrinks w w' where
  challenges := fun _ _ he => h.challenges ▸ he
  next := Nat.le_of_eq h.next.symm
  now := Int.le_of_eq h.now.symm

theorem ChallengeLedger.init (hnew : ∀ n, w.nextChallenge ≤ n →
    w.passkeyChallenges.find? (A.challengeId n) = none) : ChallengeLedger A req ⟨w, []⟩ where
  unused := hnew
  drawn := fun _ _ _ _ _ h => absurd h List.not_mem_nil
  issuer := fun _ _ _ _ _ h => absurd h List.not_mem_nil
  entry := fun _ _ _ _ _ h => absurd h List.not_mem_nil
  gone := fun _ _ _ h => absurd h List.not_mem_nil
  once := fun _ => Nat.zero_le 1
  own := fun _ _ _ h => absurd h List.not_mem_nil
  matched := fun _ _ _ _ _ h => absurd h List.not_mem_nil

theorem ChallengeLedger.shrink (h : ChallengeLedger A req ⟨w, marks⟩) (hw : StoreShrinks w w') :
    ChallengeLedger A req ⟨w', marks⟩ where
  unused := fun n hn => hw.find?_none (h.unused n (Nat.le_trans hw.next hn))
  drawn := fun j id type userId t hm =>
    (h.drawn j id type userId t hm).imp fun _ hn => ⟨Nat.lt_of_lt_of_le hn.1 hw.next, hn.2⟩
  issuer := fun j id type userId t hm => by
    obtain ⟨hon, hstores, ht⟩ := h.issuer j id type userId t hm
    exact ⟨hon, hstores, Int.le_trans ht hw.now⟩
  entry := fun j id type userId t hm e he =>
    h.entry j id type userId t hm e (hw.challenges id e he)
  gone := fun i id t hm => by
    obtain ⟨hnone, hnew⟩ := h.gone i id t hm
    exact ⟨hw.find?_none hnone, fun n hn => hnew n (Nat.le_trans hw.next hn)⟩
  once := h.once
  own := h.own
  matched := h.matched

theorem ChallengeLedger.refused {id : String} (h : ChallengeLedger A req ⟨w, marks⟩) :
    ChallengeLedger A req ⟨w, .refused i id :: marks⟩ where
  unused := h.unused
  drawn := fun j id' type userId t hm =>
    h.drawn j id' type userId t ((List.mem_cons.1 hm).resolve_left nofun)
  issuer := fun j id' type userId t hm =>
    h.issuer j id' type userId t ((List.mem_cons.1 hm).resolve_left nofun)
  entry := fun j id' type userId t hm =>
    h.entry j id' type userId t ((List.mem_cons.1 hm).resolve_left nofun)
  gone := fun j id' t hm => h.gone j id' t ((List.mem_cons.1 hm).resolve_left nofun)
  once := h.once
  own := fun j id' t hm => h.own j id' t ((List.mem_cons.1 hm).resolve_left nofun)
  matched := fun j id' type userId t₀ hm k t hk =>
    h.matched j id' type userId t₀ ((List.mem_cons.1 hm).resolve_left nofun) k t
      ((List.mem_cons.1 hk).resolve_left nofun)

/-- A finish call passes the check: the challenge was there, and nobody had passed it. -/
theorem ChallengeLedger.passed {id : String} {e : StoredPasskeyChallenge}
    (h : ChallengeLedger A req ⟨w, marks⟩) (hfound : w.challenge id = some e)
    (haccepts : (req i).accepts (some e) = true) (hown : (req i).challengeId? = some id)
    (hw : StoreShrinks w w') (hgone : w'.passkeyChallenges.find? id = none) :
    ChallengeLedger A req ⟨w', .passed i id w.now :: marks⟩ := by
  obtain ⟨hstored, hlive⟩ := Option.filter_eq_some_iff.1 hfound
  have hnobody : ∀ j t, .passed j id t ∉ marks := fun j t hm => by
    have hnone := (h.gone j id t hm).1
    rw [hstored] at hnone
    cases hnone
  have hshrunk := h.shrink hw
  refine ⟨hshrunk.unused, fun j id' type userId t hm => ?_, fun j id' type userId t hm => ?_,
    fun j id' type userId t hm => ?_, fun j id' t hm => ?_, fun id' => ?_, fun j id' t hm => ?_,
    fun j id' type userId t₀ hm k t hk => ?_⟩
  · exact hshrunk.drawn j id' type userId t ((List.mem_cons.1 hm).resolve_left nofun)
  · exact hshrunk.issuer j id' type userId t ((List.mem_cons.1 hm).resolve_left nofun)
  · exact hshrunk.entry j id' type userId t ((List.mem_cons.1 hm).resolve_left nofun)
  · rcases List.mem_cons.1 hm with heq | hm
    · cases heq
      refine ⟨hgone, fun n hn heq => ?_⟩
      have hnone := h.unused n (Nat.le_trans hw.next hn)
      rw [heq, hstored] at hnone
      cases hnone
    · exact hshrunk.gone j id' t hm
  · by_cases hid : id = id'
    · subst hid
      have hnil : passedBy id marks = [] := by
        rw [List.eq_nil_iff_forall_not_mem]
        intro j hj
        obtain ⟨t, ht⟩ := mem_passedBy.1 hj
        exact hnobody j t ht
      have hone : passedBy id (.passed i id w.now :: marks) = i :: passedBy id marks := by
        simp [passedBy, ChallengeMark.passer]
      rw [hone, hnil]
      exact Nat.le_refl 1
    · have hsame : passedBy id' (.passed i id w.now :: marks) = passedBy id' marks := by
        simp [passedBy, ChallengeMark.passer, hid]
      rw [hsame]
      exact h.once id'
  · rcases List.mem_cons.1 hm with heq | hm
    · cases heq
      exact hown
    · exact h.own j id' t hm
  · have hm' := (List.mem_cons.1 hm).resolve_left nofun
    rcases List.mem_cons.1 hk with heq | hk
    · cases heq
      obtain ⟨htype, huser, hexpires⟩ := h.entry j id type userId t₀ hm' e hstored
      obtain ⟨-, hstores, ht₀⟩ := h.issuer j id type userId t₀ hm'
      refine ⟨PasskeyRequest.finishes_of_accepts ?_ haccepts, ht₀, ?_⟩
      · rw [htype, huser]
        exact hstores
      · rw [← hexpires]
        exact of_decide_eq_true hlive
    · exact h.matched j id' type userId t₀ hm' k t hk

/-- A challenge is issued under an id that was never used. -/
theorem ChallengeLedger.issued {challenge : String} {type : PasskeyChallengeType}
    {userId : Option ℕ} (hfresh : Function.Injective A.challengeId)
    (h : ChallengeLedger A req ⟨w, marks⟩) (hon : A.passkeyConfig.enabled = true)
    (hstores : (req i).Stores type userId) :
    ChallengeLedger A req ⟨w.storeChallenge A challenge type userId,
      .issued i (A.challengeId w.nextChallenge) type userId w.now :: marks⟩ := by
  have hnext : (w.storeChallenge A challenge type userId).nextChallenge =
      w.nextChallenge + 1 := rfl
  have hother : ∀ n, w.nextChallenge + 1 ≤ n → A.challengeId w.nextChallenge ≠ A.challengeId n :=
    fun n hn heq => Nat.ne_of_lt hn (hfresh heq)
  have hpassed : ∀ j t, .passed j (A.challengeId w.nextChallenge) t ∉ marks := fun j t hm =>
    (h.gone j _ t hm).2 w.nextChallenge (Nat.le_refl _) rfl
  refine ⟨fun n hn => ?_, fun j id' type' userId' t hm => ?_, fun j id' type' userId' t hm => ?_,
    fun j id' type' userId' t hm e he => ?_, fun j id' t hm => ?_, h.once,
    fun j id' t hm => h.own j id' t ((List.mem_cons.1 hm).resolve_left nofun),
    fun j id' type' userId' t₀ hm k t hk => ?_⟩
  · rw [World.find?_storeChallenge, if_neg (hother n hn)]
    exact h.unused n (Nat.le_of_succ_le hn)
  · rcases List.mem_cons.1 hm with heq | hm
    · cases heq
      exact ⟨w.nextChallenge, Nat.lt_succ_self _, rfl⟩
    · exact (h.drawn j id' type' userId' t hm).imp fun _ hn => ⟨Nat.lt_succ_of_lt hn.1, hn.2⟩
  · rcases List.mem_cons.1 hm with heq | hm
    · cases heq
      exact ⟨hon, hstores, Int.le_refl _⟩
    · exact h.issuer j id' type' userId' t hm
  · rw [World.find?_storeChallenge] at he
    rcases List.mem_cons.1 hm with heq | hm
    · cases heq
      rw [if_pos rfl] at he
      cases he
      exact ⟨rfl, rfl, rfl⟩
    · obtain ⟨n, hn, rfl⟩ := h.drawn j id' type' userId' t hm
      rw [if_neg fun heq => Nat.ne_of_gt hn (hfresh heq)] at he
      exact h.entry j _ type' userId' t hm e he
  · obtain ⟨hnone, hnew⟩ := h.gone j id' t ((List.mem_cons.1 hm).resolve_left nofun)
    refine ⟨?_, fun n hn => hnew n (Nat.le_of_succ_le hn)⟩
    rw [World.find?_storeChallenge, if_neg (hnew w.nextChallenge (Nat.le_refl _))]
    exact hnone
  · have hk' := (List.mem_cons.1 hk).resolve_left nofun
    rcases List.mem_cons.1 hm with heq | hm
    · cases heq
      exact absurd hk' (hpassed k t)
    · exact h.matched j id' type' userId' t₀ hm k t hk'

/-- Consuming a challenge removes it from the store. -/
theorem storeShrinks_consume (A : PasskeyEnv) (id : String) (w : World) :
    StoreShrinks w ((auth (.challengeConsume id)).effect A w) ∧
      ((auth (.challengeConsume id)).effect A w).passkeyChallenges.find? id = none := by
  have hfind : ∀ id', ((auth (.challengeConsume id)).effect A w).passkeyChallenges.find? id' =
      (w.passkeyChallenges.find? id').filter fun e => !decide (e.challengeId = id) :=
    fun id' => Table.find?_deleteMany _ _ _
  refine ⟨⟨fun id' e he => ?_, Nat.le_refl _, Int.le_refl _⟩, ?_⟩
  · rw [hfind] at he
    exact (Option.filter_eq_some_iff.1 he).1
  · rw [hfind, Option.filter_eq_none_iff]
    intro e he
    simp [Table.key_of_find? he]

theorem ChallengeLedger.call {l : PasskeyCall} {s : ChallengeSnapshot ι}
    (hfresh : Function.Injective A.challengeId) (h : ChallengeLedger A req s)
    (hper : CeremonyPermits A req i l) :
    ChallengeLedger A req (s.after (challengeMark A req) i l (l.effect A)) := by
  rcases challenge_cases A req i l s.state with ⟨challenge, type, userId, rfl⟩ | ⟨id, rfl⟩ |
    ⟨hmark, hsame⟩
  · obtain ⟨hon, hstores⟩ := hper.1 challenge type userId rfl
    exact h.issued hfresh hon hstores
  · obtain ⟨hshrinks, hgone⟩ := storeShrinks_consume A id s.state
    have hown := hper.2 id rfl
    unfold Snapshot.after
    dsimp only [challengeMark]
    split
    next haccepts =>
      cases hfound : s.state.challenge id with
      | none =>
          rw [hfound] at haccepts
          cases hreq : req i <;> rw [hreq] at haccepts <;> cases haccepts
      | some e =>
          rw [hfound] at haccepts
          exact h.passed hfound haccepts hown hshrinks hgone
    next => exact (h.shrink hshrinks).refused
  · unfold Snapshot.after
    rw [hmark]
    exact h.shrink hsame.shrinks

end Ledger

end FifiAlert
