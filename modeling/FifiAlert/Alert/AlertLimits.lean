import FifiAlert.Alert.RateLimitService
import Mathlib.Data.Fintype.Card

/-!
# The limits hold for creations in turn

The calls of the rate limiter for one user, in any number and any interleaving, at any times and
with any commands failing. As long as the creations are recorded in turn, no window of an hour, a
day or a week has more admitted calls than its limit (`alertLimits_enforced`).
-/

namespace FifiAlert

open Concurrency Store RateLimitService

/-- How many of the timestamps are in the window from `a`. -/
def countFrom (a : Time) (windowMs : ℤ) (ts : List Time) : ℕ :=
  ts.countP fun t => a ≤ t && t ≤ a + windowMs

theorem windowMs_le {E : RateLimitEnv} {window : RateWindow} (h : window ∈ (limits E).windows) :
    window.windowMs ≤ weekMs := by
  simp only [RateLimits.windows, limits, List.mem_cons, List.not_mem_nil, or_false] at h
  rcases h with rfl | rfl | rfl <;> simp [weekMs]

@[simp] theorem redis_setKey (w : World) (key : String) (k : Expiring Time Time String) :
    (w.setKey key k).redis key = k := Function.update_self ..

theorem redis_setKey_of_ne (w : World) {key key' : String} (k : Expiring Time Time String)
    (h : key' ≠ key) : (w.setKey key' k).redis key = w.redis key := Function.update_of_ne h.symm ..

section Ledger

variable {ι : Type*} [DecidableEq ι] {E : RateLimitEnv} {key : String}

/-- A timestamp that no later creation has left behind by a week. -/
def Recent (marks : List (RateMark ι)) (t : Time) : Prop :=
  ∀ t' ∈ recordedTimes marks, t' < t + weekMs

/-- The invariant of the key of a user: the recent timestamps are in the set, apart from those
that were lost with the key, and no window is overfull. -/
structure RateLedger (E : RateLimitEnv) (key : String) (s : RateSnapshot ι) : Prop where
  kept : InTurn s.marks → ∀ t ∈ recordedTimes s.marks, t ∉ lostTimes s.marks → Recent s.marks t →
    (t, toString t) ∈ (s.state.redis key).set.entries
  within : InTurn s.marks → ∀ window ∈ (limits E).windows, ∀ a,
    countFrom a window.windowMs (recordedTimes s.marks) ≤ window.count.toNat

/-- What a thread that has asked at `t` knows after its read: if the timestamp can be recorded
in turn, each window that ends with it has room. -/
def HasRoom (E : RateLimitEnv) (i : ι) (t : Time) (s : RateSnapshot ι) : Prop :=
  quietSince (RateMark.isRead i) RateMark.isRecorded s.marks = true → InTurn s.marks →
    (∀ t' ∈ recordedTimes s.marks, t' < t) → (∀ t' ∈ lostTimes s.marks, t' + weekMs < t) →
      ∀ window ∈ (limits E).windows,
        ((recordedTimes s.marks).countP (fun t' => t - window.windowMs ≤ t') : ℤ) < window.count

/-- A timestamp is recorded by a thread that has found room for it, and what is removed is a week
older than a recorded timestamp. -/
def MayCommand (E : RateLimitEnv) (key : String) (i : ι) (l : RateLimitCall) (s : RateSnapshot ι) :
    Prop :=
  (∀ score member, l = .zadd key score member → member = toString score ∧ HasRoom E i score s) ∧
    ∀ max, l = .zremrangebyscore key max → ∃ t ∈ recordedTimes s.marks, max = t - weekMs

variable {i : ι} {w w' : World} {marks : List (RateMark ι)} {s : RateSnapshot ι} {t : Time}

theorem RateLedger.init (E : RateLimitEnv) (key : String) (w : World) :
    RateLedger (ι := ι) E key ⟨w, []⟩ where
  kept := fun _ _ h => absurd h List.not_mem_nil
  within := fun _ _ _ _ => Nat.zero_le _

/-- A command that records nothing and keeps the recent timestamps. -/
theorem RateLedger.silent (h : RateLedger E key ⟨w, marks⟩) (new : Option (RateMark ι))
    (hnew : ∀ m, new = some m → m.timestamp? = none)
    (hentry : ∀ t ∈ recordedTimes marks, t ∉ lostTimes (new.toList ++ marks) → Recent marks t →
      (t, toString t) ∈ (w.redis key).set.entries →
        (t, toString t) ∈ (w'.redis key).set.entries) :
    RateLedger E key ⟨w', new.toList ++ marks⟩ := by
  have htimes : recordedTimes (new.toList ++ marks) = recordedTimes marks :=
    recordedTimes_append hnew
  constructor
  · intro hturn t ht hlost hrecent
    have hrecent' : Recent marks t := fun t' ht' => hrecent t' (htimes ▸ ht')
    dsimp only at ht
    rw [htimes] at ht
    exact hentry t ht hlost hrecent' (h.kept (hturn.of_append hnew) t ht
      (fun hl => hlost (lostTimes_append hl)) hrecent')
  · intro hturn
    dsimp only
    rw [htimes]
    exact h.within (hturn.of_append hnew)

/-- A write to the key of another user. -/
theorem RateLedger.elsewhere (h : RateLedger E key ⟨w, marks⟩) {key' : String} (hkey : key' ≠ key)
    (k : Expiring Time Time String) : RateLedger E key ⟨w.setKey key' k, marks⟩ :=
  h.silent none nofun fun t _ _ _ hin => by rw [redis_setKey_of_ne w k hkey]; exact hin

theorem countFrom_cons_le {window : RateWindow} {ts : List Time} {a : Time}
    (hold : countFrom a window.windowMs ts ≤ window.count.toNat)
    (hroom : (ts.countP (fun t' => t - window.windowMs ≤ t') : ℤ) < window.count) :
    countFrom a window.windowMs (t :: ts) ≤ window.count.toNat := by
  unfold countFrom at hold ⊢
  rw [List.countP_cons]
  split
  next hin =>
    simp only [Bool.and_eq_true, decide_eq_true_eq] at hin
    have hle : ts.countP (fun t' => decide (a ≤ t') && decide (t' ≤ a + window.windowMs)) ≤
        ts.countP fun t' => t - window.windowMs ≤ t' := by
      refine List.countP_mono_left fun t' _ ht' => ?_
      simp only [Bool.and_eq_true, decide_eq_true_eq] at ht' ⊢
      exact Int.le_trans (Int.sub_right_le_of_le_add hin.2) ht'.1
    omega
  next => exact hold

/-- A timestamp for which there is room. -/
theorem RateLedger.recorded {ranOut : Bool} (h : RateLedger E key ⟨w, marks⟩)
    (hroom : HasRoom E i t ⟨w, marks⟩)
    (hadded : (t, toString t) ∈ (w'.redis key).set.entries)
    (hentry : ∀ t' ∈ recordedTimes marks, t' ∉ lostTimes (.recorded i t ranOut :: marks) → t' < t →
      (t', toString t') ∈ (w.redis key).set.entries →
        (t', toString t') ∈ (w'.redis key).set.entries) :
    RateLedger E key ⟨w', .recorded i t ranOut :: marks⟩ where
  kept := by
    rintro ⟨⟨hquiet, hlater, hlost⟩, hturn⟩ t' ht' hkept hrecent
    rcases List.mem_cons.1 ht' with rfl | ht'
    · exact hadded
    · refine hentry t' ht' hkept (hlater t' ht') (h.kept hturn t' ht' ?_ ?_)
      · exact fun hl => hkept (lostTimes_cons hl)
      · exact fun t'' ht'' => hrecent t'' (List.mem_cons_of_mem t ht'')
  within := by
    rintro ⟨⟨hquiet, hlater, hlost⟩, hturn⟩ window hwindow a
    exact countFrom_cons_le (h.within hturn window hwindow a)
      (hroom hquiet hturn hlater hlost window hwindow)

theorem mem_removeUpTo {k : Expiring Time Time String} {now max t : Time}
    (hlive : k.hasRunOut now = false) (hmax : max < t)
    (h : (t, toString t) ∈ k.set.entries) :
      (t, toString t) ∈ (k.removeUpTo now max).set.entries := by
  have hmem : (t, toString t) ∈ (k.set.removeUpTo max).entries :=
    SortedSet.mem_removeUpTo.2 ⟨h, hmax⟩
  unfold Expiring.removeUpTo
  rw [Expiring.live_of_not_hasRunOut hlive]
  dsimp only
  rw [if_neg (by rw [List.isEmpty_iff]; exact List.ne_nil_of_mem hmem)]
  exact hmem

theorem mem_expire {k : Expiring Time Time String} {now at' : Time} {e : Time × String}
    (hlive : k.hasRunOut now = false) (h : e ∈ k.set.entries) :
    e ∈ (k.expire now at').set.entries := by
  unfold Expiring.expire
  rw [Expiring.live_of_not_hasRunOut hlive]
  dsimp only
  split <;> exact h

theorem toString_ne {t t' : Time} (h : t ≠ t') : toString t ≠ toString t' := by
  intro heq
  have hparse := congrArg Js.parseInt heq
  rw [Js.parseInt_toString_int, Js.parseInt_toString_int] at hparse
  exact h (Option.some.inj hparse)

theorem mem_zadd {k : Expiring Time Time String} {now score t : Time}
    (hlive : k.hasRunOut now = false) (hne : t ≠ score) (h : (t, toString t) ∈ k.set.entries) :
    (t, toString t) ∈ (k.add now score (toString score)).set.entries := by
  unfold Expiring.add
  rw [Expiring.live_of_not_hasRunOut hlive]
  exact SortedSet.mem_add.2 (.inr ⟨h, toString_ne hne⟩)

theorem RateLedger.call {l : RateLimitCall} (h : RateLedger E key s)
    (hmay : MayCommand E key i l s) :
    RateLedger E key (s.after (rateMark key) i l l.effect) := by
  obtain ⟨w, marks⟩ := s
  cases l with
  | dateNow => exact h.silent (some _) (fun m hm => by cases hm; rfl) fun _ _ _ _ hin => hin
  | zrangebyscore key' =>
      refine h.silent _ (fun m hm => ?_) fun _ _ _ _ hin => hin
      obtain ⟨-, hm⟩ := Option.ite_none_right_eq_some.1 hm
      cases hm
      rfl
  | zadd key' score member =>
      by_cases hkey : key' = key
      · subst hkey
        obtain ⟨rfl, hroom⟩ := hmay.1 score member rfl
        have hmark : rateMark key' i (.zadd key' score (toString score)) w =
            some (.recorded i score ((w.redis key').hasRunOut w.now)) := if_pos rfl
        unfold Snapshot.after
        rw [hmark]
        refine h.recorded hroom ?_ fun t' ht' hlost hlt hin => ?_
        · dsimp only [RateLimitCall.effect]
          rw [redis_setKey]
          exact SortedSet.mem_add.2 (.inl rfl)
        · dsimp only [RateLimitCall.effect]
          rw [redis_setKey]
          exact mem_zadd (ranOut_of_not_lost ht' hlost) (Int.ne_of_lt hlt) hin
      · have hmark : rateMark key i (.zadd key' score member) w = none := if_neg hkey
        unfold Snapshot.after
        rw [hmark]
        exact h.elsewhere hkey _
  | zremrangebyscore key' max =>
      by_cases hkey : key' = key
      · subst hkey
        obtain ⟨t₀, ht₀, rfl⟩ := hmay.2 max rfl
        have hmark : rateMark key' i (.zremrangebyscore key' (t₀ - weekMs)) w =
            some (.touched i ((w.redis key').hasRunOut w.now)) := if_pos rfl
        unfold Snapshot.after
        rw [hmark]
        refine h.silent (some _) (fun m hm => by cases hm; rfl) fun t ht hlost hrecent hin => ?_
        dsimp only [RateLimitCall.effect]
        rw [redis_setKey]
        exact mem_removeUpTo (ranOut_of_not_lost ht hlost)
          (Int.sub_right_lt_of_lt_add (hrecent t₀ ht₀)) hin
      · have hmark : rateMark key i (.zremrangebyscore key' max) w = none := if_neg hkey
        unfold Snapshot.after
        rw [hmark]
        exact h.elsewhere hkey _
  | expire key' seconds =>
      by_cases hkey : key' = key
      · subst hkey
        have hmark : rateMark key' i (.expire key' seconds) w =
            some (.touched i ((w.redis key').hasRunOut w.now)) := if_pos rfl
        unfold Snapshot.after
        rw [hmark]
        refine h.silent (some _) (fun m hm => by cases hm; rfl) fun t ht hlost _ hin => ?_
        dsimp only [RateLimitCall.effect]
        rw [redis_setKey]
        exact mem_expire (ranOut_of_not_lost ht hlost) hin
      · have hmark : rateMark key i (.expire key' seconds) w = none := if_neg hkey
        unfold Snapshot.after
        rw [hmark]
        exact h.elsewhere hkey _

end Ledger

section Read

variable {ι : Type*} [DecidableEq ι] {E : RateLimitEnv} {key : String} {i : ι} {w : World}
  {marks : List (RateMark ι)} {t : Time}

theorem length_inWindow (timestamps : List (Option Time)) (cutoff : Time) :
    (inWindow timestamps cutoff).length =
      timestamps.countP fun t => (t.filter (cutoff ≤ ·)).isSome := by
  unfold inWindow
  rw [List.length_filterMap_eq_countP]

/-- The recent timestamps are among those that are read. -/
theorem RateLedger.read_mem (h : RateLedger E key ⟨w, marks⟩) {ranOut : Bool}
    (hran : ranOut = (w.redis key).hasRunOut w.now) (hturn : InTurn marks)
    (hlater : ∀ t' ∈ recordedTimes marks, t' < t)
    (hlost : ∀ t' ∈ lostTimes (.read i ranOut :: marks), t' + weekMs < t) {t' : Time}
    (ht' : t' ∈ recordedTimes marks) (hweek : t ≤ t' + weekMs) :
    toString t' ∈ ((w.redis key).live w.now).set.members := by
  have hkept : t' ∉ lostTimes (.read i ranOut :: marks) := fun hl =>
    absurd (hlost t' hl) (Int.not_lt.2 hweek)
  have hlive : (w.redis key).hasRunOut w.now = false := hran ▸ ranOut_of_not_lost ht' hkept
  rw [Expiring.live_of_not_hasRunOut hlive]
  exact List.mem_map_of_mem (f := Prod.snd) (h.kept hturn t' ht'
    (fun hl => hkept (lostTimes_cons hl))
      fun t'' ht'' => Int.lt_of_lt_of_le (hlater t'' ht'') hweek)

/-- A check that passes has found room. -/
theorem RateLedger.hasRoom (h : RateLedger E key ⟨w, marks⟩) {ranOut : Bool}
    (hran : ranOut = (w.redis key).hasRunOut w.now)
    (hpass : ∀ window ∈ (limits E).windows, (countInWindow
      (((w.redis key).live w.now).set.members.map Js.parseInt) t window.windowMs : ℤ) <
        window.count) :
    HasRoom E i t ⟨w, .read i ranOut :: marks⟩ := by
  intro _ hturn hlater hlost window hwindow
  refine Int.lt_of_le_of_lt (Int.ofNat_le.2 ?_) (hpass window hwindow)
  have hle := windowMs_le hwindow
  have hmem : ∀ t' ∈ recordedTimes marks, t - window.windowMs ≤ t' →
      toString t' ∈ ((w.redis key).live w.now).set.members := fun t' ht' hin =>
    h.read_mem hran hturn hlater hlost ht'
      (Int.le_trans (Int.le_add_of_sub_right_le hin) (Int.add_le_add_left hle t'))
  unfold countInWindow
  rw [length_inWindow, List.countP_map, List.countP_eq_length_filter, List.countP_eq_length_filter,
    ← List.length_map (f := fun t' : Time => toString t')]
  apply List.Subperm.length_le
  apply List.subperm_of_subset
  · refine List.Nodup.map (fun t₁ t₂ heq => ?_) (List.Nodup.filter _ (InTurn.nodup hturn))
    by_contra hne
    exact toString_ne hne heq
  · intro text htext
    obtain ⟨t', ht', rfl⟩ := List.mem_map.1 htext
    obtain ⟨ht', hin⟩ := List.mem_filter.1 ht'
    refine List.mem_filter.2 ⟨hmem t' ht' (of_decide_eq_true hin), ?_⟩
    rw [Function.comp_apply, Js.parseInt_toString_int]
    simpa using hin

end Read

section Protocol

variable {ι : Type*} [DecidableEq ι]

/-- The surroundings: time passes, and the others leave the key of the user. -/
def rateSetting {ι : Type*} (key : String) (fails : RateLimitCall → Prop) :
    Setting ι World RateLimitCall (RateMark ι) where
  mark := rateMark key
  env := fun w w' => w'.redis key = w.redis key
  mayFail := fails
  admits := fun _ _ _ => True

/-- The protocol of the creations of a user. -/
def rateProtocol (E : RateLimitEnv) (key : String) (fails : RateLimitCall → Prop) :
    Protocol (rateSetting (ι := ι) key fails) where
  effect := RateLimitCall.effect
  permits := MayCommand E key
  inv := RateLedger E key
  inv_call := fun hinv hper _ => hinv.call hper
  inv_env := fun henv hinv => hinv.silent none nofun fun _ _ _ _ hin => by rw [henv]; exact hin

variable {E : RateLimitEnv} {key : String} {fails : RateLimitCall → Prop} {i : ι} {t : Time}
  {s : RateSnapshot ι}

/-- A thread that has found room knows it until it reads again. -/
theorem lasting_hasRoom :
    (rateProtocol E key fails).Lasting i (RateMark.isRead i) (HasRoom E i t) where
  call := by
    intro j l s _ _ _ hask h hquiet hturn hlater hlost
    obtain ⟨hgood, hquiet'⟩ := (quietSince_append hask).1 hquiet
    have hnew : ∀ m, rateMark key j l s.state = some m → m.timestamp? = none := fun m hm =>
      Option.isSome_eq_false_iff.1 (hgood m hm) |> Option.isNone_iff_eq_none.1
    have htimes : recordedTimes ((rateMark key j l s.state).toList ++ s.marks) =
        recordedTimes s.marks := recordedTimes_append hnew
    intro window hwindow
    have hroom := h hquiet' (InTurn.of_append hnew hturn) (fun t' ht' => hlater t' (htimes ▸ ht'))
      (fun t' ht' => hlost t' (lostTimes_append ht')) window hwindow
    change ((recordedTimes ((rateMark key j l s.state).toList ++ s.marks)).countP _ : ℤ) < _
    rw [htimes]
    exact hroom
  env := fun _ _ _ _ _ h => h
  own := by
    intro j l w m hm hask
    have hthread := thread_rateMark hm
    cases m with
    | read j' r => exact hthread.symm.trans (of_decide_eq_true hask)
    | _ => cases hask

/-- A thread that has asked for the time once has that time until it asks again. -/
def AskedAt (i : ι) (t : Time) (s : RateSnapshot ι) : Prop :=
  ∀ t', .asked i t' ∈ s.marks → t' = t

theorem lasting_askedAt :
    (rateProtocol E key fails).Lasting i (RateMark.isAsked i) (AskedAt i t) where
  call := by
    intro j l s _ _ _ hask h t' ht'
    rcases Snapshot.mem_after.1 ht' with hnew | hold
    · have hfalse := hask _ hnew
      simp [RateMark.isAsked] at hfalse
    · exact h t' hold
  env := fun _ _ _ _ _ h => h
  own := by
    intro j l w m hm hask
    have hthread := thread_rateMark hm
    cases m with
    | asked j' t' => exact hthread.symm.trans (of_decide_eq_true hask)
    | _ => cases hask

end Protocol

section Threads

variable {ι : Type*} [DecidableEq ι] {E : RateLimitEnv} {userId : ℕ}
  {fails : RateLimitCall → Prop} {i : ι} {t : Time} {s : RateSnapshot ι}

/-- The thread has recorded the time it was given. -/
def Recorded (i : ι) (t : Time) (s : RateSnapshot ι) : Prop :=
  ∃ r, .recorded i t r ∈ s.marks

omit [DecidableEq ι] in
theorem Recorded.after {key : String} {j : ι} (h : Recorded i t s) (l : RateLimitCall)
    (next : World → World) : Recorded i t (s.after (rateMark key) j l next) :=
  h.imp fun _ hm => Snapshot.mem_after_of_mem hm

theorem lasting_recorded {key : String} :
    (rateProtocol E key fails).Lasting i (fun m => RateMark.isAsked i m || false)
      (fun s => AskedAt i t s ∧ Recorded i t s) :=
  lasting_askedAt.and (.of_kept (fun _ l _ _ _ _ h => h.after l _) fun _ _ _ _ _ h => h)

/-- A call that has returned has recorded the one time it was given. -/
def Admitted (i : ι) (s : RateSnapshot ι) : Prop :=
  ∃ t, AskedAt i t s ∧ Recorded i t s

omit [DecidableEq ι] in
/-- The commands that follow do not ask again. -/
theorem AskedAt.after {key : String} (h : AskedAt i t s) (l : RateLimitCall) (hl : l ≠ .dateNow)
    (next : World → World) : AskedAt i t (s.after (rateMark key) i l next) := by
  intro t' ht'
  rcases Snapshot.mem_after.1 ht' with hnew | hold
  · cases l with
    | dateNow => exact absurd rfl hl
    | _ => exact absurd (Option.ite_none_right_eq_some.1 hnew).2 nofun
  · exact h t' hold

theorem safe_recordAlertCreation (hs : AskedAt i t s ∧ HasRoom E i t s) :
    Safe (rateProtocol E (limitKey userId) fails).contract i (OnReturn fun _ s' => Admitted i s')
      (recordAlertCreation (limits E) userId t) s := by
  unfold recordAlertCreation RateLimitCall.send
  refine (lasting_askedAt.and lasting_hasRoom).call_bind hs rfl
    (fun s₁ _ _ hs₁ => ⟨fun score member hl => ?_, nofun⟩) (fun s₁ _ hs₁ => ?_)
    fun _ _ _ _ => trivial
  · cases hl
    exact ⟨rfl, hs₁.2⟩
  have hrecorded : Recorded i t (s₁.after (rateMark (limitKey userId)) i
      (.zadd (limitKey userId) t (toString t)) (RateLimitCall.zadd (limitKey userId) t
        (toString t)).effect) := ⟨_, Snapshot.mem_after.2 (.inl (if_pos rfl))⟩
  refine lasting_recorded.call_bind
    ⟨hs₁.1.after (.zadd (limitKey userId) t (toString t)) nofun _, hrecorded⟩ rfl
    (fun s₂ _ _ hs₂ => ⟨nofun, fun max hl => ?_⟩) (fun s₂ _ hs₂ => ?_) fun _ _ _ _ => trivial
  · cases hl
    obtain ⟨r, hr⟩ := hs₂.2
    exact ⟨t, mem_recordedTimes.2 ⟨i, r, hr⟩, rfl⟩
  refine Protocol.safe_call rfl fun s₃ hr₃ _ =>
    ⟨fun _ => ⟨⟨nofun, nofun⟩, fun _ => ?_⟩, fun _ => ?_⟩
  · have hs₃ := lasting_recorded.stable
      ⟨hs₂.1.after (.zremrangebyscore (limitKey userId) (t - (limits E).weekly.windowMs)) nofun _,
        hs₂.2.after _ _⟩ hr₃
    exact lasting_recorded.ret ⟨hs₃.1.after (.expire (limitKey userId)
      (Rat.ceil ((limits E).weekly.windowMs / 1000) + 86400)) nofun _, hs₃.2.after _ _⟩
        fun s₄ _ hs₄ => ⟨t, hs₄⟩
  · exact fun _ _ _ => trivial

/-- What follows the read. -/
theorem safe_checkWindows {timestamps : List (Option Time)} (hs : AskedAt i t s)
    (hroom : (∀ window ∈ (limits E).windows,
      (countInWindow timestamps t window.windowMs : ℤ) < window.count) → HasRoom E i t s) :
    Safe (rateProtocol E (limitKey userId) fails).contract i (OnReturn fun _ s' => Admitted i s')
      (checkWindows (limits E) userId t timestamps) s := by
  unfold checkWindows
  dsimp only
  split
  · exact Safe.raise fun _ _ _ => trivial
  split
  · exact Safe.raise fun _ _ _ => trivial
  split
  · exact Safe.raise fun _ _ _ => trivial
  rename_i hhourly hdaily hweekly
  refine safe_recordAlertCreation ⟨hs, hroom fun window hwindow => ?_⟩
  rcases List.mem_cons.1 hwindow with rfl | hwindow
  · exact Int.not_le.1 hhourly
  rcases List.mem_cons.1 hwindow with rfl | hwindow
  · exact Int.not_le.1 hdaily
  · rw [List.mem_singleton.1 hwindow]
    exact Int.not_le.1 hweekly

theorem safe_checkAlertCreationLimit (hs : ∀ t, AskedAt i t s) :
    Safe (rateProtocol E (limitKey userId) fails).contract i (OnReturn fun _ s' => Admitted i s')
      (checkAlertCreationLimit (limits E) userId) s := by
  unfold checkAlertCreationLimit RateLimitCall.send
  refine (Protocol.Lasting.all fun t => lasting_askedAt).call_bind hs rfl
    (fun _ _ _ _ => ⟨nofun, nofun⟩) (fun s₁ _ hs₁ => ?_) fun _ _ _ _ => trivial
  have hasked : AskedAt i s₁.state.now
      (s₁.after (rateMark (limitKey userId)) i .dateNow RateLimitCall.dateNow.effect) := by
    intro t' ht'
    rcases Snapshot.mem_after.1 ht' with hnew | hold
    · cases hnew
      rfl
    · exact hs₁ _ t' hold
  refine Protocol.safe_onReturn_tryCatch (lasting_askedAt.call_bind hasked rfl
    (fun _ _ _ _ => ⟨nofun, nofun⟩) (fun s₂ hinv hs₂ => ?_) fun _ _ _ _ => trivial)
    fun _ _ => Protocol.safe_onReturn_raise
  refine safe_checkWindows (hs₂.after (.zrangebyscore (limitKey userId)) nofun _) fun hpass => ?_
  have hmarks : s₂.after (rateMark (limitKey userId)) i (.zrangebyscore (limitKey userId))
      (RateLimitCall.zrangebyscore (limitKey userId)).effect = ⟨s₂.state,
        .read i ((s₂.state.redis (limitKey userId)).hasRunOut s₂.state.now) :: s₂.marks⟩ :=
    Snapshot.ext rfl (by simp [Snapshot.after, rateMark])
  change HasRoom E i _ (s₂.after (rateMark (limitKey userId)) i (.zrangebyscore (limitKey userId))
    (RateLimitCall.zrangebyscore (limitKey userId)).effect)
  rw [hmarks]
  exact RateLedger.hasRoom hinv rfl hpass

end Threads

section Limits

variable {ι : Type*} [DecidableEq ι]

abbrev RatePool (ι : Type*) := Config ι World RateLimitCall AppError Unit (RateMark ι)

/-- Any number of calls for one user. -/
def ratePool (E : RateLimitEnv) (w : World) (userId : ℕ) : RatePool ι :=
  .init w fun _ => checkAlertCreationLimit (limits E) userId

/-- The call was admitted, at a time in the window from `a`. -/
def AdmittedIn (c : RatePool ι) (a : Time) (windowMs : ℤ) (i : ι) : Prop :=
  (c.pool i).result? = some (.ok ()) ∧ ∃ t, .asked i t ∈ c.marks ∧ a ≤ t ∧ t ≤ a + windowMs

/-- In no window are more calls admitted than its limit; a negative limit admits none. -/
def WithinLimits (L : RateLimits) (c : RatePool ι) : Prop :=
  ∀ window ∈ L.windows, ∀ a, ∀ S : Finset ι, (∀ i ∈ S, AdmittedIn c a window.windowMs i) →
    S.card ≤ window.count.toNat

/-- The calls of the rate limiter for one user, whatever its limits, from any state of the cache
server and with any commands failing: as long as the creations are recorded in turn, no window has
more admitted calls than its limit. -/
theorem alertLimits_enforced (E : RateLimitEnv) (fails : RateLimitCall → Prop) (w₀ : World)
    (userId : ℕ) {c : RatePool ι}
    (h : Reaches (rateSetting (limitKey userId) fails) (ratePool E w₀ userId) c)
    (hturn : InTurn c.marks) : WithinLimits (limits E) c := by
  have hsound : Sound (rateProtocol E (limitKey userId) fails).contract
      (fun i => OnReturn fun _ s' => Admitted i s') (ratePool (ι := ι) E w₀ userId) :=
    ⟨RateLedger.init E _ w₀, fun i => safe_checkAlertCreationLimit fun _ _ ht =>
      absurd ht List.not_mem_nil⟩
  have hc := hsound.reaches h
  have hledger : RateLedger E (limitKey userId) c.toSnapshot := hc.1
  intro window hwindow a S hS
  have hadmitted : ∀ i ∈ S, ∃ t, Recorded i t c.toSnapshot ∧ a ≤ t ∧ t ≤ a + window.windowMs := by
    intro i hi
    obtain ⟨hret, t, hasked, hin⟩ := hS i hi
    obtain ⟨t', ht', hrecorded⟩ := hc.result (Process.eq_ret_of_result? hret)
    obtain rfl := ht' t hasked
    exact ⟨t, hrecorded, hin⟩
  choose! time htime using hadmitted
  have hinj : Set.InjOn time S := by
    intro i hi j hj heq
    obtain ⟨r, hr⟩ := (htime i hi).1
    obtain ⟨r', hr'⟩ := (htime j hj).1
    exact hturn.thread_eq hr (heq ▸ hr')
  have hsub : S.image time ⊆ ((recordedTimes c.marks).filter fun t =>
      a ≤ t && t ≤ a + window.windowMs).toFinset := by
    intro t ht
    obtain ⟨i, hi, rfl⟩ := Finset.mem_image.1 ht
    obtain ⟨⟨r, hr⟩, hin⟩ := htime i hi
    rw [List.mem_toFinset, List.mem_filter]
    exact ⟨mem_recordedTimes.2 ⟨i, r, hr⟩, by simpa using hin⟩
  calc S.card = (S.image time).card := (Finset.card_image_of_injOn hinj).symm
    _ ≤ _ := Finset.card_le_card hsub
    _ ≤ _ := List.toFinset_card_le _
    _ = countFrom a window.windowMs (recordedTimes c.marks) :=
      (List.countP_eq_length_filter ..).symm
    _ ≤ window.count.toNat := hledger.within hturn window hwindow a

end Limits

section Runs

/-- Some commands, then the clock is set, and then some more. -/
def twoRounds {ι : Type*} [DecidableEq ι] (key : String) (c : RatePool ι) (is : List ι) (t : Time)
    (is' : List ι) : RatePool ι :=
  let c' := c.schedule (rateMark key) is
  ({ c' with state := c'.state.atTime t } : RatePool ι).schedule (rateMark key) is'

theorem reaches_twoRounds {ι : Type*} [DecidableEq ι] (key : String) (c : RatePool ι)
    (is : List ι) (t : Time) (is' : List ι) :
    Reaches (rateSetting key fun _ => False) c (twoRounds key c is t is') := by
  have hrun : ∀ (is : List ι) (c : RatePool ι),
      Reaches (rateSetting key fun _ => False) c (c.schedule (rateMark key) is) :=
    Reaches.schedule fun _ _ _ => trivial
  have hpause : Reaches (rateSetting key fun _ => False) c
      { c.schedule (rateMark key) is with
        state := (c.schedule (rateMark key) is).state.atTime t } :=
    (hrun is c).tail (.env rfl)
  exact hpause.trans (hrun is' _)

def hourlyLimit (limit : String) : RateLimitEnv where
  RATE_LIMIT_ALERTS_PER_HOUR := some limit

/-- One alert an hour: the second call comes a millisecond after the hour of the first. -/
def hourApart : RatePool (Fin 2) :=
  twoRounds (limitKey 1) (ratePool (hourlyLimit "1") {} 1) [0, 0, 0, 0, 0] 3600001 [1, 1, 1, 1, 1]

theorem alertLimits_enforced_hourApart :
    (∀ i, (hourApart.pool i).result? = some (.ok ())) ∧
      WithinLimits (limits (hourlyLimit "1")) hourApart :=
  ⟨by decide +kernel, alertLimits_enforced (hourlyLimit "1") (fun _ => False) {} 1
    (reaches_twoRounds _ _ _ _ _) (by decide +kernel)⟩

/-- One alert an hour: both calls read the timestamps before one of them is recorded. -/
def readTogether : RatePool (Fin 2) :=
  twoRounds (limitKey 1) (ratePool (hourlyLimit "1") {} 1) [0] 1000 [1, 0, 1, 0, 0, 0, 1, 1, 1]

/-- Two alerts an hour: three calls in turn, in one millisecond. -/
def sameMillisecond : RatePool (Fin 3) :=
  (ratePool (hourlyLimit "2") {} 1).schedule (rateMark (limitKey 1))
    [0, 0, 0, 0, 0, 1, 1, 1, 1, 1, 2, 2, 2, 2, 2]

/-- Calls that overtake one another, or that share a millisecond, exceed the limit. -/
theorem alertLimits_exceeded :
    (Reaches (rateSetting (limitKey 1) fun _ => False) (ratePool (hourlyLimit "1") {} 1)
      readTogether ∧ ¬ WithinLimits (limits (hourlyLimit "1")) readTogether) ∧
    (Reaches (rateSetting (limitKey 1) fun _ => False) (ratePool (hourlyLimit "2") {} 1)
      sameMillisecond ∧ ¬ WithinLimits (limits (hourlyLimit "2")) sameMillisecond) := by
  refine ⟨⟨reaches_twoRounds _ _ _ _ _, fun hwithin => ?_⟩,
    ⟨Reaches.schedule (fun _ _ _ => trivial) _ _, fun hwithin => ?_⟩⟩
  · have hcard := hwithin (limits (hourlyLimit "1")).hourly List.mem_cons_self 0 Finset.univ
      fun i _ =>
        ⟨by revert i; decide +kernel, if i = 0 then 0 else 1000, by revert i; decide +kernel⟩
    exact absurd hcard (by decide +kernel)
  · have hcard := hwithin (limits (hourlyLimit "2")).hourly List.mem_cons_self 0 Finset.univ
      fun i _ => ⟨by revert i; decide +kernel, 0, by revert i; decide +kernel⟩
    exact absurd hcard (by decide +kernel)

end Runs

end FifiAlert
