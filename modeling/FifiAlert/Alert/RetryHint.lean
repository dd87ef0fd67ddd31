import FifiAlert.Alert.AlertLimits

/-!
# The retry hint of the rate limiter

A call that finds a window full says after how many seconds the oldest timestamp in
it expires. The cutoff of a window belongs to the window, and a window may hold more
timestamps than its limit, so a call at that time finds room only if enough of the
timestamps are gone once the next whole second after the oldest one has come.
-/

namespace FifiAlert

open Concurrency Store

inductive LimitPeriod where
  | hourly
  | daily
  | weekly
  deriving DecidableEq

namespace LimitPeriod

def window (L : RateLimits) : LimitPeriod → RateWindow
  | hourly => L.hourly
  | daily => L.daily
  | weekly => L.weekly

def text : LimitPeriod → String
  | hourly => "hour"
  | daily => "24 hours"
  | weekly => "7 days"

end LimitPeriod

namespace RateLimitService

/-- The timestamps of a user, as a call reads them. -/
def recorded (userId : ℕ) (w : World) : List (Option Time) :=
  ((w.redis (limitKey userId)).live w.now).set.members.map Js.parseInt

/-- The exception of a window. -/
def rejection (L : RateLimits) (period : LimitPeriod) (s : ℕ) : AppError :=
  .rateLimitExceeded ("Alert creation limit exceeded: " ++
    toString (period.window L).count ++ " alerts per " ++ period.text) s

/-- A call is rejected because of a window, with a hint of `s` seconds. -/
def RejectedFor (E : RateLimitEnv) (userId : ℕ) (period : LimitPeriod) (w : World) (s : ℕ) : Prop :=
  (checkAlertCreationLimit (limits E) userId).run w = (.error (rejection (limits E) period s), w)

/-- A call that comes when the hint says finds room in the window. -/
def HonestHint (E : RateLimitEnv) (userId : ℕ) (period : LimitPeriod) : Prop :=
  ∀ (w w' : World) (s : ℕ), RejectedFor E userId period w s →
    recorded userId w' = recorded userId w → w'.now = w.now + s * 1000 →
    ¬ ∃ s', RejectedFor E userId period w' s'

/-- The first time from `oldest` on that is a whole number of seconds from `now`. -/
def wholeSecond (now oldest : Time) : Time := oldest + (now - oldest) % 1000

/-- The window holds a timestamp, and fewer than its limit are left once the first
whole second from the oldest one on has come. -/
def LeavesRoom (window : RateWindow) (timestamps : List (Option Time)) (now : Time) : Prop :=
  ∃ oldest ∈ inWindow timestamps (now - window.windowMs),
    (∀ t ∈ inWindow timestamps (now - window.windowMs), oldest ≤ t) ∧
      ((inWindow timestamps (wholeSecond now oldest)).length : ℤ) < window.count

def IsFull (window : RateWindow) (timestamps : List (Option Time)) (now : Time) : Prop :=
  window.count ≤ (countInWindow timestamps now window.windowMs : ℤ)

instance (window : RateWindow) (timestamps : List (Option Time)) (now : Time) :
    Decidable (IsFull window timestamps now) :=
  inferInstanceAs (Decidable (_ ≤ _))

/-- The first window that is full. -/
def firstFull (L : RateLimits) (timestamps : List (Option Time)) (now : Time) :
    Option LimitPeriod :=
  [.hourly, .daily, .weekly].find? fun period => IsFull (period.window L) timestamps now

section Rejection

variable {E : RateLimitEnv} {L : RateLimits} {userId : ℕ} {w : World} {s s' : ℕ}
  {timestamps : List (Option Time)} {now now' : Time} {period period' : LimitPeriod}

/-- The texts tell the windows apart, whatever the limits. -/
theorem text_ne {a b : String} (hne : period ≠ period') :
    a ++ period.text ≠ b ++ period'.text := by
  intro h
  have hrev := congrArg (fun s => s.toList.reverse) h
  cases period <;> cases period' <;> simp [LimitPeriod.text] at hrev hne

theorem rejection_inj :
    rejection L period s = rejection L period' s' ↔ period = period' ∧ s = s' := by
  constructor
  · intro h
    obtain ⟨htext, hs⟩ := AppError.rateLimitExceeded.inj h
    exact ⟨Decidable.byContradiction fun hne => text_ne hne htext, hs⟩
  · rintro ⟨rfl, rfl⟩
    rfl

theorem checkWindows_eq (L : RateLimits) (userId : ℕ) (now : Time)
    (timestamps : List (Option Time)) :
    checkWindows L userId now timestamps =
      match firstFull L timestamps now with
      | some period => .raise (rejection L period
          (getRetryAfter timestamps now (period.window L).windowMs))
      | none => recordAlertCreation L userId now := by
  by_cases hhour : IsFull L.hourly timestamps now
  · have hfirst : firstFull L timestamps now = some .hourly := by
      simp [firstFull, LimitPeriod.window, hhour]
    rw [hfirst]
    exact if_pos hhour
  · refine (if_neg hhour).trans ?_
    by_cases hday : IsFull L.daily timestamps now
    · have hfirst : firstFull L timestamps now = some .daily := by
        simp [firstFull, LimitPeriod.window, hhour, hday]
      rw [hfirst]
      exact if_pos hday
    · refine (if_neg hday).trans ?_
      by_cases hweek : IsFull L.weekly timestamps now
      · have hfirst : firstFull L timestamps now = some .weekly := by
          simp [firstFull, LimitPeriod.window, hhour, hday, hweek]
        rw [hfirst]
        exact if_pos hweek
      · have hfirst : firstFull L timestamps now = none := by
          simp [firstFull, LimitPeriod.window, hhour, hday, hweek]
        rw [hfirst]
        exact if_neg hweek

theorem run_checkAlertCreationLimit (L : RateLimits) (userId : ℕ) (w : World) :
    (checkAlertCreationLimit L userId).run w =
      (checkWindows L userId w.now (recorded userId w)).run w := by
  have hraise : ∀ p : RateLimitProcess Unit, (p.tryCatch .raise).run w = p.run w := by
    intro p
    rw [Process.run_tryCatch]
    split <;> simp_all
  unfold checkAlertCreationLimit RateLimitCall.send
  rw [Process.run_modify_bind]
  refine (hraise _).trans ?_
  rw [Process.run_modify_bind]
  rfl

/-- A call is rejected because of the first window that is full. -/
theorem rejectedFor_iff :
    RejectedFor E userId period w s ↔
      firstFull (limits E) (recorded userId w) w.now = some period ∧
        s = getRetryAfter (recorded userId w) w.now (period.window (limits E)).windowMs := by
  have hrecord : ((recordAlertCreation (limits E) userId w.now).run w).1 = .ok () := rfl
  rw [RejectedFor, run_checkAlertCreationLimit, checkWindows_eq]
  cases hfull : firstFull (limits E) (recorded userId w) w.now with
  | none =>
      constructor
      · intro h
        rw [h] at hrecord
        cases hrecord
      · rintro ⟨h, -⟩
        cases h
  | some first =>
      rw [Process.run_raise, Prod.mk.injEq, Except.error.injEq, rejection_inj, Option.some.injEq]
      constructor
      · rintro ⟨⟨rfl, rfl⟩, -⟩
        exact ⟨rfl, rfl⟩
      · rintro ⟨rfl, rfl⟩
        exact ⟨⟨rfl, rfl⟩, rfl⟩

end Rejection

section Later

variable {L : RateLimits} {timestamps : List (Option Time)} {now now' : Time}
  {period : LimitPeriod} {window : RateWindow}

theorem length_inWindow_mono {cutoff cutoff' : Time} (h : cutoff ≤ cutoff') :
    (inWindow timestamps cutoff').length ≤ (inWindow timestamps cutoff).length := by
  rw [length_inWindow, length_inWindow]
  apply List.countP_mono_left
  intro t _ ht
  cases t with
  | none => cases ht
  | some t =>
      simp only [Option.isSome_filter, Option.any_some, decide_eq_true_eq] at ht ⊢
      exact Int.le_trans h ht

/-- Nothing new makes a window full. -/
theorem IsFull.earlier (h : IsFull window timestamps now') (hle : now ≤ now') :
    IsFull window timestamps now :=
  Int.le_trans h (Int.ofNat_le.2 (length_inWindow_mono (Int.sub_le_sub_right hle _)))

/-- Until something new is recorded, no other window becomes the first full one. -/
theorem firstFull_later (hfirst : firstFull L timestamps now = some period) (hle : now ≤ now') :
    firstFull L timestamps now' = some period ↔ IsFull (period.window L) timestamps now' := by
  obtain ⟨-, before, after, hsplit, hbefore⟩ := List.find?_eq_some_iff_append.1 hfirst
  rw [firstFull, List.find?_eq_some_iff_append]
  simp only [decide_eq_true_eq]
  constructor
  · intro h
    exact h.1
  · intro h
    refine ⟨h, before, after, hsplit, fun p hp => ?_⟩
    have hnot : ¬ IsFull (p.window L) timestamps now := by simpa using hbefore p hp
    simpa using fun hfull : IsFull (p.window L) timestamps now' => hnot (hfull.earlier hle)

end Later

section Hint

variable {timestamps : List (Option Time)} {now oldest windowMs : ℤ}

theorem le_of_mem_inWindow {cutoff t : ℤ} (h : t ∈ inWindow timestamps cutoff) : cutoff ≤ t := by
  obtain ⟨x, -, hx⟩ := List.mem_filterMap.1 h
  exact of_decide_eq_true (Option.filter_eq_some_iff.1 hx).2

/-- The hint counts from the oldest timestamp of the window. -/
theorem getRetryAfter_of_oldest (hmem : oldest ∈ inWindow timestamps (now - windowMs))
    (hleast : ∀ t ∈ inWindow timestamps (now - windowMs), oldest ≤ t) :
    getRetryAfter timestamps now windowMs =
      (Rat.ceil ((oldest + windowMs - now : ℤ) / 1000)).toNat := by
  unfold getRetryAfter
  have hperm := List.mergeSort_perm (inWindow timestamps (now - windowMs)) (· ≤ ·)
  have hsorted := List.pairwise_mergeSort' (· ≤ ·) (inWindow timestamps (now - windowMs))
  cases hsort : (inWindow timestamps (now - windowMs)).mergeSort (· ≤ ·) with
  | nil =>
      rw [hsort] at hperm
      rw [hperm.nil_eq.symm] at hmem
      cases hmem
  | cons t ts =>
      rw [hsort] at hperm hsorted
      have hle : oldest ≤ t := hleast t (hperm.subset List.mem_cons_self)
      have hge : t ≤ oldest := by
        rcases List.mem_cons.1 (hperm.symm.subset hmem) with rfl | htail
        · exact le_rfl
        · exact (List.pairwise_cons.1 hsorted).1 oldest htail
      rw [le_antisymm hge hle]

theorem getRetryAfter_of_empty (hempty : inWindow timestamps (now - windowMs) = []) :
    getRetryAfter timestamps now windowMs = 0 := by
  rw [getRetryAfter, hempty, List.mergeSort_nil]

theorem thousand_mul_ceil (x : ℤ) : Rat.ceil ((x : ℤ) / 1000) * 1000 = x + (-x) % 1000 := by
  have hle : ∀ y : ℤ, Rat.ceil ((x : ℤ) / 1000) ≤ y ↔ x ≤ y * 1000 := by
    intro y
    rw [Rat.ceil_le_iff, div_le_iff₀ (by norm_num)]
    norm_cast
  have hup := (hle _).1 le_rfl
  have hdown := mt (hle (Rat.ceil ((x : ℤ) / 1000) - 1)).2
    (Int.not_le.2 (Int.sub_one_lt_of_le le_rfl))
  omega

/-- The cutoff of a call that comes when the hint says. -/
theorem cutoff_of_hint (hwhole : windowMs % 1000 = 0)
    (hmem : oldest ∈ inWindow timestamps (now - windowMs))
    (hleast : ∀ t ∈ inWindow timestamps (now - windowMs), oldest ≤ t) :
    now + getRetryAfter timestamps now windowMs * 1000 - windowMs = wholeSecond now oldest := by
  have hin := le_of_mem_inWindow hmem
  have hceil := thousand_mul_ceil (oldest + windowMs - now)
  rw [getRetryAfter_of_oldest hmem hleast, wholeSecond]
  omega

/-- The window of the hint has room at the time that the hint names. -/
theorem not_isFull_later_iff {window : RateWindow} (hwhole : window.windowMs % 1000 = 0)
    (hfull : IsFull window timestamps now) :
    ¬ IsFull window timestamps (now + getRetryAfter timestamps now window.windowMs * 1000) ↔
      LeavesRoom window timestamps now := by
  rw [IsFull, countInWindow, Int.not_le]
  constructor
  · intro hroom
    cases hempty : inWindow timestamps (now - window.windowMs) with
    | nil =>
        rw [getRetryAfter_of_empty hempty, Nat.cast_zero, zero_mul, add_zero] at hroom
        exact absurd hfull (Int.not_le.2 hroom)
    | cons t ts =>
        obtain ⟨oldest, hoption⟩ : ∃ oldest, (t :: ts).min? = some oldest := ⟨_, rfl⟩
        obtain ⟨hmem, hleast⟩ := (List.min?_eq_some_iff).1 hoption
        rw [← hempty] at hmem hleast
        rw [cutoff_of_hint hwhole hmem hleast] at hroom
        exact ⟨oldest, hmem, hleast, hroom⟩
  · rintro ⟨oldest, hmem, hleast, hroom⟩
    rwa [cutoff_of_hint hwhole hmem hleast]

end Hint

theorem windowMs_mod (E : RateLimitEnv) (period : LimitPeriod) :
    (period.window (limits E)).windowMs % 1000 = 0 := by
  cases period <;> rfl

/-- A call that comes when the hint says, with the same timestamps recorded, finds room in
the window exactly when enough timestamps are gone at the whole second. -/
theorem retryHint_honest_iff (E : RateLimitEnv) (userId : ℕ) (period : LimitPeriod)
    (w w' : World) (s : ℕ) (hrejected : RejectedFor E userId period w s)
    (hsame : recorded userId w' = recorded userId w) (hnow : w'.now = w.now + s * 1000) :
    (¬ ∃ s', RejectedFor E userId period w' s') ↔
      LeavesRoom (period.window (limits E)) (recorded userId w) w.now := by
  obtain ⟨hfirst, rfl⟩ := rejectedFor_iff.1 hrejected
  have hfull : IsFull (period.window (limits E)) (recorded userId w) w.now := by
    simpa using List.find?_some hfirst
  have hlater : w.now ≤ w'.now := by
    rw [hnow]
    exact Int.le_add_of_nonneg_right (by positivity)
  have hagain : (∃ s', RejectedFor E userId period w' s') ↔
      IsFull (period.window (limits E)) (recorded userId w) w'.now := by
    rw [← firstFull_later hfirst hlater, ← hsame]
    constructor
    · rintro ⟨s', hs'⟩
      exact (rejectedFor_iff.1 hs').1
    · intro h
      exact ⟨_, rejectedFor_iff.2 ⟨h, rfl⟩⟩
  rw [hagain, hnow]
  exact not_isFull_later_iff (windowMs_mod E period) hfull

section Examples

/-- The alert of user 1 at the given time, seen at another. -/
def oneCreation (at' now : Time) : World where
  now := now
  redis := fun _ => { set := SortedSet.empty.add at' (toString at') }

/-- Half a second after the creation the hint is rounded up. -/
theorem retryHint_honest_iff_half :
    ¬ ∃ s', RejectedFor (hourlyLimit "1") 1 .hourly (oneCreation 1000 3601500) s' :=
  (retryHint_honest_iff (hourlyLimit "1") 1 .hourly (oneCreation 1000 1500)
    (oneCreation 1000 3601500) 3600 (rejectedFor_iff.2 (by decide +kernel)) (by decide +kernel)
    (by decide +kernel)).2 ⟨1000, by decide +kernel, by decide +kernel, by decide +kernel⟩

/-- A whole second after the creation, the creation is still counted when the hint
is over. -/
theorem not_honestHint : ¬ HonestHint (hourlyLimit "1") 1 .hourly := by
  intro h
  exact h (oneCreation 0 1000) (oneCreation 0 3600000) 3599
    (rejectedFor_iff.2 (by decide +kernel)) (by decide +kernel) (by decide +kernel)
    ⟨0, rejectedFor_iff.2 (by decide +kernel)⟩

end Examples

end RateLimitService

end FifiAlert
