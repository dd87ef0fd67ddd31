import FifiAlert.Concurrency.Process
import FifiAlert.Concurrency.Since
import FifiAlert.Errors
import FifiAlert.Js.Ident
import FifiAlert.World
import Mathlib.Data.Rat.Floor
import Mathlib.Data.String.Basic

/-!
# The rate limiter of the alerts

The creations of a user are kept in a sorted set of the cache server, one member for
each timestamp, with the timestamp as its score and, written out, as the member. A
creation is counted against three windows and then recorded: the timestamp is added,
the timestamps of more than a week ago are removed, and the key is given eight days.

The history of the key of one user: who asked for the time, who read the timestamps, and which
timestamps were recorded. A mark also says whether the command found that the key had run out.
The limits are kept as long as the creations are recorded in turn: nobody records between the
read of another and its recording, the timestamps rise, and none is recorded within a week of one
that was lost with the key.
-/

namespace FifiAlert

open Concurrency Store

inductive RateLimitCall where
  | dateNow
  | zrangebyscore (key : String)
  | zadd (key : String) (score : Time) (member : String)
  | zremrangebyscore (key : String) (max : Time)
  | expire (key : String) (seconds : ℤ)
  deriving DecidableEq

def World.setKey (w : World) (key : String) (k : Expiring Time Time String) : World :=
  { w with redis := Function.update w.redis key k }

/-- What a command does to the keys. -/
def RateLimitCall.effect : RateLimitCall → World → World
  | zadd key score member, w => w.setKey key ((w.redis key).add w.now score member)
  | zremrangebyscore key max, w => w.setKey key ((w.redis key).removeUpTo w.now max)
  | expire key seconds, w => w.setKey key ((w.redis key).expire w.now (w.now + seconds * 1000))
  | _, w => w

abbrev RateLimitProcess := Process World RateLimitCall AppError

/-- A command and its answer. -/
def RateLimitCall.send {α : Type} (l : RateLimitCall) (g : World → α) : RateLimitProcess α :=
  Process.modify l (.error "Redis") l.effect g

/-- A window and how many creations it admits. -/
structure RateWindow where
  count : ℤ
  windowMs : ℤ
  deriving DecidableEq

structure RateLimits where
  hourly : RateWindow
  daily : RateWindow
  weekly : RateWindow
  deriving DecidableEq

def RateLimits.windows (limits : RateLimits) : List RateWindow :=
  [limits.hourly, limits.daily, limits.weekly]

/-- The environment variables of the limits. -/
structure RateLimitEnv where
  RATE_LIMIT_ALERTS_PER_HOUR : Option String := none
  RATE_LIMIT_ALERTS_PER_DAY : Option String := none
  RATE_LIMIT_ALERTS_PER_WEEK : Option String := none

namespace RateLimitService

/-- `parseInt(configService.get(key, String(fallback)), 10) || fallback`. -/
def readLimit (value : Option String) (fallback : ℤ) : ℤ :=
  match Js.parseInt (value.getD (toString fallback)) with
  | some limit => if limit = 0 then fallback else limit
  | none => fallback

/-- The limits that the constructor reads. -/
def limits (E : RateLimitEnv) : RateLimits where
  hourly := ⟨readLimit E.RATE_LIMIT_ALERTS_PER_HOUR 5, 60 * 60 * 1000⟩
  daily := ⟨readLimit E.RATE_LIMIT_ALERTS_PER_DAY 20, 24 * 60 * 60 * 1000⟩
  weekly := ⟨readLimit E.RATE_LIMIT_ALERTS_PER_WEEK 50, 7 * 24 * 60 * 60 * 1000⟩

def limitKey (userId : ℕ) : String := "rate_limit:alert:user:" ++ toString userId

/-- The timestamps from `cutoff` on; `NaN` is in no window. -/
def inWindow (timestamps : List (Option Time)) (cutoff : Time) : List Time :=
  timestamps.filterMap fun t => t.filter (cutoff ≤ ·)

def countInWindow (timestamps : List (Option Time)) (now : Time) (windowMs : ℤ) : ℕ :=
  (inWindow timestamps (now - windowMs)).length

def getRetryAfter (timestamps : List (Option Time)) (now : Time) (windowMs : ℤ) : ℕ :=
  match (inWindow timestamps (now - windowMs)).mergeSort (· ≤ ·) with
  | [] => 0
  | oldest :: _ => (Rat.ceil ((oldest + windowMs - now : ℤ) / 1000)).toNat

/-- The exception when a window is full. -/
def exceeded (window : RateWindow) (text : String) (timestamps : List (Option Time)) (now : Time) :
    AppError :=
  .rateLimitExceeded
    ("Alert creation limit exceeded: " ++ toString window.count ++ " alerts per " ++ text)
    (getRetryAfter timestamps now window.windowMs)

def recordAlertCreation (L : RateLimits) (userId : ℕ) (timestamp : Time) :
    RateLimitProcess Unit := do
  (RateLimitCall.zadd (limitKey userId) timestamp (toString timestamp)).send fun _ => ()
  (RateLimitCall.zremrangebyscore (limitKey userId) (timestamp - L.weekly.windowMs)).send
    fun _ => ()
  (RateLimitCall.expire (limitKey userId)
    (Rat.ceil (L.weekly.windowMs / 1000) + 86400)).send fun _ => ()

/-- What follows the read of the timestamps. -/
def checkWindows (L : RateLimits) (userId : ℕ) (now : Time) (timestamps : List (Option Time)) :
    RateLimitProcess Unit :=
  let full := fun window : RateWindow =>
    window.count ≤ (countInWindow timestamps now window.windowMs : ℤ)
  if full L.hourly then .raise (exceeded L.hourly "hour" timestamps now)
  else if full L.daily then .raise (exceeded L.daily "24 hours" timestamps now)
  else if full L.weekly then .raise (exceeded L.weekly "7 days" timestamps now)
  else recordAlertCreation L userId now

/-- The `catch` block throws each error again, after it has logged some. -/
def checkAlertCreationLimit (L : RateLimits) (userId : ℕ) : RateLimitProcess Unit := do
  let now ← RateLimitCall.dateNow.send World.now
  Process.tryCatch (do
    let timestamps ← (RateLimitCall.zrangebyscore (limitKey userId)).send fun w =>
      ((w.redis (limitKey userId)).live w.now).set.members
    checkWindows L userId now (timestamps.map Js.parseInt)) .raise

end RateLimitService

end FifiAlert

namespace FifiAlert

open Concurrency Store RateLimitService

/-- The longest of the windows. -/
def weekMs : ℤ := 7 * 24 * 60 * 60 * 1000

inductive RateMark (ι : Type*) where
  | asked (thread : ι) (now : Time)
  | read (thread : ι) (ranOut : Bool)
  | recorded (thread : ι) (timestamp : Time) (ranOut : Bool)
  | touched (thread : ι) (ranOut : Bool)
  deriving DecidableEq

abbrev RateSnapshot (ι : Type*) := Snapshot World (RateMark ι)

/-- The marks of the commands on one key. -/
def rateMark {ι : Type*} (key : String) (i : ι) (l : RateLimitCall) (w : World) :
    Option (RateMark ι) :=
  let ranOut := (w.redis key).hasRunOut w.now
  match l with
  | .dateNow => some (.asked i w.now)
  | .zrangebyscore key' => if key' = key then some (.read i ranOut) else none
  | .zadd key' score _ => if key' = key then some (.recorded i score ranOut) else none
  | .zremrangebyscore key' _ => if key' = key then some (.touched i ranOut) else none
  | .expire key' _ => if key' = key then some (.touched i ranOut) else none

namespace RateMark

variable {ι : Type*}

def thread : RateMark ι → ι
  | asked i _ => i
  | read i _ => i
  | recorded i _ _ => i
  | touched i _ => i

def ranOut : RateMark ι → Bool
  | asked _ _ => false
  | read _ r => r
  | recorded _ _ r => r
  | touched _ r => r

def timestamp? : RateMark ι → Option Time
  | recorded _ t _ => some t
  | _ => none

def isRead [DecidableEq ι] (i : ι) : RateMark ι → Bool
  | read j _ => j = i
  | _ => false

def isAsked [DecidableEq ι] (i : ι) : RateMark ι → Bool
  | asked j _ => j = i
  | _ => false

def isRecorded (m : RateMark ι) : Bool := m.timestamp?.isSome

end RateMark

/-- The timestamps that were recorded, the last first. -/
def recordedTimes {ι : Type*} (marks : List (RateMark ι)) : List Time :=
  marks.filterMap RateMark.timestamp?

/-- The timestamps that were recorded before the key was last found to have run out. -/
def lostTimes {ι : Type*} : List (RateMark ι) → List Time
  | [] => []
  | m :: marks => if m.ranOut then recordedTimes marks else lostTimes marks

/-- The creations were recorded in turn. -/
def InTurn {ι : Type*} [DecidableEq ι] : List (RateMark ι) → Prop
  | [] => True
  | .recorded i t _ :: marks =>
    (quietSince (RateMark.isRead i) RateMark.isRecorded marks = true ∧
      (∀ t' ∈ recordedTimes marks, t' < t) ∧ ∀ t' ∈ lostTimes marks, t' + weekMs < t) ∧
        InTurn marks
  | _ :: marks => InTurn marks

instance decidableInTurn {ι : Type*} [DecidableEq ι] :
    (marks : List (RateMark ι)) → Decidable (InTurn marks)
  | [] => inferInstanceAs (Decidable True)
  | .recorded _ _ _ :: marks => @instDecidableAnd _ _ inferInstance (decidableInTurn marks)
  | .asked _ _ :: marks => decidableInTurn marks
  | .read _ _ :: marks => decidableInTurn marks
  | .touched _ _ :: marks => decidableInTurn marks

section History

variable {ι : Type*} {marks : List (RateMark ι)} {m : RateMark ι} {new : Option (RateMark ι)}
  {i j : ι} {t : Time}

@[simp] theorem recordedTimes_recorded {ranOut : Bool} :
    recordedTimes (.recorded i t ranOut :: marks) = t :: recordedTimes marks := rfl

theorem mem_recordedTimes : t ∈ recordedTimes marks ↔ ∃ i r, .recorded i t r ∈ marks := by
  unfold recordedTimes
  rw [List.mem_filterMap]
  constructor
  · rintro ⟨m, hm, ht⟩
    cases m with
    | recorded i t' r =>
        cases ht
        exact ⟨i, r, hm⟩
    | _ => cases ht
  · rintro ⟨i, r, hm⟩
    exact ⟨_, hm, rfl⟩

/-- Marks that record nothing add no timestamp. -/
theorem recordedTimes_append (hnew : ∀ m, new = some m → m.timestamp? = none) :
    recordedTimes (new.toList ++ marks) = recordedTimes marks := by
  cases new with
  | none => rfl
  | some m => exact List.filterMap_cons_none (hnew m rfl)

theorem lostTimes_subset : lostTimes marks ⊆ recordedTimes marks := by
  induction marks with
  | nil => exact List.Subset.refl _
  | cons m marks ih =>
      have hle : recordedTimes marks ⊆ recordedTimes (m :: marks) :=
        (List.sublist_cons_self m marks).filterMap _ |>.subset
      rw [lostTimes]
      split
      · exact hle
      · exact List.Subset.trans ih hle

/-- What is lost stays lost. -/
theorem lostTimes_cons : lostTimes marks ⊆ lostTimes (m :: marks) := by
  rw [lostTimes]
  split
  · exact lostTimes_subset
  · exact List.Subset.refl _

theorem lostTimes_append : lostTimes marks ⊆ lostTimes (new.toList ++ marks) := by
  cases new with
  | none => exact List.Subset.refl _
  | some m => exact lostTimes_cons

/-- A timestamp that is not lost has never been in a key that was found to have run out. -/
theorem ranOut_of_not_lost (ht : t ∈ recordedTimes marks) (hlost : t ∉ lostTimes (m :: marks)) :
    m.ranOut = false := by
  rw [Bool.eq_false_iff]
  intro hran
  rw [lostTimes, if_pos hran] at hlost
  exact hlost ht

variable [DecidableEq ι]

theorem InTurn.of_append (hnew : ∀ m, new = some m → m.timestamp? = none)
    (h : InTurn (new.toList ++ marks)) : InTurn marks := by
  cases new with
  | none => exact h
  | some m =>
      cases m with
      | recorded i t r => cases hnew _ rfl
      | _ => exact h

theorem InTurn.of_cons (h : InTurn (m :: marks)) : InTurn marks := by
  cases m with
  | recorded i t r => exact h.2
  | _ => exact h

/-- Timestamps that are recorded in turn rise. -/
theorem InTurn.pairwise (h : InTurn marks) :
    (recordedTimes marks).Pairwise fun later earlier => earlier < later := by
  induction marks with
  | nil => exact List.Pairwise.nil
  | cons m marks ih =>
      cases m with
      | recorded i t r => exact List.pairwise_cons.2 ⟨h.1.2.1, ih h.2⟩
      | _ => exact ih h

theorem InTurn.nodup (h : InTurn marks) : (recordedTimes marks).Nodup :=
  h.pairwise.imp fun hlt heq => absurd heq.symm (Int.ne_of_lt hlt)

/-- A timestamp that is recorded in turn is recorded by one thread. -/
theorem InTurn.thread_eq {r r' : Bool} (h : InTurn marks) (hi : .recorded i t r ∈ marks)
    (hj : .recorded j t r' ∈ marks) : i = j := by
  induction marks with
  | nil => cases hi
  | cons m marks ih =>
      rcases List.mem_cons.1 hi with rfl | hi'
      · rcases List.mem_cons.1 hj with heq | hj'
        · cases heq
          rfl
        · exact absurd (h.1.2.1 t (mem_recordedTimes.2 ⟨j, r', hj'⟩)) (Int.lt_irrefl t)
      · rcases List.mem_cons.1 hj with rfl | hj'
        · exact absurd (h.1.2.1 t (mem_recordedTimes.2 ⟨i, r, hi'⟩)) (Int.lt_irrefl t)
        · exact ih h.of_cons hi' hj'

omit [DecidableEq ι] in
theorem thread_rateMark {key : String} {l : RateLimitCall} {w : World}
    (h : rateMark key i l w = some m) : m.thread = i := by
  cases l with
  | dateNow =>
      cases h
      rfl
  | _ =>
      obtain ⟨-, h⟩ := Option.ite_none_right_eq_some.1 h
      cases h
      rfl

end History

end FifiAlert
