import FifiAlert.Notification.StatusLedger

/-!
# The ledger of one notification

While no write has moved the status of a notification backwards, it stands at the highest status
of its history, and while the time of opening was kept, it is the time of every opening. So the
first write backwards is one that comes after an event that precludes it, and the first that
changes the time of opening is by an opening that was overtaken by another.
-/

namespace FifiAlert

open Concurrency ReceiptCall

section Marks

variable {ι : Type*} {i : ι} {m : ReceiptMark ι} {marks : List (ReceiptMark ι)}
  {status new first : NotificationStatus} {t oldTime : Option Time} {time : Time}

theorem statusForward_cons : StatusForward (m :: marks) ↔
    (∀ move, m.move = some move → move.1.rank ≤ move.2.rank) ∧ StatusForward marks :=
  List.forall_mem_cons

theorem statusForward_moved (hmove : m.move = some (status, new)) :
    StatusForward (m :: marks) ↔ status.rank ≤ new.rank ∧ StatusForward marks := by
  simp [statusForward_cons, hmove]

theorem statusForward_read : StatusForward (.read i :: marks) ↔ StatusForward marks := by
  simp [statusForward_cons, ReceiptMark.move]

theorem openingKept_opened : OpeningKept (.opened i status oldTime time :: marks) ↔
    (oldTime = none ∨ oldTime = some time) ∧ OpeningKept marks := by
  constructor
  · intro h
    exact ⟨h i status oldTime time List.mem_cons_self,
      fun j old o t hm => h j old o t (List.mem_cons_of_mem _ hm)⟩
  · rintro ⟨hkept, h⟩ j old o t hm
    rcases List.mem_cons.1 hm with heq | hm
    · cases heq
      exact hkept
    · exact h j old o t hm

theorem openingKept_cons (hm : ∀ j old o t, m ≠ .opened j old o t) :
    OpeningKept (m :: marks) ↔ OpeningKept marks := by
  constructor
  · exact fun h j old o t hmem => h j old o t (List.mem_cons_of_mem _ hmem)
  · intro h j old o t hmem
    rcases List.mem_cons.1 hmem with heq | hmem
    · exact absurd heq.symm (hm j old o t)
    · exact h j old o t hmem

theorem recorded_moved (hmove : m.move = some (status, new)) :
    recorded first (m :: marks) = new :: recorded first marks := by
  simp [recorded, hmove]

theorem inOrder_read : InOrder first (.read i :: marks) ↔ InOrder first marks :=
  and_iff_right nofun

end Marks

section Ledger

variable {ι : Type*} [DecidableEq ι] {id : ℕ} {first : NotificationStatus}

/-- What the history says of a notification that stands so: while every write moved forward the
status is the highest of all, and while the time of opening was kept it is the time of each
opening. -/
structure StandsAt (id : ℕ) (first : NotificationStatus) (s : ReceiptSnapshot ι)
    (status : NotificationStatus) (t : Option Time) : Prop where
  standing : s.state.standing id = some (status, t)
  among : status ∈ recorded first s.marks
  highest : StatusForward s.marks → ∀ earlier ∈ recorded first s.marks,
    earlier.rank ≤ status.rank
  opened : OpeningKept s.marks → ∀ i old oldTime time,
    ReceiptMark.opened i old oldTime time ∈ s.marks → t = some time

/-- The invariant of the history of a notification. -/
structure StatusLedger (id : ℕ) (first : NotificationStatus) (s : ReceiptSnapshot ι) : Prop where
  stands : ∃ status t, StandsAt id first s status t
  forward_iff : StatusForward s.marks ↔ InOrder first s.marks
  kept_iff : OpeningKept s.marks ↔ EachFirst s.marks

/-- The notification has not been opened, or it was opened then. -/
def OpenedThen (id : ℕ) (time : Time) (w : World) : Prop :=
  ∀ status t, w.standing id = some (status, t) → t = none ∨ t = some time

/-- An opening writes to the row it has read, and a time that was the time of opening then,
unless it is the first. -/
def MayRecord (id : ℕ) (i : ι) (l : ReceiptCall) (s : ReceiptSnapshot ι) : Prop :=
  l.RecordsOutcomes ∧ ∀ time «meta», l = notificationOpen id time «meta» →
    ReceiptMark.read i ∈ s.marks ∧
    KnownSince (ReceiptMark.isRead i) (ReceiptMark.opensOtherwise time) (OpenedThen id time) s

variable {i : ι} {w w' : World} {marks : List (ReceiptMark ι)} {s : ReceiptSnapshot ι}
  {status new : NotificationStatus} {t : Option Time} {time : Time} {m : ReceiptMark ι}

theorem StatusLedger.init (h : w.standing id = some (first, t)) :
    StatusLedger (ι := ι) id first ⟨w, []⟩ where
  stands := ⟨first, t, h, List.mem_singleton_self _,
    fun _ _ he => Nat.le_of_eq (congrArg _ (List.mem_singleton.1 he)),
    fun _ _ _ _ _ h => by cases h⟩
  forward_iff := iff_of_true nofun trivial
  kept_iff := iff_of_true nofun trivial

omit [DecidableEq ι] in
/-- A write over the status, of either kind. -/
theorem StandsAt.moved (hs : StandsAt id first ⟨w, marks⟩ status t)
    (hiff : StatusForward marks ↔ InOrder first marks) (hmove : m.move = some (status, new))
    (hnew : new.IsOutcome) :
    (StatusForward (m :: marks) ↔ InOrder first (m :: marks)) ∧
      (StatusForward (m :: marks) → ∀ earlier ∈ recorded first (m :: marks),
        earlier.rank ≤ new.rank) := by
  have hbelow : StatusForward marks → status.rank ≤ new.rank →
      ∀ earlier ∈ recorded first marks, earlier.rank ≤ new.rank :=
    fun hf hle earlier he => Nat.le_trans (hs.highest hf earlier he) hle
  rw [statusForward_moved hmove]
  constructor
  · constructor
    · rintro ⟨hle, hf⟩
      refine ⟨fun move hm earlier he => ?_, hiff.1 hf⟩
      rw [hmove] at hm
      cases hm
      exact (precludes_iff hnew).2 (hbelow hf hle earlier he)
    · rintro ⟨hin, hrest⟩
      exact ⟨(precludes_iff hnew).1 (hin _ hmove status hs.among), hiff.2 hrest⟩
  · rintro ⟨hle, hf⟩ earlier he
    rw [recorded_moved hmove] at he
    rcases List.mem_cons.1 he with rfl | he
    · exact Nat.le_refl _
    · exact hbelow hf hle earlier he

theorem StatusLedger.silent (h : StatusLedger id first ⟨w, marks⟩)
    (added : Option (ReceiptMark ι)) (hadded : ∀ m, added = some m → ∃ j, m = .read j)
    (hstanding : w'.standing id = w.standing id) :
    StatusLedger id first ⟨w', added.toList ++ marks⟩ := by
  obtain ⟨status, t, hs⟩ := h.stands
  have hstands := hstanding.trans hs.standing
  cases added with
  | none =>
      exact ⟨⟨status, t, hstands, hs.among, hs.highest, hs.opened⟩, h.forward_iff, h.kept_iff⟩
  | some m =>
      obtain ⟨j, rfl⟩ := hadded m rfl
      refine ⟨⟨status, t, hstands, hs.among, fun hf => ?_, fun hk j old o time hm => ?_⟩, ?_, ?_⟩
      · exact hs.highest (statusForward_read.1 hf)
      · rcases List.mem_cons.1 hm with heq | hm
        · cases heq
        · exact hs.opened ((openingKept_cons nofun).1 hk) j old o time hm
      · exact statusForward_read.trans (h.forward_iff.trans inOrder_read.symm)
      · exact (openingKept_cons nofun).trans h.kept_iff

theorem StatusLedger.wrote (h : StatusLedger id first ⟨w, marks⟩)
    (hs : w.standing id = some (status, t)) (hnew : new.IsOutcome)
    (hstanding : w'.standing id = some (new, t)) :
    StatusLedger id first ⟨w', .wrote i status new :: marks⟩ := by
  obtain ⟨status', t', hs'⟩ := h.stands
  cases hs.symm.trans hs'.standing
  obtain ⟨hiff, hhighest⟩ := hs'.moved (m := .wrote i status new) h.forward_iff rfl hnew
  refine ⟨⟨new, t, hstanding, List.mem_cons_self, hhighest, fun hk j old o time hm => ?_⟩, hiff, ?_⟩
  · rcases List.mem_cons.1 hm with heq | hm
    · cases heq
    · exact hs'.opened ((openingKept_cons nofun).1 hk) j old o time hm
  · exact (openingKept_cons nofun).trans h.kept_iff

/-- While the time of opening was kept, an opening that writes the time it found has no other
after its read. -/
theorem StandsAt.quiet (hs : StandsAt id first s status t) (hread : ReceiptMark.read i ∈ s.marks)
    (hk : OpeningKept s.marks) (ht : t = none ∨ t = some time) :
    quietSince (ReceiptMark.isRead i) (ReceiptMark.opensOtherwise time) s.marks = true := by
  refine quietSince_of_never hread (by simp [ReceiptMark.isRead]) fun m hm => ?_
  cases m with
  | opened j old o time' =>
      have hopened := hs.opened hk j old o time' hm
      rcases ht with rfl | rfl
      · cases hopened
      · cases hopened
        simp [ReceiptMark.opensOtherwise]
  | _ => rfl

theorem StatusLedger.opened (h : StatusLedger id first ⟨w, marks⟩)
    (hs : w.standing id = some (status, t)) (hread : ReceiptMark.read i ∈ marks)
    (hknows : KnownSince (ReceiptMark.isRead i) (ReceiptMark.opensOtherwise time)
      (OpenedThen id time) ⟨w, marks⟩)
    (hstanding : w'.standing id = some (.OPENED, some time)) :
    StatusLedger id first ⟨w', .opened i status t time :: marks⟩ := by
  obtain ⟨status', t', hs'⟩ := h.stands
  cases hs.symm.trans hs'.standing
  obtain ⟨hiff, hhighest⟩ := hs'.moved (m := .opened i status t time) h.forward_iff rfl
    ⟨nofun, nofun⟩
  refine ⟨⟨.OPENED, some time, hstanding, List.mem_cons_self, hhighest,
    fun hk j old o time' hm => ?_⟩, hiff, ?_⟩
  · obtain ⟨hkept, hk⟩ := openingKept_opened.1 hk
    rcases List.mem_cons.1 hm with heq | hm
    · cases heq
      rfl
    · have hopened := hs'.opened hk j old o time' hm
      rcases hkept with rfl | rfl
      · cases hopened
      · exact hopened
  · rw [openingKept_opened]
    constructor
    · rintro ⟨hkept, hk⟩
      exact ⟨hs'.quiet hread hk hkept, h.kept_iff.1 hk⟩
    · rintro ⟨hquiet, hfirst⟩
      exact ⟨hknows hquiet status t hs, h.kept_iff.2 hfirst⟩

theorem StatusLedger.call {l : ReceiptCall} (h : StatusLedger id first s)
    (hmay : MayRecord id i l s) :
    StatusLedger id first (s.after (receiptMark id) i l l.effect) := by
  obtain ⟨status, t, hs⟩ := h.stands
  rcases receipt_cases i hmay.1 hs.standing with ⟨new, hnew, hmark, hstanding⟩ |
    ⟨time, «meta», hl, hmark, hstanding⟩ | ⟨hsilent, hstanding⟩
  · unfold Snapshot.after
    rw [hmark]
    exact h.wrote hs.standing hnew hstanding
  · obtain ⟨hread, hknows⟩ := hmay.2 time «meta» hl
    unfold Snapshot.after
    rw [hmark]
    exact h.opened hs.standing hread hknows hstanding
  · exact h.silent _ (fun m hm => ⟨i, hsilent m hm⟩) (hstanding.trans hs.standing.symm)

end Ledger

end FifiAlert
