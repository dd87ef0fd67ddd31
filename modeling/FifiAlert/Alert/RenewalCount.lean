import FifiAlert.Alert.Ownership
import FifiAlert.Alert.RenewalLedger

/-!
# Renewals are counted when they stand alone

Any number of renew calls, of any alerts, in any interleaving: the count of an alert is the
number of its renewals, and there are at most three of them, if and only if each renewal
stood alone. The service does not see to that, so renewals that overlap are lost from the
count and the limit does not stop them.
-/

namespace FifiAlert

open Concurrency Store AlertCall

section Ledger

variable {ι : Type*} [DecidableEq ι]

/-- A `POST /alerts/:id/renew` of a user. -/
structure RenewRequest where
  alertId : ℕ
  userId : ℕ

/-- What a thread knows of the count it read: how it compares to the number of renewals, and
that it has fallen behind when the alert was renewed since. -/
structure KnowsCount (w₀ : World) (i : ι) (id n : ℕ) (s : RenewSnapshot ι) : Prop where
  le : n ≤ w₀.renewalCount id + (renewedBy id s.marks).length
  counted : quietSince (RenewMark.isRead i id) (RenewMark.isRenewal id) s.marks = true →
    (n = w₀.renewalCount id + (renewedBy id s.marks).length ↔ EachAlone id s.marks)
  behind : quietSince (RenewMark.isRead i id) (RenewMark.isRenewal id) s.marks = false →
    n < w₀.renewalCount id + (renewedBy id s.marks).length

/-- The invariant of the history. -/
structure RenewLedger (w₀ : World) (req : ι → RenewRequest) (s : RenewSnapshot ι) : Prop where
  le : ∀ id, s.state.renewalCount id ≤ w₀.renewalCount id + (renewedBy id s.marks).length
  counted : ∀ id, s.state.renewalCount id = w₀.renewalCount id + (renewedBy id s.marks).length ↔
    EachAlone id s.marks
  limit : ∀ id, EachAlone id s.marks → (renewedBy id s.marks).length ≤ 3
  once : ∀ id, (renewedBy id s.marks).Nodup
  own : ∀ id, ∀ i ∈ renewedBy id s.marks, (req i).alertId = id

/-- A renewal writes the count that the thread read plus one, when that was below three. -/
def MayRenew (w₀ : World) (req : ι → RenewRequest) (i : ι) (l : AlertCall)
    (s : RenewSnapshot ι) : Prop :=
  ∀ id n', l.renews = some (id, n') → (req i).alertId = id ∧ i ∉ renewedBy id s.marks ∧
    ∃ n, n' = n + 1 ∧ n < 3 ∧ KnowsCount w₀ i id n s

variable {w₀ w w' : World} {req : ι → RenewRequest} {marks : List (RenewMark ι)} {i j : ι}
  {id n : ℕ}

theorem RenewLedger.init : RenewLedger w₀ req ⟨w₀, []⟩ where
  le := fun _ => Nat.le_add_right _ _
  counted := fun _ => iff_of_true rfl trivial
  limit := fun _ _ => Nat.zero_le 3
  once := fun _ => List.nodup_nil
  own := fun _ _ hi => absurd hi List.not_mem_nil

theorem RenewLedger.silent (h : RenewLedger w₀ req ⟨w, marks⟩) (new : Option (RenewMark ι))
    (hnew : IsSilent new) (hcount : ∀ id, w'.renewalCount id = w.renewalCount id) :
    RenewLedger w₀ req ⟨w', new.toList ++ marks⟩ := by
  constructor
  · intro id
    rw [hcount id, renewedBy_silent hnew]
    exact h.le id
  · intro id
    rw [hcount id, renewedBy_silent hnew, eachAlone_silent hnew]
    exact h.counted id
  · intro id
    rw [eachAlone_silent hnew, renewedBy_silent hnew]
    exact h.limit id
  · intro id
    rw [renewedBy_silent hnew]
    exact h.once id
  · intro id
    rw [renewedBy_silent hnew]
    exact h.own id

theorem RenewLedger.renewed (h : RenewLedger w₀ req ⟨w, marks⟩) (hown : (req i).alertId = id)
    (hnew : i ∉ renewedBy id marks) (hlt : n < 3) (hknows : KnowsCount w₀ i id n ⟨w, marks⟩)
    (hcount : ∀ id', w'.renewalCount id' = if id = id' then n + 1 else w.renewalCount id') :
    RenewLedger w₀ req ⟨w', .renewed i id :: marks⟩ := by
  constructor
  · intro id'
    rw [hcount id', renewedBy_renewed]
    split
    next heq =>
      subst heq
      exact Nat.succ_le_succ hknows.le
    next => exact h.le id'
  · intro id'
    rw [hcount id', renewedBy_renewed, eachAlone_renewed]
    by_cases heq : id = id'
    · subst heq
      rw [if_pos rfl, if_pos rfl, List.length_cons, ← Nat.add_assoc, Nat.add_right_cancel_iff]
      cases hquiet : quietSince (RenewMark.isRead i id) (RenewMark.isRenewal id) marks with
      | true =>
          rw [hknows.counted hquiet]
          exact ⟨fun halone => ⟨fun _ => rfl, halone⟩, fun halone => halone.2⟩
      | false =>
          refine iff_of_false (Nat.ne_of_lt (hknows.behind hquiet)) ?_
          rintro ⟨hfalse, -⟩
          cases hfalse rfl
    · rw [if_neg heq, if_neg heq, h.counted id']
      exact ⟨fun halone => ⟨fun h => absurd h heq, halone⟩, fun halone => halone.2⟩
  · intro id' halone
    rw [renewedBy_renewed]
    rw [eachAlone_renewed] at halone
    split
    next heq =>
      subst heq
      have hn := (hknows.counted (halone.1 rfl)).2 halone.2
      rw [List.length_cons]
      dsimp only at hn
      omega
    next => exact h.limit id' halone.2
  · intro id'
    rw [renewedBy_renewed]
    split
    next heq =>
      subst heq
      exact List.nodup_cons.2 ⟨hnew, h.once id⟩
    next => exact h.once id'
  · intro id' j hj
    rw [renewedBy_renewed] at hj
    split at hj
    next heq =>
      subst heq
      rcases List.mem_cons.1 hj with rfl | hj
      · exact hown
      · exact h.own id j hj
    next => exact h.own id' j hj

theorem RenewLedger.call {l : AlertCall} {s : RenewSnapshot ι} (h : RenewLedger w₀ req s)
    (hmay : MayRenew w₀ req i l s) : RenewLedger w₀ req (s.after renewMark i l l.effect) := by
  rcases renew_cases i l s with ⟨id, n', hl, -, hmarks, hcount⟩ | ⟨hsilent, hcount⟩
  · obtain ⟨hown, hnew, n, rfl, hlt, hknows⟩ := hmay id n' hl
    have hafter : s.after renewMark i l l.effect = ⟨l.effect s.state, .renewed i id :: s.marks⟩ :=
      Snapshot.ext rfl hmarks
    rw [hafter]
    exact h.renewed hown hnew hlt hknows hcount
  · exact h.silent _ hsilent hcount

end Ledger

section Protocol

variable {ι : Type*} [DecidableEq ι]

/-- The surroundings: the others may do anything but renew an alert. -/
def renewSetting {ι : Type*} (fails : AlertCall → Prop) :
    Setting ι World AlertCall (RenewMark ι) where
  mark := renewMark
  env := fun w w' => ∀ id, w'.renewalCount id = w.renewalCount id
  mayFail := fails
  admits := fun _ _ _ => True

/-- The protocol of the renewals. -/
def renewProtocol (w₀ : World) (req : ι → RenewRequest) (fails : AlertCall → Prop) :
    Protocol (renewSetting (ι := ι) fails) where
  effect := AlertCall.effect
  permits := MayRenew w₀ req
  inv := RenewLedger w₀ req
  inv_call := fun hinv hper _ => hinv.call hper
  inv_env := fun henv hinv => hinv.silent none nofun henv

variable {w₀ : World} {req : ι → RenewRequest} {fails : AlertCall → Prop} {i : ι}

theorem KnowsCount.silent {id n : ℕ} {w w' : World} {marks : List (RenewMark ι)}
    (h : KnowsCount w₀ i id n ⟨w, marks⟩) (new : Option (RenewMark ι)) (hnew : IsSilent new)
    (hask : ∀ m, new = some m → RenewMark.isRead i id m = false) :
    KnowsCount w₀ i id n ⟨w', new.toList ++ marks⟩ := by
  have hquiet : quietSince (RenewMark.isRead i id) (RenewMark.isRenewal id) (new.toList ++ marks) =
      quietSince (RenewMark.isRead i id) (RenewMark.isRenewal id) marks := by
    rw [Bool.eq_iff_iff, quietSince_append hask, and_iff_right]
    intro m hm
    obtain ⟨j, id', rfl⟩ := hnew m hm
    rfl
  constructor
  · rw [renewedBy_silent hnew]
    exact h.le
  · rw [hquiet, renewedBy_silent hnew, eachAlone_silent hnew]
    exact h.counted
  · rw [hquiet, renewedBy_silent hnew]
    exact h.behind

theorem KnowsCount.renewed {id id' n : ℕ} {w w' : World} {j : ι} {marks : List (RenewMark ι)}
    (h : KnowsCount w₀ i id n ⟨w, marks⟩) :
    KnowsCount w₀ i id n ⟨w', .renewed j id' :: marks⟩ := by
  by_cases hid : id' = id
  · have hlt := Nat.lt_succ_of_le h.le
    have hbusy : quietSince (RenewMark.isRead i id) (RenewMark.isRenewal id)
        (.renewed j id' :: marks) = false := by
      simp [quietSince, RenewMark.isRead, RenewMark.isRenewal, hid]
    constructor
    · rw [renewedBy_renewed, if_pos hid]
      exact Nat.le_of_lt hlt
    · intro hquiet
      rw [hbusy] at hquiet
      cases hquiet
    · intro
      rw [renewedBy_renewed, if_pos hid]
      exact hlt
  · have hquiet : quietSince (RenewMark.isRead i id) (RenewMark.isRenewal id)
        (.renewed j id' :: marks) =
        quietSince (RenewMark.isRead i id) (RenewMark.isRenewal id) marks := by
      simp [quietSince, RenewMark.isRead, RenewMark.isRenewal, hid]
    constructor
    · rw [renewedBy_renewed, if_neg hid]
      exact h.le
    · rw [hquiet, renewedBy_renewed, if_neg hid, eachAlone_renewed]
      intro hq
      exact (h.counted hq).trans ⟨fun ha => ⟨fun he => absurd he hid, ha⟩, fun ha => ha.2⟩
    · rw [hquiet, renewedBy_renewed, if_neg hid]
      exact h.behind

/-- What a thread knows of the count lasts until it reads the alert again. -/
theorem lasting_knowsCount (id n : ℕ) :
    (renewProtocol w₀ req fails).Lasting i (RenewMark.isRead i id) (KnowsCount w₀ i id n) where
  call := by
    intro j l s _ _ _ hask h
    rcases renew_cases j l s with ⟨id', n', -, -, hmarks, -⟩ | ⟨hsilent, -⟩
    · have hafter : s.after renewMark j l l.effect =
          ⟨l.effect s.state, .renewed j id' :: s.marks⟩ := Snapshot.ext rfl hmarks
      change KnowsCount w₀ i id n (s.after renewMark j l l.effect)
      rw [hafter]
      exact h.renewed
    · exact h.silent _ hsilent hask
  env := fun w w' m _ _ h => h.silent none nofun nofun
  own := fun j l w m hm h => (thread_renewMark hm).symm.trans (RenewMark.thread_of_isRead h)

/-- A thread that has not renewed the alert. -/
theorem lasting_notRenewed (id : ℕ) :
    (renewProtocol w₀ req fails).Lasting i (RenewMark.isRenewalBy i id)
      fun s => i ∉ renewedBy id s.marks where
  call := by
    intro j l s _ _ _ hask h
    rcases renew_cases j l s with ⟨id', n', -, hm, hmarks, -⟩ | ⟨hsilent, -⟩
    · have hother : ¬ (j = i ∧ id' = id) := fun he => by
        have := hask _ hm
        simp [RenewMark.isRenewalBy, he] at this
      change i ∉ renewedBy id (s.after renewMark j l l.effect).marks
      rw [hmarks, renewedBy_renewed]
      split
      next heq =>
        exact fun hi => (List.mem_cons.1 hi).elim (fun he => hother ⟨he.symm, heq⟩) h
      next => exact h
    · change i ∉ renewedBy id ((renewMark j l s.state).toList ++ s.marks)
      rw [renewedBy_silent hsilent]
      exact h
  env := fun _ _ _ _ _ h => h
  own := fun j l w m hm h =>
    (thread_renewMark hm).symm.trans (RenewMark.thread_of_isRenewalBy h)

/-- A renewal is not taken back. -/
theorem lasting_renewed (id : ℕ) :
    (renewProtocol w₀ req fails).Lasting i (fun _ => false) fun s => i ∈ renewedBy id s.marks := by
  refine .of_kept (fun j l s _ _ _ h => ?_) fun _ _ _ _ _ h => h
  obtain ⟨m, hm, hi⟩ := List.mem_filterMap.1 h
  exact List.mem_filterMap.2 ⟨m, Snapshot.mem_after_of_mem hm, hi⟩

end Protocol

section Threads

variable {ι : Type*} [DecidableEq ι] {w₀ : World} {req : ι → RenewRequest}
  {fails : AlertCall → Prop} {i : ι} {s : RenewSnapshot ι}

/-- How a renew call ends: it renewed the alert, or it did not; only a failing call can make it
raise after its renewal. -/
def RenewPost {α : Type} (fails : AlertCall → Prop) (i : ι) (id : ℕ) :
    Except AppError α → RenewSnapshot ι → Prop
  | .ok _, s => i ∈ renewedBy id s.marks
  | .error _, s => i ∈ renewedBy id s.marks → ∃ l, fails l

theorem mayRenew_of_none {l : AlertCall} (h : l.renews = none) (s : RenewSnapshot ι) :
    MayRenew w₀ req i l s := by
  intro id n hl
  rw [h] at hl
  cases hl

theorem safe_refused {α : Type} {id : ℕ} {e : AppError} (hs : i ∉ renewedBy id s.marks) :
    Safe (renewProtocol w₀ req fails).contract i (RenewPost fails i id)
      (.raise e : AlertProcess α) s :=
  Safe.raise fun _ hr _ hi => absurd hi ((lasting_notRenewed id).stable hs hr)

/-- What a thread knows when it has read the alert. -/
theorem KnowsCount.of_read {id : ℕ} {w' : World} (hinv : RenewLedger w₀ req s) :
    KnowsCount w₀ i id (s.state.renewalCount id) ⟨w', .read i id :: s.marks⟩ where
  le := hinv.le id
  counted := fun _ => hinv.counted id
  behind := fun hfalse => by simp [quietSince, RenewMark.isRead] at hfalse

/-- The owner's row, and what the thread knows of its count. -/
theorem safe_findOwned_renew {id userId : ℕ} {action : String}
    (hs : i ∉ renewedBy id s.marks) :
    Safe (renewProtocol w₀ req fails).contract i
      (fun r s' => i ∉ renewedBy id s'.marks ∧
        ∀ row, r = .ok row → KnowsCount w₀ i id row.alert.renewal_count s')
      (AlertService.findOwned id userId action) s := by
  have hJ : (renewProtocol w₀ req fails).Lasting i _ _ := lasting_notRenewed id
  unfold AlertService.findOwned
  refine hJ.call_bind hs (by rfl) (fun s₁ _ _ _ => mayRenew_of_none rfl s₁) ?_
    fun _ s₁ _ hs₁ => ⟨hs₁, fun row h => by cases h⟩
  intro s₁ hinv hs₁
  have hs₂ : i ∉ renewedBy id (s₁.after renewMark i (alertFindUnique id)
    (alertFindUnique id).effect).marks := hs₁
  have hknows : KnowsCount w₀ i id (s₁.state.renewalCount id) (s₁.after renewMark i
    (alertFindUnique id) (alertFindUnique id).effect) := .of_read hinv
  cases hrow : s₁.state.findAlert id with
  | none =>
      refine Safe.raise fun s₃ hr _ => ⟨hJ.stable hs₂ hr, fun row h => ?_⟩
      cases h
  | some row =>
      dsimp only
      split
      · refine Safe.raise fun s₃ hr _ => ⟨hJ.stable hs₂ hr, fun row h => ?_⟩
        cases h
      refine Safe.ret fun s₃ hr _ => ⟨hJ.stable hs₂ hr, fun row' hrow' => ?_⟩
      cases hrow'
      obtain ⟨alert, halert, rfl⟩ := Option.map_eq_some_iff.1 hrow
      rw [World.renewalCount_of_find? halert] at hknows
      exact (lasting_knowsCount id _).stable hknows hr

theorem safe_findById_renewed {id : ℕ} {requesterId : Option ℕ} (hs : i ∈ renewedBy id s.marks) :
    Safe (renewProtocol w₀ req fails).contract i (RenewPost fails i id)
      (AlertService.findById id requesterId) s := by
  have hJ : (renewProtocol w₀ req fails).Lasting i _ _ := lasting_renewed id
  unfold AlertService.findById
  refine hJ.call_bind hs (by rfl) (fun s₁ _ _ _ => mayRenew_of_none rfl s₁) ?_
    fun hfail _ _ _ _ => ⟨_, hfail⟩
  intro s₁ _ hs₁
  have hs₂ : i ∈ renewedBy id (s₁.after renewMark i (alertFindUnique id)
    (alertFindUnique id).effect).marks := hs₁
  exact Safe.ret fun s₃ hr _ => hJ.stable hs₂ hr

/-- The update renews the alert, or it raises and the alert is not renewed. -/
theorem safe_updateAlert_renew {id n : ℕ} {data : AlertData} (hid : (req i).alertId = id)
    (hdata : data.renewal_count = some (n + 1)) (hlt : n < 3) (hs : i ∉ renewedBy id s.marks)
    (hknows : KnowsCount w₀ i id n s) :
    Safe (renewProtocol w₀ req fails).contract i (RenewPost fails i id)
      (AlertService.updateAlert id data) s := by
  have hJ : (renewProtocol w₀ req fails).Lasting i _ _ :=
    (lasting_notRenewed id).and (lasting_knowsCount id n)
  have hrenews : (alertUpdate id data).renews = some (id, n + 1) := by simp [renews, hdata]
  refine Protocol.safe_call rfl fun s₁ hr hinv => ?_
  have hs₁ := hJ.stable ⟨hs, hknows⟩ hr
  refine ⟨fun _ => ⟨?_, fun _ => ?_⟩, fun hfail => safe_refused hs₁.1⟩
  · intro id' n' hl
    rw [hrenews] at hl
    cases hl
    exact ⟨hid, hs₁.1, n, rfl, hlt, hs₁.2⟩
  · have hmark : renewMark i (alertUpdate id data) s₁.state =
        if (s₁.state.alerts.find? id).isSome then some (.renewed i id) else none := by
      simp only [renewMark, hrenews]
      split <;> simp_all
    cases hrow : s₁.state.alerts.find? id with
    | none =>
        rw [hrow] at hmark
        have hs₂ : i ∉ renewedBy id (s₁.after renewMark i (alertUpdate id data)
            (alertUpdate id data).effect).marks := by
          unfold Snapshot.after
          rw [hmark]
          exact hs₁.1
        simp only [hrow]
        exact safe_refused hs₂
    | some row =>
        rw [hrow] at hmark
        have hs₂ : i ∈ renewedBy id (s₁.after renewMark i (alertUpdate id data)
            (alertUpdate id data).effect).marks := by
          unfold Snapshot.after
          rw [hmark]
          exact List.mem_filterMap.2 ⟨_, List.mem_cons_self, if_pos rfl⟩
        simp only [hrow]
        exact Safe.ret fun s₃ hr _ => (lasting_renewed id).stable hs₂ hr

theorem safe_renew (hs : i ∉ renewedBy (req i).alertId s.marks) :
    Safe (renewProtocol w₀ req fails).contract i (RenewPost fails i (req i).alertId)
      (AlertService.renew (req i).alertId (req i).userId) s := by
  generalize hid : (req i).alertId = id at hs ⊢
  unfold AlertService.renew
  refine Safe.bind (Safe.mono (safe_findOwned_renew hs) ?_)
  rintro (e | row) s₁ - ⟨hs₁, hrow⟩
  · exact fun hi => absurd hi hs₁
  dsimp only
  split
  · exact safe_refused hs₁
  split
  · exact safe_refused hs₁
  rename_i hlt
  have hJ : (renewProtocol w₀ req fails).Lasting i _ _ :=
    (lasting_notRenewed id).and (lasting_knowsCount id row.alert.renewal_count)
  have hdate : (AlertCall.read .dateNow World.now).Confined
      (fun l next => next = l.effect ∧ (∀ s, MayRenew w₀ req i l s) ∧
        ∀ w m, renewMark i l w = some m →
          (RenewMark.isRenewalBy i id m || RenewMark.isRead i id m) = false) fun _ => True :=
    Process.confined_query ⟨by rfl, mayRenew_of_none rfl, nofun⟩ trivial
  refine hJ.guarded_bind ⟨hs₁, hrow row rfl⟩ hdate ?_ fun e s' _ _ h hi => absurd hi h.1
  intro now s₂ _ hs₂
  refine hJ.guarded_bind hs₂ hdate ?_ fun e s' _ _ h hi => absurd hi h.1
  intro updatedAt s₃ _ hs₃
  refine Safe.bind (Safe.mono
    (safe_updateAlert_renew hid rfl (Nat.lt_of_not_le hlt) hs₃.1 hs₃.2) ?_)
  intro r s₄ _ hr
  cases r with
  | ok a => exact safe_findById_renewed hr
  | error e => exact hr

end Threads

/-- In every run of renew calls: the count of an alert is the number of its renewals and they
are at most three, if and only if each of them stood alone. The renewals are those of the calls
of the alert that succeeded, once each. -/
theorem renewals_counted_iff {ι : Type*} [DecidableEq ι] (w₀ : World) (req : ι → RenewRequest)
    (fails : AlertCall → Prop)
    {c : Config ι World AlertCall AppError (Option AlertResponseDto) (RenewMark ι)}
    (h : Reaches (renewSetting fails)
      (Config.init w₀ fun i => AlertService.renew (req i).alertId (req i).userId) c) (id : ℕ) :
    (c.state.renewalCount id = w₀.renewalCount id + (renewedBy id c.marks).length ∧
      (renewedBy id c.marks).length ≤ 3 ↔ EachAlone id c.marks) ∧
    (renewedBy id c.marks).Nodup ∧
    ∀ i, (c.pool i).result?.isSome = true → (∀ l, ¬ fails l) →
      (i ∈ renewedBy id c.marks ↔ (req i).alertId = id ∧ ∃ r, c.pool i = .ret r) := by
  have hsound : Sound (renewProtocol w₀ req fails).contract
      (fun i => RenewPost fails i (req i).alertId)
      (Config.init w₀ fun i => AlertService.renew (req i).alertId (req i).userId) :=
    ⟨.init, fun i => safe_renew List.not_mem_nil⟩
  have hend := hsound.reaches h
  have hledger : RenewLedger w₀ req c.toSnapshot := hend.1
  refine ⟨⟨fun hc => (hledger.counted id).1 hc.1, fun ha => ?_⟩, hledger.once id, ?_⟩
  · exact ⟨(hledger.counted id).2 ha, hledger.limit id ha⟩
  · intro i hended hfails
    constructor
    · intro hi
      have hown := hledger.own id i hi
      refine ⟨hown, ?_⟩
      cases hp : c.pool i with
      | call l next rest fault =>
          rw [hp] at hended
          cases hended
      | ret r => exact ⟨r, rfl⟩
      | raise e =>
          obtain ⟨l, hl⟩ := hend.exception hp (hown.symm ▸ hi)
          exact absurd hl (hfails l)
    · rintro ⟨rfl, r, hr⟩
      exact hend.result hr

/-- Renew calls of alert 7 by its creator. -/
def renewPool (n : ℕ) :
    Config (Fin n) World AlertCall AppError (Option AlertResponseDto) (RenewMark (Fin n)) :=
  Config.init strangerWorld fun _ => AlertService.renew 7 1

/-- One after the other: the count is 2. -/
theorem renewals_counted_iff_twice :
    ((renewPool 2).schedule renewMark (List.replicate 5 0 ++ List.replicate 5 1)).state.renewalCount
      7 = 2 := by
  have hreach : Reaches (renewSetting fun _ => False) (renewPool 2)
      ((renewPool 2).schedule renewMark (List.replicate 5 0 ++ List.replicate 5 1)) :=
    Reaches.schedule (fun _ _ _ => trivial) _ _
  have hcounted := (renewals_counted_iff strangerWorld (fun _ => ⟨7, 1⟩) (fun _ => False) hreach
    7).1
  have halone : EachAlone 7 ((renewPool 2).schedule renewMark
      (List.replicate 5 0 ++ List.replicate 5 1)).marks := by
    decide +kernel
  exact (hcounted.2 halone).1.trans (by decide +kernel)

/-- Four renewals read the count before any of them writes: all succeed, and the count is 1. -/
theorem renewals_lost :
    ∃ c, Reaches (renewSetting fun _ => False) (renewPool 4) c ∧
      (∀ i, ∃ r, c.pool i = .ret r) ∧ c.state.renewalCount 7 = 1 ∧
      strangerWorld.renewalCount 7 = 0 := by
  refine ⟨_, Reaches.schedule (fun _ _ _ => trivial)
    (List.replicate 5 [0, 1, 2, 3]).flatten _, ?_, by decide +kernel, by decide +kernel⟩
  have hended : ∀ i, (((renewPool 4).schedule renewMark
      (List.replicate 5 [0, 1, 2, 3]).flatten).pool i).result?.any Except.isOk = true := by
    decide +kernel
  exact fun i => Process.exists_ret_of_result? (hended i)

end FifiAlert
