import FifiAlert.Alert.ReunionCards
import FifiAlert.Concurrency.Since

/-!
# The expiry of reunion snapshots

Expired snapshots are deleted by whoever reads them and by a daily job, while resolved alerts
replace the snapshots of their pets. The expiry takes expired rows only, since a row is deleted by
an id that is not given again; and a live row is served until something else has taken it.
-/

namespace FifiAlert

open Concurrency Store ReunionSnapshotService CardCall

inductive CardRequest where
  | resolve (alertId : ℕ) (pet : Pet) (thankYouMessage : Option String) (resolvedAt : Time)
  | view (tagId : String)
  | purge
  | deleteAlert (id : ℕ)

inductive CardAnswer where
  | resolved (card : ReunionCard)
  | viewed (dto : ReunionSnapshotDto)
  | purged (count : ℕ)
  | deleted
  deriving DecidableEq

namespace CardRequest

def process (E : AlertEnv) (toISOString : Time → String) : CardRequest → CardProcess CardAnswer
  | resolve alertId pet thankYouMessage resolvedAt =>
      CardAnswer.resolved <$> upsertForResolvedAlert E alertId pet thankYouMessage resolvedAt
  | view tagId => CardAnswer.viewed <$> findReunionByTag toISOString tagId
  | purge => CardAnswer.purged <$> purgeExpired
  | deleteAlert id => write (.alertDelete id) fun _ => CardAnswer.deleted

end CardRequest

/-- Does the call delete what has expired? -/
def CardCall.expires : CardCall → Bool
  | snapshotDelete _ | snapshotDeleteExpired _ => true
  | _ => false

/-- Does the call delete rows? -/
def CardCall.deletes : CardCall → Bool
  | snapshotDeleteMany _ _ | snapshotDelete _ | snapshotDeleteExpired _ | alertDelete _ => true
  | _ => false

/-- The notable calls: a thread found a row, it read the clock, or it took rows away. -/
inductive CardMark (ι : Type*) where
  | found (thread : ι) (card : ReunionCard)
  | clock (thread : ι) (time : Time)
  | taken (thread : ι) (l : CardCall) (rows : List ReunionCard)
  deriving DecidableEq

namespace CardMark

variable {ι : Type*}

def rows : CardMark ι → List ReunionCard
  | taken _ _ rows => rows
  | _ => []

/-- The row was taken by a call that was meant for it. -/
def Took (m : CardMark ι) (card : ReunionCard) : Prop :=
  ∃ i l rows, m = taken i l rows ∧ l.gone card = true ∧ card ∈ rows

/-- The row was taken by a call that does not go by the expiry. -/
def TookLive (m : CardMark ι) (card : ReunionCard) : Prop :=
  ∃ i l rows, m = taken i l rows ∧ l.expires = false ∧ l.gone card = true ∧ card ∈ rows

def of (i : ι) (l : CardCall) (w : CardWorld) : Option (CardMark ι) :=
  match l with
  | .snapshotFindUnique tagId => (w.cards.findByTagId tagId).map (found i)
  | .dateNow => some (clock i w.now)
  | l => if l.deletes then some (taken i l (w.cards.findMany l.gone)) else none

end CardMark

abbrev CardSnapshot (ι : Type*) := Snapshot CardWorld (CardMark ι)

/-- Others leave the table alone, and time passes. -/
def CardTimePasses (w w' : CardWorld) : Prop := w'.cards = w.cards ∧ w.now ≤ w'.now

def cardSetting {ι : Type*} (fails : CardCall → Prop) :
    Setting ι CardWorld CardCall (CardMark ι) where
  mark := CardMark.of
  env := CardTimePasses
  mayFail := fails
  admits := fun _ _ _ => True

/-- A row is deleted by its id when its thread has found it and has seen that it is due. -/
def CardPermits {ι : Type*} (i : ι) (l : CardCall) (s : CardSnapshot ι) : Prop :=
  match l with
  | .snapshotDelete id => ∃ card time, card.id = id ∧ card.expiresAt ≤ time ∧
      .found i card ∈ s.marks ∧ .clock i time ∈ s.marks
  | .snapshotDeleteExpired date => .clock i date ∈ s.marks
  | _ => True

/-- Times in the history are past; rows in the history were drawn, and an id there names its row for
good; rows that were taken are gone, and those that the expiry took were due. -/
structure CardInv {ι : Type*} (s : CardSnapshot ι) : Prop where
  clock : ∀ i time, .clock i time ∈ s.marks → time ≤ s.state.now
  found : ∀ i card, .found i card ∈ s.marks → card.id < s.state.cards.next ∧
    ∀ row ∈ s.state.cards.rows, row.id = card.id → row = card
  gone : ∀ m ∈ s.marks, ∀ card ∈ m.rows, card.id < s.state.cards.next ∧
    card ∉ s.state.cards.rows
  due : ∀ i l rows, .taken i l rows ∈ s.marks → l.expires = true →
    ∀ card ∈ rows, card.expiresAt ≤ s.state.now

section Calls

variable {ι : Type*} {i : ι} {s : CardSnapshot ι} {l : CardCall} {w : CardWorld}

theorem now_effect (l : CardCall) (w : CardWorld) : (l.effect w).now = w.now := by
  cases l <;> rfl

theorem effect_of_deletes (h : l.deletes = true) :
    l.effect w = { w with cards := w.cards.deleteMany l.gone } := by
  cases l <;> first | rfl | cases h

theorem next_le_effect (l : CardCall) (w : CardWorld) :
    w.cards.next ≤ (l.effect w).cards.next := by
  cases l with
  | snapshotCreate snapshot => exact ReunionCards.next_create ▸ Nat.le_succ _
  | _ => exact Nat.le_refl _

/-- A row after a call was there before, or has the next id. -/
theorem mem_effect {card : ReunionCard} (h : card ∈ (l.effect w).cards.rows) :
    card ∈ w.cards.rows ∨ w.cards.next ≤ card.id := by
  cases l with
  | snapshotCreate snapshot =>
      rcases ReunionCards.mem_of_mem_create h with hold | ⟨-, rfl⟩
      · exact .inl hold
      · exact .inr (Nat.le_refl _)
  | snapshotDeleteMany _ _ | snapshotDelete _ | snapshotDeleteExpired _ | alertDelete _ =>
      exact .inl (ReunionCards.mem_deleteMany.1 h).1
  | _ => exact .inl h

/-- A row stays unless the call takes it, and says so. -/
theorem taken_of_mem {card : ReunionCard} (j : ι) (l : CardCall) (h : card ∈ w.cards.rows) :
    card ∈ (l.effect w).cards.rows ∨ l.gone card = true ∧
      ∃ rows, CardMark.of j l w = some (.taken j l rows) ∧ card ∈ rows := by
  cases hgone : l.gone card with
  | false =>
      left
      cases l with
      | snapshotCreate snapshot => exact ReunionCards.mem_create h
      | snapshotDeleteMany _ _ | snapshotDelete _ | snapshotDeleteExpired _ | alertDelete _ =>
          exact ReunionCards.mem_deleteMany.2 ⟨h, hgone⟩
      | _ => exact h
  | true =>
      right
      refine ⟨rfl, w.cards.findMany l.gone, ?_, Table.mem_findMany.2 ⟨h, hgone⟩⟩
      cases l <;> first | rfl | cases hgone

theorem of_eq_taken {j : ι} {l' : CardCall} {rows : List ReunionCard}
    (h : CardMark.of j l w = some (.taken i l' rows)) :
    j = i ∧ l' = l ∧ l.deletes = true ∧ rows = w.cards.findMany l.gone := by
  cases l with
  | snapshotFindUnique tagId =>
      obtain ⟨card, -, hcard⟩ := Option.map_eq_some_iff.1 h
      cases hcard
  | snapshotDeleteMany _ _ | snapshotDelete _ | snapshotDeleteExpired _ | alertDelete _ =>
      cases h
      exact ⟨rfl, rfl, rfl, rfl⟩
  | _ => cases h

theorem of_eq_found {j : ι} {card : ReunionCard} (h : CardMark.of j l w = some (.found i card)) :
    j = i ∧ card ∈ w.cards.rows := by
  cases l with
  | snapshotFindUnique tagId =>
      obtain ⟨row, hrow, hcard⟩ := Option.map_eq_some_iff.1 h
      cases hcard
      exact ⟨rfl, (ReunionCards.findByTagId_eq_some_iff.1 hrow).1⟩
  | _ => cases h

theorem of_eq_clock {j : ι} {time : Time} (h : CardMark.of j l w = some (.clock i time)) :
    time = w.now := by
  cases l with
  | dateNow =>
      cases h
      rfl
  | snapshotFindUnique tagId =>
      obtain ⟨card, -, hcard⟩ := Option.map_eq_some_iff.1 h
      cases hcard
  | _ => cases h

theorem CardInv.env {w' : CardWorld} (h : CardInv s) (hw : CardTimePasses s.state w') :
    CardInv (⟨w', s.marks⟩ : CardSnapshot ι) where
  clock := fun i time hm => (h.clock i time hm).trans hw.2
  found := fun i card hm => by
    rw [hw.1]
    exact h.found i card hm
  gone := fun m hm card hcard => by
    rw [hw.1]
    exact h.gone m hm card hcard
  due := fun i l rows hm hl card hcard => (h.due i l rows hm hl card hcard).trans hw.2

/-- A permitted call of the expiry takes rows that are due. -/
theorem CardInv.due_of_permits (h : CardInv s) (hper : CardPermits i l s)
    (hl : l.expires = true) {card : ReunionCard} (hcard : card ∈ s.state.cards.rows)
    (hgone : l.gone card = true) : card.expiresAt ≤ s.state.now := by
  cases l with
  | snapshotDelete id =>
      obtain ⟨found, time, rfl, hdue, hfound, hclock⟩ := hper
      obtain rfl := (h.found i found hfound).2 card hcard (of_decide_eq_true hgone)
      exact hdue.trans (h.clock i time hclock)
  | snapshotDeleteExpired date =>
      exact (of_decide_eq_true hgone).le.trans (h.clock i date hper)
  | _ => cases hl

theorem CardInv.call (h : CardInv s) (hper : CardPermits i l s) :
    CardInv (s.after CardMark.of i l l.effect) where
  clock := by
    intro j time hm
    rw [Snapshot.state_after, now_effect]
    rcases Snapshot.mem_after.1 hm with hnew | hold
    · exact (of_eq_clock hnew).le
    · exact h.clock j time hold
  found := by
    intro j card hm
    have hcard : card.id < s.state.cards.next ∧
        ∀ row ∈ s.state.cards.rows, row.id = card.id → row = card := by
      rcases Snapshot.mem_after.1 hm with hnew | hold
      · have hmem := (of_eq_found hnew).2
        refine ⟨s.state.cards.lt_next card hmem, fun row hrow hid => ?_⟩
        have hfind := Table.find?_of_mem hrow
        rw [hid, Table.find?_of_mem hmem] at hfind
        exact (Option.some.inj hfind).symm
      · exact h.found j card hold
    refine ⟨hcard.1.trans_le (next_le_effect l s.state), fun row hrow hid => ?_⟩
    rcases mem_effect hrow with hold | hnew
    · exact hcard.2 row hold hid
    · exact absurd (hid ▸ hcard.1) (Nat.not_lt.2 hnew)
  gone := by
    intro m hm card hcard
    rcases Snapshot.mem_after.1 hm with hnew | hold
    · cases m with
      | found _ _ | clock _ _ => cases hcard
      | taken j l' rows =>
          obtain ⟨-, rfl, hdel, rfl⟩ := of_eq_taken hnew
          obtain ⟨hmem, hgone⟩ := Table.mem_findMany.1 hcard
          refine ⟨(s.state.cards.lt_next card hmem).trans_le (next_le_effect l' s.state), ?_⟩
          rw [Snapshot.state_after, effect_of_deletes hdel, ReunionCards.mem_deleteMany]
          simp [hgone]
    · obtain ⟨hlt, hnot⟩ := h.gone m hold card hcard
      refine ⟨hlt.trans_le (next_le_effect l s.state), fun hmem => ?_⟩
      rcases mem_effect hmem with hold | hnew
      · exact hnot hold
      · exact absurd hlt (Nat.not_lt.2 hnew)
  due := by
    intro j l' rows hm hl card hcard
    rw [Snapshot.state_after, now_effect]
    rcases Snapshot.mem_after.1 hm with hnew | hold
    · obtain ⟨-, rfl, -, rfl⟩ := of_eq_taken hnew
      obtain ⟨hmem, hgone⟩ := Table.mem_findMany.1 hcard
      exact h.due_of_permits hper hl hmem hgone
    · exact h.due j l' rows hold hl card hcard

end Calls

section Protocol

variable {ι : Type*} {fails : CardCall → Prop} {i : ι} {s : CardSnapshot ι} {card : ReunionCard}

/-- The protocol of the table. -/
def cardProtocol (fails : CardCall → Prop) : Protocol (cardSetting (ι := ι) fails) where
  effect := CardCall.effect
  permits := CardPermits
  inv := CardInv
  inv_call := fun hinv hper _ => hinv.call hper
  inv_env := fun henv hinv => hinv.env henv

/-- The row is in the table, or a call has taken it. -/
abbrev CardAccounted (card : ReunionCard) (s : CardSnapshot ι) : Prop :=
  AccountedFor (fun w card => card ∈ w.cards.rows) CardMark.Took card s

/-- The row was taken by a call that does not go by the expiry, or it has expired. -/
def CardGone (card : ReunionCard) (s : CardSnapshot ι) : Prop :=
  (∃ m ∈ s.marks, m.TookLive card) ∨ card.expiresAt ≤ s.state.now

theorem CardAccounted.mem_or_gone (h : CardAccounted card s) (hinv : CardInv s) :
    card ∈ s.state.cards.rows ∨ CardGone card s := by
  refine h.imp_right ?_
  rintro ⟨m, hm, i, l, rows, rfl, hgone, hcard⟩
  cases hl : l.expires with
  | true => exact .inr (hinv.due i l rows hm hl card hcard)
  | false => exact .inl ⟨_, hm, i, l, rows, rfl, hl, hgone, hcard⟩

theorem took_of_mem (j : ι) (l : CardCall) (w : CardWorld) (h : card ∈ w.cards.rows) :
    card ∈ (l.effect w).cards.rows ∨ ∃ m, CardMark.of j l w = some m ∧ m.Took card := by
  refine (taken_of_mem j l h).imp_right ?_
  rintro ⟨hgone, rows, hmark, hcard⟩
  exact ⟨_, hmark, j, l, rows, rfl, hgone, hcard⟩

theorem CardTimePasses.mem {w w' : CardWorld} (h : CardTimePasses w w') :
    card ∈ w.cards.rows → card ∈ w'.cards.rows :=
  fun hmem => h.1 ▸ hmem

theorem CardAccounted.after (h : CardAccounted card s) (j : ι) (l : CardCall) :
    CardAccounted card (s.after CardMark.of j l l.effect) :=
  AccountedFor.after h (took_of_mem j l s.state)

theorem CardAccounted.env {w : CardWorld} (h : CardAccounted card s)
    (hw : CardTimePasses s.state w) : CardAccounted card (⟨w, s.marks⟩ : CardSnapshot ι) :=
  AccountedFor.env h hw.mem

theorem CardGone.after (h : CardGone card s) (j : ι) (l : CardCall) :
    CardGone card (s.after CardMark.of j l l.effect) := by
  refine h.imp ?_ fun hdue => (now_effect l s.state).symm ▸ hdue
  exact fun ⟨m, hm, htook⟩ => ⟨m, Snapshot.mem_after_of_mem hm, htook⟩

theorem CardGone.env {w : CardWorld} (h : CardGone card s) (hw : CardTimePasses s.state w) :
    CardGone card (⟨w, s.marks⟩ : CardSnapshot ι) :=
  h.imp_right (le_trans · hw.2)

end Protocol

section Threads

variable {ι : Type*} {fails : CardCall → Prop} {i : ι} {s : CardSnapshot ι}
  {toISOString : Time → String} {tagId : String} {rows : List ReunionCard}

/-- The answer shows a row with the tag that the thread has found before it was due. -/
def Served (toISOString : Time → String) (tagId : String) (i : ι) (dto : ReunionSnapshotDto)
    (s : CardSnapshot ι) : Prop :=
  ∃ card time, .found i card ∈ s.marks ∧ .clock i time ∈ s.marks ∧ card.tagId = tagId ∧
    time < card.expiresAt ∧ dto = toDto toISOString card.snapshot

/-- Of the rows, those with the tag are gone. -/
def NoneLeft (rows : List ReunionCard) (tagId : String) (s : CardSnapshot ι) : Prop :=
  ∀ card ∈ rows, card.tagId = tagId → CardGone card s

theorem lasting_served {dto : ReunionSnapshotDto} :
    (cardProtocol fails).Lasting i (fun _ => false) (Served toISOString tagId i dto) := by
  refine .of_kept (fun j l s _ _ _ h => ?_) fun _ _ _ _ _ h => h
  obtain ⟨card, time, hfound, hclock, hrest⟩ := h
  exact ⟨card, time, Snapshot.mem_after_of_mem hfound, Snapshot.mem_after_of_mem hclock, hrest⟩

theorem lasting_noneLeft :
    (cardProtocol fails).Lasting i (fun _ => false) (NoneLeft rows tagId) :=
  .of_kept (fun j l _ _ _ _ h card hcard htag => (h card hcard htag).after j l)
    fun _ _ _ _ hw h card hcard htag => (h card hcard htag).env hw

/-- What a read of a tag answers, when `rows` were there to start with. -/
def FindsPublic (toISOString : Time → String) (tagId : String) (i : ι)
    (rows : List ReunionCard) :
    Except AppError (Option ReunionSnapshotDto) → CardSnapshot ι → Prop
  | .ok (some dto), s => Served toISOString tagId i dto s
  | .ok none, s => NoneLeft rows tagId s
  | .error e, _ => ∀ message, e ≠ .notFound message

theorem safe_deleteExpired {id : ℕ} {J : CardSnapshot ι → Prop}
    (hJ : (cardProtocol fails).Lasting i (fun _ => false) J) (hs : J s)
    (hper : ∀ s, J s → CardPermits i (.snapshotDelete id) s) :
    Safe (cardProtocol fails).contract i (fun r s => r = .ok () ∧ J s) (deleteExpired id) s := by
  unfold deleteExpired
  apply Safe.tryCatch
  refine Protocol.safe_call rfl fun s₁ hr hinv => ?_
  have h₁ := hJ.stable hs hr
  have hend : ∀ s₂, J s₂ → Safe (cardProtocol fails).contract i (fun r s => r = .ok () ∧ J s)
      (.ret () : CardProcess Unit) s₂ :=
    fun s₂ h₂ => Safe.ret fun s₃ hr₃ _ => ⟨rfl, hJ.stable h₂ hr₃⟩
  refine ⟨fun hadm => ⟨hper s₁ h₁, fun hinv' => ?_⟩, fun _ => ?_⟩
  · have h₂ := hJ.call i (.snapshotDelete id) s₁ hinv (hper s₁ h₁) hadm (fun _ _ => rfl) h₁
    split
    · exact Safe.ret fun s₃ hr₃ _ => ⟨rfl, hJ.stable h₂ hr₃⟩
    · exact Safe.raise fun s₃ hr₃ _ => hend s₃ (hJ.stable h₂ hr₃)
  · exact Safe.raise fun s₃ hr₃ _ => hend s₃ (hJ.stable h₁ hr₃)

/-- The rest of a read that has found a row. -/
theorem safe_readRow {row : ReunionCard} (htag : row.tagId = tagId)
    (hfound : .found i row ∈ s.marks)
    (hs : ∀ card ∈ rows, card.tagId = tagId → card = row ∨ CardGone card s) :
    Safe (cardProtocol fails).contract i (FindsPublic toISOString tagId i rows)
      (read .dateNow CardWorld.now >>= fun now =>
        if row.expiresAt ≤ now then deleteExpired row.id >>= fun _ => .ret none
        else .ret (some (toDto toISOString row.snapshot))) s := by
  let rest : List ReunionCard := rows.filter fun card => card ≠ row
  have hrest : NoneLeft rest tagId s := by
    intro card hcard htag'
    obtain ⟨hmem, hne⟩ := List.mem_filter.1 hcard
    exact (hs card hmem htag').resolve_left (of_decide_eq_true hne)
  refine ((Protocol.Lasting.marked (.found i row)).and lasting_noneLeft).call_bind ⟨hfound, hrest⟩
    (f := id) rfl (fun _ _ _ _ => trivial) (fun s₁ hinv h₁ => ?_) fun _ _ _ _ => nofun
  let s₂ : CardSnapshot ι := s₁.after CardMark.of i .dateNow dateNow.effect
  have hfound₂ : .found i row ∈ s₂.marks := Snapshot.mem_after_of_mem h₁.1
  have hclock₂ : .clock i s₁.state.now ∈ s₂.marks := Snapshot.mem_after.2 (.inl rfl)
  have hrest₂ : NoneLeft rest tagId s₂ :=
    fun card hcard htag => (h₁.2 card hcard htag).after i .dateNow
  split
  next hdue =>
    have hnone : NoneLeft rows tagId s₂ := by
      intro card hcard htag'
      by_cases hrow : card = row
      · subst hrow
        exact .inr hdue
      · exact hrest₂ card (List.mem_filter.2 ⟨hcard, decide_eq_true hrow⟩) htag'
    have hnoneLeft : (cardProtocol fails).Lasting i (fun _ => false) (NoneLeft rows tagId) :=
      lasting_noneLeft
    have hJ := ((Protocol.Lasting.marked (.found i row)).and
      (.marked (.clock i s₁.state.now))).and hnoneLeft
    apply Safe.bind
    refine (safe_deleteExpired hJ ⟨⟨hfound₂, hclock₂⟩, hnone⟩ fun s₃ h₃ => ?_).mono ?_
    · exact ⟨row, s₁.state.now, rfl, hdue, h₃.1.1, h₃.1.2⟩
    · rintro r s₃ - ⟨rfl, h₃⟩
      exact Safe.ret fun s₄ hr₄ _ => (hJ.stable h₃ hr₄).2
  next hlive =>
    refine Safe.ret fun s₃ hr _ => lasting_served.stable ?_ hr
    exact ⟨row, s₁.state.now, hfound₂, hclock₂, htag, not_le.1 hlive, rfl⟩

theorem safe_findPublicByTagId
    (hs : ∀ card ∈ rows, card.tagId = tagId → CardAccounted card s) :
    Safe (cardProtocol fails).contract i (FindsPublic toISOString tagId i rows)
      (findPublicByTagId toISOString tagId) s := by
  have hstart : (cardProtocol fails).Lasting i (fun _ => false) fun s : CardSnapshot ι =>
      ∀ card ∈ rows, card.tagId = tagId → CardAccounted card s :=
    .of_kept (fun j l _ _ _ _ h card hcard htag => (h card hcard htag).after j l)
      fun _ _ _ _ hw h card hcard htag => (h card hcard htag).env hw
  refine hstart.call_bind hs (f := id) rfl (fun _ _ _ _ => trivial) (fun s₁ hinv h₁ => ?_)
    fun _ _ _ _ => nofun
  have hfate : ∀ card ∈ rows, card.tagId = tagId →
      s₁.state.cards.findByTagId tagId = some card ∨ CardGone card s₁ := by
    intro card hcard htag
    refine ((h₁ card hcard htag).mem_or_gone hinv).imp_left fun hmem => ?_
    exact ReunionCards.findByTagId_eq_some_iff.2 ⟨hmem, htag⟩
  have hafter : ∀ card, CardGone card s₁ → CardGone card
      (s₁.after CardMark.of i (.snapshotFindUnique tagId) (snapshotFindUnique tagId).effect) :=
    fun card h => h.after i (.snapshotFindUnique tagId)
  cases hfind : s₁.state.cards.findByTagId tagId with
  | none =>
      refine Safe.ret fun s₂ hr _ => lasting_noneLeft.stable (fun card hcard htag => ?_) hr
      rcases hfate card hcard htag with hthere | hgone
      · cases hfind.symm.trans hthere
      · exact hafter card hgone
  | some row =>
      have hrow := ReunionCards.findByTagId_eq_some_iff.1 hfind
      have hfound : .found i row ∈ (s₁.after CardMark.of i (.snapshotFindUnique tagId)
          (snapshotFindUnique tagId).effect).marks :=
        Snapshot.mem_after.2 (.inl (congrArg (Option.map (CardMark.found i)) hfind))
      refine safe_readRow hrow.2 hfound fun card hcard htag => ?_
      refine (hfate card hcard htag).imp (fun hthere => ?_) (hafter card)
      exact Option.some.inj (hthere.symm.trans hfind)

/-- What a request answers, when `rows` were there to start with. -/
def CardAnswered (toISOString : Time → String) (rows : List ReunionCard) (i : ι) :
    CardRequest → Except AppError CardAnswer → CardSnapshot ι → Prop
  | .view tagId, .ok (.viewed dto), s => Served toISOString tagId i dto s
  | .view tagId, .error (.notFound _), s => NoneLeft rows tagId s
  | _, _, _ => True

theorem safe_view (hs : ∀ card ∈ rows, card.tagId = tagId → CardAccounted card s) (E : AlertEnv) :
    Safe (cardProtocol fails).contract i (CardAnswered toISOString rows i (.view tagId))
      ((CardRequest.view tagId).process E toISOString) s := by
  refine Safe.map (Safe.bind ((safe_findPublicByTagId hs).mono fun r s₁ _ hr => ?_))
  cases r with
  | error e =>
      cases e with
      | notFound message => exact absurd rfl (hr message)
      | _ => trivial
  | ok found =>
      cases found with
      | none => exact Safe.raise fun s₂ hr₂ _ => lasting_noneLeft.stable hr hr₂
      | some dto => exact Safe.ret fun s₂ hr₂ _ => lasting_served.stable hr hr₂

theorem safe_purge (E : AlertEnv) :
    Safe (cardProtocol fails).contract i (CardAnswered toISOString rows i .purge)
      (CardRequest.purge.process E toISOString) s := by
  refine Safe.map (Protocol.Lasting.nothing.call_bind trivial (f := id) rfl
    (fun _ _ _ _ => trivial) (fun s₁ _ _ => ?_) fun _ _ _ _ => trivial)
  have hclock : .clock i s₁.state.now ∈ (s₁.after CardMark.of i .dateNow dateNow.effect).marks :=
    Snapshot.mem_after.2 (.inl rfl)
  refine Protocol.safe_call rfl fun s₂ hr _ => ⟨fun _ => ⟨?_, fun _ => ?_⟩, fun _ => ?_⟩
  · exact (Protocol.Lasting.marked _).stable hclock hr
  · exact Safe.ret fun _ _ _ => trivial
  · exact Safe.raise fun _ _ _ => trivial

theorem safe_resolve (E : AlertEnv) (alertId : ℕ) (pet : Pet) (thankYouMessage : Option String)
    (resolvedAt : Time) :
    Safe (cardProtocol fails).contract i (fun _ _ => True)
      ((CardRequest.resolve alertId pet thankYouMessage resolvedAt).process E toISOString) s := by
  refine (Protocol.safe_of_permitted (R := fun _ => True) (J := fun _ => True) ?_
    (fun _ _ _ _ _ _ _ => trivial) (fun _ _ _ _ _ _ => trivial) trivial).mono
      fun _ _ _ _ => trivial
  refine Process.Confined.map _ (Process.confined_query_bind ⟨rfl, fun _ => trivial⟩ trivial
    fun s₁ => Process.confined_query_bind ⟨rfl, fun _ => trivial⟩ trivial fun s₂ => ?_)
  refine Process.Confined.bind (Process.confined_modify ⟨rfl, fun _ => trivial⟩ trivial)
    fun _ => ?_
  exact Process.confined_atomic ⟨rfl, fun _ => trivial⟩ (fun _ _ _ => trivial) trivial

theorem safe_cardRequest (E : AlertEnv) (req : CardRequest)
    (hs : ∀ card ∈ rows, ∀ tagId, card.tagId = tagId → CardAccounted card s) :
    Safe (cardProtocol fails).contract i (CardAnswered toISOString rows i req)
      (req.process E toISOString) s := by
  cases req with
  | resolve alertId pet thankYouMessage resolvedAt =>
      exact (safe_resolve E alertId pet thankYouMessage resolvedAt).mono fun _ _ _ _ => trivial
  | view tagId => exact safe_view (fun card hcard => hs card hcard tagId) E
  | purge => exact safe_purge E
  | deleteAlert id =>
      refine Protocol.safe_call rfl fun s₁ _ _ => ⟨fun _ => ⟨trivial, fun _ => ?_⟩, fun _ => ?_⟩
      · exact Safe.ret fun _ _ _ => trivial
      · exact Safe.raise fun _ _ _ => trivial

end Threads

section Runs

variable {ι : Type*} [DecidableEq ι] {E : AlertEnv} {toISOString : Time → String}
  {fails : CardCall → Prop} {req : ι → CardRequest} {w₀ : CardWorld}

abbrev CardConfig (ι : Type*) := Config ι CardWorld CardCall AppError CardAnswer (CardMark ι)

def cardPool (E : AlertEnv) (toISOString : Time → String) (w₀ : CardWorld)
    (req : ι → CardRequest) : CardConfig ι :=
  .init w₀ fun i => (req i).process E toISOString

omit [DecidableEq ι] in
theorem cardPool_sound (E : AlertEnv) (toISOString : Time → String) (fails : CardCall → Prop)
    (req : ι → CardRequest) (w₀ : CardWorld) :
    Sound (cardProtocol fails).contract (fun i => CardAnswered toISOString [] i (req i))
      (cardPool E toISOString w₀ req) :=
  ⟨⟨nofun, nofun, nofun, nofun⟩, fun i => safe_cardRequest E (req i) nofun⟩

/-- What holds between two moments of a run: a live row stays unless a resolved alert replaces it or
its alert is deleted, the expiry has taken rows that were due, and no row comes back. -/
structure ExpiresOnly (c₁ c₂ : CardConfig ι) : Prop where
  stays : ∀ card ∈ c₁.state.cards.rows, c₂.state.now < card.expiresAt →
    card ∈ c₂.state.cards.rows ∨ ∃ m ∈ c₂.marks, m ∉ c₁.marks ∧ m.TookLive card
  due : ∀ i l rows, .taken i l rows ∈ c₂.marks → l.expires = true →
    ∀ card ∈ rows, card.expiresAt ≤ c₂.state.now
  never : ∀ m ∈ c₁.marks, ∀ card ∈ m.rows, card ∉ c₂.state.cards.rows

omit [DecidableEq ι] in
/-- What took a row that is still there did so later. -/
theorem CardInv.not_mem_of_tookLive {s : CardSnapshot ι} (h : CardInv s) {card : ReunionCard}
    (hcard : card ∈ s.state.cards.rows) {m : CardMark ι} (hm : m.TookLive card) : m ∉ s.marks := by
  obtain ⟨i, l, rows, rfl, -, -, hrow⟩ := hm
  exact fun hmem => (h.gone _ hmem card hrow).2 hcard

/-- In every interleaving of resolved alerts, public reads, the daily purge and deletions of alerts,
with any calls failing, the expiry takes nothing but expired rows. -/
theorem reunionSnapshots_expire {c₁ c₂ : CardConfig ι}
    (h₁ : Reaches (cardSetting fails) (cardPool E toISOString w₀ req) c₁)
    (h₂ : Reaches (cardSetting fails) c₁ c₂) : ExpiresOnly c₁ c₂ := by
  have hsound₁ := (cardPool_sound E toISOString fails req w₀).reaches h₁
  have hsound₂ := hsound₁.reaches h₂
  have hrun := Protocol.refines hsound₁ h₂
  refine ⟨fun card hcard hlive => ?_, hsound₂.1.due, fun m hm card hrow => ?_⟩
  · have hkept : CardAccounted card c₂.toSnapshot :=
      hrun.accountedFor took_of_mem (fun _ _ => CardTimePasses.mem) (.inl hcard)
    rcases hkept.mem_or_gone hsound₂.1 with hthere | ⟨m, hm, htook⟩ | hdue
    · exact .inl hthere
    · exact .inr ⟨m, hm, hsound₁.1.not_mem_of_tookLive hcard htook, htook⟩
    · exact absurd hdue (not_le.2 hlive)
  · exact (hsound₂.1.gone m (h₂.marks_suffix.subset hm) card hrow).2

/-- What became of a public read that started at `c₁`: it shows a row that its thread found before
it was due, and a tag is missing only when its row is gone by the expiry or otherwise. -/
structure ViewsLive (toISOString : Time → String) (tagId : String) (i : ι)
    (c₁ c₂ : CardConfig ι) : Prop where
  served : ∀ dto, c₂.pool i = .ret (.viewed dto) → Served toISOString tagId i dto c₂.toSnapshot
  missing : ∀ message, c₂.pool i = .raise (.notFound message) →
    ∀ card ∈ c₁.state.cards.rows, card.tagId = tagId → c₂.state.now < card.expiresAt →
      ∃ m ∈ c₂.marks, m ∉ c₁.marks ∧ m.TookLive card

/-- A public read serves the row of its tag, while nothing else than the expiry takes it. -/
theorem findReunionByTag_views {c₁ c₂ : CardConfig ι} {i : ι} {tagId : String}
    (hreq : req i = .view tagId)
    (h₁ : Reaches (cardSetting fails) (cardPool E toISOString w₀ req) c₁)
    (hstart : c₁.pool i = (req i).process E toISOString)
    (h₂ : Reaches (cardSetting fails) c₁ c₂) : ViewsLive toISOString tagId i c₁ c₂ := by
  have hsound₁ := (cardPool_sound E toISOString fails req w₀).reaches h₁
  have hview : Safe (cardProtocol fails).contract i
      (CardAnswered toISOString c₁.state.cards.rows i (.view tagId)) (c₁.pool i)
      c₁.toSnapshot := by
    rw [hstart, hreq]
    exact safe_view (fun card hcard _ => .inl hcard) E
  have hsound₂ := (hsound₁.update hview).reaches h₂
  refine ⟨fun dto hret => ?_, fun message hraise card hcard htag hlive => ?_⟩
  · have hpost := hsound₂.result hret
    rwa [Function.update_self] at hpost
  · have hpost := hsound₂.exception hraise
    rw [Function.update_self] at hpost
    rcases hpost card hcard htag with ⟨m, hm, htook⟩ | hdue
    · exact ⟨m, hm, hsound₁.1.not_mem_of_tookLive hcard htook, htook⟩
    · exact absurd hdue (not_le.2 hlive)

end Runs

section Replaced

def oldCard : ReunionCard :=
  ⟨0, { tagId := "TAG", alertId := 1, petName := "Rex", resolvedAt := 0, expiresAt := 5 }⟩

/-- The table with one row that has expired. -/
def expiredWorld : CardWorld where
  rest := { now := 10 }
  cards :=
    { rows := [oldCard], nodup := by decide, next := 1, lt_next := by decide
      nodup_tagId := by decide, nodup_alertId := by decide }

/-- The old row is read while a later alert of the same pet is resolved. -/
def viewAndResolve : Bool → CardRequest
  | false => .view "TAG"
  | true => .resolve 2 { (default : Pet) with tagId := "TAG", name := "Rex" } none 10

def replacedRun : CardConfig Bool :=
  (cardPool {} (fun _ => "") expiredWorld viewAndResolve).schedule CardMark.of
    [false, true, true, true, true]

theorem reaches_card (c : CardConfig Bool) (is : List Bool) :
    Reaches (cardSetting fun _ => False) c (c.schedule CardMark.of is) :=
  Reaches.schedule (fun _ _ _ => trivial) is c

/-- The read deletes the row that it has found; the new row of the same tag stays. -/
theorem reunionSnapshots_expire_replaced :
    ExpiresOnly replacedRun (replacedRun.schedule CardMark.of [false, false]) ∧
      (replacedRun.schedule CardMark.of [false, false]).state.cards.rows.map ReunionCard.id =
        [1] :=
  ⟨reunionSnapshots_expire (reaches_card _ _) (reaches_card _ _), by decide +kernel⟩

def twoViews : Bool → CardRequest := fun _ => .view "TAG"

/-- The expired row is read twice. -/
def viewedRun : CardConfig Bool :=
  (cardPool {} (fun _ => "") expiredWorld twoViews).schedule CardMark.of [false, false, false]

theorem findReunionByTag_views_expired :
    ViewsLive (fun _ => "") "TAG" true viewedRun (viewedRun.schedule CardMark.of [true]) := by
  have hreq : twoViews true = .view "TAG" := rfl
  exact findReunionByTag_views hreq (reaches_card _ _) rfl (reaches_card _ _)

end Replaced

end FifiAlert
