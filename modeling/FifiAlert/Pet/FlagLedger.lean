import FifiAlert.Pet.MissingFlag

/-!
# The ledger of the missing flag

A pet that is not flagged may have a live alert only while somebody who has cleared its flag is
going to resolve that alert. The calls of the services keep this, one by one (`FlagLedger.call`):
a clearing covers the live alerts there are, the list of the live alerts has every alert that was
covered, and no call opens an alert but its insertion.
-/

namespace FifiAlert

open Concurrency Store AlertCall

section Ledger

variable {ι : Type*}

/-- The thread has cleared the flag of the pet over a live alert, has not resolved alerts yet, and
is going to resolve this one. -/
def Covers (petId id : ℕ) (k : ι) (marks : List (FlagMark ι)) : Prop :=
  .cleared k petId true ∈ marks ∧ .settled k ∉ marks ∧ ∀ ids, .listed k petId ids ∈ marks → id ∈ ids

/-- The invariant of the flag: a live alert of a pet that is not flagged is going to be
resolved. -/
def FlagLedger (s : FlagSnapshot ι) : Prop :=
  InsertedFlagged s.marks → CancelledLast s.marks → ∀ petId id,
    s.state.unflagged petId = true → s.state.isLive petId id = true →
      ∃ k, Covers petId id k s.marks

/-- What the marks of a thread have in common. -/
def OwnMarks (i : ι) (A : FlagMark ι → Bool) (s : FlagSnapshot ι) : Prop :=
  ∀ m ∈ s.marks, m.thread = i → A m = true

/-- The flag is cleared before alerts are looked for, alerts are resolved as they were listed, and
no call makes an alert live but the insertion. -/
structure MayFlag (i : ι) (l : FlagCall) (s : FlagSnapshot ι) : Prop where
  clears : ∀ p, l = .pet (petUpdate p false) → OwnMarks i (fun m => !m.isSettling) s
  resolves : ∀ ids date notes, l = .pet (alertResolveMany ids date notes) →
    ∀ p live, .cleared i p live ∈ s.marks → .listed i p ids ∈ s.marks
  opens : ∀ id data, l.alertCall? = some (alertUpdate id data) → data.status ≠ some .ACTIVE

variable {i j k : ι} {w w' : World} {marks : List (FlagMark ι)} {s : FlagSnapshot ι}
  {petId id : ℕ}

theorem FlagLedger.init (h : w.FlaggedWhileLive) : FlagLedger (ι := ι) ⟨w, []⟩ := by
  intro _ _ petId id hunflagged hlive
  have hflagged := World.flaggedWhileLive_iff.1 h petId id hlive
  rw [hunflagged] at hflagged
  cases hflagged

/-- A step that takes no flag and makes no alert live. -/
theorem FlagLedger.quiet (h : FlagLedger ⟨w, marks⟩)
    (hunflagged : ∀ p, w'.unflagged p = true → w.unflagged p = true)
    (hlive : ∀ p id, w'.isLive p id = true → w.isLive p id = true) : FlagLedger ⟨w', marks⟩ :=
  fun hinserted hcancelled petId id hu hl =>
    h hinserted hcancelled petId id (hunflagged petId hu) (hlive petId id hl)

theorem InsertedFlagged.of_cons {m : FlagMark ι} (h : InsertedFlagged (m :: marks)) :
    InsertedFlagged marks :=
  fun m' hm' => h m' (List.mem_cons_of_mem m hm')

theorem CancelledLast.of_cons {m : FlagMark ι} (h : CancelledLast (m :: marks)) :
    CancelledLast marks :=
  fun m' hm' => h m' (List.mem_cons_of_mem m hm')

/-- A mark that neither lists live alerts nor settles them. -/
theorem FlagLedger.marked {m : FlagMark ι} (h : FlagLedger ⟨w, marks⟩)
    (hm : m.isSettling = false) : FlagLedger ⟨w, m :: marks⟩ := by
  intro hinserted hcancelled petId id hunflagged hlive
  obtain ⟨k, hcleared, hsettled, hids⟩ :=
    h hinserted.of_cons hcancelled.of_cons petId id hunflagged hlive
  refine ⟨k, List.mem_cons_of_mem _ hcleared, fun hmem => ?_, fun ids hmem => ?_⟩
  · rcases List.mem_cons.1 hmem with heq | hold
    · rw [← heq] at hm
      cases hm
    · exact hsettled hold
  · rcases List.mem_cons.1 hmem with heq | hold
    · rw [← heq] at hm
      cases hm
    · exact hids ids hold

/-- The flag is cleared for a cancelled alert: no live alert of the pet was there. -/
theorem FlagLedger.cancel {p : ℕ} (h : FlagLedger ⟨w, marks⟩) :
    FlagLedger ⟨(petUpdate p false).effect w, .cancelled i p (w.hasLive p) :: marks⟩ := by
  intro hinserted hcancelled petId id hunflagged hlive
  have hlive' : w.isLive petId id = true :=
    AlertCall.isLive_effect (fun _ _ h => (by cases h)) hlive
  by_cases hp : petId = p
  · subst hp
    refine absurd ?_ (hcancelled _ List.mem_cons_self i petId)
    rw [World.hasLive_of_isLive hlive']
  · rw [unflagged_petUpdate, if_neg hp] at hunflagged
    exact h.marked rfl hinserted hcancelled petId id hunflagged hlive'

/-- The flag is cleared for a found pet: its thread covers the live alerts of the pet. -/
theorem FlagLedger.clear {p : ℕ} (h : FlagLedger ⟨w, marks⟩)
    (hown : OwnMarks i (fun m => !m.isSettling) ⟨w, marks⟩) :
    FlagLedger ⟨(petUpdate p false).effect w, .cleared i p (w.hasLive p) :: marks⟩ := by
  intro hinserted hcancelled petId id hunflagged hlive
  have hlive' : w.isLive petId id = true :=
    AlertCall.isLive_effect (fun _ _ h => (by cases h)) hlive
  by_cases hp : petId = p
  · subst hp
    rw [World.hasLive_of_isLive hlive']
    refine ⟨i, List.mem_cons_self, fun hsettled => ?_, fun ids hids => ?_⟩
    · rcases List.mem_cons.1 hsettled with heq | hold
      · cases heq
      · exact absurd (hown _ hold rfl) (by simp [FlagMark.isSettling])
    · rcases List.mem_cons.1 hids with heq | hold
      · cases heq
      · exact absurd (hown _ hold rfl) (by simp [FlagMark.isSettling])
  · rw [unflagged_petUpdate, if_neg hp] at hunflagged
    exact h.marked rfl hinserted hcancelled petId id hunflagged hlive'

/-- The live alerts are listed. -/
theorem FlagLedger.list {p : ℕ} (h : FlagLedger ⟨w, marks⟩) :
    FlagLedger ⟨w, .listed i p (w.liveIds p) :: marks⟩ := by
  intro hinserted hcancelled petId id hunflagged hlive
  obtain ⟨k, hcleared, hsettled, hids⟩ :=
    h hinserted.of_cons hcancelled.of_cons petId id hunflagged hlive
  refine ⟨k, List.mem_cons_of_mem _ hcleared, by simpa using hsettled, fun ids hmem => ?_⟩
  rcases List.mem_cons.1 hmem with heq | hold
  · cases heq
    exact World.mem_liveIds.2 hlive
  · exact hids ids hold

/-- The alerts that were listed are resolved. -/
theorem FlagLedger.settle {ids : List ℕ} {date : Time} {notes : String}
    (h : FlagLedger ⟨w, marks⟩)
    (hlisted : ∀ p live, .cleared i p live ∈ marks → .listed i p ids ∈ marks) :
    FlagLedger ⟨(alertResolveMany ids date notes).effect w, .settled i :: marks⟩ := by
  intro hinserted hcancelled petId id hunflagged hlive
  have hlive' : w.isLive petId id = true :=
    AlertCall.isLive_effect (fun _ _ h => (by cases h)) hlive
  obtain ⟨k, hcleared, hsettled, hids⟩ :=
    h hinserted.of_cons hcancelled.of_cons petId id hunflagged hlive'
  refine ⟨k, List.mem_cons_of_mem _ hcleared, fun hmem => ?_, fun ids' hmem => hids ids' ?_⟩
  · rcases List.mem_cons.1 hmem with heq | hold
    · cases heq
      exact isLive_alertResolveMany hlive (hids ids (hlisted petId true hcleared))
    · exact hsettled hold
  · simpa using hmem

/-- An alert is inserted for a pet that is flagged. -/
theorem FlagLedger.insert {data : AlertInsert} (h : FlagLedger ⟨w, marks⟩) :
    FlagLedger ⟨w.insertAlert data,
      (data.petId.map fun p => FlagMark.inserted i p (!w.unflagged p)).toList ++ marks⟩ := by
  intro hinserted hcancelled petId id hunflagged hlive
  have hunflagged' : w.unflagged petId = true := hunflagged
  cases hof : data.petId with
  | none =>
      rw [hof] at hinserted hcancelled
      rcases isLive_insertAlert hlive with hold | hnew
      · exact h hinserted hcancelled petId id hunflagged' hold
      · rw [hof] at hnew
        cases hnew
  | some p =>
      rw [hof] at hinserted hcancelled
      rcases isLive_insertAlert hlive with hold | hnew
      · exact h.marked rfl hinserted hcancelled petId id hunflagged' hold
      · rw [hof] at hnew
        cases hnew
        refine absurd ?_ (hinserted _ List.mem_cons_self i petId)
        change FlagMark.inserted i petId (!w.unflagged petId) = _
        rw [hunflagged']
        rfl

/-- A call of the alerts that leaves no mark. -/
theorem FlagLedger.unmarked {l : AlertCall} (h : FlagLedger ⟨w, marks⟩)
    (hclears : ∀ p, l ≠ petUpdate p false)
    (hopens : ∀ id data, l = alertUpdate id data → data.status ≠ some .ACTIVE) :
    FlagLedger ⟨l.effect w, marks⟩ :=
  h.quiet (fun _ => AlertCall.unflagged_effect hclears) fun _ _ => AlertCall.isLive_effect hopens

/-- One step of the invariant. -/
theorem FlagLedger.call {l : FlagCall} (h : FlagLedger s) (hmay : MayFlag i l s) :
    FlagLedger (s.after flagMark i l l.effect) := by
  obtain ⟨w, marks⟩ := s
  cases l with
  | alert l =>
      cases l with
      | alert l =>
          have hopens : ∀ id data, l = alertUpdate id data → data.status ≠ some .ACTIVE :=
            fun id data hl => hmay.opens id data (by rw [hl]; rfl)
          cases l with
          | petUpdate p isMissing =>
              cases isMissing with
              | false => exact h.cancel
              | true => exact (h.unmarked (fun _ hl => by cases hl) hopens).marked rfl
          | petFindUnique p =>
              have hafter : Snapshot.after ⟨w, marks⟩ flagMark i
                  (.alert (.alert (.petFindUnique p)))
                  (FlagCall.effect (.alert (.alert (.petFindUnique p)))) =
                    if w.flagged p then ⟨w, .saw i p :: marks⟩ else ⟨w, marks⟩ := by
                simp only [Snapshot.after, flagMark, FlagCall.effect, CreationCall.effect]
                split <;> rfl
              rw [hafter]
              split
              · exact h.marked rfl
              · exact h
          | alertCountActive p => exact h.marked rfl
          | _ => exact h.unmarked (fun _ hl => by cases hl) hopens
      | rateLimit l =>
          exact h.quiet (fun p hu => (World.unflagged_congr l.pets_effect).symm.trans hu)
            fun p id hl => (World.isLive_congr l.alerts_effect).symm.trans hl
      | notification l =>
          exact h.quiet (fun p hu => (World.unflagged_congr l.pets_effect).symm.trans hu)
            fun p id hl => l.isLive_effect.symm.trans hl
      | alertInsert data =>
          have hafter : Snapshot.after ⟨w, marks⟩ flagMark i (.alert (.alertInsert data))
              (FlagCall.effect (.alert (.alertInsert data))) =
                if w.takesAlert data then ⟨w.insertAlert data, (data.petId.map fun p =>
                  FlagMark.inserted i p (!w.unflagged p)).toList ++ marks⟩
                else ⟨w, marks⟩ := by
            simp only [Snapshot.after, flagMark, FlagCall.effect, CreationCall.effect]
            split <;> rfl
          rw [hafter]
          split
          · exact h.insert
          · exact h
  | pet l =>
      have hopens : ∀ id data, l = alertUpdate id data → data.status ≠ some .ACTIVE :=
        fun id data hl => hmay.opens id data (by rw [hl]; rfl)
      cases l with
      | petUpdate p isMissing =>
          cases isMissing with
          | false => exact h.clear (hmay.clears p rfl)
          | true => exact (h.unmarked (fun _ hl => by cases hl) hopens).marked rfl
      | alertFindActive p => exact h.list
      | alertResolveMany ids date notes => exact h.settle (hmay.resolves ids date notes rfl)
      | _ => exact h.unmarked (fun _ hl => by cases hl) hopens

end Ledger

end FifiAlert
