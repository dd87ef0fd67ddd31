import FifiAlert.Alert.AlertService

/-!
# Replacing a reunion snapshot

A new snapshot clears the rows that have its tag or its alert and is inserted in a
step of its own. Both columns stay unique, but when the insertion fails after rows
were cleared, neither the old snapshot nor the new one is left.
-/

namespace FifiAlert

open Concurrency Store AlertService

/-- The row that the service writes. -/
def newSnapshot (E : AlertEnv) (alertId : ℕ) (pet : Pet) (thankYouMessage : Option String)
    (resolvedAt : Time) (w : World) : ReunionSnapshot where
  tagId := pet.tagId
  alertId := alertId
  petName := pet.name
  petPhotoUrl := pet.primaryPhoto <|> pet.photos.head?
  thankYouMessage := thankYouMessage
  resolvedAt := resolvedAt
  neighboursNotified := some (countNeighboursNotified alertId w)
  sightingsReported := w.sightings.count fun s => s.alert_id = alertId
  expiresAt := resolvedAt + getReunionTtlDays E * MS_PER_DAY

namespace ReunionSnapshot

/-- Two rows that one of the unique columns keeps apart. -/
def Clashes (s r : ReunionSnapshot) : Prop := r.tagId = s.tagId ∨ r.alertId = s.alertId

instance (s r : ReunionSnapshot) : Decidable (s.Clashes r) :=
  inferInstanceAs (Decidable (_ ∨ _))

/-- The rows that go before `s` is inserted. -/
def cleared (s : ReunionSnapshot) (t : ReunionSnapshots) : ReunionSnapshots :=
  t.deleteMany fun r => r.tagId = s.tagId || r.alertId = s.alertId

/-- The row is there, and no other one has its tag or its alert. -/
def Replaces (s : ReunionSnapshot) (t : ReunionSnapshots) : Prop :=
  s ∈ t.rows ∧ ∀ r ∈ t.rows, s.Clashes r → r = s

end ReunionSnapshot

def UniqueAlertIds (t : ReunionSnapshots) : Prop := (t.rows.map ReunionSnapshot.alertId).Nodup

section Table

variable {s r : ReunionSnapshot} {t : ReunionSnapshots}

theorem mem_cleared : r ∈ (s.cleared t).rows ↔ r ∈ t.rows ∧ ¬ s.Clashes r := by
  simp [ReunionSnapshot.cleared, Table.deleteMany, ReunionSnapshot.Clashes]

theorem cleared_of_no_clash (h : ∀ r ∈ t.rows, ¬ s.Clashes r) : s.cleared t = t := by
  have hrows : (s.cleared t).rows = t.rows := List.filter_eq_self.2 fun r hr => by
    simpa [ReunionSnapshot.Clashes] using h r hr
  cases t
  simpa [ReunionSnapshot.cleared, Table.deleteMany] using hrows

theorem find?_cleared (s : ReunionSnapshot) (t : ReunionSnapshots) :
    (s.cleared t).find? s.tagId = none :=
  Table.find?_eq_none_iff.2 fun _ hr hkey => (mem_cleared.1 hr).2 (.inl hkey)

theorem not_mem_cleared (s : ReunionSnapshot) (t : ReunionSnapshots) : s ∉ (s.cleared t).rows :=
  fun h => (mem_cleared.1 h).2 (.inl rfl)

theorem any_alertId_cleared (s : ReunionSnapshot) (t : ReunionSnapshots) :
    ((s.cleared t).rows.any fun r => r.alertId = s.alertId) = false :=
  List.any_eq_false.2 fun r hr => by simpa using fun h => (mem_cleared.1 hr).2 (.inr h)

theorem replaces_insertNew (s : ReunionSnapshot) (t : ReunionSnapshots) :
    s.Replaces ((s.cleared t).insertNew s) := by
  rw [ReunionSnapshot.Replaces, Table.insertNew_rows (find?_cleared s t)]
  refine ⟨by simp, fun r hr hclash => ?_⟩
  rcases List.mem_append.1 hr with hold | hnew
  · exact absurd hclash (mem_cleared.1 hold).2
  · exact List.mem_singleton.1 hnew

theorem UniqueAlertIds.insertNew (h : UniqueAlertIds t)
    (hfree : (t.rows.any fun r => r.alertId = s.alertId) = false) :
    UniqueAlertIds (t.insertNew s) := by
  cases hkey : t.find? s.tagId with
  | some r =>
      rw [Table.insertNew_of_some hkey]
      exact h
  | none =>
      rw [UniqueAlertIds, Table.insertNew_rows hkey, List.map_append, List.nodup_append]
      refine ⟨h, by simp, fun id hid id' hid' heq => ?_⟩
      obtain ⟨r, hr, rfl⟩ := List.mem_map.1 hid
      rw [List.map_singleton, List.mem_singleton] at hid'
      have hne := List.any_eq_false.1 hfree r hr
      exact hne (by simpa using heq.trans hid')

/-- No call of the service breaks the second unique column. -/
theorem UniqueAlertIds.effect {w : World} (h : UniqueAlertIds w.reunionSnapshots) (l : AlertCall) :
    UniqueAlertIds (l.effect w).reunionSnapshots := by
  cases l with
  | snapshotDeleteMany tagId alertId => exact h.sublist (List.filter_sublist.map _)
  | snapshotCreate s =>
      rw [AlertCall.effect]
      split
      · exact h
      next hfree => exact h.insertNew (by simpa using hfree)
  | _ => exact h

end Table

section Replacement

variable (E : AlertEnv) (alertId : ℕ) (pet : Pet) (thankYouMessage : Option String)
  (resolvedAt : Time)

/-- Either the new snapshot took the place of the old ones, or the call threw and
nothing has changed. -/
def AllOrNothing (fails : AlertCall → Bool) (w : World) : Prop :=
  let s := newSnapshot E alertId pet thankYouMessage resolvedAt w
  let out := (upsertForResolvedAlert E alertId pet thankYouMessage resolvedAt).runWith fails w
  s.Replaces out.2.reunionSnapshots ∨
    (∃ e, out.1 = .error e) ∧ out.2.reunionSnapshots = w.reunionSnapshots

/-- The insertion fails after a row was cleared. -/
def LosesSnapshot (fails : AlertCall → Bool) (w : World) : Prop :=
  let s := newSnapshot E alertId pet thankYouMessage resolvedAt w
  fails (.notificationFindDelivered alertId) = false ∧ fails (.sightingCount alertId) = false ∧
    fails (.snapshotDeleteMany pet.tagId alertId) = false ∧ fails (.snapshotCreate s) = true ∧
    ∃ r ∈ w.reunionSnapshots.rows, s.Clashes r

variable {E alertId pet thankYouMessage resolvedAt}
variable {fails : AlertCall → Bool} {w : World}

theorem run_upsert_of_early_failure
    (h : fails (.notificationFindDelivered alertId) = true ∨ fails (.sightingCount alertId) = true ∨
      fails (.snapshotDeleteMany pet.tagId alertId) = true) :
    (upsertForResolvedAlert E alertId pet thankYouMessage resolvedAt).runWith fails w =
      (.error (.prisma .other), w) := by
  unfold upsertForResolvedAlert AlertCall.read AlertCall.write AlertCall.writeIf
  rw [Process.runWith_bind, Process.runWith_query]
  cases hread : fails (.notificationFindDelivered alertId) with
  | true => rfl
  | false =>
      rw [if_neg Bool.false_ne_true]
      dsimp only
      rw [Process.runWith_bind, Process.runWith_query]
      cases hcount : fails (.sightingCount alertId) with
      | true => rfl
      | false =>
          rw [if_neg Bool.false_ne_true]
          dsimp only
          rw [Process.runWith_bind, Process.runWith_modify]
          have hdelete : fails (.snapshotDeleteMany pet.tagId alertId) = true := by
            simpa [hread, hcount] using h
          rw [hdelete]
          rfl

/-- The insertion after the rows were cleared. -/
theorem insert_cleared (s : ReunionSnapshot) (w : World) :
    let w' : World := { w with reunionSnapshots := s.cleared w.reunionSnapshots }
    ((if (w'.reunionSnapshots.find? s.tagId).isNone &&
        !w'.reunionSnapshots.rows.any fun r => r.alertId = s.alertId
      then (.ok () : Except AppError Unit) else .error (.prisma .P2002)),
      (AlertCall.snapshotCreate s).effect w') =
    (.ok (), { w with reunionSnapshots := (s.cleared w.reunionSnapshots).insertNew s }) := by
  have hfind := find?_cleared s w.reunionSnapshots
  have hany := any_alertId_cleared s w.reunionSnapshots
  simp [AlertCall.effect, hfind, hany]

/-- Once the rows are cleared, the insertion goes through or fails for a reason of its own. -/
theorem run_upsert_of_cleared (hread : fails (.notificationFindDelivered alertId) = false)
    (hcount : fails (.sightingCount alertId) = false)
    (hdelete : fails (.snapshotDeleteMany pet.tagId alertId) = false) :
    (upsertForResolvedAlert E alertId pet thankYouMessage resolvedAt).runWith fails w =
      let s := newSnapshot E alertId pet thankYouMessage resolvedAt w
      let t := s.cleared w.reunionSnapshots
      if fails (.snapshotCreate s) then
        (.error (.prisma .other), { w with reunionSnapshots := t })
      else (.ok (), { w with reunionSnapshots := t.insertNew s }) := by
  unfold upsertForResolvedAlert AlertCall.read AlertCall.write AlertCall.writeIf
  rw [Process.runWith_bind, Process.runWith_query, hread, if_neg Bool.false_ne_true]
  dsimp only
  rw [Process.runWith_bind, Process.runWith_query, hcount, if_neg Bool.false_ne_true]
  dsimp only
  rw [Process.runWith_bind, Process.runWith_modify, hdelete, if_neg Bool.false_ne_true]
  dsimp only
  exact (Process.runWith_atomic fails _ _ _ _).trans
    (congrArg (ite _ _) (insert_cleared (newSnapshot E alertId pet thankYouMessage resolvedAt w) w))

end Replacement

/-- Replacing a snapshot is all or nothing unless the insertion fails after a row was cleared;
and no call breaks the uniqueness of the alerts. -/
theorem upsertForResolvedAlert_allOrNothing_iff (E : AlertEnv) (alertId : ℕ) (pet : Pet)
    (thankYouMessage : Option String) (resolvedAt : Time) (fails : AlertCall → Bool) (w : World) :
    (AllOrNothing E alertId pet thankYouMessage resolvedAt fails w ↔
      ¬ LosesSnapshot E alertId pet thankYouMessage resolvedAt fails w) ∧
    ∀ (l : AlertCall) (w : World), UniqueAlertIds w.reunionSnapshots →
      UniqueAlertIds (l.effect w).reunionSnapshots := by
  refine ⟨?_, fun l w h => h.effect l⟩
  unfold AllOrNothing LosesSnapshot
  by_cases hearly : fails (.notificationFindDelivered alertId) = true ∨
      fails (.sightingCount alertId) = true ∨
      fails (.snapshotDeleteMany pet.tagId alertId) = true
  · rw [run_upsert_of_early_failure hearly]
    constructor
    · rintro - ⟨hread, hcount, hdelete, -⟩
      simp [hread, hcount, hdelete] at hearly
    · intro _
      exact .inr ⟨⟨_, rfl⟩, rfl⟩
  · simp only [not_or, Bool.not_eq_true] at hearly
    obtain ⟨hread, hcount, hdelete⟩ := hearly
    rw [run_upsert_of_cleared hread hcount hdelete]
    dsimp only
    generalize newSnapshot E alertId pet thankYouMessage resolvedAt w = s
    cases hcreate : fails (.snapshotCreate s) with
    | false =>
        rw [if_neg Bool.false_ne_true]
        constructor
        · rintro - ⟨-, -, -, hfail, -⟩
          cases hfail
        · intro _
          exact .inl (replaces_insertNew s w.reunionSnapshots)
    | true =>
        rw [if_pos rfl]
        constructor
        · rintro (hreplaces | ⟨-, hsame⟩) ⟨-, -, -, -, r, hr, hclash⟩
          · exact not_mem_cleared s w.reunionSnapshots hreplaces.1
          · have hcleared : s.cleared w.reunionSnapshots = w.reunionSnapshots := hsame
            rw [← hcleared] at hr
            exact (mem_cleared.1 hr).2 hclash
        · intro hkept
          refine .inr ⟨⟨_, rfl⟩, cleared_of_no_clash fun r hr hclash => ?_⟩
          exact hkept ⟨hread, hcount, hdelete, rfl, r, hr, hclash⟩

/-- The snapshot of an earlier alert of the same pet. -/
def earlierSnapshot : World where
  reunionSnapshots := Table.empty.insertNew
    { tagId := "TAG", alertId := 1, petName := "Rex", resolvedAt := 0, expiresAt := 0 }

def taggedPet : Pet := { (default : Pet) with tagId := "TAG", name := "Rex" }

def AlertCall.isSnapshotCreate : AlertCall → Bool
  | .snapshotCreate _ => true
  | _ => false

/-- The insertion fails, and the snapshot of the earlier alert is gone. -/
theorem upsertForResolvedAlert_loses :
    ¬ AllOrNothing {} 2 taggedPet none 0 AlertCall.isSnapshotCreate earlierSnapshot := by
  have hlost : ((upsertForResolvedAlert {} 2 taggedPet none 0).runWith AlertCall.isSnapshotCreate
      earlierSnapshot).2.reunionSnapshots.rows = [] := by decide +kernel
  rintro (hreplaces | ⟨-, hsame⟩)
  · have hmem := hreplaces.1
    rw [hlost] at hmem
    cases hmem
  · rw [hsame] at hlost
    exact absurd hlost (by decide +kernel)

end FifiAlert
