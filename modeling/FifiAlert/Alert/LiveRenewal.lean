import FifiAlert.Alert.AlertProtocol
import FifiAlert.Alert.Ownership

/-!
# Renewing an alert that is live

A renewal asks for the creator, for a status that is not `CANCELLED` and for fewer than three
renewals, but not whether the alert is still live. So it extends a live alert, and it also
rewrites a draft, a resolved alert and one that is expired.
-/

namespace FifiAlert

open Concurrency Store

/-- The alert is live at a time: it is active, and its expiry has not passed. -/
def Alert.isLive (now : Time) (alert : Alert) : Prop :=
  alert.status = .ACTIVE ∧ now ≤ alert.expires_at

/-- The checks of `renew`. -/
def Alert.TakesRenewal (userId : ℕ) (alert : Alert) : Prop :=
  alert.creator_id = userId ∧ alert.status ≠ .CANCELLED ∧ alert.renewal_count < 3

namespace AlertService

variable {w : World} {alertId userId : ℕ} {alert : Alert}

/-- The columns that a renewal writes at a time. -/
def renewalData (now : Time) (alert : Alert) : AlertData where
  expires_at := some (now + 7 * MS_PER_DAY)
  renewal_count := some (alert.renewal_count + 1)
  updated_at := some now

theorem findOwned_run (hrow : w.alerts.find? alertId = some alert)
    (howner : alert.creator_id = userId) (action : String) :
    ∃ row : AlertRow, row.alert = alert ∧
      (findOwned alertId userId action).run w = (.ok row, w) := by
  have hfind : ∃ row : AlertRow, row.alert = alert ∧ w.findAlert alertId = some row := by
    unfold World.findAlert
    rw [hrow, Option.map_some]
    exact ⟨_, rfl, rfl⟩
  obtain ⟨row, rfl, hfind⟩ := hfind
  refine ⟨row, rfl, ?_⟩
  unfold findOwned AlertCall.read
  rw [Process.run_query_bind, hfind]
  dsimp only
  rw [if_neg (not_not.2 howner)]
  rfl

theorem findOwned_run_of_none (userId : ℕ) (hrow : w.alerts.find? alertId = none)
    (action : String) :
    ∃ e, (findOwned alertId userId action).run w = (.error e, w) := by
  unfold findOwned AlertCall.read World.findAlert
  rw [Process.run_query_bind, hrow]
  exact ⟨_, rfl⟩

/-- A renewal that passes the checks is one update of the row. -/
theorem renew_run_of_takesRenewal (hrow : w.alerts.find? alertId = some alert)
    (htakes : alert.TakesRenewal userId) :
    ∃ r, (renew alertId userId).run w =
      (.ok r, (AlertCall.alertUpdate alertId (renewalData w.now alert)).effect w) := by
  obtain ⟨howner, hstatus, hcount⟩ := htakes
  obtain ⟨row, rfl, hfound⟩ := findOwned_run hrow howner "renew"
  unfold renew
  rw [Process.run_bind_ok hfound, if_neg hstatus, if_neg (Nat.not_le_of_lt hcount)]
  unfold updateAlert AlertCall.writeIf AlertCall.read
  have hsome : (w.alerts.find? alertId).isSome = true := by rw [hrow, Option.isSome_some]
  rw [Process.run_query_bind, Process.run_query_bind, Process.run_bind, Process.run_atomic]
  dsimp only
  rw [if_pos hsome]
  exact ⟨_, rfl⟩

/-- The checks stop every other renewal. -/
theorem renew_run_of_not_takesRenewal
    (hnot : ∀ alert, w.alerts.find? alertId = some alert → ¬ alert.TakesRenewal userId) :
    ∃ e, (renew alertId userId).run w = (.error e, w) := by
  unfold renew
  cases hrow : w.alerts.find? alertId with
  | none =>
      obtain ⟨e, hfound⟩ := findOwned_run_of_none userId hrow "renew"
      exact ⟨e, Process.run_bind_error hfound _⟩
  | some alert =>
      by_cases howner : alert.creator_id = userId
      · obtain ⟨row, rfl, hfound⟩ := findOwned_run hrow howner "renew"
        rw [Process.run_bind_ok hfound]
        by_cases hstatus : row.alert.status = .CANCELLED
        · rw [if_pos hstatus]
          exact ⟨_, rfl⟩
        · have hcount : 3 ≤ row.alert.renewal_count := by
            by_contra hlt
            exact hnot row.alert hrow ⟨howner, hstatus, Nat.lt_of_not_le hlt⟩
          rw [if_neg hstatus, if_pos hcount]
          exact ⟨_, rfl⟩
      · exact ⟨_, Process.run_bind_error (findOwned_run_of_ne hrow howner "renew") _⟩

/-- Telling the others of the rows that expired leaves the alerts as they are. -/
theorem alerts_publishExpired (w : World) (expired : List Alert) (occurredAt : Time) :
    ((Process.forEach expired fun alert =>
      AlertCall.write (.publish (expiredEvent occurredAt alert)) fun _ => ()).run w).2.alerts =
      w.alerts := by
  induction expired generalizing w with
  | nil => rfl
  | cons alert expired ih =>
      rw [Process.forEach_cons, AlertCall.write, Process.run_modify_bind]
      exact ih _

/-- After the expiry the alerts are what its statement made of them. -/
theorem alerts_checkExpired_run (w : World) :
    (checkExpired.run w).2.alerts = (AlertCall.alertExpire.effect w).alerts := by
  have htry : ∀ p : AlertProcess Unit,
      ((p.tryCatch fun _ => .ret ()).run w).2 = (p.run w).2 := by
    intro p
    rw [Process.run_tryCatch]
    rcases p.run w with ⟨_ | _, w'⟩ <;> rfl
  unfold checkExpired
  rw [htry]
  unfold AlertCall.write AlertCall.read
  rw [Process.run_modify_bind]
  split
  · rfl
  · rw [Process.run_query_bind]
    exact alerts_publishExpired _ _ _

/-- The expiry keeps an alert whose expiry has not passed. -/
theorem find?_checkExpired_run (hrow : w.alerts.find? alertId = some alert)
    (hnow : w.now ≤ alert.expires_at) :
    (checkExpired.run w).2.alerts.find? alertId = some alert := by
  have hdue : alert.isOverdue w.now = false := by
    simp [Alert.isOverdue, Int.not_lt.2 hnow]
  rw [alerts_checkExpired_run, AlertCall.find?_effect, hrow, Option.map_some]
  simp [AlertCall.onRow, hdue]

/-- A renewal extends a live alert: when it succeeds the alert is active, its expiry is to come,
and the cron keeps the alert until then; when the alert is not live the renewal fails and the
alert is what it was. -/
structure RenewsLive (w : World) (alertId userId : ℕ) : Prop where
  extended : ∀ r w', (renew alertId userId).run w = (.ok r, w') →
    ∃ alert', w'.alerts.find? alertId = some alert' ∧ alert'.status = .ACTIVE ∧
      w.now < alert'.expires_at ∧ ∀ t, t ≤ alert'.expires_at →
        (checkExpired.run (w'.atTime t)).2.alerts.find? alertId = some alert'
  refused : ∀ alert, w.alerts.find? alertId = some alert → ¬ alert.isLive w.now →
    ∃ e w', (renew alertId userId).run w = (.error e, w') ∧
      w'.alerts.find? alertId = some alert

/-- The row that a renewal leaves. -/
theorem find?_renewed (hrow : w.alerts.find? alertId = some alert) :
    ((AlertCall.alertUpdate alertId (renewalData w.now alert)).effect w).alerts.find? alertId =
      some ((renewalData w.now alert).apply w.now alert) := by
  rw [AlertCall.find?_effect, hrow, Option.map_some, AlertCall.onRow,
    if_pos (Table.key_of_find? hrow)]

/-- Renewals keep to live alerts exactly when no alert that takes the renewal has run out or has
another status. -/
theorem renewsLive_iff (w : World) (alertId userId : ℕ) :
    RenewsLive w alertId userId ↔
      ∀ alert, w.alerts.find? alertId = some alert → alert.TakesRenewal userId →
        alert.isLive w.now := by
  constructor
  · intro h alert hrow htakes
    by_contra hlive
    obtain ⟨e, w', hfails, -⟩ := h.refused alert hrow hlive
    obtain ⟨r, hruns⟩ := renew_run_of_takesRenewal hrow htakes
    rw [hruns] at hfails
    cases hfails
  · intro hlive
    by_cases htakes : ∃ alert, w.alerts.find? alertId = some alert ∧ alert.TakesRenewal userId
    · obtain ⟨alert, hrow, htakes⟩ := htakes
      obtain ⟨r, hruns⟩ := renew_run_of_takesRenewal hrow htakes
      have hactive := (hlive alert hrow htakes).1
      have hrow' := find?_renewed hrow
      constructor
      · intro r' w' hrun
        obtain rfl := (Prod.mk.inj (hruns.symm.trans hrun)).2
        refine ⟨_, hrow', hactive, ?_, fun t ht => find?_checkExpired_run hrow' ht⟩
        exact Int.lt_add_of_pos_right _ (by decide)
      · intro alert' hrow'' hnot
        obtain rfl := Option.some.inj (hrow.symm.trans hrow'')
        exact absurd (hlive alert hrow htakes) hnot
    · have hnot : ∀ alert, w.alerts.find? alertId = some alert → ¬ alert.TakesRenewal userId :=
        fun alert hrow h => htakes ⟨alert, hrow, h⟩
      obtain ⟨e, hfails⟩ := renew_run_of_not_takesRenewal hnot
      constructor
      · intro r w' hrun
        rw [hfails] at hrun
        cases hrun
      · exact fun alert hrow _ => ⟨e, w, hfails, hrow⟩

/-- An alert of user 1 that the cron closed a day ago. -/
def expiredAlert : Alert where
  id := 7
  creator_id := 1
  status := .EXPIRED
  expires_at := 1000

/-- Its creator renews it: the renewal succeeds, and the alert stays closed. -/
theorem renewsLive_expired :
    let w : World := { alerts := Table.empty.insertNew expiredAlert, now := 1000 + MS_PER_DAY }
    let after := (renew 7 1).run w
    (after.2.alerts.find? 7).map Alert.status = some .EXPIRED ∧
      (after.2.alerts.find? 7).map Alert.renewal_count = some 1 ∧
      after.1.isOk = true ∧ ¬ RenewsLive w 7 1 := by
  refine ⟨by decide +kernel, by decide +kernel, by decide +kernel, fun h => ?_⟩
  have hlive := (renewsLive_iff _ 7 1).1 h expiredAlert (by decide +kernel)
    ⟨rfl, by decide, by decide⟩
  exact absurd hlive.1 (by decide)

end AlertService

end FifiAlert
