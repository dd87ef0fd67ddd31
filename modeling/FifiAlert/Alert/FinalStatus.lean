import FifiAlert.Alert.AlertClosing
import FifiAlert.Alert.Ownership

/-!
# Final statuses are final

For any number of requests in any interleaving: while no resolve reads a cancelled
alert, and nobody closes an alert the other way between the read and the write of a
resolve or cancel, closed alerts keep their status, and of a resolve and a cancel of
the same alert exactly one succeeds. The code does not establish the condition, so a
cancelled alert can be resolved.
-/

namespace FifiAlert

open Concurrency Store

section Pool

variable {ι : Type*} [DecidableEq ι]

/-- What the end of a request says about the run. -/
def AlertPost (req : ι → AlertRequest) (s₀ : World) (fails : AlertCall → Prop) (i : ι)
    (r : Except AppError Unit) (w : AlertSnapshot ι) : Prop :=
  match req i with
  | .onAlert id userId (.resolve _) => ClosePost s₀ fails i id userId .RESOLVED r w
  | .onAlert id userId (.cancel _) => ClosePost s₀ fails i id userId .CANCELLED r w
  | _ => True

variable {E : AlertEnv} {U : UploadEnv} {s₀ : World} {req : ι → AlertRequest}
  {fails : AlertCall → Prop} {i : ι} {w : AlertSnapshot ι}

omit [DecidableEq ι] in
theorem closePost_map {α β : Type} (f : α → β) {id userId : ℕ} {s : AlertStatus}
    (r : Except AppError α) (w : AlertSnapshot ι) :
    ClosePost s₀ fails i id userId s (r.map f) w ↔ ClosePost s₀ fails i id userId s r w := by
  cases r <;> rfl

theorem confined_safe {p : AlertProcess Unit} (hp : AlertConfined req i (fun _ => True) p)
    (hnone : ∀ id s, ¬ (req i).closes id s) {Q : Except AppError Unit → AlertSnapshot ι → Prop}
    (hQ : ∀ r w', Q r w') : AlertSafe req s₀ fails i Q p w := by
  have hper : ∀ l : AlertCall, AlertPermits req i l → ∀ w,
      (alertProtocol req s₀ fails).permits i l w := by
    intro l hl w
    refine ⟨hl, ?_⟩
    cases l with
    | alertUpdate id data =>
        exact ⟨fun hs => (hnone id _ (hl _ hs)).elim, fun hs => (hnone id _ (hl _ hs)).elim⟩
    | _ => trivial
  have hsafe := Protocol.safe_of_confined (P := alertProtocol req s₀ fails) (i := i)
    (J := fun _ => True) (w := w)
    (hp.mono (fun _ _ hl => ⟨hl.1, hper _ hl.2, fun _ => id⟩) fun _ => id)
    (fun _ _ _ _ => trivial) trivial
  exact hsafe.mono fun r w' _ _ => hQ r w'

theorem alertRequest_safe (hnone : ∀ id s, .closed i id s ∉ w.marks) :
    AlertSafe req s₀ fails i (AlertPost req s₀ fails i) ((req i).process E U) w := by
  have hany (h : ∀ r w', AlertPost req s₀ fails i r w') (hopen : ∀ id s, ¬ (req i).closes id s)
      {p : AlertProcess Unit} (hp : AlertConfined req i (fun _ => True) p) :
      AlertSafe req s₀ fails i (AlertPost req s₀ fails i) p w := confined_safe hp hopen h
  cases hreq : req i with
  | onAlert id userId op =>
      cases op with
      | resolve dto =>
          refine Safe.map ((resolve_safe E hreq hnone).mono fun r w' _ hr => ?_)
          simpa only [AlertPost, hreq, closePost_map] using hr
      | cancel dto =>
          refine Safe.map ((cancel_safe hreq hnone).mono fun r w' _ hr => ?_)
          simpa only [AlertPost, hreq, closePost_map] using hr
      | update dto =>
          exact hany (by simp [AlertPost, hreq]) (by simp [AlertRequest.closes, hreq])
            (.map _ (AlertService.update_confined ..))
      | renew =>
          exact hany (by simp [AlertPost, hreq]) (by simp [AlertRequest.closes, hreq])
            (.map _ (AlertService.renew_confined ..))
      | uploadPhotos files =>
          exact hany (by simp [AlertPost, hreq]) (by simp [AlertRequest.closes, hreq])
            (.map _ (AlertController.uploadPhotos_confined ..))
  | checkExpired =>
      exact hany (by simp [AlertPost, hreq]) (by simp [AlertRequest.closes, hreq])
        AlertService.checkExpired_confined
  | markAsFound petId userId =>
      exact hany (by simp [AlertPost, hreq]) (by simp [AlertRequest.closes, hreq])
        (.map _ (PetService.markAsFound_confined hreq))

/-- A pool of requests that has not started yet. -/
def alertPool (E : AlertEnv) (U : UploadEnv) (s₀ : World) (req : ι → AlertRequest) :
    Config ι World AlertCall AppError Unit (AlertMark ι) :=
  Config.init s₀ fun i => (req i).process E U

/-- Every pool of requests follows the protocol. -/
theorem alertPool_sound (E : AlertEnv) (U : UploadEnv) (s₀ : World) (req : ι → AlertRequest)
    (fails : AlertCall → Prop) :
    Sound (alertProtocol req s₀ fails).contract (AlertPost req s₀ fails)
      (alertPool E U s₀ req) :=
  ⟨AlertInv.init req s₀, fun _ => alertRequest_safe fun _ _ => List.not_mem_nil⟩

/-- May the request close this alert? -/
def AlertRequest.mayClose (id : ℕ) (r : AlertRequest) : Prop :=
  (∃ s, r.closes id s) ∨ ∃ petId userId, r = .markAsFound petId userId

/-- A closed alert keeps its status in every run of the protocol. -/
theorem alertStatus_kept {w w' : AlertSnapshot ι}
    (h : (alertProtocol req s₀ fails).Reachable w w') {id : ℕ} {s : AlertStatus}
    (hs : w.state.alertStatus id = some s) (hclosed : s.isClosed = true) :
    w'.state.alertStatus id = some s := by
  refine Protocol.Reachable.invariant h (J := fun w => w.state.alertStatus id = some s) hs ?_ ?_
  · intro i l w _ hper hadm hs
    obtain ⟨row, hrow, rfl⟩ := World.alertStatus_eq_some_iff.1 hs
    obtain ⟨row', hrow', -, hstatus⟩ := AlertPermits.row_kept hper.1 (hper.2.meetsOpen hadm) hrow
    exact World.alertStatus_eq_some_iff.2 ⟨row', hrow', hstatus hclosed⟩
  · intro s₁ s₂ m _ henv hs
    obtain ⟨row, hrow, rfl⟩ := World.alertStatus_eq_some_iff.1 hs
    obtain ⟨row', hrow', -, hstatus⟩ := henv id row hrow
    exact World.alertStatus_eq_some_iff.2 ⟨row', hrow', hstatus⟩

/-- When both of two closing requests of the creator fail, with no call failing
and nobody else at work, the alert was closed before. -/
theorem closed_before_of_errors {c : Config ι World AlertCall AppError Unit (AlertMark ι)}
    (hc : Sound (alertProtocol req s₀ fails).contract (AlertPost req s₀ fails) c)
    (hfails : ∀ l, ¬ fails l) {i j : ι} {id userId : ℕ} {dto : ResolveAlertDto}
    {dto' : CancelAlertDto} (hi : req i = .onAlert id userId (.resolve dto))
    (hj : req j = .onAlert id userId (.cancel dto'))
    (hothers : ∀ k, k ≠ i → k ≠ j → ¬ (req k).mayClose id) {row₀ : Alert}
    (hrow₀ : s₀.alerts.find? id = some row₀) (hcreator : row₀.creator_id = userId)
    {e e' : AppError} (hei : c.pool i = .raise e) (hej : c.pool j = .raise e') :
    row₀.status.isClosed = true := by
  have hpi := hc.exception hei
  have hpj := hc.exception hej
  simp only [AlertPost, hi] at hpi
  simp only [AlertPost, hj] at hpj
  have hcause : ∀ {P : Prop}, (∃ l, fails l) ∨ Stranger s₀ id userId ∨ P → P := by
    rintro P (⟨l, hl⟩ | hs | h)
    · exact (hfails l hl).elim
    · exact (hs row₀ hrow₀ hcreator).elim
    · exact h
  obtain ⟨hnonei, hresolved⟩ := hcause hpi
  obtain ⟨hnonej, -⟩ := hcause hpj
  obtain ⟨row, hrow, hstatus⟩ := World.alertStatus_eq_some_iff.1 (hresolved rfl)
  have hinv : AlertInv req s₀ c.toSnapshot := hc.1
  by_contra hopen
  rcases hinv.accounted id row₀ row hrow₀ (by simpa using hopen) hrow (by rw [hstatus]; rfl)
    with ⟨k, s, hm⟩ | ⟨k, petId, u, hk⟩
  · by_cases hki : k = i
    · exact hnonei id s (hki ▸ hm)
    by_cases hkj : k = j
    · exact hnonej id s (hkj ▸ hm)
    exact hothers k hki hkj (.inl ⟨s, (hinv.closedRow k id s hm).1⟩)
  · refine hothers k ?_ ?_ (.inr ⟨petId, u, hk⟩)
    · rintro rfl
      cases hi.symm.trans hk
    · rintro rfl
      cases hj.symm.trans hk

/-- In every run in which no resolve reads a cancelled alert, and nobody closes an alert the
other way between the read and the write of a resolve or cancel: closed alerts keep their
status from any moment on; a resolve and a cancel of one alert never both succeed; and when
both have ended, no call failed, both were requested by the creator of an alert that was
open at first, and nobody else could close it, exactly one of them succeeded. -/
theorem finalStatus_absorbing (E : AlertEnv) (U : UploadEnv) (s₀ : World)
    (req : ι → AlertRequest) (fails : AlertCall → Prop)
    (c : Config ι World AlertCall AppError Unit (AlertMark ι))
    (hc : Reaches (alertSetting fails OpenMeanwhile) (alertPool E U s₀ req) c) :
    (∀ c' id s, Reaches (alertSetting fails OpenMeanwhile) c c' →
      c.state.alertStatus id = some s → s.isClosed = true →
        c'.state.alertStatus id = some s) ∧
    (∀ i j id userId userId' dto dto', req i = .onAlert id userId (.resolve dto) →
      req j = .onAlert id userId' (.cancel dto') →
        ¬ (c.pool i = .ret () ∧ c.pool j = .ret ())) ∧
    (∀ i j id userId dto dto' row₀, (∀ l, ¬ fails l) →
      req i = .onAlert id userId (.resolve dto) → req j = .onAlert id userId (.cancel dto') →
      (∀ k, k ≠ i → k ≠ j → ¬ (req k).mayClose id) →
      s₀.alerts.find? id = some row₀ → row₀.creator_id = userId →
      row₀.status.isClosed = false →
      (c.pool i).result?.isSome = true → (c.pool j).result?.isSome = true →
        Xor (c.pool i = .ret ()) (c.pool j = .ret ())) := by
  have hsound := (alertPool_sound E U s₀ req fails).reaches hc
  have hinv : AlertInv req s₀ c.toSnapshot := hsound.1
  have hboth : ∀ i j id userId userId' dto dto', req i = .onAlert id userId (.resolve dto) →
      req j = .onAlert id userId' (.cancel dto') →
        ¬ (c.pool i = .ret () ∧ c.pool j = .ret ()) := by
    rintro i j id userId userId' dto dto' hi hj ⟨hri, hrj⟩
    have hpi := hsound.result hri
    have hpj := hsound.result hrj
    simp only [AlertPost, hi] at hpi
    simp only [AlertPost, hj] at hpj
    have hresolved := (hinv.closedRow i id _ hpi).2
    have hcancelled := (hinv.closedRow j id _ hpj).2
    cases hresolved.symm.trans hcancelled
  refine ⟨?_, hboth, ?_⟩
  · intro c' id s hc' hs hclosed
    exact alertStatus_kept (Protocol.refines hsound hc') hs hclosed
  · intro i j id userId dto dto' row₀ hfails hi hj hothers hrow₀ hcreator hopen hei hej
    have hnot := hboth i j id userId userId dto dto' hi hj
    cases hpi : c.pool i with
    | call l next rest fault => simp [hpi, Process.result?] at hei
    | ret a => exact .inl ⟨rfl, fun hrj => hnot ⟨hpi, hrj⟩⟩
    | raise e =>
        cases hpj : c.pool j with
        | call l next rest fault => simp [hpj, Process.result?] at hej
        | ret a => exact .inr ⟨rfl, by simp⟩
        | raise e' =>
            have hbefore := closed_before_of_errors hsound hfails hi hj hothers hrow₀ hcreator
              hpi hpj
            simp [hopen] at hbefore

end Pool

/-- A resolve and a cancel of alert 7 by its creator. -/
def closeRace : Bool → AlertRequest
  | false => .onAlert 7 1 (.resolve { outcome := .RETURNED_HOME })
  | true => .onAlert 7 1 (.cancel {})

def closeRacePool : Config Bool World AlertCall AppError Unit (AlertMark Bool) :=
  alertPool {} strangerUpload strangerWorld closeRace

/-- The resolve runs to its end, then the cancel meets a resolved alert at its
check. -/
theorem finalStatus_absorbing_resolveFirst :
    Xor ((closeRacePool.schedule AlertMark.of (List.replicate 7 false ++ [true])).pool false =
        .ret ())
      ((closeRacePool.schedule AlertMark.of (List.replicate 7 false ++ [true])).pool true =
        .ret ()) := by
  have hreach : Reaches (alertSetting (fun _ => False) OpenMeanwhile) closeRacePool
      (closeRacePool.schedule AlertMark.of (List.replicate 7 false ++ [true])) :=
    Reaches.scheduleOk (fun i l w => decide (OpenMeanwhile i l w))
      (fun _ _ _ => of_decide_eq_true) (by decide +kernel)
  exact (finalStatus_absorbing {} strangerUpload strangerWorld closeRace (fun _ => False) _
    hreach).2.2 false true 7 1 _ _ { id := 7, creator_id := 1 } (fun _ => id) rfl rfl
    (fun k hk hk' => by cases k <;> contradiction) (by decide +kernel) rfl rfl
    (by decide +kernel) (by decide +kernel)

/-- The cancel runs to its end, and then the resolve: both succeed, and the
cancelled alert becomes a resolved one. -/
theorem resolve_after_cancel :
    ∃ c c', Reaches (alertSetting (fun _ => False) fun _ _ _ => True) closeRacePool c ∧
      Reaches (alertSetting (fun _ => False) fun _ _ _ => True) c c' ∧
      c.state.alertStatus 7 = some .CANCELLED ∧ c'.state.alertStatus 7 = some .RESOLVED ∧
      c'.pool false = .ret () ∧ c'.pool true = .ret () := by
  refine ⟨_, _, Reaches.schedule (fun _ _ _ => trivial) (List.replicate 5 true) _,
    Reaches.schedule (fun _ _ _ => trivial) (List.replicate 7 false) _, ?_⟩
  exact ⟨by decide +kernel, by decide +kernel, Process.eq_ret_of_result? (by decide +kernel),
    Process.eq_ret_of_result? (by decide +kernel)⟩

end FifiAlert
