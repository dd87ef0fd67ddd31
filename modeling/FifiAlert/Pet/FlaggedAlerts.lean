import FifiAlert.Pet.FlagLedger

/-!
# Pets with live alerts are flagged missing

Alerts are created, closed and renewed, and pets are marked as missing and as found, in any number
and any interleaving and with any calls failing. Whenever every alert was inserted while its pet
was flagged, no cancellation has cleared a flag over a live alert, and whoever did so for a found
pet has resolved the live alerts, each pet with a live alert is flagged missing
(`liveAlerts_flagged`). The first two conditions hold where nobody disturbs a creation between its
look at the flag and its insertion, and a cancellation between its count and its clearing
(`liveAlerts_flagged_undisturbed`).
-/

namespace FifiAlert

open Concurrency Store AlertCall

section Protocol

variable {ι : Type*}

theorem thread_flagMark (i : ι) (l : FlagCall) (w : World) (m : FlagMark ι)
    (h : flagMark i l w = some m) : m.thread = i := by
  unfold flagMark at h
  split at h
  · split at h
    · obtain ⟨p, -, rfl⟩ := Option.map_eq_some_iff.1 h
      rfl
    · cases h
  · split at h <;> cases h
    rfl
  all_goals cases h <;> rfl

/-- The surroundings: nothing else takes a flag or makes an alert live. -/
def flagSetting (fails : FlagCall → Prop) (admits : ι → FlagCall → FlagSnapshot ι → Prop) :
    Setting ι World FlagCall (FlagMark ι) where
  mark := flagMark
  env := fun w w' => (∀ p, w'.unflagged p = true → w.unflagged p = true) ∧
    ∀ p id, w'.isLive p id = true → w.isLive p id = true
  mayFail := fails
  admits := admits

/-- The protocol of the missing flag. -/
def flagProtocol (fails : FlagCall → Prop) (admits : ι → FlagCall → FlagSnapshot ι → Prop) :
    Protocol (flagSetting fails admits) where
  effect := FlagCall.effect
  permits := MayFlag
  inv := FlagLedger
  inv_call := fun hinv hmay _ => hinv.call hmay
  inv_env := fun henv hinv => hinv.quiet henv.1 henv.2

variable {fails : FlagCall → Prop} {admits : ι → FlagCall → FlagSnapshot ι → Prop} {i : ι}
  {s : FlagSnapshot ι}

theorem lasting_ownMarks [DecidableEq ι] (A : FlagMark ι → Bool) :
    (flagProtocol fails admits).Lasting i (fun m => decide (m.thread = i) && !A m) (OwnMarks i A) :=
  .ownMarks thread_flagMark A

/-- A call that only looks, sets a flag, clears a flag or closes an alert. -/
structure Calm (l : FlagCall) : Prop where
  lists : ∀ p, l ≠ .pet (alertFindActive p)
  resolves : ∀ ids date notes, l ≠ .pet (alertResolveMany ids date notes)
  opens : ∀ id data, l.alertCall? = some (alertUpdate id data) → data.status ≠ some .ACTIVE

theorem Calm.mayFlag {l : FlagCall} (h : Calm l) (hs : OwnMarks i (fun m => !m.isSettling) s) :
    MayFlag i l s where
  clears := fun _ _ => hs
  resolves := fun ids date notes hl => absurd hl (h.resolves ids date notes)
  opens := h.opens

theorem Calm.isSettling {l : FlagCall} (h : Calm l) {w : World} {m : FlagMark ι}
    (hm : flagMark i l w = some m) : m.isSettling = false := by
  unfold flagMark at hm
  split at hm
  · split at hm
    · obtain ⟨p, -, rfl⟩ := Option.map_eq_some_iff.1 hm
      rfl
    · cases hm
  · split at hm <;> cases hm
    rfl
  all_goals cases hm
  any_goals rfl
  · exact absurd rfl (h.lists _)
  · exact absurd rfl (h.resolves _ _ _)

/-- What the calls of a calm process are. -/
abbrev CalmProcess {α : Type} (p : FlagProcess α) : Prop :=
  p.Confined (fun l next => next = l.effect ∧ Calm l) fun _ => True

/-- The calls of the alert service are calm. -/
theorem calm_alert {l : AlertCall}
    (h : ∀ id data, l = alertUpdate id data → data.status ≠ some .ACTIVE) :
    Calm (.alert (.alert l)) where
  lists := nofun
  resolves := nofun
  opens := fun id data hl => h id data (Option.some.inj hl)

variable {α : Type}

abbrev FlagSafe (fails : FlagCall → Prop) (admits : ι → FlagCall → FlagSnapshot ι → Prop) (i : ι)
    (p : FlagProcess α) (s : FlagSnapshot ι) : Prop :=
  Safe (flagProtocol fails admits).contract i (OnReturn fun _ _ => True) p s

theorem CalmProcess.safe [DecidableEq ι] {p : FlagProcess α} (hp : CalmProcess p)
    (hs : OwnMarks i (fun m => !m.isSettling) s) : FlagSafe fails admits i p s := by
  have hlasting : (flagProtocol fails admits).Lasting i _ (OwnMarks i fun m => !m.isSettling) :=
    lasting_ownMarks _
  refine Safe.mono (Protocol.safe_of_guarded (hp.mono ?_ fun _ _ => trivial)
    (fun s s' hs hr => hlasting.stable hs hr) hs) ?_
  · rintro l next ⟨hnext, hcalm⟩
    refine ⟨hnext, fun s₁ hinv hadm hs₁ => ⟨hcalm.mayFlag hs₁, ?_⟩⟩
    refine hlasting.call i l s₁ hinv (hcalm.mayFlag hs₁) hadm (fun m hm => ?_) hs₁
    simp [hcalm.isSettling hm]
  · intro r s' _ _
    cases r <;> trivial

end Protocol

section Calm

variable {α : Type}

/-- The requests that the protocol of the alert statuses knows are calm. -/
theorem calm_alertProcess (req : AlertRequest) {p : AlertProcess α}
    (hp : AlertConfined (fun _ : Unit => req) () (fun _ => True) p) :
    CalmProcess (p.relabel fun l => .alert (.alert l)) := by
  refine Process.Confined.relabel (hp.mono ?_ fun _ => id)
  rintro l next ⟨rfl, hper⟩
  refine ⟨rfl, calm_alert ?_⟩
  rintro id data rfl hactive
  have hclosed := (hper .ACTIVE hactive).isClosed
  cases hclosed

theorem create_calm (C : AlertCreationEnv) (userId : ℕ) (dto : CreateAlertDto) :
    CalmProcess ((AlertService.create C userId dto).relabel .alert) := by
  refine Process.Confined.relabel ((AlertService.create_calls C userId dto).mono ?_ fun _ => id)
  rintro l next ⟨rfl, hl⟩
  refine ⟨rfl, nofun, nofun, fun id data hcall => ?_⟩
  cases l with
  | alert l =>
      cases Option.some.inj hcall
      exact hl.elim
  | _ => cases hcall

theorem markAsMissing_calm (petId userId : ℕ) :
    CalmProcess ((PetService.markAsMissing petId userId).relabel .pet) := by
  refine Process.Confined.relabel (Process.Confined.bind ?_ fun pet => ?_)
  · refine Process.Confined.bind
      (Process.confined_query ⟨rfl, by simp, by simp, fun _ _ hl => by cases hl⟩ trivial)
      fun pet => ?_
    cases pet with
    | none => trivial
    | some pet =>
        dsimp only
        split <;> trivial
  · split
    · trivial
    · refine Process.Confined.bind (Process.confined_atomic
        ⟨rfl, by simp, by simp, fun _ _ hl => by cases hl⟩ (fun _ _ _ => trivial) trivial)
        fun _ => ?_
      trivial

end Calm

section Found

variable {ι : Type*} [DecidableEq ι] {fails : FlagCall → Prop}
  {admits : ι → FlagCall → FlagSnapshot ι → Prop} {i : ι} {s : FlagSnapshot ι}

/-- A thread that has cleared the flag of the pet, and has listed its live alerts. -/
def HasListed (i : ι) (petId : ℕ) (ids : List ℕ) (s : FlagSnapshot ι) : Prop :=
  OwnMarks i (FlagMark.clearsOnly petId) s ∧ .listed i petId ids ∈ s.marks

theorem lasting_hasListed (petId : ℕ) (ids : List ℕ) :
    (flagProtocol fails admits).Lasting i
      (fun m => (decide (m.thread = i) && !m.clearsOnly petId) || false)
      (HasListed i petId ids) :=
  (lasting_ownMarks _).and
    (.of_kept (fun _ _ _ _ _ _ hm => Snapshot.mem_after_of_mem hm) fun _ _ _ _ _ hm => hm)

/-- The rest of `markAsFound`, once the flag is cleared. -/
theorem resolveActiveAlerts_safe {petId userId : ℕ}
    (hs : OwnMarks i (FlagMark.clearsOnly petId) s) :
    FlagSafe fails admits i ((PetService.resolveActiveAlerts petId userId).relabel .pet) s := by
  simp only [PetService.resolveActiveAlerts, AlertCall.read, Process.relabel_bind,
    Process.relabel_query]
  refine (lasting_ownMarks _).query_bind hs rfl
    (fun _ => ⟨nofun, nofun, fun _ _ hl => by cases hl⟩) fun s₁ _ hs₁ => ?_
  have hlisted : HasListed i petId (s₁.state.liveIds petId)
      (s₁.after flagMark i (.pet (alertFindActive petId))
        (FlagCall.effect (.pet (alertFindActive petId)))) := by
    refine ⟨fun m hm hi => ?_, Snapshot.mem_after.2 (.inl rfl)⟩
    rcases Snapshot.mem_after.1 hm with hnew | hold
    · cases hnew
      rfl
    · exact hs₁ m hold hi
  split
  · exact Safe.ret fun _ _ _ => trivial
  simp only [AlertCall.write, Process.relabel_bind, Process.relabel_query, Process.relabel_modify]
  refine (lasting_hasListed petId _).query_bind hlisted rfl
    (fun _ => ⟨nofun, nofun, fun _ _ hl => by cases hl⟩) fun s₂ _ hs₂ => ?_
  have hagain : HasListed i petId (s₁.state.liveIds petId)
      (s₂.after flagMark i (.pet dateNow) (FlagCall.effect (.pet dateNow))) := hs₂
  refine (lasting_hasListed petId _).call_bind hagain rfl (fun s₃ _ _ hs₃ => ?_)
    (fun s₃ _ _ => ?_) fun _ _ _ _ => trivial
  · refine ⟨nofun, fun ids date notes hl p live hcleared => ?_, fun _ _ hl => by cases hl⟩
    cases hl
    have hp : p = petId := of_decide_eq_true (hs₃.1 _ hcleared rfl)
    exact hp ▸ hs₃.2
  · refine Safe.mono (Protocol.Lasting.nothing.guarded trivial (R := fun _ => True) ?_) ?_
    · refine Process.Confined.relabel (Process.Confined.forEach fun alert _ => ?_)
      exact Process.confined_modify
        ⟨rfl, fun _ => ⟨nofun, nofun, fun _ _ hl => by cases hl⟩, fun _ _ _ => rfl⟩ trivial
    · intro r s' _ _
      cases r <;> trivial

theorem markAsFound_safe {petId userId : ℕ} (hs : OwnMarks i (fun _ => false) s) :
    FlagSafe fails admits i ((PetService.markAsFound petId userId).relabel .pet) s := by
  have hfresh : (flagProtocol fails admits).Lasting i _ (OwnMarks i fun _ => false) :=
    lasting_ownMarks _
  unfold PetService.markAsFound
  rw [Process.relabel_bind]
  refine hfresh.guarded_bind hs (R := fun _ => True) ?_ (fun pet s₁ _ hs₁ => ?_)
    fun _ _ _ _ _ => trivial
  · refine Process.Confined.relabel (Process.Confined.bind (Process.confined_query
      ⟨rfl, fun _ => ⟨fun _ hl => (by cases hl), by simp, fun _ _ hl => by cases hl⟩,
        fun _ _ hm => by cases hm⟩ trivial) fun pet => ?_)
    cases pet with
    | none => trivial
    | some pet =>
        dsimp only
        split <;> trivial
  split
  · exact Protocol.safe_onReturn_raise
  refine Protocol.safe_call rfl fun s₂ hr _ => ⟨fun _ => ⟨⟨fun p _ m hm hi => ?_, by simp, ?_⟩,
    fun _ => ?_⟩, fun _ => Protocol.safe_onReturn_raise⟩
  · cases hfresh.stable hs₁ hr m hm hi
  · exact fun _ _ hl => by cases hl
  have hcleared : OwnMarks i (FlagMark.clearsOnly petId) (s₂.after flagMark i
      (.pet (petUpdate petId false)) (FlagCall.effect (.pet (petUpdate petId false)))) := by
    intro m hm hi
    rcases Snapshot.mem_after.1 hm with hnew | hold
    · cases hnew
      exact decide_eq_true rfl
    · cases hfresh.stable hs₁ hr m hold hi
  dsimp only
  split
  · change FlagSafe fails admits i (((PetService.resolveActiveAlerts petId userId).tryCatch
      (fun _ => .ret ()) >>= fun _ => pure { pet with isMissing := false }).relabel .pet) _
    rw [Process.relabel_bind, Process.relabel_tryCatch]
    exact Protocol.safe_onReturn_bind (Protocol.safe_onReturn_tryCatch
      (resolveActiveAlerts_safe hcleared) fun _ _ => Safe.ret fun _ _ _ => trivial)
      fun _ _ _ _ => Safe.ret fun _ _ _ => trivial
  · exact Protocol.safe_onReturn_raise

end Found

/-- What sets and clears the flag, and what opens and closes alerts. -/
inductive FlagRequest where
  | create (userId : ℕ) (dto : CreateAlertDto)
  | onAlert (alertId userId : ℕ) (op : AlertOp)
  | checkExpired
  | markAsMissing (petId userId : ℕ)
  | markAsFound (petId userId : ℕ)

def FlagRequest.process (C : AlertCreationEnv) (E : AlertEnv) (U : UploadEnv) :
    FlagRequest → FlagProcess Unit
  | create userId dto =>
    (fun _ => ()) <$> (AlertService.create C userId dto).relabel .alert
  | onAlert alertId userId op =>
    (op.process E U alertId userId).relabel fun l => .alert (.alert l)
  | checkExpired => AlertService.checkExpired.relabel fun l => .alert (.alert l)
  | markAsMissing petId userId =>
    (fun _ => ()) <$> (PetService.markAsMissing petId userId).relabel .pet
  | markAsFound petId userId =>
    (fun _ => ()) <$> (PetService.markAsFound petId userId).relabel .pet

section Pool

variable {ι : Type*} [DecidableEq ι] {fails : FlagCall → Prop}
  {admits : ι → FlagCall → FlagSnapshot ι → Prop} {i : ι}

theorem FlagRequest.safe (C : AlertCreationEnv) (E : AlertEnv) (U : UploadEnv) (w : World)
    (r : FlagRequest) : FlagSafe fails admits i (r.process C E U) ⟨w, []⟩ := by
  have hcalm : ∀ {p : FlagProcess Unit}, CalmProcess p → FlagSafe fails admits i p ⟨w, []⟩ :=
    fun hp => hp.safe fun _ hm => absurd hm List.not_mem_nil
  cases r with
  | create userId dto => exact hcalm (.map _ (create_calm C userId dto))
  | onAlert alertId userId op => exact hcalm (calm_alertProcess _ (op.process_confined E U rfl))
  | checkExpired =>
      exact hcalm (calm_alertProcess .checkExpired AlertService.checkExpired_confined)
  | markAsMissing petId userId => exact hcalm (.map _ (markAsMissing_calm petId userId))
  | markAsFound petId userId =>
      exact Protocol.safe_onReturn_bind (markAsFound_safe fun _ hm => absurd hm List.not_mem_nil)
        fun _ _ _ _ => Safe.ret fun _ _ _ => trivial

/-- A pool of requests that has not started yet. -/
def flagPool (C : AlertCreationEnv) (E : AlertEnv) (U : UploadEnv) (w : World)
    (req : ι → FlagRequest) : Config ι World FlagCall AppError Unit (FlagMark ι) :=
  .init w fun i => (req i).process C E U

theorem flagPool_sound (C : AlertCreationEnv) (E : AlertEnv) (U : UploadEnv)
    {w₀ : World} (hw₀ : w₀.FlaggedWhileLive) (req : ι → FlagRequest) :
    Sound (flagProtocol fails admits).contract (fun _ => OnReturn fun _ _ => True)
      (flagPool C E U w₀ req) :=
  ⟨FlagLedger.init hw₀, fun i => (req i).safe C E U w₀⟩

omit [DecidableEq ι] in
theorem FlagLedger.flaggedWhileLive {s : FlagSnapshot ι} (h : FlagLedger s)
    (hinserted : InsertedFlagged s.marks) (hcancelled : CancelledLast s.marks)
    (hsettled : FoundSettled s.marks) : s.state.FlaggedWhileLive := by
  refine World.flaggedWhileLive_iff.2 fun petId id hlive => ?_
  rw [← Bool.not_eq_true]
  intro hunflagged
  obtain ⟨k, hcleared, hunsettled, hlisted⟩ := h hinserted hcancelled petId id hunflagged hlive
  rcases hsettled k petId hcleared with hdone | hnone
  · exact hunsettled hdone
  · exact absurd (hlisted [] hnone) List.not_mem_nil

/-- Any requests in any interleaving, with any calls failing: a pet with a live alert is flagged
missing, if each alert was inserted while its pet was flagged, no cancellation has cleared a flag
over a live alert, and whoever did so for a found pet has resolved the live alerts. -/
theorem liveAlerts_flagged (C : AlertCreationEnv) (E : AlertEnv) (U : UploadEnv)
    (fails : FlagCall → Prop) {w₀ : World} (hw₀ : w₀.FlaggedWhileLive) (req : ι → FlagRequest)
    {c : Config ι World FlagCall AppError Unit (FlagMark ι)}
    (h : Reaches (flagSetting fails fun _ _ _ => True) (flagPool C E U w₀ req) c)
    (hinserted : InsertedFlagged c.marks) (hcancelled : CancelledLast c.marks)
    (hsettled : FoundSettled c.marks) : c.state.FlaggedWhileLive := by
  have hledger : FlagLedger c.toSnapshot := ((flagPool_sound C E U hw₀ req).reaches h).1
  exact hledger.flaggedWhileLive hinserted hcancelled hsettled

end Pool

section Undisturbed

namespace FlagMark

variable {ι : Type*}

/-- The flag of the pet is seen set, or is set. -/
def sees (petId : ℕ) : FlagMark ι → Bool
  | saw _ p => p = petId
  | _ => false

/-- The flag of the pet is cleared. -/
def takes (petId : ℕ) : FlagMark ι → Bool
  | cancelled _ p _ => p = petId
  | cleared _ p _ => p = petId
  | _ => false

/-- No live alert of the pet is counted. -/
def countsNone (petId : ℕ) : FlagMark ι → Bool
  | counted _ p live => p = petId && !live
  | _ => false

/-- An alert of the pet is inserted. -/
def inserts (petId : ℕ) : FlagMark ι → Bool
  | inserted _ p _ => p = petId
  | _ => false

end FlagMark

variable {ι : Type*}

/-- Since a creation has seen the flag of the pet set, or has set it, nobody has cleared it before
the insertion; since a cancellation has counted no live alert of the pet, nobody has inserted one
before the flag is cleared. -/
def UndisturbedFlags (_ : ι) (l : FlagCall) (s : FlagSnapshot ι) : Prop :=
  match l with
  | .alert (.alertInsert data) =>
    data.petId.all (fun p => quietSince (FlagMark.sees p) (FlagMark.takes p) s.marks) = true
  | .alert (.alert (.petUpdate p false)) =>
    quietSince (FlagMark.countsNone p) (FlagMark.inserts p) s.marks = true
  | _ => True

variable {w : World} {l : FlagCall} {i : ι} {petId id : ℕ}

theorem World.unflagged_of_flagged (h : w.flagged petId = true) : w.unflagged petId = false := by
  unfold World.flagged at h
  unfold World.unflagged
  cases hpet : w.pets.find? petId with
  | none => rfl
  | some pet =>
      rw [hpet, Option.any_some] at h
      rw [Option.any_some, h]
      rfl

theorem World.hasLive_eq_true_iff : w.hasLive petId = true ↔ ∃ id, w.isLive petId id = true := by
  constructor
  · intro h
    obtain ⟨id, hid⟩ := List.exists_mem_of_ne_nil (w.liveIds petId) fun hnil => by
      simp [World.hasLive, hnil] at h
    exact ⟨id, World.mem_liveIds.1 hid⟩
  · rintro ⟨id, h⟩
    exact World.hasLive_of_isLive h

/-- A flag that is taken leaves a mark. -/
theorem AlertCall.unflagged_keeps {l : AlertCall} (hl : ∀ p, l = petUpdate p false → p ≠ petId)
    (h : w.unflagged petId = false) : (l.effect w).unflagged petId = false := by
  by_cases hclears : ∃ p, l = petUpdate p false
  · obtain ⟨p, rfl⟩ := hclears
    rw [unflagged_petUpdate, if_neg (hl p rfl).symm]
    exact h
  · rw [Bool.eq_false_iff]
    intro htaken
    rw [AlertCall.unflagged_effect (fun p hp => hclears ⟨p, hp⟩) htaken] at h
    cases h

theorem FlagCall.unflagged_keeps
    (hbad : ∀ m, flagMark i l w = some m → m.takes petId = false)
    (h : w.unflagged petId = false) : (l.effect w).unflagged petId = false := by
  cases l with
  | alert l =>
      cases l with
      | alert l =>
          refine AlertCall.unflagged_keeps (fun p hp => ?_) h
          subst hp
          exact of_decide_eq_false (hbad _ rfl)
      | rateLimit l => exact (World.unflagged_congr l.pets_effect).trans h
      | notification l => exact (World.unflagged_congr l.pets_effect).trans h
      | alertInsert data =>
          simp only [FlagCall.effect, CreationCall.effect]
          split <;> exact h
  | pet l =>
      refine AlertCall.unflagged_keeps (fun p hp => ?_) h
      subst hp
      exact of_decide_eq_false (hbad _ rfl)

/-- A live alert that is added leaves a mark. -/
theorem FlagCall.hasLive_keeps
    (hopens : ∀ id data, l.alertCall? = some (alertUpdate id data) → data.status ≠ some .ACTIVE)
    (hbad : ∀ m, flagMark i l w = some m → m.inserts petId = false)
    (h : w.hasLive petId = false) : (l.effect w).hasLive petId = false := by
  have hkeeps : (∀ id, (l.effect w).isLive petId id = true → w.isLive petId id = true) →
      (l.effect w).hasLive petId = false := by
    intro hlive
    rw [Bool.eq_false_iff]
    intro hnew
    obtain ⟨id, hid⟩ := World.hasLive_eq_true_iff.1 hnew
    rw [World.hasLive_of_isLive (hlive id hid)] at h
    cases h
  cases l with
  | alert l =>
      cases l with
      | alert l =>
          exact hkeeps fun id => AlertCall.isLive_effect fun id data hl =>
            hopens id data (by rw [hl]; rfl)
      | rateLimit l => exact hkeeps fun id hl => (World.isLive_congr l.alerts_effect).symm.trans hl
      | notification l => exact hkeeps fun id hl => l.isLive_effect.symm.trans hl
      | alertInsert data =>
          refine hkeeps fun id hlive => ?_
          simp only [FlagCall.effect, CreationCall.effect] at hlive
          split at hlive
          next htakes =>
            refine (isLive_insertAlert hlive).resolve_right fun hof => ?_
            refine absurd (hbad (.inserted i petId (!w.unflagged petId)) ?_)
              (by simp [FlagMark.inserts])
            simp [flagMark, htakes, hof]
          next => exact hlive
  | pet l =>
      exact hkeeps fun id => AlertCall.isLive_effect fun id data hl =>
        hopens id data (by rw [hl]; rfl)

/-- A flag that is seen, or set, is set after the call. -/
theorem FlagCall.unflagged_of_sees {m : FlagMark ι} (hm : flagMark i l w = some m)
    (hsees : m.sees petId = true) : (l.effect w).unflagged petId = false := by
  cases m with
  | saw j p =>
      obtain rfl : p = petId := of_decide_eq_true hsees
      have hset : ((petUpdate p true).effect w).unflagged p = false := by
        rw [unflagged_petUpdate, if_pos rfl]
        simp
      unfold flagMark at hm
      split at hm
      · split at hm
        · obtain ⟨_, -, heq⟩ := Option.map_eq_some_iff.1 hm
          cases heq
        · cases hm
      · split at hm
        next hflagged =>
          cases hm
          exact World.unflagged_of_flagged hflagged
        next => cases hm
      all_goals cases hm
      all_goals exact hset
  | _ => cases hsees

/-- Where none is counted, there is none after the call. -/
theorem FlagCall.hasLive_of_countsNone {m : FlagMark ι} (hm : flagMark i l w = some m)
    (hnone : m.countsNone petId = true) : (l.effect w).hasLive petId = false := by
  cases m with
  | counted j p live =>
      simp only [FlagMark.countsNone, Bool.and_eq_true, decide_eq_true_eq,
        Bool.not_eq_true'] at hnone
      obtain ⟨rfl, rfl⟩ := hnone
      unfold flagMark at hm
      split at hm
      · split at hm
        · obtain ⟨_, -, heq⟩ := Option.map_eq_some_iff.1 hm
          cases heq
        · cases hm
      · split at hm <;> cases hm
      all_goals simp only [Option.some.injEq, FlagMark.counted.injEq, reduceCtorEq] at hm
      obtain ⟨-, rfl, hlive⟩ := hm
      exact hlive
  | _ => cases hnone

theorem of_inserted {j : ι} (h : flagMark i l w = some (.inserted j petId false)) :
    ∃ data, l = .alert (.alertInsert data) ∧ data.petId = some petId ∧
      w.unflagged petId = true := by
  unfold flagMark at h
  split at h
  next data =>
    simp only [Option.ite_none_right_eq_some, Option.map_eq_some_iff, FlagMark.inserted.injEq,
      Bool.not_eq_false'] at h
    obtain ⟨-, p, hof, -, rfl, hunflagged⟩ := h
    exact ⟨data, rfl, hof, hunflagged⟩
  next => split at h <;> cases h
  all_goals cases h

theorem of_cancelled {j : ι} (h : flagMark i l w = some (.cancelled j petId true)) :
    l = .alert (.alert (.petUpdate petId false)) ∧ w.hasLive petId = true := by
  unfold flagMark at h
  split at h
  next data =>
    simp only [Option.ite_none_right_eq_some, Option.map_eq_some_iff, reduceCtorEq, and_false,
      exists_false] at h
  next => split at h <;> cases h
  all_goals simp only [Option.some.injEq, FlagMark.cancelled.injEq, reduceCtorEq] at h
  obtain ⟨-, rfl, hlive⟩ := h
  exact ⟨rfl, hlive⟩

/-- What the history of an undisturbed run says. -/
structure SeenBefore (s : FlagSnapshot ι) : Prop where
  flag : ∀ p, KnownSince (FlagMark.sees p) (FlagMark.takes p) (fun w => w.unflagged p = false) s
  count : ∀ p, KnownSince (FlagMark.countsNone p) (FlagMark.inserts p)
    (fun w => w.hasLive p = false) s
  inserted : InsertedFlagged s.marks
  cancelled : CancelledLast s.marks

theorem SeenBefore.call {s : FlagSnapshot ι} (h : SeenBefore s) (hmay : MayFlag i l s)
    (hadm : UndisturbedFlags i l s) : SeenBefore (s.after flagMark i l l.effect) where
  flag := fun p => (h.flag p).step (fun _ => FlagCall.unflagged_of_sees) FlagCall.unflagged_keeps
  count := fun p => (h.count p).step (fun _ => FlagCall.hasLive_of_countsNone)
    (FlagCall.hasLive_keeps hmay.opens)
  inserted := by
    rintro m hm j p rfl
    rcases Snapshot.mem_after.1 hm with hnew | hold
    · obtain ⟨data, rfl, hof, hunflagged⟩ := of_inserted hnew
      have hquiet : (data.petId.all fun p =>
        quietSince (FlagMark.sees p) (FlagMark.takes p) s.marks) = true := hadm
      rw [hof, Option.all_some] at hquiet
      rw [h.flag p hquiet] at hunflagged
      cases hunflagged
    · exact h.inserted _ hold j p rfl
  cancelled := by
    rintro m hm j p rfl
    rcases Snapshot.mem_after.1 hm with hnew | hold
    · obtain ⟨rfl, hlive⟩ := of_cancelled hnew
      rw [h.count p hadm] at hlive
      cases hlive
    · exact h.cancelled _ hold j p rfl

theorem SeenBefore.init (w : World) : SeenBefore (⟨w, []⟩ : FlagSnapshot ι) where
  flag := fun _ hquiet => by cases hquiet
  count := fun _ hquiet => by cases hquiet
  inserted := nofun
  cancelled := nofun

theorem SeenBefore.env {w' : World} {marks : List (FlagMark ι)} (h : SeenBefore ⟨w, marks⟩)
    (hunflagged : ∀ p, w'.unflagged p = true → w.unflagged p = true)
    (hlive : ∀ p id, w'.isLive p id = true → w.isLive p id = true) :
    SeenBefore ⟨w', marks⟩ where
  flag := fun p => (h.flag p).env fun hw => Bool.eq_false_iff.2 fun hw' =>
    Bool.eq_false_iff.1 hw (hunflagged p hw')
  count := fun p => (h.count p).env fun hw => Bool.eq_false_iff.2 fun hw' => by
    obtain ⟨id, hid⟩ := World.hasLive_eq_true_iff.1 hw'
    exact Bool.eq_false_iff.1 hw (World.hasLive_of_isLive (hlive p id hid))
  inserted := h.inserted
  cancelled := h.cancelled

/-- Where nobody clears a flag between a creation's look at it and its insertion, nobody inserts
an alert between a cancellation's count and its clearing, and whoever cleared the flag of a found
pet over a live alert has resolved the live alerts, a pet with a live alert is flagged missing. -/
theorem liveAlerts_flagged_undisturbed [DecidableEq ι] (C : AlertCreationEnv) (E : AlertEnv)
    (U : UploadEnv) (fails : FlagCall → Prop) {w₀ : World} (hw₀ : w₀.FlaggedWhileLive)
    (req : ι → FlagRequest) {c : Config ι World FlagCall AppError Unit (FlagMark ι)}
    (h : Reaches (flagSetting fails UndisturbedFlags) (flagPool C E U w₀ req) c)
    (hsettled : FoundSettled c.marks) : c.state.FlaggedWhileLive := by
  have hsound : Sound (flagProtocol fails UndisturbedFlags).contract
      (fun _ => OnReturn fun _ _ => True) (flagPool C E U w₀ req) :=
    flagPool_sound C E U hw₀ req
  have hledger : FlagLedger c.toSnapshot := (hsound.reaches h).1
  have hseen : SeenBefore c.toSnapshot :=
    Protocol.Reachable.invariant (Protocol.refines hsound h) (SeenBefore.init w₀)
      (fun _ _ _ _ hmay hadm hs => hs.call hmay hadm)
      fun _ _ _ _ henv hs => hs.env henv.1 henv.2
  exact hledger.flaggedWhileLive hseen.inserted hseen.cancelled hsettled

end Undisturbed

section Runs

def noUploads : UploadEnv where
  upload_stream := fun _ _ _ _ => { stored := none, callback := .error (.error "CDN") }

/-- The requests run in turn. -/
def inTurn (w : World) (req : Fin 2 → FlagRequest) (is : List (Fin 2)) :
    Config (Fin 2) World FlagCall AppError Unit (FlagMark (Fin 2)) :=
  (flagPool plainCreation {} noUploads w req).schedule flagMark is

theorem reaches_inTurn (w : World) (req : Fin 2 → FlagRequest) (is : List (Fin 2)) :
    Reaches (flagSetting (fun _ => False) fun _ _ _ => True)
      (flagPool plainCreation {} noUploads w req) (inTurn w req is) :=
  Reaches.schedule (fun _ _ _ => trivial) _ _

def createAndFind : Fin 2 → FlagRequest
  | 0 => .create 1 alertForPet
  | 1 => .markAsFound 1 1

def cancelAndCreate : Fin 2 → FlagRequest
  | 0 => .onAlert 0 1 (.cancel {})
  | 1 => .create 1 alertForPet

/-- The pet is reported missing, and then it is found. -/
def foundAgain : Config (Fin 2) World FlagCall AppError Unit (FlagMark (Fin 2)) :=
  inTurn ownerWorld createAndFind (List.replicate 20 0 ++ List.replicate 10 1)

theorem liveAlerts_flagged_foundAgain :
    foundAgain.state.FlaggedWhileLive ∧ foundAgain.state.alerts.rows.length = 1 := by
  have hmarks : foundAgain.marks = [.settled 1, .listed 1 1 [0], .cleared 1 1 true,
      .inserted 0 1 true, .saw 0 1] := by decide +kernel
  have hbefore : ownerWorld.FlaggedWhileLive := by decide +kernel
  refine ⟨liveAlerts_flagged plainCreation {} noUploads (fun _ => False) hbefore
    createAndFind (reaches_inTurn _ _ _) ?_ ?_ ?_, by decide +kernel⟩
  · intro m hm i p hbad
    change m ∈ foundAgain.marks at hm
    simp [hmarks, hbad] at hm
  · intro m hm i p hbad
    change m ∈ foundAgain.marks at hm
    simp [hmarks, hbad] at hm
  · intro i p hcleared
    change _ ∈ foundAgain.marks at hcleared
    rw [hmarks] at hcleared ⊢
    simp at hcleared
    simp [hcleared]

/-- The pet is missing, and there is a live alert for it. -/
def missingWorld : World where
  users := ownerWorld.users
  pets := Table.empty.insertNew { id := 1, userId := 1, name := "Rex", isMissing := true }
  alerts := Table.empty.insertNew { id := 0, creator_id := 1, pet_id := some 1, status := .ACTIVE }
  nextAlert := 1

/-- The old alert is cancelled while a new one is created: the flag is cleared after it was
checked and before the new alert is there, or after the live alerts were counted. -/
def cancelledMeanwhile (is : List (Fin 2)) :
    Config (Fin 2) World FlagCall AppError Unit (FlagMark (Fin 2)) :=
  inTurn missingWorld cancelAndCreate is

def checkedBefore : List (Fin 2) :=
  List.replicate 7 1 ++ List.replicate 10 0 ++ List.replicate 20 1

def countedBefore : List (Fin 2) :=
  List.replicate 7 1 ++ List.replicate 5 0 ++ List.replicate 20 1 ++ List.replicate 10 0

/-- Every call goes through, and the new alert of a pet that is not flagged is left. -/
theorem liveAlerts_unflagged :
    missingWorld.FlaggedWhileLive ∧ ∀ is ∈ [checkedBefore, countedBefore],
      Reaches (flagSetting (fun _ => False) fun _ _ _ => True)
        (flagPool plainCreation {} noUploads missingWorld cancelAndCreate)
        (cancelledMeanwhile is) ∧
      (∀ i, ((cancelledMeanwhile is).pool i).result? = some (.ok ())) ∧
      ¬ (cancelledMeanwhile is).state.FlaggedWhileLive := by
  refine ⟨by decide +kernel, fun is his => ⟨reaches_inTurn _ _ _, ?_⟩⟩
  revert is
  decide +kernel

end Runs

end FifiAlert
