import FifiAlert.Alert.CreationCalls
import FifiAlert.Concurrency.Interleaving

/-!
# The confirmation emails

A creation and a resolution end with an email to the creator. Its text is taken from `alert.pet`,
which the responses of `findById` do not have, so the email is given up before it is handed to the
provider: however the requests interleave and whatever fails, no confirmation is ever sent.
-/

namespace FifiAlert

open Concurrency Store

/-- The confirmations of one kind to an address about an alert, among the emails. -/
def World.confirmations (w : World) (template recipient : String) (alertId : ℕ) : ℕ :=
  w.emails.countP fun e => e = ⟨template, recipient, alertId⟩

/-- Between two states exactly one confirmation was handed to the provider. -/
def ConfirmedOnce (w w' : World) (template recipient : String) (alertId : ℕ) : Prop :=
  w'.confirmations template recipient alertId = w.confirmations template recipient alertId + 1

/-- The requests that end with a confirmation. -/
inductive ConfirmedRequest where
  | create (userId : ℕ) (dto : CreateAlertDto)
  | resolve (alertId userId : ℕ) (dto : ResolveAlertDto)

namespace ConfirmedRequest

def process (C : AlertCreationEnv) (E : AlertEnv) :
    ConfirmedRequest → CreationProcess (Option AlertResponseDto)
  | create userId dto => AlertService.create C userId dto
  | resolve alertId userId dto => (AlertService.resolve E alertId userId dto).relabel .alert

/-- The template of its confirmation. -/
def template : ConfirmedRequest → String
  | create _ _ => "alertCreated"
  | resolve _ _ _ => "alertResolved"

def userId : ConfirmedRequest → ℕ
  | create userId _ => userId
  | resolve _ userId _ => userId

end ConfirmedRequest

/-- A call that hands nothing to the email provider. -/
def KeepsMail (next : World → World) : Prop := ∀ w, (next w).emails = w.emails

/-- A process that hands nothing to the email provider. -/
abbrev SendsNoMail {ℓ α : Type} (p : Process World ℓ AppError α) : Prop :=
  p.Confined (fun _ next => KeepsMail next) fun _ => True

section Silent

variable {α : Type}

theorem keepsMail_id : KeepsMail id := fun _ => rfl

theorem AlertCall.keepsMail {l : AlertCall} (hl : ∀ email, l ≠ .sendHtml email) :
    KeepsMail l.effect := by
  intro w
  cases l with
  | sendHtml email => exact absurd rfl (hl email)
  | snapshotCreate snapshot =>
      simp only [AlertCall.effect]
      split <;> rfl
  | _ => rfl

theorem sendsNoMail_read {l : AlertCall} {g : World → α} : SendsNoMail (AlertCall.read l g) :=
  Process.confined_query keepsMail_id trivial

theorem sendsNoMail_write {l : AlertCall} {g : World → α} (hl : ∀ email, l ≠ .sendHtml email) :
    SendsNoMail (AlertCall.write l g) :=
  Process.confined_modify (AlertCall.keepsMail hl) trivial

theorem sendsNoMail_writeIf {l : AlertCall} {code : PrismaError} {p : World → Bool}
    (hl : ∀ email, l ≠ .sendHtml email) : SendsNoMail (AlertCall.writeIf l code p) :=
  Process.confined_atomic (AlertCall.keepsMail hl) (fun _ _ _ => trivial) trivial

theorem sendsNoMail_caught {ℓ : Type} {p : Process World ℓ AppError α} {a : α}
    (hp : SendsNoMail p) : SendsNoMail (p.tryCatch fun _ => .ret a) :=
  hp.tryCatch fun _ _ => trivial

theorem SendsNoMail.relabel {ℓ ℓ' : Type} {f : ℓ → ℓ'} {p : Process World ℓ AppError α}
    (hp : SendsNoMail p) : SendsNoMail (p.relabel f) :=
  Process.Confined.relabel hp

namespace AlertService

theorem sendAlertResolvedEmail_sendsNoMail {alert : AlertResponseDto} (h : alert.pet = none) :
    SendsNoMail (sendAlertResolvedEmail alert) := by
  unfold sendAlertResolvedEmail
  refine sendsNoMail_read.bind fun user => ?_
  rw [h]
  cases user <;> trivial

theorem create_sendsNoMail (C : AlertCreationEnv) (userId : ℕ) (dto : CreateAlertDto) :
    SendsNoMail (create C userId dto) := by
  refine (create_calls C userId dto).mono ?_ fun _ => id
  rintro l next ⟨rfl, hl⟩ w
  cases l with
  | alert l =>
      refine AlertCall.keepsMail ?_ w
      rintro email rfl
      exact hl
  | rateLimit l => cases l <;> rfl
  | notification l =>
      cases l with
      | queueAdd job => rfl
      | _ => exact hl.elim
  | alertInsert data =>
      dsimp only [CreationCall.effect]
      split <;> rfl

theorem freezeSnapshot_sendsNoMail (E : AlertEnv) (row : AlertRow) (dto : ResolveAlertDto)
    (resolvedAt : Time) : SendsNoMail (freezeSnapshot E row dto resolvedAt) := by
  unfold freezeSnapshot
  split
  · split
    · refine sendsNoMail_caught (.map _ ?_)
      unfold upsertForResolvedAlert
      refine sendsNoMail_read.bind fun _ => sendsNoMail_read.bind fun _ => ?_
      exact Process.Confined.bind (sendsNoMail_write fun _ => nofun) fun _ =>
        sendsNoMail_writeIf fun _ => nofun
    · trivial
  · trivial

theorem afterResolve_sendsNoMail (E : AlertEnv) (row : AlertRow) (userId : ℕ)
    (dto : ResolveAlertDto) (resolvedAt : Time) (resolutionNotes : String) :
    SendsNoMail (afterResolve E row userId dto resolvedAt resolutionNotes) := by
  unfold afterResolve
  refine (freezeSnapshot_sendsNoMail E row dto resolvedAt).bind fun snapshotWritten => ?_
  refine sendsNoMail_read.bind fun occurredAt => ?_
  refine Process.Confined.bind (sendsNoMail_write fun _ => nofun) fun _ => ?_
  extract_lets rest
  have hrest : ∀ u, SendsNoMail (rest u) := by
    intro _
    dsimp only [rest]
    rw [findById_eq]
    refine Process.confined_query_bind keepsMail_id trivial fun w => ?_
    cases hresponse : response row.alert.id (some userId) w with
    | none => trivial
    | some alert =>
        have hemail := sendAlertResolvedEmail_sendsNoMail (pet_response hresponse)
        exact Process.Confined.bind (sendsNoMail_caught hemail) fun _ => trivial
  split
  · exact Process.Confined.bind (sendsNoMail_caught (sendsNoMail_write fun _ => nofun))
      hrest
  · exact hrest ()

theorem findOwned_sendsNoMail (alertId userId : ℕ) (action : String) :
    SendsNoMail (findOwned alertId userId action) := by
  unfold findOwned
  refine sendsNoMail_read.bind fun row => ?_
  cases row with
  | none => trivial
  | some row =>
      dsimp only
      split <;> trivial

theorem resolve_sendsNoMail (E : AlertEnv) (alertId userId : ℕ) (dto : ResolveAlertDto) :
    SendsNoMail (resolve E alertId userId dto) := by
  unfold resolve
  refine (findOwned_sendsNoMail alertId userId "resolve").bind fun row => ?_
  split
  · trivial
  · refine sendsNoMail_read.bind fun resolvedAt => ?_
    exact Process.Confined.bind (sendsNoMail_writeIf fun _ => nofun) fun _ =>
      afterResolve_sendsNoMail ..

end AlertService

theorem ConfirmedRequest.process_sendsNoMail (C : AlertCreationEnv) (E : AlertEnv)
    (r : ConfirmedRequest) : SendsNoMail (r.process C E) := by
  cases r with
  | create userId dto => exact AlertService.create_sendsNoMail C userId dto
  | resolve alertId userId dto =>
      exact (AlertService.resolve_sendsNoMail E alertId userId dto).relabel

end Silent

section Pool

variable {ι : Type*}

abbrev ConfirmedPool (ι : Type*) :=
  Config ι World CreationCall AppError (Option AlertResponseDto) Empty

/-- The surroundings: the others may do anything but hand over confirmations. -/
def mailSetting (fails : CreationCall → Prop) : Setting ι World CreationCall Empty where
  mark := fun _ _ _ => none
  env := fun w w' => ∀ template ∈ ["alertCreated", "alertResolved"], ∀ recipient alertId,
    w'.confirmations template recipient alertId = w.confirmations template recipient alertId
  mayFail := fails
  admits := fun _ _ _ => True

def confirmedPool (C : AlertCreationEnv) (E : AlertEnv) (w : World) (req : ι → ConfirmedRequest) :
    ConfirmedPool ι :=
  .init w fun i => (req i).process C E

/-- However creations and resolutions interleave and whichever calls fail: no request has its
confirmation handed over, whether it succeeded or not. -/
theorem confirmation_neverSent [DecidableEq ι] (C : AlertCreationEnv) (E : AlertEnv) (w₀ : World)
    (req : ι → ConfirmedRequest) (fails : CreationCall → Prop) {c : ConfirmedPool ι}
    (h : Reaches (mailSetting fails) (confirmedPool C E w₀ req) c) (i : ι) (recipient : String)
    (alertId : ℕ) : ¬ ConfirmedOnce w₀ c.state (req i).template recipient alertId := by
  have hkept : ∀ template ∈ ["alertCreated", "alertResolved"], ∀ recipient alertId,
      c.state.confirmations template recipient alertId =
        w₀.confirmations template recipient alertId := by
    refine h.confined (P := fun _ _ next => KeepsMail next) (R := fun _ _ => True)
      (J := fun s => ∀ template ∈ ["alertCreated", "alertResolved"], ∀ recipient alertId,
        s.state.confirmations template recipient alertId =
          w₀.confirmations template recipient alertId) ?_ ?_ ?_ ?_
    · intro _ _ next s hnext _ hs template htemplate recipient alertId
      rw [← hs template htemplate, Snapshot.state_after, World.confirmations, hnext,
        World.confirmations]
    · intro w w' _ henv hs template htemplate recipient alertId
      exact (henv template htemplate recipient alertId).trans (hs template htemplate _ _)
    · exact fun i => (req i).process_sendsNoMail C E
    · exact fun _ _ _ _ => rfl
  have htemplate : (req i).template ∈ ["alertCreated", "alertResolved"] := by
    cases req i <;> simp [ConfirmedRequest.template]
  unfold ConfirmedOnce
  rw [hkept _ htemplate]
  exact Nat.ne_of_lt (Nat.lt_succ_self _)

end Pool

section Runs

/-- User 1 creates an alert for their pet, and then resolves it. -/
def createAndResolve : Fin 2 → ConfirmedRequest
  | 0 => .create 1 alertForPet
  | 1 => .resolve 0 1 { outcome := .FOUND_SAFE }

def confirmedRun : ConfirmedPool (Fin 2) :=
  (confirmedPool plainCreation {} ownerWorld createAndResolve).schedule (fun _ _ _ => none)
    (List.replicate 20 0 ++ List.replicate 20 1)

theorem reaches_confirmedRun : Reaches (mailSetting fun _ => False)
    (confirmedPool plainCreation {} ownerWorld createAndResolve) confirmedRun :=
  Reaches.schedule (fun _ _ _ => trivial) _ _

theorem confirmation_neverSent_ann :
    ¬ ConfirmedOnce ownerWorld confirmedRun.state "alertCreated" "ann@example.com" 0 ∧
      ¬ ConfirmedOnce ownerWorld confirmedRun.state "alertResolved" "ann@example.com" 0 :=
  ⟨confirmation_neverSent plainCreation {} ownerWorld createAndResolve _ reaches_confirmedRun 0 _ _,
    confirmation_neverSent plainCreation {} ownerWorld
      createAndResolve _ reaches_confirmedRun 1 _ _⟩

/-- Both requests succeed, no call fails, and no email is handed over. -/
theorem confirmation_missing :
    Reaches (mailSetting fun _ => False)
      (confirmedPool plainCreation {} ownerWorld createAndResolve) confirmedRun ∧
    (ownerWorld.users.find? 1).map User.email = some "ann@example.com" ∧
    (∀ i, ((confirmedRun.pool i).result?.bind Except.toOption).map
      (Option.map AlertResponseDto.id) = some (some 0)) ∧
    confirmedRun.state.emails = [] ∧
    ∀ i, ¬ ConfirmedOnce ownerWorld confirmedRun.state (createAndResolve i).template
      "ann@example.com" 0 := by
  refine ⟨reaches_confirmedRun, ?_⟩
  unfold ConfirmedOnce
  decide +kernel

end Runs

end FifiAlert
