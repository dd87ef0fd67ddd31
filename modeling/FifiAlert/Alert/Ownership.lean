import FifiAlert.Alert.AlertService

/-!
# Who may change an alert

Every operation on an alert starts by comparing the creator with the caller,
except the photo upload, which only asks whether the alert exists. So the
request of a stranger fails and leaves the alert as it was, unless it uploads a
batch of files that the upload service accepts.
-/

namespace FifiAlert

open Concurrency Store

namespace AlertService

variable {w : World} {alertId userId : ℕ} {alert : Alert}

/-- The ownership check stops everybody but the creator. -/
theorem findOwned_run_of_ne (hrow : w.alerts.find? alertId = some alert)
    (hne : alert.creator_id ≠ userId) (action : String) :
    (findOwned alertId userId action).run w =
      (.error (.forbidden ("You do not have permission to " ++ action ++ " this alert")), w) := by
  unfold findOwned AlertCall.read World.findAlert
  rw [Process.run_query_bind, hrow]
  simp [hne]

/-- `addPhotos` answers everybody. -/
theorem addPhotos_run (hrow : w.alerts.find? alertId = some alert) (userId : ℕ)
    (photoUrls : List String) :
    (addPhotos alertId userId photoUrls).run w =
      (.ok (), (AlertCall.alertAppendPhotos alertId photoUrls).effect w) := by
  unfold addPhotos findById AlertCall.read AlertCall.write World.findAlert
  simp [hrow]

end AlertService

/-- The request fails and the alert is what it was. -/
def RejectedUnchanged (p : AlertProcess Unit) (alertId : ℕ) (w : World) : Prop :=
  (∃ e, (p.run w).1 = .error e) ∧ (p.run w).2.alerts.find? alertId = w.alerts.find? alertId

theorem RejectedUnchanged.of_run {p : AlertProcess Unit} {alertId : ℕ} {w w' : World}
    {e : AppError} (h : p.run w = (.error e, w')) (hrows : w'.alerts = w.alerts) :
    RejectedUnchanged p alertId w := by
  constructor
  · exact ⟨e, by rw [h]⟩
  · rw [h, hrows]

theorem RejectedUnchanged.of_findOwned {α : Type} {w : World} {alertId userId : ℕ}
    {alert : Alert} (hrow : w.alerts.find? alertId = some alert)
    (hne : alert.creator_id ≠ userId) (action : String) (k : AlertRow → AlertProcess α) :
    RejectedUnchanged ((fun _ => ()) <$> (AlertService.findOwned alertId userId action >>= k))
      alertId w := by
  have hrun := Process.run_bind_error (AlertService.findOwned_run_of_ne hrow hne action) k
  have hmap := Process.run_map (fun _ => ()) (AlertService.findOwned alertId userId action >>= k) w
  rw [hrun] at hmap
  exact RejectedUnchanged.of_run hmap rfl

/-- The upload handler with a caller that is not asked who they are: it fails
without touching the alert exactly when the batch is rejected. -/
theorem uploadPhotos_rejected_iff {U : UploadEnv} {w : World} {alertId userId : ℕ}
    {alert : Alert} (hrow : w.alerts.find? alertId = some alert) (files : List UploadedFile) :
    RejectedUnchanged
        ((fun _ => ()) <$> AlertController.uploadPhotos U alertId userId files) alertId w ↔
      ¬ UploadService.Accepts U w.now "alerts" files := by
  obtain ⟨urls, cdn, hrun, hok⟩ :=
    UploadService.uploadImages_run (ℓ := AlertCall) U files "alerts" w
  rw [← hok]
  cases urls with
  | error e =>
      simp only [isOk_error, Bool.false_eq_true, not_false_eq_true, iff_true]
      have hmap := Process.run_map (fun _ => ())
        (AlertController.uploadPhotos U alertId userId files) w
      rw [AlertController.uploadPhotos, Process.run_bind_error hrun] at hmap
      exact RejectedUnchanged.of_run hmap rfl
  | ok urls =>
      simp only [isOk_ok, not_true_eq_false, iff_false]
      have hadd := AlertService.addPhotos_run (w := { w with cdn }) hrow userId urls
      rintro ⟨⟨e, he⟩, -⟩
      rw [Process.run_map, AlertController.uploadPhotos, Process.run_bind_ok hrun,
        Process.run_bind_ok hadd] at he
      cases he

/-- A request of somebody else than the creator fails and leaves the alert as it
was, except for the upload of an accepted batch. -/
theorem strangerRequest_rejected_iff (E : AlertEnv) (U : UploadEnv) (w : World)
    (alertId userId : ℕ) (alert : Alert) (hrow : w.alerts.find? alertId = some alert)
    (hne : alert.creator_id ≠ userId) (op : AlertOp) :
    RejectedUnchanged (op.process E U alertId userId) alertId w ↔
      ∀ files, op = .uploadPhotos files → ¬ UploadService.Accepts U w.now "alerts" files := by
  cases op with
  | update dto => exact iff_of_true (.of_findOwned hrow hne _ _) (by simp)
  | resolve dto => exact iff_of_true (.of_findOwned hrow hne _ _) (by simp)
  | cancel dto => exact iff_of_true (.of_findOwned hrow hne _ _) (by simp)
  | renew => exact iff_of_true (.of_findOwned hrow hne _ _) (by simp)
  | uploadPhotos files => simpa [AlertOp.process] using uploadPhotos_rejected_iff hrow files

/-- An alert of user 1, at a time when Cloudinary is configured. -/
def strangerWorld : World where
  alerts := Table.empty.insertNew { id := 7, creator_id := 1 }

def strangerUpload : UploadEnv where
  CLOUDINARY_CLOUD_NAME := some "cloud"
  CLOUDINARY_API_KEY := some "key"
  CLOUDINARY_SECRET := some "secret"
  upload_stream := fun _ folder publicId _ =>
    .delivered ("https://cdn/" ++ folder ++ "/" ++ publicId)

def pngFile : UploadedFile where
  buffer := [0x89, 0x50, 0x4e, 0x47, 0x0d, 0x0a, 0x1a, 0x0a, 0, 0, 0, 0]
  size := 12
  originalname := "paw.png"

/-- User 2 cancels the alert of user 1. -/
theorem strangerRequest_rejected_iff_cancel :
    RejectedUnchanged (AlertOp.process {} strangerUpload 7 2 (.cancel {})) 7 strangerWorld :=
  (strangerRequest_rejected_iff {} strangerUpload strangerWorld 7 2 { id := 7, creator_id := 1 }
    (by decide +kernel) (by decide) (.cancel {})).2 (by simp)

/-- User 2 uploads a photo to the alert of user 1: the request succeeds and the
alert has the photo. -/
theorem uploadPhotos_by_stranger :
    let op := AlertOp.uploadPhotos [pngFile]
    let after := (op.process {} strangerUpload 7 2).run strangerWorld
    (strangerWorld.alerts.find? 7).map Alert.creator_id = some 1 ∧
      after.1 = .ok () ∧
      (after.2.alerts.find? 7).map Alert.pet_photos = some ["https://cdn/alerts/0-paw"] ∧
      ¬ RejectedUnchanged (op.process {} strangerUpload 7 2) 7 strangerWorld := by
  refine ⟨by decide +kernel, by decide +kernel, by decide +kernel, ?_⟩
  rintro ⟨-, hrow⟩
  revert hrow
  decide +kernel

end FifiAlert
