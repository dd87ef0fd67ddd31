import FifiAlert.Concurrency.Ending
import FifiAlert.Concurrency.RelyGuarantee
import FifiAlert.Upload.UploadService

/-!
# Rejected batches

The uploads of a batch are started together, each checks its own file, and a batch is rejected as
soon as one of them throws. Nothing takes back what is stored, by the others or by an upload that
throws afterwards. So a rejected batch leaves nothing behind if and only if the files of the batch
share one fate.
-/

namespace FifiAlert

open Concurrency

/-- The atomic calls of the uploads of a batch. -/
inductive BatchCall where
  | dateNow
  | randomUUID
  | cdnUpload (folder publicId : String) (outcome : UploadOutcome)

instance : UploadCalls BatchCall := ⟨.dateNow, .randomUUID, .cdnUpload⟩

/-- This becomes of an upload. -/
def UploadEnv.ending (E : UploadEnv) (outcome : UploadOutcome) : UploadEnv :=
  { E with upload_stream := fun _ _ _ _ => outcome }

/-- A file of the batch that the CDN has stored. -/
structure StoredFile (n : ℕ) where
  index : Fin n
  url : String
  deriving DecidableEq

def storedMark {n : ℕ} (i : Fin n) (l : BatchCall) (_ : World) : Option (StoredFile n) :=
  match l with
  | .cdnUpload _ _ outcome => outcome.stored.map fun url => ⟨i, url⟩
  | _ => none

/-- The uploads of a batch run together, and nobody else removes a stored file. -/
def batchSetting (n : ℕ) : Setting (Fin n) World BatchCall (StoredFile n) where
  mark := storedMark
  env := fun w w' => ∀ url ∈ w.cdn, url ∈ w'.cdn
  mayFail := fun _ => False
  admits := fun _ _ _ => True

abbrev BatchConfig (n : ℕ) :=
  Config (Fin n) World BatchCall AppError String (StoredFile n)

namespace UploadService

section Batch

variable (E : UploadEnv) (outcomes : ℕ → UploadOutcome) (files : List UploadedFile)
  (folder : String) (maxFiles : ℕ) (options : CloudinaryUploadOptions)

/-- What `uploadImages` starts for the files of a batch, where `outcomes` will become of their
uploads: a batch that is too long is rejected before any upload. -/
def batch (i : Fin files.length) : Process World BatchCall AppError String :=
  if files.length > maxFiles then
    .raise (.badRequest ["Maximum " ++ toString maxFiles ++ " images allowed per upload"])
  else uploadImage (E.ending (outcomes i)) (files.get i) folder options

/-- `Promise.all` rejects: some upload has thrown. -/
def Rejected (c : BatchConfig files.length) : Prop :=
  ∃ i e, c.pool i = .raise e

/-- Whatever the order of the uploads, no file of a rejected batch is stored in the end. -/
def LeavesNothing : Prop :=
  ∀ w c, Reaches (batchSetting files.length)
      (Config.init w (batch E outcomes files folder maxFiles options)) c →
    c.Ended → Rejected files c → ∀ stored ∈ c.marks, stored.url ∉ c.state.cdn

/-- The file is handed to the client. -/
def isHandedOver (file : UploadedFile) : Bool :=
  file.size ≤ E.maxFileSize && allowedImageTypes.contains (resolveMimeType file) &&
    (CloudinaryService.ensureConfigured E).isOk

/-- The upload of the file ends well. -/
def isTaken (file : UploadedFile) (outcome : UploadOutcome) : Bool :=
  isHandedOver E file && outcome.settled.isOk

/-- The image is stored, whatever the client says. -/
def isStored (file : UploadedFile) (outcome : UploadOutcome) : Bool :=
  isHandedOver E file && outcome.stored.isSome

end Batch

section Safety

variable {n : ℕ} {E : UploadEnv} {outcome : UploadOutcome} {file : UploadedFile}
  {folder : String} {options : CloudinaryUploadOptions}

/-- A thread leaves the marks of the others alone, and every stored file is there. -/
def batchContract (n : ℕ) : Contract (batchSetting n) where
  inv := fun s => ∀ stored ∈ s.marks, stored.url ∈ s.state.cdn
  rely := fun i s s' => ∀ stored, stored.index = i → (stored ∈ s'.marks ↔ stored ∈ s.marks)
  guar := fun i s s' => ∀ stored, stored.index ≠ i → (stored ∈ s'.marks ↔ stored ∈ s.marks)
  rely_refl := fun _ _ _ _ => Iff.rfl
  rely_trans := by
    intro i s₁ s₂ s₃ h h' stored hi
    exact (h' stored hi).trans (h stored hi)
  guar_refl := fun _ _ _ _ => Iff.rfl
  guar_rely := fun hne _ h stored hj => h stored fun hi => hne (hi.symm.trans hj)
  env_inv := fun henv hinv stored hstored => henv _ (hinv stored hstored)
  env_rely := fun _ _ _ _ _ _ _ _ => Iff.rfl

/-- The upload has ended as it was to, and has stored the file or not. -/
def UploadEnds (i : Fin n) (taken stores : Bool) (r : Except AppError String)
    (s : Snapshot World (StoredFile n)) : Prop :=
  r.isOk = taken ∧ ((∃ stored ∈ s.marks, stored.index = i) ↔ stores = true)

/-- The thread has stored no file yet. -/
def NothingStored (i : Fin n) (s : Snapshot World (StoredFile n)) : Prop :=
  ∀ stored ∈ s.marks, stored.index ≠ i

theorem NothingStored.stable {i : Fin n} {s s' : Snapshot World (StoredFile n)}
    (h : NothingStored i s) (hrely : (batchContract n).rely i s s') : NothingStored i s' :=
  fun stored hstored hi => h stored ((hrely stored hi).1 hstored) hi

/-- An upload that throws before it reaches the CDN. -/
theorem safe_raise {i : Fin n} {s : Snapshot World (StoredFile n)} (hs : NothingStored i s)
    (e : AppError) :
    Safe (batchContract n) i (UploadEnds i false false)
      (.raise e : Process World BatchCall _ String) s := by
  refine Safe.raise fun s' hrely _ => ⟨rfl, ?_⟩
  have hs' := hs.stable hrely
  exact iff_of_false (fun ⟨stored, hstored, hi⟩ => hs' stored hstored hi) Bool.false_ne_true

/-- The call of the CDN stores the file or not, and settles as it does. -/
theorem safe_cdnUpload {i : Fin n} {s : Snapshot World (StoredFile n)} (hs : NothingStored i s)
    (uploadFolder publicId : String) (outcome : UploadOutcome) :
    Safe (batchContract n) i (UploadEnds i outcome.settled.isOk outcome.stored.isSome)
      (Process.atomic (UploadCalls.cdnUpload uploadFolder publicId outcome : BatchCall) (.error "")
        fun w => (outcome.settled, CloudinaryService.store outcome w)) s := by
  intro s₁ hrely hinv
  have hs₁ := hs.stable hrely
  have hmark : ∀ stored, stored ∈ (s₁.after storedMark i (.cdnUpload uploadFolder publicId outcome)
      (CloudinaryService.store outcome)).marks ↔
        outcome.stored.map (fun url => ⟨i, url⟩) = some stored ∨ stored ∈ s₁.marks :=
    fun stored => Snapshot.mem_after
  have hends : ∀ s₂, (batchContract n).rely i (s₁.after storedMark i
      (.cdnUpload uploadFolder publicId outcome) (CloudinaryService.store outcome)) s₂ →
        ((∃ stored ∈ s₂.marks, stored.index = i) ↔ outcome.stored.isSome = true) := by
    intro s₂ hrely₂
    constructor
    · rintro ⟨stored, hstored, hi⟩
      rcases (hmark stored).1 ((hrely₂ stored hi).1 hstored) with hnew | hold
      · rw [← Option.isSome_map (f := fun url => (⟨i, url⟩ : StoredFile n)), hnew]
        rfl
      · exact absurd hi (hs₁ stored hold)
    · intro hsome
      obtain ⟨url, hurl⟩ := Option.isSome_iff_exists.1 hsome
      exact ⟨⟨i, url⟩, (hrely₂ _ rfl).2 ((hmark _).2 (.inl (by rw [hurl]; rfl))), rfl⟩
  refine ⟨fun _ => ⟨fun stored hne => ?_, fun stored hstored => ?_, ?_⟩, fun hfail => hfail.elim⟩
  · refine (hmark stored).trans (or_iff_right fun hnew => hne ?_)
    obtain ⟨url, -, rfl⟩ := Option.map_eq_some_iff.1 hnew
    rfl
  · rcases (hmark stored).1 hstored with hnew | hold
    · obtain ⟨url, hurl, rfl⟩ := Option.map_eq_some_iff.1 hnew
      exact List.mem_append_right _ (by rw [hurl]; exact List.mem_singleton_self url)
    · exact List.mem_append_left _ (hinv stored hold)
  · cases hsettled : outcome.settled with
    | ok url => exact Safe.ret fun s₂ hrely₂ _ => ⟨rfl, hends s₂ hrely₂⟩
    | error e => exact Safe.raise fun s₂ hrely₂ _ => ⟨rfl, hends s₂ hrely₂⟩

theorem safe_cloudinaryUpload {i : Fin n} {s : Snapshot World (StoredFile n)}
    (hs : NothingStored i s) (buffer : List UInt8) (filename : String) :
    Safe (batchContract n) i
      (UploadEnds i ((CloudinaryService.ensureConfigured E).isOk && outcome.settled.isOk)
        ((CloudinaryService.ensureConfigured E).isOk && outcome.stored.isSome))
      (CloudinaryService.uploadImage (ℓ := BatchCall) (E.ending outcome) buffer folder filename
        options) s := by
  have hensure : CloudinaryService.ensureConfigured (E.ending outcome) =
      CloudinaryService.ensureConfigured E := rfl
  unfold CloudinaryService.uploadImage
  rw [hensure]
  cases CloudinaryService.ensureConfigured E with
  | error e => exact safe_raise hs e
  | ok _ =>
      refine Safe.bind ?_
      have hupload : ∀ {s' : Snapshot World (StoredFile n)} (publicId : String),
          NothingStored i s' →
            Safe (batchContract n) i (UploadEnds i outcome.settled.isOk outcome.stored.isSome) _
              s' :=
        fun publicId hs' => safe_cdnUpload hs'
          (CloudinaryService.buildFolder (E.ending outcome) folder) publicId outcome
      unfold CloudinaryService.publicIdOf
      split
      · intro s₁ hrely hinv
        refine ⟨fun _ => ⟨fun _ _ => Iff.rfl, hinv, ?_⟩, fun hfail => hfail.elim⟩
        exact Safe.ret fun s₂ hrely₂ _ => hupload _ ((hs.stable hrely).stable hrely₂)
      · intro s₁ hrely hinv
        refine ⟨fun _ => ⟨fun _ _ => Iff.rfl, hinv, ?_⟩, fun hfail => hfail.elim⟩
        exact Safe.ret fun s₂ hrely₂ _ => hupload _ ((hs.stable hrely).stable hrely₂)

/-- One upload of the batch, among the others. -/
theorem safe_uploadImage {i : Fin n} {s : Snapshot World (StoredFile n)} (hs : NothingStored i s) :
    Safe (batchContract n) i (UploadEnds i (isTaken E file outcome) (isStored E file outcome))
      (uploadImage (ℓ := BatchCall) (E.ending outcome) file folder options) s := by
  have hsize : (E.ending outcome).maxFileSize = E.maxFileSize := rfl
  unfold uploadImage uploadImageVia isTaken isStored isHandedOver
  rw [hsize]
  by_cases hlarge : file.size > E.maxFileSize
  · rw [if_pos hlarge, decide_eq_false (not_le.2 hlarge)]
    exact safe_raise hs _
  · rw [if_neg hlarge, decide_eq_true (not_lt.1 hlarge)]
    cases allowedImageTypes.contains (resolveMimeType file) with
    | false => exact safe_raise hs _
    | true => exact safe_cloudinaryUpload hs file.buffer file.originalname

end Safety

section Fate

variable {E : UploadEnv} {outcomes : ℕ → UploadOutcome} {files : List UploadedFile}
  {folder : String} {maxFiles : ℕ} {options : CloudinaryUploadOptions}

/-- The upload of the file is started and ends well. -/
def goesThrough (E : UploadEnv) (outcomes : ℕ → UploadOutcome) (files : List UploadedFile)
    (maxFiles : ℕ) (i : Fin files.length) : Bool :=
  decide (files.length ≤ maxFiles) && isTaken E (files.get i) (outcomes i)

/-- The upload of the file is started and stores it. -/
def stores (E : UploadEnv) (outcomes : ℕ → UploadOutcome) (files : List UploadedFile)
    (maxFiles : ℕ) (i : Fin files.length) : Bool :=
  decide (files.length ≤ maxFiles) && isStored E (files.get i) (outcomes i)

theorem sound_batch (w : World) :
    Sound (batchContract files.length)
      (fun i => UploadEnds i (goesThrough E outcomes files maxFiles i)
        (stores E outcomes files maxFiles i))
      (Config.init w (batch E outcomes files folder maxFiles options)) := by
  refine ⟨fun stored hstored => absurd hstored List.not_mem_nil, fun i => ?_⟩
  have hnone : NothingStored i (⟨w, []⟩ : Snapshot World (StoredFile files.length)) :=
    fun stored hstored => absurd hstored List.not_mem_nil
  unfold goesThrough stores Config.init batch
  dsimp only
  by_cases hlong : files.length > maxFiles
  · rw [if_pos hlong, decide_eq_false (not_le.2 hlong)]
    exact safe_raise hnone _
  · rw [if_neg hlong, decide_eq_true (not_lt.1 hlong)]
    exact safe_uploadImage hnone

/-- In the end each upload has thrown or not, and has stored its file or not, as it was to. -/
theorem uploadEnds_of_ended {w : World} {c : BatchConfig files.length}
    (h : Reaches (batchSetting files.length)
      (Config.init w (batch E outcomes files folder maxFiles options)) c) (hended : c.Ended)
    (i : Fin files.length) :
    ((∃ e, c.pool i = .raise e) ↔ goesThrough E outcomes files maxFiles i = false) ∧
      ((∃ stored ∈ c.marks, stored.index = i) ↔ stores E outcomes files maxFiles i = true) := by
  have hstart : Sound (batchContract files.length)
      (fun i => UploadEnds i (goesThrough E outcomes files maxFiles i)
        (stores E outcomes files maxFiles i))
      (Config.init w (batch E outcomes files folder maxFiles options)) := sound_batch w
  have hsound := hstart.reaches h
  have hi := hended i
  cases hpool : c.pool i with
  | ret url =>
      obtain ⟨htaken, hstored⟩ := hsound.result hpool
      exact ⟨by simp [← htaken], hstored⟩
  | raise e =>
      obtain ⟨htaken, hstored⟩ := hsound.exception hpool
      exact ⟨by simp [← htaken], hstored⟩
  | call l next rest fault =>
      rw [hpool] at hi
      cases hi

/-- The batch is too long, or all of its uploads end well, or none of its files is stored. -/
def OneFate (E : UploadEnv) (outcomes : ℕ → UploadOutcome) (files : List UploadedFile)
    (maxFiles : ℕ) : Prop :=
  maxFiles < files.length ∨
    (∀ i : Fin files.length, isTaken E (files.get i) (outcomes i) = true) ∨
    ∀ i : Fin files.length, isStored E (files.get i) (outcomes i) = false

/-- Of a batch without one fate, a file is stored and an upload throws. -/
theorem LeavesNothing.oneFate
    (hleaves : LeavesNothing E outcomes files folder maxFiles options) :
    OneFate E outcomes files maxFiles := by
  by_contra hmixed
  obtain ⟨hlong, hmixed⟩ := not_or.1 hmixed
  obtain ⟨hall, hnone⟩ := not_or.1 hmixed
  obtain ⟨j, hj⟩ := not_forall.1 hall
  obtain ⟨i, hi⟩ := not_forall.1 hnone
  obtain ⟨c, hreach, hended⟩ := Reaches.exists_ended (S := batchSetting files.length)
    (fun _ _ _ => trivial) (Config.init {} (batch E outcomes files folder maxFiles options))
  have hends := uploadEnds_of_ended hreach hended
  have hshort : decide (files.length ≤ maxFiles) = true := decide_eq_true (not_lt.1 hlong)
  have hthrown : goesThrough E outcomes files maxFiles j = false := by
    rw [goesThrough, hshort, Bool.true_and, Bool.eq_false_iff.2 hj]
  have hkept : stores E outcomes files maxFiles i = true := by
    rw [stores, hshort, Bool.true_and, Bool.eq_true_of_not_eq_false hi]
  obtain ⟨e, hraised⟩ := (hends j).1.2 hthrown
  obtain ⟨stored, hstored, -⟩ := (hends i).2.2 hkept
  exact hleaves {} c hreach hended ⟨j, e, hraised⟩ stored hstored
    (((sound_batch {}).reaches hreach).1 stored hstored)

theorem OneFate.leavesNothing (hfate : OneFate E outcomes files maxFiles) :
    LeavesNothing E outcomes files folder maxFiles options := by
  rintro w c hreach hended ⟨j, e, hraised⟩ stored hstored
  have hends := uploadEnds_of_ended hreach hended
  have hj := (hends j).1.1 ⟨e, hraised⟩
  have hi := (hends stored.index).2.1 ⟨stored, hstored, rfl⟩
  simp only [stores, Bool.and_eq_true, decide_eq_true_eq] at hi
  rw [goesThrough, decide_eq_true hi.1, Bool.true_and] at hj
  rcases hfate with hlong | hall | hnone
  · exact absurd hi.1 (not_le.2 hlong)
  · exact absurd (hall j) (Bool.eq_false_iff.1 hj)
  · exact absurd hi.2 (Bool.eq_false_iff.1 (hnone stored.index))

/-- A rejected batch leaves nothing if and only if its files share one fate. -/
theorem leavesNothing_iff (E : UploadEnv) (outcomes : ℕ → UploadOutcome)
    (files : List UploadedFile) (folder : String) (maxFiles : ℕ)
    (options : CloudinaryUploadOptions) :
    LeavesNothing E outcomes files folder maxFiles options ↔ OneFate E outcomes files maxFiles :=
  ⟨LeavesNothing.oneFate, OneFate.leavesNothing⟩

/-- A photo and a note. -/
def mixedFiles : List UploadedFile :=
  [{ buffer := [0xff, 0xd8, 0xff, 0xe0, 0, 16, 0x4a, 0x46, 0x49, 0x46, 0, 1], size := 12,
     mimetype := "image/jpeg", originalname := "rex.jpg" },
   { buffer := [], size := 0, mimetype := "text/plain", originalname := "note.txt" }]

/-- A configured client. -/
def configuredEnv : UploadEnv where
  CLOUDINARY_CLOUD_NAME := some "demo"
  CLOUDINARY_API_KEY := some "key"
  CLOUDINARY_SECRET := some "secret"
  upload_stream := fun _ _ publicId _ => .delivered publicId

/-- The note is refused, and the photo stays. -/
theorem not_leavesNothing :
    ¬ LeavesNothing configuredEnv (fun _ => .delivered "https://res.cloudinary.com/demo/rex.jpg")
      mixedFiles "alerts" 5 {} := by
  intro hleaves
  rcases hleaves.oneFate with hlong | hall | hnone
  · exact absurd hlong (by decide)
  · exact absurd (hall ⟨1, by decide⟩) (by decide)
  · exact absurd (hnone ⟨0, by decide⟩) (by decide +kernel)

end Fate

end UploadService

end FifiAlert
