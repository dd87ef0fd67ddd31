import FifiAlert.Concurrency.Process
import FifiAlert.Errors
import FifiAlert.Upload.ImageType
import FifiAlert.World

/-!
# Uploading images

`UploadService` checks a batch of files and hands each to Cloudinary. The batch
is accepted exactly when no check fails (`Accepts`), which depends on the files
and the configuration only.
-/

namespace FifiAlert

open Concurrency

/-- A file of a multipart request. -/
structure UploadedFile where
  buffer : List UInt8
  size : ℕ
  mimetype : String := ""
  originalname : String := ""

/-- How an upload departs from the plain one. -/
structure CloudinaryUploadOptions where
  webOptimise : Bool := false
  randomPublicId : Bool := false

/-- What becomes of an upload: the address of the image that Cloudinary stores, if it
stores one, and what the client calls back with, an error or the `secure_url` of a
result. An image may be stored although the client reports an error, or no address. -/
structure UploadOutcome where
  stored : Option String
  callback : Except AppError (Option String)

namespace UploadOutcome

/-- What the promise of the upload settles with. -/
def settled (outcome : UploadOutcome) : Except AppError String :=
  match outcome.callback with
  | .error e => .error e
  | .ok secure_url =>
    match Js.truthy secure_url with
    | none => .error (.error "Cloudinary upload did not return a secure URL")
    | some url => .ok url

/-- The image is stored, and the client says where. -/
def delivered (url : String) : UploadOutcome where
  stored := some url
  callback := .ok (some url)

end UploadOutcome

/-- The configuration of the upload service, the text of a fresh UUID, and what
becomes of an upload, plain or optimised for the web, into a folder under a public
id. -/
structure UploadEnv where
  maxFileSize : ℕ := 10 * 1024 * 1024
  CLOUDINARY_CLOUD_NAME : Option String := none
  CLOUDINARY_API_KEY : Option String := none
  CLOUDINARY_SECRET : Option String := none
  CLOUDINARY_FOLDER : String := ""
  randomUUID : ℕ → String := toString
  upload_stream : (webOptimise : Bool) → (folder publicId : String) → List UInt8 →
    UploadOutcome

/-- The atomic calls of the upload service, among the calls of its caller. An upload
carries what becomes of it. -/
class UploadCalls (ℓ : Type) where
  dateNow : ℓ
  randomUUID : ℓ
  cdnUpload : (folder publicId : String) → UploadOutcome → ℓ

namespace CloudinaryService

def ensureConfigured (E : UploadEnv) : Except AppError Unit :=
  if (Js.truthy E.CLOUDINARY_CLOUD_NAME).isNone || (Js.truthy E.CLOUDINARY_API_KEY).isNone ||
      (Js.truthy E.CLOUDINARY_SECRET).isNone then
    .error (.internalServerError "Cloudinary upload is not configured")
  else .ok ()

def stripSlashes (s : List Char) : List Char :=
  ((s.dropWhile (· = '/')).reverse.dropWhile (· = '/')).reverse

def buildFolder (E : UploadEnv) (folder : String) : String :=
  "/".intercalate
    ((([E.CLOUDINARY_FOLDER, folder].filter (· ≠ "")).map fun s =>
      String.ofList (stripSlashes s.toList)).filter (· ≠ ""))

/-- `filename.replace(/\.[^/.]+$/, '')`. -/
def dropExtension (cs : List Char) : List Char :=
  match cs.reverse.span fun c => c ≠ '/' && c ≠ '.' with
  | (_ :: _, '.' :: rest) => rest.reverse
  | _ => cs

def isSafe (c : Char) : Bool :=
  c.isAlphanum || c = '_' || c = '-'

/-- Runs of underscores become one underscore. -/
def squeeze : List Char → List Char
  | '_' :: '_' :: cs => squeeze ('_' :: cs)
  | c :: cs => c :: squeeze cs
  | [] => []

def safeFilename (filename : String) : List Char :=
  let replaced := squeeze ((dropExtension filename.toList).map fun c => if isSafe c then c else '_')
  (((replaced.dropWhile (· = '_')).reverse.dropWhile (· = '_')).reverse).take 120

def buildPublicId (now : Time) (filename : String) : String :=
  let safe := safeFilename filename
  toString now ++ "-" ++ if safe = [] then "image" else String.ofList safe

variable {ℓ : Type} [UploadCalls ℓ]

/-- The store behind the delivery URLs, after an upload. -/
def store (outcome : UploadOutcome) (w : World) : World :=
  { w with cdn := w.cdn ++ outcome.stored.toList }

/-- The public id: a random one, or one made of the time and the name of the file. -/
def publicIdOf (E : UploadEnv) (filename : String) (options : CloudinaryUploadOptions) :
    Process World ℓ AppError String :=
  if options.randomPublicId then
    Process.modify (UploadCalls.randomUUID : ℓ) (.error "")
      (fun w => { w with nextUUID := w.nextUUID + 1 }) fun w => E.randomUUID w.nextUUID
  else
    Process.query (UploadCalls.dateNow : ℓ) (.error "") fun w => buildPublicId w.now filename

def uploadImage (E : UploadEnv) (file : List UInt8) (folder filename : String)
    (options : CloudinaryUploadOptions := {}) : Process World ℓ AppError String := do
  match ensureConfigured E with
  | .error e => .raise e
  | .ok () =>
    let uploadFolder := buildFolder E folder
    let publicId ← publicIdOf E filename options
    let outcome := E.upload_stream options.webOptimise uploadFolder publicId file
    Process.atomic (UploadCalls.cdnUpload uploadFolder publicId outcome) (.error "") fun w =>
      (outcome.settled, store outcome w)

end CloudinaryService

namespace UploadService

def DEFAULT_MAX_FILES_PER_UPLOAD : ℕ := 5

def allowedImageTypes : List String :=
  ["image/jpeg", "image/jpg", "image/png", "image/webp", "image/heic", "image/heif"]

/-- The type announced by the bytes, else the header in lower case. -/
def resolveMimeType (file : UploadedFile) : String :=
  match ImageType.sniffImageType file.buffer with
  | some sniffed => sniffed.mime
  | none => ImageType.lower file.mimetype

variable {ℓ : Type} [UploadCalls ℓ]

/-- `CloudinaryService.uploadImage`, as the upload service sees it. -/
abbrev CloudinaryUpload (ℓ : Type) :=
  List UInt8 → (folder filename : String) → CloudinaryUploadOptions →
    Process World ℓ AppError String

omit [UploadCalls ℓ] in
/-- `uploadImage`, over what it hands a file that passes its checks to. -/
def uploadImageVia (upload : CloudinaryUpload ℓ) (E : UploadEnv) (file : UploadedFile)
    (folder : String) (options : CloudinaryUploadOptions) : Process World ℓ AppError String :=
  if file.size > E.maxFileSize then
    .raise (.badRequest ["File size exceeds maximum allowed size of " ++
      Js.decimal ((E.maxFileSize : ℚ) / (1024 * 1024)) ++ "MB"])
  else if !allowedImageTypes.contains (resolveMimeType file) then
    .raise (.badRequest ["Invalid file type. Allowed types: " ++
      ", ".intercalate allowedImageTypes])
  else upload file.buffer folder file.originalname options

def uploadImage (E : UploadEnv) (file : UploadedFile) (folder : String)
    (options : CloudinaryUploadOptions := {}) : Process World ℓ AppError String :=
  uploadImageVia (fun buffer folder filename options =>
    CloudinaryService.uploadImage E buffer folder filename options) E file folder options

/-- The uploads of a batch. They are started together, so each of them runs
whatever becomes of the others. -/
def settleAll (E : UploadEnv) (folder : String) (options : CloudinaryUploadOptions := {}) :
    List UploadedFile → Process World ℓ AppError (List (Except AppError String))
  | [] => return []
  | file :: files => do
    let url ← (Except.ok <$> uploadImage E file folder options).tryCatch fun e => .ret (.error e)
    let urls ← settleAll E folder options files
    return url :: urls

/-- `Promise.all`: all the urls, or an exception when some upload failed. -/
def collect (urls : List (Except AppError String)) : Process World ℓ AppError (List String) :=
  match urls.mapM id with
  | .ok urls => return urls
  | .error e => .raise e

def uploadImages (E : UploadEnv) (files : List UploadedFile) (folder : String)
    (maxFiles : ℕ) (options : CloudinaryUploadOptions := {}) :
    Process World ℓ AppError (List String) :=
  if files.isEmpty then return []
  else if files.length > maxFiles then
    .raise (.badRequest ["Maximum " ++ toString maxFiles ++ " images allowed per upload"])
  else settleAll E folder options files >>= collect

/-- The file passes every check, and the client says where the image is. -/
def AcceptsFile (E : UploadEnv) (now : Time) (folder : String) (file : UploadedFile) : Prop :=
  file.size ≤ E.maxFileSize ∧
    allowedImageTypes.contains (resolveMimeType file) = true ∧
    (CloudinaryService.ensureConfigured E).isOk = true ∧
    (E.upload_stream false (CloudinaryService.buildFolder E folder)
      (CloudinaryService.buildPublicId now file.originalname) file.buffer).settled.isOk = true

/-- The batch is small enough and each of its files is accepted. -/
def Accepts (E : UploadEnv) (now : Time) (folder : String) (files : List UploadedFile) : Prop :=
  files.length ≤ DEFAULT_MAX_FILES_PER_UPLOAD ∧ ∀ file ∈ files, AcceptsFile E now folder file

end UploadService

/-- One image: the delivery store aside nothing changes, and the upload succeeds
when the configuration is complete and the client succeeds. -/
theorem CloudinaryService.uploadImage_run {ℓ : Type} [UploadCalls ℓ] (E : UploadEnv)
    (file : List UInt8) (folder filename : String) (w : World) :
    ∃ url cdn, (uploadImage (ℓ := ℓ) E file folder filename).run w = (url, { w with cdn }) ∧
      (url.isOk = true ↔ (ensureConfigured E).isOk = true ∧
        (E.upload_stream false (buildFolder E folder)
          (buildPublicId w.now filename) file).settled.isOk = true) := by
  unfold uploadImage publicIdOf
  cases hconf : ensureConfigured E with
  | error e => exact ⟨.error e, w.cdn, rfl, by simp⟩
  | ok _ =>
      let outcome := E.upload_stream false (buildFolder E folder)
        (buildPublicId w.now filename) file
      refine ⟨outcome.settled, w.cdn ++ outcome.stored.toList, ?_, by simp [outcome]⟩
      simp [outcome, store]

namespace UploadService

variable {ℓ : Type} [UploadCalls ℓ]

theorem uploadImage_run (E : UploadEnv) (file : UploadedFile) (folder : String) (w : World) :
    ∃ url cdn, (uploadImage (ℓ := ℓ) E file folder).run w = (url, { w with cdn }) ∧
      (url.isOk = true ↔ AcceptsFile E w.now folder file) := by
  unfold uploadImage uploadImageVia AcceptsFile
  by_cases hsize : file.size > E.maxFileSize
  · rw [if_pos hsize]
    refine ⟨_, w.cdn, rfl, ?_⟩
    simp only [not_le.2 hsize, false_and]
    simp
  · rw [if_neg hsize]
    by_cases htype : allowedImageTypes.contains (resolveMimeType file) = true
    · obtain ⟨url, cdn, hrun, hok⟩ :=
        CloudinaryService.uploadImage_run (ℓ := ℓ) E file.buffer folder file.originalname w
      rw [if_neg (by simpa using htype)]
      refine ⟨url, cdn, hrun, ?_⟩
      rw [hok]
      simp only [htype, not_lt.1 hsize, true_and]
    · rw [if_pos (by simpa using htype)]
      refine ⟨_, w.cdn, rfl, ?_⟩
      simp only [htype]
      simp

/-- A batch: every upload runs, and they all succeed when every file is
accepted. -/
theorem settleAll_run (E : UploadEnv) (folder : String) (files : List UploadedFile) (w : World) :
    ∃ urls cdn, (settleAll (ℓ := ℓ) E folder {} files).run w = (.ok urls, { w with cdn }) ∧
      ((∀ url ∈ urls, url.isOk = true) ↔ ∀ file ∈ files, AcceptsFile E w.now folder file) := by
  induction files generalizing w with
  | nil => exact ⟨[], w.cdn, rfl, by simp⟩
  | cons file files ih =>
      obtain ⟨url, cdn, hurl, hok⟩ := uploadImage_run (ℓ := ℓ) E file folder w
      obtain ⟨urls, cdn', hurls, hoks⟩ := ih { w with cdn }
      refine ⟨url :: urls, cdn', ?_, ?_⟩
      · have htry : ((Except.ok <$> uploadImage (ℓ := ℓ) E file folder).tryCatch
            fun e => .ret (.error e)).run w = (.ok url, { w with cdn }) := by
          rw [Process.run_tryCatch, Process.run_map, hurl]
          cases url <;> rfl
        unfold settleAll
        rw [Process.run_bind_ok htry, Process.run_bind_ok hurls]
        rfl
      · rw [List.forall_mem_cons, List.forall_mem_cons, hok, hoks]

omit [UploadCalls ℓ] in
theorem length_of_mapM_eq_ok {ε α : Type*} {xs : List (Except ε α)} {ys : List α}
    (h : xs.mapM id = .ok ys) : ys.length = xs.length := by
  induction xs generalizing ys with
  | nil =>
      cases h
      rfl
  | cons x xs ih =>
      rw [List.mapM_cons] at h
      cases x with
      | error e => cases h
      | ok y =>
          cases hrest : xs.mapM id with
          | error e =>
              rw [hrest] at h
              cases h
          | ok ys' =>
              rw [hrest] at h
              cases h
              rw [List.length_cons, List.length_cons, ih hrest]

omit [UploadCalls ℓ] in
theorem collect_run (urls : List (Except AppError String)) (w : World) :
    ∃ all, (collect (ℓ := ℓ) urls).run w = (all, w) ∧
      (all.isOk = true ↔ ∀ url ∈ urls, url.isOk = true) := by
  have hall : (urls.mapM id).isOk = true ↔ ∀ url ∈ urls, url.isOk = true := by
    induction urls with
    | nil => simp [pure, Except.pure]
    | cons url urls ih =>
        rw [List.mapM_cons, List.forall_mem_cons, ← ih]
        cases url with
        | error e => simp [bind, Except.bind]
        | ok url =>
            cases urls.mapM id <;> simp [bind, Except.bind, pure, Except.pure]
  unfold collect
  cases h : urls.mapM id with
  | error e => exact ⟨.error e, rfl, by rw [← hall, h]⟩
  | ok urls => exact ⟨.ok urls, rfl, by rw [← hall, h]⟩

/-- The upload of a batch changes nothing but the delivery store, and it
succeeds when the batch is accepted. -/
theorem uploadImages_run (E : UploadEnv) (files : List UploadedFile) (folder : String)
    (w : World) :
    ∃ urls cdn, (uploadImages (ℓ := ℓ) E files folder DEFAULT_MAX_FILES_PER_UPLOAD).run w =
        (urls, { w with cdn }) ∧
      (urls.isOk = true ↔ Accepts E w.now folder files) := by
  unfold uploadImages Accepts
  cases files with
  | nil => exact ⟨.ok [], w.cdn, rfl, by simp⟩
  | cons file files =>
      by_cases hlen : (file :: files).length > DEFAULT_MAX_FILES_PER_UPLOAD
      · refine ⟨_, w.cdn, by simp only [List.isEmpty_cons, hlen]; rfl, ?_⟩
        simp only [not_le.2 hlen, false_and, iff_false]
        simp
      · obtain ⟨urls, cdn, hurls, hok⟩ := settleAll_run (ℓ := ℓ) E folder (file :: files) w
        obtain ⟨all, hall, hcollect⟩ := collect_run (ℓ := ℓ) urls { w with cdn }
        refine ⟨all, cdn, ?_, ?_⟩
        · rw [List.isEmpty_cons, if_neg Bool.false_ne_true, if_neg hlen,
            Process.run_bind_ok hurls, hall]
        · rw [hcollect, hok]
          simp only [not_lt.1 hlen, true_and]

section Confined

variable {P : ℓ → (World → World) → Prop}

/-- What an upload calls: the clock, the random source and the CDN. -/
structure AllowsUploads (P : ℓ → (World → World) → Prop) : Prop where
  dateNow : P UploadCalls.dateNow id
  randomUUID : P UploadCalls.randomUUID fun w => { w with nextUUID := w.nextUUID + 1 }
  cdnUpload : ∀ folder publicId outcome,
    P (UploadCalls.cdnUpload folder publicId outcome) (CloudinaryService.store outcome)

theorem AllowsUploads.uploadImage (h : AllowsUploads P) (E : UploadEnv) (file : UploadedFile)
    (folder : String) (options : CloudinaryUploadOptions) :
    (uploadImage E file folder options).Confined P fun _ => True := by
  unfold UploadService.uploadImage uploadImageVia CloudinaryService.uploadImage
  split
  · trivial
  split
  · trivial
  split
  · trivial
  unfold CloudinaryService.publicIdOf
  refine Process.Confined.bind ?_ fun publicId =>
    Process.confined_atomic (h.cdnUpload _ _ _) (fun _ _ _ => trivial) trivial
  split
  · exact Process.confined_modify h.randomUUID trivial
  · exact Process.confined_query h.dateNow trivial

theorem AllowsUploads.settled (h : AllowsUploads P) (E : UploadEnv) (file : UploadedFile)
    (folder : String) (options : CloudinaryUploadOptions) :
    ((Except.ok <$> UploadService.uploadImage E file folder options).tryCatch
      fun e => .ret (.error e)).Confined P fun _ => True :=
  (Process.Confined.map _ (h.uploadImage E file folder options)).tryCatch fun _ _ => trivial

theorem AllowsUploads.settleAll (h : AllowsUploads P) (E : UploadEnv) (folder : String)
    (options : CloudinaryUploadOptions) (files : List UploadedFile) :
    (settleAll E folder options files).Confined P fun _ => True := by
  induction files with
  | nil => trivial
  | cons file files ih =>
      exact Process.Confined.bind (h.settled E file folder options)
        fun url => Process.Confined.bind ih fun urls => trivial

theorem AllowsUploads.uploadImages (h : AllowsUploads P) (E : UploadEnv)
    (files : List UploadedFile) (folder : String) (maxFiles : ℕ)
    (options : CloudinaryUploadOptions) :
    (uploadImages E files folder maxFiles options).Confined P fun _ => True := by
  unfold UploadService.uploadImages
  split
  · trivial
  split
  · trivial
  refine Process.Confined.bind (h.settleAll E folder options files) fun urls => ?_
  unfold collect
  split <;> trivial

end Confined

end UploadService

end FifiAlert
