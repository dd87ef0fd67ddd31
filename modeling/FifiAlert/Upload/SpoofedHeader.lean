import FifiAlert.Upload.UploadService

/-!
# What the content-type header lets through

The bytes of a file are looked at first, and the header decides when they are not those of a known
image. So a file that is no image is kept from Cloudinary by its size or by an honest header, and by
nothing else.
-/

namespace FifiAlert

open Concurrency

namespace UploadService

variable {ℓ : Type}

/-- The service throws, whatever Cloudinary would do: it does not hand the file over. -/
def KeepsBack (ℓ : Type) (E : UploadEnv) (file : UploadedFile) (folder : String)
    (options : CloudinaryUploadOptions) : Prop :=
  ∃ e, ∀ upload : CloudinaryUpload ℓ, uploadImageVia upload E file folder options = .raise e

/-- A file whose bytes are not those of a known image is kept back. -/
def ShieldsCdn (ℓ : Type) (E : UploadEnv) (file : UploadedFile) (folder : String)
    (options : CloudinaryUploadOptions) : Prop :=
  ImageType.sniffImageType file.buffer = none → KeepsBack ℓ E file folder options

/-- The header, in lower case, names a type that is let through. -/
def claimsImage (file : UploadedFile) : Bool :=
  allowedImageTypes.contains (ImageType.lower file.mimetype)

variable {E : UploadEnv} {file : UploadedFile} {folder : String}
  {options : CloudinaryUploadOptions}

/-- A file is kept back if and only if it fails one of the two checks. -/
theorem keepsBack_iff :
    KeepsBack ℓ E file folder options ↔
      E.maxFileSize < file.size ∨ allowedImageTypes.contains (resolveMimeType file) = false := by
  constructor
  · rintro ⟨e, hraise⟩
    by_contra hpasses
    obtain ⟨hsize, htype⟩ := not_or.1 hpasses
    have hhanded : uploadImageVia (ℓ := ℓ) (fun _ _ _ _ => .ret "") E file folder options =
        .ret "" := by
      rw [uploadImageVia, if_neg hsize, Bool.eq_true_of_not_eq_false htype]
      rfl
    cases hhanded.symm.trans (hraise _)
  · rintro (hsize | htype)
    · exact ⟨_, fun upload => if_pos hsize⟩
    · by_cases hsize : file.size > E.maxFileSize
      · exact ⟨_, fun upload => if_pos hsize⟩
      · have htype' : (!allowedImageTypes.contains (resolveMimeType file)) = true := by
          rw [htype, Bool.not_false]
        exact ⟨_, fun upload => (if_neg hsize).trans (if_pos htype')⟩

/-- The CDN is shielded from a file if and only if its bytes are those of an image, or it is too
large, or its header does not claim an image. -/
theorem shieldsCdn_iff (ℓ : Type) (E : UploadEnv) (file : UploadedFile) (folder : String)
    (options : CloudinaryUploadOptions) :
    ShieldsCdn ℓ E file folder options ↔
      (ImageType.sniffImageType file.buffer).isSome = true ∨ E.maxFileSize < file.size ∨
        claimsImage file = false := by
  unfold ShieldsCdn
  rw [keepsBack_iff]
  cases hsniffed : ImageType.sniffImageType file.buffer with
  | some sniffed => simp
  | none => simp [resolveMimeType, hsniffed, claimsImage]

/-- A script under the header of an image. -/
def spoofedFile : UploadedFile where
  buffer := "<script>alert(1)</script>".toList.map fun c => UInt8.ofNat c.toNat
  size := 25
  mimetype := "image/png"
  originalname := "rex.png"

/-- The script is handed to Cloudinary. -/
theorem not_shieldsCdn :
    ¬ ShieldsCdn Unit { upload_stream := fun _ _ publicId _ => .delivered publicId } spoofedFile
      "alerts" {} := by
  intro hshields
  have hkept := keepsBack_iff.1 (hshields (by decide +kernel))
  revert hkept
  decide +kernel

end UploadService

end FifiAlert
