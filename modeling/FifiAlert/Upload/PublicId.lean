import FifiAlert.Js.Ident
import FifiAlert.Upload.UploadService

/-!
# From a delivery URL back to the public id

An image is deleted by the URL it is delivered under: what follows `/upload/`, without the query,
the version and the extension, is the public id in its folder. Reading a URL back is right as long
as the folder has no question mark, which would be taken for the start of the query.
-/

namespace FifiAlert

open Concurrency

namespace CloudinaryService

/-- What follows the first occurrence of a part that is not empty. -/
def afterFirst (part : List Char) : List Char → Option (List Char)
  | [] => none
  | c :: cs =>
    if part.isPrefixOf (c :: cs) then some ((c :: cs).drop part.length) else afterFirst part cs

/-- `path.replace(/^v\d+\//, '')`. -/
def dropVersion (path : List Char) : List Char :=
  match path with
  | 'v' :: rest =>
    match rest.takeWhile Js.isDigit, rest.dropWhile Js.isDigit with
    | _ :: _, '/' :: tail => tail
    | _, _ => path
  | _ => path

def uploadMarker : List Char := "/upload/".toList

def extractPublicId (url : String) : Option String :=
  (afterFirst uploadMarker url.toList).map fun pathAfterUpload =>
    let pathWithoutQuery := pathAfterUpload.takeWhile fun c => c ≠ '?'
    String.ofList (dropExtension (dropVersion pathWithoutQuery))

/-- A version 4 UUID as `randomUUID` writes it. -/
def isUuid (s : String) : Bool :=
  s.toList.length = 36 && s.toList.zipIdx.all fun (c, i) =>
    if [8, 13, 18, 23].contains i then c = '-' else c.isDigit || ('a' ≤ c && c ≤ 'f')

/-- A public id that an upload with these options may be stored under. -/
inductive MadePublicId (filename : String) (options : CloudinaryUploadOptions) :
    String → Prop where
  | random {uuid : String} (hoption : options.randomPublicId = true) (huuid : isUuid uuid = true) :
      MadePublicId filename options uuid
  | named (now : Time) (hoption : options.randomPublicId = false) :
      MadePublicId filename options (buildPublicId now filename)

/-- The folder and the public id of an asset. -/
def assetPath (folder publicId : String) : String :=
  if folder = "" then publicId else folder ++ "/" ++ publicId

/-- How the CDN builds the delivery URL of an asset, but for the path: the name of the cloud is one
segment and not the word `upload`. -/
structure Delivery where
  cloud : List Char
  version : List Char
  ext : List Char
  query : Option (List Char) := none
  cloud_segment : '/' ∉ cloud
  cloud_ne : cloud ≠ ['u', 'p', 'l', 'o', 'a', 'd']
  version_ne : version ≠ []
  version_digits : ∀ c ∈ version, c.isDigit = true
  ext_ne : ext ≠ []
  ext_plain : ∀ c ∈ ext, c ≠ '/' ∧ c ≠ '.' ∧ c ≠ '?'

def Delivery.url (D : Delivery) (path : String) : String :=
  String.ofList ("https://res.cloudinary.com".toList ++ '/' :: (D.cloud ++ "/image".toList ++
    (uploadMarker ++ ('v' :: D.version ++ '/' :: (path.toList ++ '.' :: D.ext ++
      D.query.elim [] fun query => '?' :: query)))))

section Reading

variable {part cs rest : List Char}

/-- Characters that the part does not start with are skipped. -/
theorem afterFirst_append {c : Char} {part : List Char} (h : c ∉ cs) :
    afterFirst (c :: part) (cs ++ rest) = afterFirst (c :: part) rest := by
  induction cs with
  | nil => rfl
  | cons d cs ih =>
      have hd : c ≠ d := fun hcd => h (hcd ▸ List.mem_cons_self ..)
      have hprefix : ((c :: part).isPrefixOf (d :: (cs ++ rest))) = false := by
        simp [List.isPrefixOf, hd]
      rw [List.cons_append, afterFirst, hprefix, if_neg Bool.false_ne_true]
      exact ih fun hmem => h (List.mem_cons_of_mem d hmem)

theorem uploadMarker_eq : uploadMarker = ['/', 'u', 'p', 'l', 'o', 'a', 'd', '/'] := by
  decide

/-- A segment that is not the word of the marker does not start one. -/
theorem isPrefixOf_uploadMarker {cloud : List Char} (hsegment : '/' ∉ cloud)
    (hne : cloud ≠ ['u', 'p', 'l', 'o', 'a', 'd']) (rest : List Char) :
    uploadMarker.isPrefixOf ('/' :: (cloud ++ '/' :: rest)) = false := by
  rw [uploadMarker_eq]
  by_contra hprefix
  obtain ⟨tail, htail⟩ := List.isPrefixOf_iff_prefix.1 (Bool.eq_true_of_not_eq_false hprefix)
  have hcloud : ∀ c ∈ cloud, decide (c ≠ '/') = true := fun c hc =>
    decide_eq_true fun h => hsegment (h ▸ hc)
  have htaken := congrArg (List.takeWhile fun c => c ≠ '/') (List.cons.inj htail).2
  rw [List.takeWhile_append_of_pos hcloud, List.takeWhile_cons_of_neg (by simp),
    List.append_nil] at htaken
  exact hne htaken.symm

/-- The first occurrence of the marker is the one after the name of the cloud. -/
theorem afterFirst_url (D : Delivery) (rest : List Char) :
    afterFirst uploadMarker ("https://res.cloudinary.com".toList ++ '/' :: (D.cloud ++
      "/image".toList ++ (uploadMarker ++ rest))) = some rest := by
  have hhost : ∀ cs, afterFirst uploadMarker ("https://res.cloudinary.com".toList ++ '/' :: cs) =
      afterFirst uploadMarker ('/' :: cs) := fun _ => rfl
  have himage : afterFirst uploadMarker ("/image".toList ++ (uploadMarker ++ rest)) =
      some rest := rfl
  have hslash : "/image".toList ++ (uploadMarker ++ rest) =
      '/' :: ("image".toList ++ (uploadMarker ++ rest)) := rfl
  have hskip : ∀ cs, afterFirst uploadMarker (D.cloud ++ cs) = afterFirst uploadMarker cs := by
    rw [uploadMarker_eq]
    exact fun _ => afterFirst_append D.cloud_segment
  rw [hhost, List.append_assoc, afterFirst, hskip, himage, hslash,
    isPrefixOf_uploadMarker D.cloud_segment D.cloud_ne, if_neg Bool.false_ne_true]

theorem dropVersion_append (hne : cs ≠ []) (hdigits : ∀ c ∈ cs, c.isDigit = true) :
    dropVersion ('v' :: (cs ++ '/' :: rest)) = rest := by
  have hall : ∀ c ∈ cs, Js.isDigit c = true := fun c hc => Js.isDigit_of_isDigit (hdigits c hc)
  have hslash : Js.isDigit '/' = false := by decide
  rw [dropVersion, List.takeWhile_append_of_pos hall, List.dropWhile_append_of_pos hall,
    List.takeWhile_cons_of_neg (by simp [hslash]), List.dropWhile_cons_of_neg (by simp [hslash]),
    List.append_nil]
  cases cs with
  | nil => exact absurd rfl hne
  | cons c cs => rfl

theorem dropExtension_append {ext : List Char} (hne : ext ≠ [])
    (hplain : ∀ c ∈ ext, c ≠ '/' ∧ c ≠ '.') : dropExtension (cs ++ '.' :: ext) = cs := by
  have hall : ∀ c ∈ ext.reverse, (c ≠ '/' && c ≠ '.') = true := fun c hc => by
    simpa using hplain c (List.mem_reverse.1 hc)
  have hreverse : (cs ++ '.' :: ext).reverse = ext.reverse ++ '.' :: cs.reverse := by simp
  rw [dropExtension, hreverse, List.span_eq_takeWhile_dropWhile,
    List.takeWhile_append_of_pos hall, List.dropWhile_append_of_pos hall]
  cases hext : ext.reverse with
  | nil => exact absurd (List.reverse_eq_nil_iff.1 hext) hne
  | cons c rest => simp

theorem not_mem_of_isUuid {s : String} (h : isUuid s = true) : '?' ∉ s.toList := by
  intro hmem
  rw [isUuid, Bool.and_eq_true, List.all_eq_true] at h
  obtain ⟨i, hi, hget⟩ := List.getElem_of_mem hmem
  have hchar := h.2 ('?', i) (List.mem_zipIdx_iff_getElem?.2 (by simp [hi, hget]))
  revert hchar
  dsimp only
  split <;> decide

theorem mem_of_mem_squeeze {c : Char} : ∀ {cs : List Char}, c ∈ squeeze cs → c ∈ cs := by
  intro cs
  induction cs using squeeze.induct with
  | case1 cs ih => exact fun h => List.mem_cons_of_mem _ (ih (by rwa [squeeze] at h))
  | case2 d cs hne ih =>
      intro h
      rw [squeeze.eq_2 _ _ hne] at h
      exact (List.mem_cons.1 h).elim (fun heq => heq ▸ List.mem_cons_self ..) fun h =>
        List.mem_cons_of_mem _ (ih h)
  | case3 => exact fun h => h

/-- A file name is made of letters, digits, underscores and hyphens. -/
theorem isSafe_of_mem_safeFilename {filename : String} {c : Char}
    (h : c ∈ safeFilename filename) : isSafe c = true := by
  have hright := (List.dropWhile_sublist _).subset (List.mem_reverse.1 (List.mem_of_mem_take h))
  have hleft := (List.dropWhile_sublist _).subset (List.mem_reverse.1 hright)
  obtain ⟨d, -, rfl⟩ := List.mem_map.1 (mem_of_mem_squeeze hleft)
  split
  · assumption
  · decide

theorem not_mem_toString (now : Time) : '?' ∉ (toString now).toList := by
  have hdigits : ∀ n : ℕ, '?' ∉ (toString n).toList := fun n hmem => by
    rw [Js.toList_toString] at hmem
    exact absurd (Js.isDigit_toDigits _ hmem) (by decide)
  cases now with
  | ofNat n => exact hdigits n
  | negSucc n =>
      have htext : (toString (Int.negSucc n)).toList = '-' :: (toString (n + 1)).toList := by
        simp [toString, Int.repr]
      rw [htext]
      exact fun hmem => (List.mem_cons.1 hmem).elim (by decide) (hdigits (n + 1))

theorem not_mem_buildPublicId (now : Time) (filename : String) :
    '?' ∉ (buildPublicId now filename).toList := by
  have hsafe : '?' ∉ safeFilename filename := fun hmem =>
    absurd (isSafe_of_mem_safeFilename hmem) (by decide)
  rw [buildPublicId, String.toList_append, String.toList_append, List.mem_append, List.mem_append]
  rintro ((hmem | hmem) | hmem)
  · exact not_mem_toString now hmem
  · exact absurd hmem (by decide)
  · split at hmem
    · exact absurd hmem (by decide)
    · exact hsafe (by simpa using hmem)

theorem MadePublicId.not_mem {filename publicId : String} {options : CloudinaryUploadOptions}
    (h : MadePublicId filename options publicId) : '?' ∉ publicId.toList := by
  cases h with
  | random _ huuid => exact not_mem_of_isUuid huuid
  | named now _ => exact not_mem_buildPublicId now filename

theorem not_mem_assetPath {folder publicId : String} (hfolder : '?' ∉ folder.toList)
    (hid : '?' ∉ publicId.toList) : '?' ∉ (assetPath folder publicId).toList := by
  unfold assetPath
  split
  · exact hid
  · simp [hfolder, hid]

/-- What the CDN puts after the marker. -/
def Delivery.tail (D : Delivery) (path : List Char) : List Char :=
  'v' :: (D.version ++ '/' :: (path ++ '.' :: D.ext))

theorem takeWhile_tail (D : Delivery) {path : List Char} (hpath : '?' ∉ path) :
    (D.tail path ++ D.query.elim [] fun query => '?' :: query).takeWhile (fun c => c ≠ '?') =
      D.tail path := by
  have hversion : '?' ∉ D.version := fun h => absurd (D.version_digits _ h) (by decide)
  have hext : '?' ∉ D.ext := fun h => (D.ext_plain _ h).2.2 rfl
  have hall : ∀ c ∈ D.tail path, decide (c ≠ '?') = true := by
    intro c hc
    refine decide_eq_true fun hq => ?_
    subst hq
    simp [Delivery.tail, hversion, hpath, hext] at hc
  rw [List.takeWhile_append_of_pos hall]
  cases D.query <;> simp

theorem dropExtension_dropVersion_tail (D : Delivery) (path : List Char) :
    dropExtension (dropVersion (D.tail path)) = path := by
  rw [Delivery.tail, dropVersion_append D.version_ne D.version_digits]
  exact dropExtension_append D.ext_ne fun c hc =>
    ⟨(D.ext_plain c hc).1, (D.ext_plain c hc).2.1⟩

theorem afterFirst_toList_url (D : Delivery) (path : String) :
    afterFirst uploadMarker (D.url path).toList =
      some (D.tail path.toList ++ D.query.elim [] fun query => '?' :: query) := by
  have htail : 'v' :: D.version ++ '/' :: (path.toList ++ '.' :: D.ext ++
      D.query.elim [] fun query => '?' :: query) =
        D.tail path.toList ++ D.query.elim [] fun query => '?' :: query := by
    simp [Delivery.tail]
  unfold Delivery.url
  rw [String.toList_ofList, htail]
  exact afterFirst_url D _

/-- A path without a question mark is read back from its delivery URL. -/
theorem extractPublicId_url (D : Delivery) {path : String} (hpath : '?' ∉ path.toList) :
    extractPublicId (D.url path) = some path := by
  unfold extractPublicId
  simp only [afterFirst_toList_url, Option.map_some, takeWhile_tail D hpath,
    dropExtension_dropVersion_tail, String.ofList_toList]

end Reading

variable {ℓ : Type} [UploadCalls ℓ]

/-- The public id that an upload is stored under. -/
theorem madePublicId_publicIdOf {E : UploadEnv} (huuid : ∀ n, isUuid (E.randomUUID n) = true)
    {filename publicId : String} {options : CloudinaryUploadOptions} {w w' : World}
    (h : (publicIdOf (ℓ := ℓ) E filename options).run w = (.ok publicId, w')) :
    MadePublicId filename options publicId := by
  unfold publicIdOf at h
  split at h
  · rename_i hoption
    obtain rfl := Except.ok.inj (congrArg Prod.fst h)
    exact .random hoption (huuid _)
  · rename_i hoption
    obtain rfl := Except.ok.inj (congrArg Prod.fst h)
    exact .named w.now (Bool.eq_false_iff.2 hoption)

/-- Deleting by URL finds what was uploaded, in every folder without a question mark. -/
theorem extractPublicId_uploaded (E : UploadEnv) (folder filename publicId : String)
    (options : CloudinaryUploadOptions) (D : Delivery)
    (hid : MadePublicId filename options publicId)
    (hfolder : '?' ∉ (buildFolder E folder).toList) :
    extractPublicId (D.url (assetPath (buildFolder E folder) publicId)) =
      some (assetPath (buildFolder E folder) publicId) :=
  extractPublicId_url D (not_mem_assetPath hfolder hid.not_mem)

/-- A delivery from the cloud `demo`. -/
def demoDelivery : Delivery where
  cloud := ['d', 'e', 'm', 'o']
  version := ['1', '7']
  ext := ['j', 'p', 'g']
  query := some ['_', 'a', '=', '1']
  cloud_segment := by decide
  cloud_ne := by decide
  version_ne := by decide
  version_digits := List.forall_iff_forall_mem.1 (by decide)
  ext_ne := by decide
  ext_plain := List.forall_iff_forall_mem.1 (by decide)

/-- The uploads of a service go under a base folder. -/
def baseFolderEnv (baseFolder : String) : UploadEnv where
  CLOUDINARY_FOLDER := baseFolder
  upload_stream := fun _ _ publicId _ => .delivered publicId

theorem extractPublicId_uploaded_demo :
    extractPublicId (demoDelivery.url
      (assetPath (buildFolder (baseFolderEnv "fifi") "alerts") (buildPublicId 17 "rex.v2.jpg"))) =
        some (assetPath (buildFolder (baseFolderEnv "fifi") "alerts")
          (buildPublicId 17 "rex.v2.jpg")) :=
  extractPublicId_uploaded (baseFolderEnv "fifi") "alerts" "rex.v2.jpg" _ {} demoDelivery
    (.named 17 rfl) (by decide +kernel)

/-- A question mark in the base folder cuts the path. -/
theorem not_extractPublicId_uploaded :
    ¬ ∀ (E : UploadEnv) (folder filename publicId : String) (options : CloudinaryUploadOptions)
      (D : Delivery), MadePublicId filename options publicId →
        extractPublicId (D.url (assetPath (buildFolder E folder) publicId)) =
          some (assetPath (buildFolder E folder) publicId) := by
  intro hall
  have hread := hall (baseFolderEnv "a?b") "alerts" "rex.jpg" _ {} demoDelivery (.named 17 rfl)
  revert hread
  decide +kernel

end CloudinaryService

end FifiAlert
