import FifiAlert.Alert.Ownership
import FifiAlert.Concurrency.Cells
import FifiAlert.Sighting.SightingPhotos

/-!
# Uploads to one sighting

An upload counts the photos of the sighting when it is authorised, reads them when its files are
uploaded, and then writes them with its own behind. As long as each upload writes over the list
that it read, and there is still room when others have written since it was authorised, no photo
of a sighting is lost and no sighting has too many.
-/

namespace FifiAlert

open Concurrency Store SightingPhotoCall

/-- A request that uploads photos to a sighting, by one of the two routes. -/
inductive PhotoUpload where
  | uploadPhotos (id userId : ℕ) (files : List UploadedFile)
  | uploadPhoto (id userId : ℕ) (file : Option UploadedFile)

namespace PhotoUpload

def sightingId : PhotoUpload → ℕ
  | uploadPhotos id _ _ => id
  | uploadPhoto id _ _ => id

/-- How many photos are uploaded. -/
def count : PhotoUpload → ℕ
  | uploadPhotos _ _ files => files.length
  | uploadPhoto _ _ _ => 1

/-- The request, with the urls that it returns. -/
def process (E : SightingPhotoEnv) (U : UploadEnv) :
    PhotoUpload → SightingPhotoProcess (List String)
  | uploadPhotos id userId files => SightingController.uploadPhotos E U id userId files
  | uploadPhoto id userId file => do
      let photoUrl ← SightingController.uploadPhoto E U id userId file
      return [photoUrl]

end PhotoUpload

def World.sightingPhotos (w : World) (id : ℕ) : Option (List String) :=
  (w.sightings.find? id).map Sighting.photos

/-- The sighting is there, and its photos satisfy a condition. -/
def World.PhotosSatisfy (w : World) (id : ℕ) (P : List String → Prop) : Prop :=
  ∃ photos, w.sightingPhotos id = some photos ∧ P photos

/-- The photos of a sighting: not too many, and the first one is the single photo of old. -/
structure Sighting.PhotosInOrder (maxPhotos : ℕ) (row : Sighting) : Prop where
  limit : row.photos.length ≤ maxPhotos
  first : row.photos ≠ [] → row.photo_url = row.photos.head?

/-- The photos are those that `create` inserted. -/
def Sighting.PhotosAsCreated (row : Sighting) : Prop :=
  ∃ (dto : CreateSightingDto) (reporterId id : ℕ) (sighting_time now : Time),
    row.photos = (dto.toRow reporterId sighting_time now id).photos ∧
      row.photo_url = (dto.toRow reporterId sighting_time now id).photo_url

theorem Sighting.PhotosAsCreated.inOrder {row : Sighting} {maxPhotos : ℕ}
    (h : row.PhotosAsCreated) (hmax : 0 < maxPhotos) : row.PhotosInOrder maxPhotos := by
  obtain ⟨dto, reporterId, id, sighting_time, now, hphotos, hurl⟩ := h
  cases hphoto : Js.truthy dto.photo with
  | none => constructor <;> simp [hphotos, CreateSightingDto.toRow, hphoto]
  | some photo =>
      constructor
      · simpa [hphotos, CreateSightingDto.toRow, hphoto] using Nat.succ_le_of_lt hmax
      · simp [hphotos, hurl, CreateSightingDto.toRow, hphoto]

/-- What a thread reads of a sighting: how many photos there are, and which. -/
inductive PhotoCell where
  | count (id : ℕ)
  | list (id : ℕ)
  deriving DecidableEq

abbrev UploadSnapshot (ι : Type*) := Snapshot World (CellMark ι PhotoCell)

def uploadMark {ι : Type*} (i : ι) (l : SightingPhotoCall) (_ : World) :
    Option (CellMark ι PhotoCell) :=
  match l with
  | sightingFindUpload id => some (.read i [.count id])
  | sightingFindPhotos id => some (.read i [.list id])
  | sightingUpdate id _ _ => some (.wrote i [.count id, .list id])
  | _ => none

/-- The sighting whose photos a call writes. -/
def SightingPhotoCall.updates : SightingPhotoCall → Option ℕ
  | sightingUpdate id _ _ => some id
  | _ => none

section Effect

variable {ι : Type*} {i : ι} {l : SightingPhotoCall} {w : World} {id : ℕ}

theorem thread_uploadMark {m : CellMark ι PhotoCell} (h : uploadMark i l w = some m) :
    m.thread = i := by
  cases l with
  | sightingFindUpload id | sightingFindPhotos id | sightingUpdate id photos photo_url =>
      cases h
      rfl
  | _ => cases h

theorem find?_sightingUpdate (w : World) (id id' : ℕ) (photos : List String)
    (photo_url : Option String) :
    ((sightingUpdate id photos photo_url).effect w).sightings.find? id' =
      (w.sightings.find? id').map fun row =>
        if row.id = id then { row with photos, photo_url, updated_at := w.now } else row := by
  simp [effect, onSightings, Table.find?_updateMany]

/-- The other calls leave the sightings alone. -/
theorem sightings_effect (h : l.updates = none) (w : World) :
    (l.effect w).sightings = w.sightings := by
  cases l with
  | sightingUpdate id photos photo_url => cases h
  | _ => rfl

theorem sightingPhotos_sightingUpdate (w : World) (id : ℕ) (photos : List String)
    (photo_url : Option String) :
    ((sightingUpdate id photos photo_url).effect w).sightingPhotos id =
      (w.sightings.find? id).map fun _ => photos := by
  rw [World.sightingPhotos, find?_sightingUpdate, Option.map_map]
  refine Option.map_congr fun row hrow => ?_
  rw [Function.comp_apply, if_pos (Table.key_of_find? hrow)]

theorem sightingPhotos_kept (h : l.updates ≠ some id) (w : World) :
    (l.effect w).sightingPhotos id = w.sightingPhotos id := by
  cases hl : l.updates with
  | none => rw [World.sightingPhotos, sightings_effect hl, World.sightingPhotos]
  | some id' =>
      cases l with
      | sightingUpdate id' photos photo_url =>
          rw [World.sightingPhotos, find?_sightingUpdate, Option.map_map, World.sightingPhotos]
          refine Option.map_congr fun row hrow => ?_
          have hne : row.id ≠ id' := by
            rintro rfl
            exact h (congrArg some (Table.key_of_find? hrow))
          rw [Function.comp_apply, if_neg hne]
      | _ => cases hl

end Effect

section Protocol

variable {ι : Type*} [DecidableEq ι]

/-- An upload writes over the photos that it read, and there is room for its own: nobody has
written since it was authorised, or they still fit. -/
def AppendsInTime (E : SightingPhotoEnv) (req : ι → PhotoUpload) (i : ι) (l : SightingPhotoCall)
    (s : UploadSnapshot ι) : Prop :=
  match l with
  | sightingUpdate id _ _ => Unwritten i (.list id) s.marks ∧
      (Unwritten i (.count id) s.marks ∨
        ((s.state.sightingPhotos id).getD []).length + (req i).count ≤ getMaxSightingPhotos E)
  | _ => True

instance (E : SightingPhotoEnv) (req : ι → PhotoUpload) (i : ι) (l : SightingPhotoCall)
    (s : UploadSnapshot ι) : Decidable (AppendsInTime E req i l s) := by
  unfold AppendsInTime
  cases l <;> infer_instance

/-- The surroundings: everything else may change, and sightings may be created, but the photos of
the sightings there are stay. -/
structure SightingPhotosKept (w w' : World) : Prop where
  kept : ∀ id row, w.sightings.find? id = some row → ∃ row', w'.sightings.find? id = some row' ∧
    row'.photos = row.photos ∧ row'.photo_url = row.photo_url
  created : ∀ id row', w.sightings.find? id = none → w'.sightings.find? id = some row' →
    row'.PhotosAsCreated

def uploadSetting {ι : Type*} (fails : SightingPhotoCall → Prop)
    (admits : ι → SightingPhotoCall → UploadSnapshot ι → Prop) :
    Setting ι World SightingPhotoCall (CellMark ι PhotoCell) where
  mark := uploadMark
  env := SightingPhotosKept
  mayFail := fails
  admits := admits

/-- A request writes its photos behind those that it has read, when there was room for them. -/
def AppendsPhotos (E : SightingPhotoEnv) (req : ι → PhotoUpload) (i : ι) (l : SightingPhotoCall)
    (s : UploadSnapshot ι) : Prop :=
  match l with
  | sightingUpdate id photos photo_url =>
      photo_url = photos.head? ∧
      ReadAs i (.count id) (fun w => w.PhotosSatisfy id fun photos =>
        photos.length + (req i).count ≤ getMaxSightingPhotos E) s ∧
      ∃ known new, photos = known ++ new ∧ new.length = (req i).count ∧
        ReadAs i (.list id) (fun w => w.PhotosSatisfy id (· = known)) s
  | _ => True

/-- All photos are in order. -/
def AllInOrder (E : SightingPhotoEnv) (s : UploadSnapshot ι) : Prop :=
  ∀ id row, s.state.sightings.find? id = some row → row.PhotosInOrder (getMaxSightingPhotos E)

variable {E : SightingPhotoEnv} {req : ι → PhotoUpload} {i : ι} {l : SightingPhotoCall}
  {s : UploadSnapshot ι} {id : ℕ}

/-- What an update in time writes: one list behind the other, and they fit. -/
theorem AppendsPhotos.fits {photos : List String} {photo_url : Option String}
    (hper : AppendsPhotos E req i (sightingUpdate id photos photo_url) s)
    (hadm : AppendsInTime E req i (sightingUpdate id photos photo_url) s) :
    ∃ known new, s.state.sightingPhotos id = some known ∧ photos = known ++ new ∧
      photos.length ≤ getMaxSightingPhotos E := by
  obtain ⟨-, hroom, known, new, rfl, hcount, hread⟩ := hper
  obtain ⟨hlist, hfits⟩ := hadm
  obtain ⟨_, hknown, rfl⟩ := hread hlist
  refine ⟨_, new, hknown, rfl, ?_⟩
  rw [List.length_append, hcount]
  rcases hfits with hunwritten | hfits
  · obtain ⟨photos, hphotos, hroom⟩ := hroom hunwritten
    obtain rfl := Option.some.inj (hknown.symm.trans hphotos)
    exact hroom
  · rwa [hknown, Option.getD_some] at hfits

theorem AllInOrder.call (hinv : AllInOrder E s) (hper : AppendsPhotos E req i l s)
    (hadm : AppendsInTime E req i l s) : AllInOrder E (s.after uploadMark i l l.effect) := by
  intro id' row' hrow'
  cases l with
  | sightingUpdate id photos photo_url =>
      rw [Snapshot.state_after, find?_sightingUpdate, Option.map_eq_some_iff] at hrow'
      obtain ⟨row, hrow, rfl⟩ := hrow'
      split
      next heq =>
        obtain ⟨known, new, -, rfl, hle⟩ := hper.fits hadm
        exact ⟨hle, fun _ => hper.1⟩
      next => exact hinv id' row hrow
  | _ =>
      rw [Snapshot.state_after, sightings_effect rfl] at hrow'
      exact hinv id' row' hrow'

omit [DecidableEq ι] in
theorem AllInOrder.env {w w' : World} {marks : List (CellMark ι PhotoCell)}
    (henv : SightingPhotosKept w w') (hinv : AllInOrder E ⟨w, marks⟩) :
    AllInOrder E ⟨w', marks⟩ := by
  intro id row' hrow'
  cases hrow : w.sightings.find? id with
  | none => exact (henv.created id row' hrow hrow').inOrder (getMaxSightingPhotos_pos E)
  | some row =>
      obtain ⟨row'', hrow'', hphotos, hurl⟩ := henv.kept id row hrow
      obtain rfl := Option.some.inj (hrow'.symm.trans hrow'')
      obtain ⟨hlimit, hfirst⟩ := hinv id row hrow
      exact ⟨hphotos ▸ hlimit, by rwa [hphotos, hurl]⟩

/-- The protocol of the photos. -/
def uploadProtocol (E : SightingPhotoEnv) (req : ι → PhotoUpload)
    (fails : SightingPhotoCall → Prop) :
    Protocol (uploadSetting (ι := ι) fails (AppendsInTime E req)) where
  effect := SightingPhotoCall.effect
  permits := AppendsPhotos E req
  inv := AllInOrder E
  inv_call := fun hinv hper hadm => hinv.call hper hadm
  inv_env := fun henv hinv => hinv.env henv

variable {fails : SightingPhotoCall → Prop}

omit [DecidableEq ι] in
theorem uploadMark_wrote (j : ι) (w : World) (h : l.updates = some id) :
    uploadMark j l w = some (.wrote j [.count id, .list id]) := by
  cases l with
  | sightingUpdate id' photos photo_url =>
      cases h
      rfl
  | _ => cases h

theorem PhotosSatisfy.env {w w' : World} {P : List String → Prop} (henv : SightingPhotosKept w w')
    (h : w.PhotosSatisfy id P) : w'.PhotosSatisfy id P := by
  obtain ⟨photos, hphotos, hP⟩ := h
  obtain ⟨row, hrow, rfl⟩ := Option.map_eq_some_iff.1 hphotos
  obtain ⟨row', hrow', hkept, -⟩ := henv.kept id row hrow
  refine ⟨row.photos, ?_, hP⟩
  rw [World.sightingPhotos, hrow', Option.map_some, hkept]

/-- What a thread has read of the photos of a sighting lasts. -/
theorem lasting_readSighting (id : ℕ) {cell : PhotoCell}
    (hcell : cell = .count id ∨ cell = .list id) (P : List String → Prop) :
    (uploadProtocol (ι := ι) E req fails).Lasting i (CellMark.isRead i cell)
      (ReadAs i cell fun w => w.PhotosSatisfy id P) := by
  refine .readAs (fun j l w m hm => thread_uploadMark (w := w) hm) (fun j l s _ _ hquiet hP => ?_)
    fun w w' henv hP => PhotosSatisfy.env henv hP
  have hne : l.updates ≠ some id := by
    intro hupdates
    have hfalse := hquiet _ (uploadMark_wrote j s.state hupdates)
    rcases hcell with rfl | rfl <;> simp [CellMark.isWrite] at hfalse
  obtain ⟨photos, hphotos, hP⟩ := hP
  exact ⟨photos, (sightingPhotos_kept hne s.state).trans hphotos, hP⟩

/-- The urls that a sighting has stay there. -/
theorem lasting_urls (id : ℕ) (urls : List String) :
    (uploadProtocol (ι := ι) E req fails).Lasting i (fun _ => false)
      fun s => ∀ url ∈ urls, s.state.PhotosSatisfy id (url ∈ ·) := by
  refine .of_kept (fun j l s _ hper hadm h url hmem => ?_)
    fun w w' m _ henv h url hmem => PhotosSatisfy.env henv (h url hmem)
  obtain ⟨photos, hphotos, hurl⟩ := h url hmem
  by_cases hupdates : l.updates = some id
  · cases l with
    | sightingUpdate id' photos' photo_url =>
        obtain rfl := Option.some.inj hupdates
        obtain ⟨known, new, hknown, rfl, -⟩ := AppendsPhotos.fits hper hadm
        obtain rfl := Option.some.inj (hknown.symm.trans hphotos)
        obtain ⟨row, hrow, -⟩ := Option.map_eq_some_iff.1 hphotos
        refine ⟨known ++ new, ?_, List.mem_append_left new hurl⟩
        change ((sightingUpdate id' (known ++ new) photo_url).effect s.state).sightingPhotos id' = _
        rw [sightingPhotos_sightingUpdate, hrow, Option.map_some]
    | _ => cases hupdates
  · exact ⟨photos, (sightingPhotos_kept hupdates s.state).trans hphotos, hurl⟩

end Protocol

section Threads

variable {ι : Type*} [DecidableEq ι] {E : SightingPhotoEnv} {req : ι → PhotoUpload}
  {fails : SightingPhotoCall → Prop} {i : ι} {id : ℕ} {s : UploadSnapshot ι}
  {asks : CellMark ι PhotoCell → Bool} {J : UploadSnapshot ι → Prop}

/-- A request that is authorised has room for its photos, as long as nobody writes. -/
theorem safe_authorizePhotoUpload (requesterId count : ℕ) :
    Safe (uploadProtocol E req fails).contract i
      (OnReturn fun _ s' => ReadAs i (.count id) (fun w => w.PhotosSatisfy id fun photos =>
        photos.length + count ≤ getMaxSightingPhotos E) s')
      (SightingService.authorizePhotoUpload E id requesterId count) s := by
  have hnothing : (uploadProtocol E req fails).Lasting i _ _ := .nothing
  unfold SightingService.authorizePhotoUpload
  refine hnothing.query_bind trivial (by rfl) (fun _ => trivial) fun s₁ _ _ => ?_
  cases hrow : s₁.state.findSightingForUpload id with
  | none => exact Protocol.safe_onReturn_raise
  | some sighting =>
      dsimp only
      split
      · exact Protocol.safe_onReturn_raise
      split
      · exact Protocol.safe_onReturn_raise
      obtain ⟨row, hfind, rfl⟩ := Option.map_eq_some_iff.1 hrow
      have hread : ReadAs i (.count id) (fun w => w.PhotosSatisfy id (· = row.photos))
          (s₁.after uploadMark i (sightingFindUpload id) (sightingFindUpload id).effect) :=
        .of ⟨row.photos, congrArg (Option.map Sighting.photos) hfind, rfl⟩
      have hdate : (Process.query SightingPhotoCall.dateNow (AppError.prisma .other)
          World.now).Confined (fun l next => next = l.effect ∧
            (∀ s, AppendsPhotos E req i l s) ∧
            ∀ w m, uploadMark i l w = some m → CellMark.isRead i (.count id) m = false)
          fun _ => True :=
        Process.confined_query ⟨by rfl, fun _ => trivial, nofun⟩ trivial
      have hJ : (uploadProtocol E req fails).Lasting i _ _ :=
        lasting_readSighting id (.inl rfl) (· = row.photos)
      refine hJ.guarded_bind hread hdate (fun now s₂ _ hs₂ => ?_) fun _ _ _ _ _ => trivial
      split
      · exact Protocol.safe_onReturn_raise
      split
      · exact Protocol.safe_onReturn_raise
      split
      · exact Protocol.safe_onReturn_raise
      next hroom =>
        refine hJ.ret hs₂ fun s₃ _ hs₃ hunwritten => ?_
        obtain ⟨_, hphotos, rfl⟩ := hs₃ hunwritten
        exact ⟨_, hphotos, Nat.not_lt.1 hroom⟩

/-- An upload to the CDN does not touch the sighting. -/
theorem allowsUploads_sighting : UploadService.AllowsUploads (ℓ := SightingPhotoCall)
    fun l next => next = l.effect ∧ (∀ s, AppendsPhotos E req i l s) ∧
      ∀ w m, uploadMark i l w = some m → asks m = false where
  dateNow := ⟨rfl, fun _ => trivial, nofun⟩
  randomUUID := ⟨rfl, fun _ => trivial, nofun⟩
  cdnUpload := fun _ _ _ => ⟨rfl, fun _ => trivial, nofun⟩

/-- A batch that is uploaded has as many urls as files. -/
theorem safe_uploadImages (hJ : (uploadProtocol E req fails).Lasting i asks J) (hs : J s)
    (U : UploadEnv) (files : List UploadedFile) (folder : String) (maxFiles : ℕ)
    (options : CloudinaryUploadOptions) :
    Safe (uploadProtocol E req fails).contract i
      (OnReturn fun urls s' => J s' ∧ urls.length = files.length)
      (UploadService.uploadImages U files folder maxFiles options) s := by
  have hsettle : ∀ files s, J s → Safe (uploadProtocol E req fails).contract i
      (OnReturn fun urls s' => J s' ∧ urls.length = files.length)
      (UploadService.settleAll U folder options files) s := by
    intro files
    induction files with
    | nil => exact fun s hs => hJ.ret hs fun _ _ h => ⟨h, rfl⟩
    | cons file files ih =>
        intro s hs
        refine hJ.guarded_bind hs (allowsUploads_sighting.settled U file folder options)
          (fun url s₁ _ hs₁ => ?_) fun _ _ _ _ _ => trivial
        refine Protocol.safe_onReturn_bind (ih s₁ hs₁) fun urls s₂ _ hs₂ => ?_
        exact hJ.ret hs₂.1 fun _ _ h => ⟨h, congrArg Nat.succ hs₂.2⟩
  unfold UploadService.uploadImages
  split
  next hempty => exact hJ.ret hs fun _ _ h => ⟨h, by simp [List.isEmpty_iff.1 hempty]⟩
  split
  · exact Protocol.safe_onReturn_raise
  refine Protocol.safe_onReturn_bind (hsettle files s hs) fun urls s₁ _ hs₁ => ?_
  unfold UploadService.collect
  split
  next heq =>
    have hlength := (UploadService.length_of_mapM_eq_ok heq).trans hs₁.2
    exact hJ.ret hs₁.1 fun _ _ h => ⟨h, hlength⟩
  next => exact Protocol.safe_onReturn_raise

/-- The new photos are in the list that is written. -/
theorem safe_appendPhotos {urls : List String} (hcount : urls.length = (req i).count)
    (hs : ReadAs i (.count id) (fun w => w.PhotosSatisfy id fun photos =>
      photos.length + (req i).count ≤ getMaxSightingPhotos E) s) :
    Safe (uploadProtocol E req fails).contract i
      (OnReturn fun _ s' => ∀ url ∈ urls, s'.state.PhotosSatisfy id (url ∈ ·))
      (SightingService.appendPhotos id urls) s := by
  have hroom : (uploadProtocol E req fails).Lasting i _ _ :=
    lasting_readSighting id (.inl rfl) fun photos =>
      photos.length + (req i).count ≤ getMaxSightingPhotos E
  unfold SightingService.appendPhotos
  refine hroom.query_bind hs (by rfl) (fun _ => trivial) fun s₁ hinv₁ hs₁ => ?_
  cases hphotos : (s₁.state.sightings.find? id).map Sighting.photos with
  | none => exact Protocol.safe_onReturn_raise
  | some known =>
      have hroom₁ := hroom.call i (sightingFindPhotos id) s₁ hinv₁ trivial trivial
        (fun m hm => by
          cases hm
          simp [CellMark.isRead]) hs₁
      have hread : ReadAs i (.list id) (fun w => w.PhotosSatisfy id (· = known))
          (s₁.after uploadMark i (sightingFindPhotos id) (sightingFindPhotos id).effect) :=
        .of ⟨known, hphotos, rfl⟩
      have hJ : (uploadProtocol E req fails).Lasting i _ _ :=
        hroom.and (lasting_readSighting id (.inr rfl) (· = known))
      dsimp only
      refine Protocol.safe_call rfl fun s₂ hr _ =>
        ⟨fun hadm => ?_, fun _ => Protocol.safe_onReturn_raise⟩
      obtain ⟨hroom₂, hread₂⟩ := hJ.stable ⟨hroom₁, hread⟩ hr
      refine ⟨⟨rfl, hroom₂, known, urls, rfl, hcount, hread₂⟩, fun _ => ?_⟩
      cases hrow : s₂.state.sightings.find? id with
      | none =>
          simp only [hrow]
          exact Protocol.safe_onReturn_raise
      | some row =>
          simp only [hrow]
          refine (lasting_urls id urls).ret (fun url hmem => ?_) fun _ _ h => h
          refine ⟨known ++ urls, ?_, List.mem_append_right known hmem⟩
          change ((sightingUpdate id _ _).effect s₂.state).sightingPhotos id = _
          rw [sightingPhotos_sightingUpdate, hrow, Option.map_some]

theorem safe_uploadPhotos (U : UploadEnv) (userId : ℕ) {files : List UploadedFile}
    (hcount : files.length = (req i).count) :
    Safe (uploadProtocol E req fails).contract i
      (OnReturn fun urls s' => ∀ url ∈ urls, s'.state.PhotosSatisfy id (url ∈ ·))
      (SightingController.uploadPhotos E U id userId files) s := by
  have hroom : (uploadProtocol E req fails).Lasting i _ _ :=
    lasting_readSighting id (.inl rfl) fun photos =>
      photos.length + files.length ≤ getMaxSightingPhotos E
  unfold SightingController.uploadPhotos
  refine Protocol.safe_onReturn_bind (safe_authorizePhotoUpload userId files.length)
    fun _ s₁ _ hs₁ => ?_
  refine Protocol.safe_onReturn_bind (safe_uploadImages hroom hs₁ U files _ _ _)
    fun urls s₂ _ hs₂ => ?_
  refine Protocol.safe_onReturn_bind
    (safe_appendPhotos (hs₂.2.trans hcount) (hcount ▸ hs₂.1)) fun _ s₃ _ hs₃ => ?_
  exact (lasting_urls id urls).ret hs₃ fun _ _ h => h

theorem safe_uploadPhoto (U : UploadEnv) (userId : ℕ) (file : Option UploadedFile)
    (hcount : 1 = (req i).count) :
    Safe (uploadProtocol E req fails).contract i
      (OnReturn fun photoUrl s' => ∀ url ∈ [photoUrl], s'.state.PhotosSatisfy id (url ∈ ·))
      (SightingController.uploadPhoto E U id userId file) s := by
  have hroom : (uploadProtocol E req fails).Lasting i _ _ :=
    lasting_readSighting id (.inl rfl) fun photos => photos.length + 1 ≤ getMaxSightingPhotos E
  unfold SightingController.uploadPhoto
  cases file with
  | none => exact Protocol.safe_onReturn_raise
  | some file =>
      refine Protocol.safe_onReturn_bind (safe_authorizePhotoUpload userId 1) fun _ s₁ _ hs₁ => ?_
      refine Protocol.safe_onReturn_bind
        (hroom.quietly hs₁ (allowsUploads_sighting.uploadImage U file _ _))
        fun photoUrl s₂ _ hs₂ => ?_
      refine Protocol.safe_onReturn_bind (safe_appendPhotos hcount (hcount ▸ hs₂))
        fun _ s₃ _ hs₃ => ?_
      exact (lasting_urls id [photoUrl]).ret hs₃ fun _ _ h => h

theorem safe_photoUpload (U : UploadEnv) :
    Safe (uploadProtocol E req fails).contract i
      (OnReturn fun urls s' => ∀ url ∈ urls,
        s'.state.PhotosSatisfy (req i).sightingId (url ∈ ·))
      ((req i).process E U) s := by
  cases hreq : req i with
  | uploadPhotos id userId files =>
      exact safe_uploadPhotos U userId (by rw [hreq, PhotoUpload.count])
  | uploadPhoto id userId file =>
      unfold PhotoUpload.process
      have hcount : 1 = (req i).count := by rw [hreq, PhotoUpload.count]
      refine Protocol.safe_onReturn_bind (safe_uploadPhoto U userId file hcount)
        fun photoUrl s₁ _ hs₁ => ?_
      exact (lasting_urls id [photoUrl]).ret hs₁ fun _ _ h => h

end Threads

/-- In every run of uploads to sightings that were created by `create`, in which each upload writes
over the photos that it read and finds room: every url that was returned is in its sighting from
then on, no sighting has too many photos, and its single photo is the first one. -/
theorem uploads_kept {ι : Type*} [DecidableEq ι] (E : SightingPhotoEnv) (U : UploadEnv)
    (w₀ : World) (req : ι → PhotoUpload) (fails : SightingPhotoCall → Prop)
    (hcreated : ∀ id row, w₀.sightings.find? id = some row → row.PhotosAsCreated)
    {c : Config ι World SightingPhotoCall AppError (List String) (CellMark ι PhotoCell)}
    (h : Reaches (uploadSetting fails (AppendsInTime E req))
      (Config.init w₀ fun i => (req i).process E U) c) :
    (∀ i urls, c.pool i = .ret urls → ∀ url ∈ urls,
      c.state.PhotosSatisfy (req i).sightingId (url ∈ ·)) ∧
    ∀ id row, c.state.sightings.find? id = some row →
      row.PhotosInOrder (getMaxSightingPhotos E) := by
  have hsound : Sound (uploadProtocol E req fails).contract
      (fun i => OnReturn fun urls s' => ∀ url ∈ urls,
        s'.state.PhotosSatisfy (req i).sightingId (url ∈ ·))
      (Config.init w₀ fun i => (req i).process E U) :=
    ⟨fun id row hrow => (hcreated id row hrow).inOrder (getMaxSightingPhotos_pos E),
      fun i => safe_photoUpload U⟩
  have hend := hsound.reaches h
  exact ⟨fun i urls hi => hend.result hi, hend.1⟩

/-- A report without a photo. -/
def plainReport : CreateSightingDto where
  alert_id := 7
  location := { latitude := 1, longitude := 1, address := "" }
  confidence := .HIGH
  sighting_time := "1970-01-01T00:00:00Z"

/-- Sighting 5, which user 1 has reported. -/
def reportedWorld : World where
  alerts := Table.empty.insertNew { id := 7, creator_id := 2 }
  sightings := Table.empty.insertNew (plainReport.toRow 1 0 0 5)

theorem reportedWorld_asCreated (id : ℕ) (row : Sighting)
    (h : reportedWorld.sightings.find? id = some row) : row.PhotosAsCreated := by
  rcases Table.find?_of_insertNew h with h | ⟨-, -, rfl⟩
  · cases h
  · exact ⟨plainReport, 1, 5, 0, 0, rfl, rfl⟩

/-- Two uploads of the reporter, of the same files. -/
def uploadPool (files : List UploadedFile) :
    Config (Fin 2) World SightingPhotoCall AppError (List String) (CellMark (Fin 2) PhotoCell) :=
  Config.init reportedWorld fun _ =>
    (PhotoUpload.uploadPhotos 5 1 files).process {} strangerUpload

/-- One after the other. -/
theorem uploads_kept_inTurn :
    ((uploadPool [pngFile]).schedule uploadMark
      (List.replicate 6 0 ++ List.replicate 6 1)).state.PhotosSatisfy 5
        ("https://cdn/sightings/5/0" ∈ ·) := by
  let req (_ : Fin 2) : PhotoUpload := .uploadPhotos 5 1 [pngFile]
  have hreach : Reaches (uploadSetting (fun _ => False) (AppendsInTime {} req))
      (uploadPool [pngFile]) ((uploadPool [pngFile]).schedule uploadMark
        (List.replicate 6 0 ++ List.replicate 6 1)) :=
    Reaches.scheduleOk (fun i l s => decide (AppendsInTime {} req i l s))
      (fun _ _ _ => of_decide_eq_true) (by decide +kernel)
  have hended : ((uploadPool [pngFile]).schedule uploadMark
      (List.replicate 6 0 ++ List.replicate 6 1)).pool 0 = .ret ["https://cdn/sightings/5/0"] :=
    Process.eq_ret_of_result? (by decide +kernel)
  exact (uploads_kept {} strangerUpload reportedWorld req (fun _ => False)
    reportedWorld_asCreated hreach).1 0 _ hended _ List.mem_cons_self

/-- Two uploads of one file read the photos before either writes, and a url that was returned is
gone; two uploads of two files are authorised before either writes, and the sighting has four. -/
theorem uploads_lostAndOver :
    (∃ c, Reaches (uploadSetting (fun _ => False) fun _ _ _ => True) (uploadPool [pngFile]) c ∧
      c.pool 0 = .ret ["https://cdn/sightings/5/0"] ∧
      ¬ c.state.PhotosSatisfy 5 ("https://cdn/sightings/5/0" ∈ ·)) ∧
    ∃ c, Reaches (uploadSetting (fun _ => False) fun _ _ _ => True)
        (uploadPool [pngFile, pngFile]) c ∧
      c.state.PhotosSatisfy 5 fun photos => getMaxSightingPhotos {} < photos.length := by
  constructor
  · refine ⟨_, Reaches.schedule (fun _ _ _ => trivial)
      (List.replicate 5 0 ++ List.replicate 5 1 ++ [0, 1]) _,
      Process.eq_ret_of_result? (by decide +kernel), ?_⟩
    have hphotos : ((uploadPool [pngFile]).schedule uploadMark (List.replicate 5 0 ++
        List.replicate 5 1 ++ [0, 1])).state.sightingPhotos 5 =
          some ["https://cdn/sightings/5/1"] := by
      decide +kernel
    rintro ⟨photos, hfound, hmem⟩
    obtain rfl := Option.some.inj (hphotos.symm.trans hfound)
    exact absurd hmem (by decide)
  · have hphotos : ((uploadPool [pngFile, pngFile]).schedule uploadMark ([0, 0, 1, 1] ++
        List.replicate 6 0 ++ List.replicate 6 1)).state.sightingPhotos 5 =
          some ["https://cdn/sightings/5/0", "https://cdn/sightings/5/1",
            "https://cdn/sightings/5/2", "https://cdn/sightings/5/3"] := by
      decide +kernel
    exact ⟨_, Reaches.schedule (fun _ _ _ => trivial) _ _, _, hphotos, by decide⟩

end FifiAlert
