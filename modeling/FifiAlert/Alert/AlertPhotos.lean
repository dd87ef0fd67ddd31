import FifiAlert.Alert.AlertProtocol
import FifiAlert.Alert.Ownership
import FifiAlert.Concurrency.Cells

/-!
# The photos of an alert

`addPhotos` appends to the photos in one statement. `update` reads the photos and later writes them
back with its own, so it takes away what others added in between. As long as no update writes the
photos over a change that it has not read, no photo of a request that succeeded is lost.
-/

namespace FifiAlert

open Concurrency Store AlertCall

/-- A request that adds photos to an alert. -/
inductive PhotoRequest where
  | update (alertId userId : ℕ) (dto : UpdateAlertDto)
  | addPhotos (alertId userId : ℕ) (photoUrls : List String)

namespace PhotoRequest

def alertId : PhotoRequest → ℕ
  | update alertId _ _ => alertId
  | addPhotos alertId _ _ => alertId

/-- The photos that are passed with the request. -/
def photos : PhotoRequest → List String
  | update _ _ dto => dto.petPhotos.getD []
  | addPhotos _ _ photoUrls => photoUrls

def process : PhotoRequest → AlertProcess Unit
  | update alertId userId dto => do
      let _ ← AlertService.update alertId userId dto
      return ()
  | addPhotos alertId userId photoUrls => AlertService.addPhotos alertId userId photoUrls

end PhotoRequest

def World.alertPhotos (w : World) (id : ℕ) : Option (List String) :=
  (w.alerts.find? id).map Alert.pet_photos

/-- The alert has the photo. -/
def World.HasPhoto (w : World) (id : ℕ) (photo : String) : Prop :=
  ∃ photos, w.alertPhotos id = some photos ∧ photo ∈ photos

/-- The alert whose photos a call writes. -/
def AlertCall.writesPhotos : AlertCall → Option ℕ
  | alertUpdate id data => data.pet_photos.map fun _ => id
  | alertAppendPhotos id _ => some id
  | _ => none

/-- The cells are the photos of the alerts. -/
def photoMark {ι : Type*} (i : ι) (l : AlertCall) (_ : World) : Option (CellMark ι ℕ) :=
  match l with
  | alertFindUnique id => some (.read i [id])
  | l => l.writesPhotos.map fun id => .wrote i [id]

section Effect

variable {ι : Type*} {i : ι} {l : AlertCall} {w : World} {id : ℕ}

theorem thread_photoMark {m : CellMark ι ℕ} (h : photoMark i l w = some m) : m.thread = i := by
  cases l with
  | alertFindUnique id | alertAppendPhotos id photoUrls =>
      cases h
      rfl
  | alertUpdate id data =>
      obtain ⟨_, -, rfl⟩ := Option.map_eq_some_iff.1 h
      rfl
  | _ => cases h

theorem alertPhotos_effect (l : AlertCall) (w : World) (id : ℕ) :
    (l.effect w).alertPhotos id =
      (w.alerts.find? id).map fun row => (l.onRow w.now row).pet_photos := by
  rw [World.alertPhotos, find?_effect, Option.map_map]
  rfl

theorem alertPhotos_alertUpdate (w : World) (id : ℕ) (data : AlertData) :
    ((alertUpdate id data).effect w).alertPhotos id =
      (w.alertPhotos id).map fun photos => data.pet_photos.getD photos := by
  rw [alertPhotos_effect, World.alertPhotos, Option.map_map]
  refine Option.map_congr fun row hrow => ?_
  rw [onRow, if_pos (Table.key_of_find? hrow)]
  rfl

theorem alertPhotos_alertAppendPhotos (w : World) (id : ℕ) (photoUrls : List String) :
    ((alertAppendPhotos id photoUrls).effect w).alertPhotos id =
      (w.alertPhotos id).map fun photos => photos ++ photoUrls := by
  rw [alertPhotos_effect, World.alertPhotos, Option.map_map]
  refine Option.map_congr fun row hrow => ?_
  rw [onRow, if_pos (Table.key_of_find? hrow)]
  rfl

/-- The other calls leave the photos of the alert alone. -/
theorem alertPhotos_kept (h : l.writesPhotos ≠ some id) :
    (l.effect w).alertPhotos id = w.alertPhotos id := by
  rw [alertPhotos_effect, World.alertPhotos]
  refine Option.map_congr fun row hrow => ?_
  have hid := Table.key_of_find? hrow
  cases l with
  | alertUpdate id' data =>
      rw [onRow]
      split
      next heq =>
        cases hphotos : data.pet_photos with
        | none => simp [AlertData.apply, hphotos]
        | some photos => exact absurd (by simp [writesPhotos, hphotos, ← heq, hid]) h
      next => rfl
  | alertAppendPhotos id' photoUrls =>
      rw [onRow]
      split
      next heq => exact absurd (by simp [writesPhotos, ← heq, hid]) h
      next => rfl
  | alertExpire | alertResolveMany ids date notes =>
      rw [onRow]
      split <;> rfl
  | _ => rfl

/-- An update writes no photo away that it has not read. -/
def RewritesWhatItRead {ι : Type*} [DecidableEq ι] (i : ι) (l : AlertCall)
    (s : Snapshot World (CellMark ι ℕ)) : Prop :=
  match l with
  | alertUpdate id data => data.pet_photos.isSome = true → Unwritten i id s.marks
  | _ => True

instance {ι : Type*} [DecidableEq ι] (i : ι) (l : AlertCall)
    (s : Snapshot World (CellMark ι ℕ)) : Decidable (RewritesWhatItRead i l s) := by
  apply AlertCall.casesOn (motive := fun l => Decidable (RewritesWhatItRead i l s)) l <;>
    intros <;> unfold RewritesWhatItRead <;> infer_instance

end Effect

section Protocol

variable {ι : Type*} [DecidableEq ι]

/-- The surroundings: everything else may change, but no photo of an alert. -/
def photoSetting {ι : Type*} (fails : AlertCall → Prop)
    (admits : ι → AlertCall → Snapshot World (CellMark ι ℕ) → Prop) :
    Setting ι World AlertCall (CellMark ι ℕ) where
  mark := photoMark
  env := fun w w' => ∀ id, w'.alertPhotos id = w.alertPhotos id
  mayFail := fails
  admits := admits

/-- Photos are written behind those that the thread has read. -/
def AppendsToRead (i : ι) (l : AlertCall) (s : Snapshot World (CellMark ι ℕ)) : Prop :=
  match l with
  | alertUpdate id data => ∀ photos, data.pet_photos = some photos →
      ∃ known new, photos = known ++ new ∧ ReadAs i id (fun w => w.alertPhotos id = some known) s
  | _ => True

/-- The protocol of the photos. -/
def photoProtocol (fails : AlertCall → Prop) :
    Protocol (photoSetting (ι := ι) fails RewritesWhatItRead) where
  effect := AlertCall.effect
  permits := AppendsToRead
  inv := fun _ => True
  inv_call := fun _ _ _ => trivial
  inv_env := fun _ _ => trivial

variable {fails : AlertCall → Prop} {i j : ι} {l : AlertCall} {id : ℕ}
  {s : Snapshot World (CellMark ι ℕ)}

/-- A permitted call that writes over what its thread has read takes no photo away. -/
theorem HasPhoto.call {photo : String} (hper : AppendsToRead j l s)
    (hadm : RewritesWhatItRead j l s)
    (h : s.state.HasPhoto id photo) : (l.effect s.state).HasPhoto id photo := by
  obtain ⟨photos, hphotos, hmem⟩ := h
  by_cases hwrites : l.writesPhotos = some id
  · cases l with
    | alertUpdate id' data =>
        obtain ⟨photos', hdata, rfl⟩ := Option.map_eq_some_iff.1 hwrites
        obtain ⟨known, new, rfl, hread⟩ := hper photos' hdata
        have hknown : s.state.alertPhotos id' = some known := hread (hadm (by rw [hdata]; rfl))
        refine ⟨known ++ new, ?_, ?_⟩
        · rw [alertPhotos_alertUpdate, hphotos, hdata]
          rfl
        · rw [hphotos] at hknown
          obtain rfl := Option.some.inj hknown
          exact List.mem_append_left new hmem
    | alertAppendPhotos id' photoUrls =>
        obtain rfl := Option.some.inj hwrites
        refine ⟨photos ++ photoUrls, ?_, List.mem_append_left photoUrls hmem⟩
        rw [alertPhotos_alertAppendPhotos, hphotos]
        rfl
    | _ => cases hwrites
  · exact ⟨photos, (alertPhotos_kept hwrites).trans hphotos, hmem⟩

/-- So the photos stay. -/
theorem lasting_hasPhotos (id : ℕ) (photos : List String) :
    (photoProtocol (ι := ι) fails).Lasting i (fun _ => false)
      fun s => ∀ photo ∈ photos, s.state.HasPhoto id photo :=
  .of_kept (fun _ _ _ _ hper hadm h photo hmem => HasPhoto.call hper hadm (h photo hmem))
    fun w w' m _ henv h photo hmem => by
      obtain ⟨photos', hphotos, hmem'⟩ := h photo hmem
      exact ⟨photos', (henv id).trans hphotos, hmem'⟩

/-- So does the alert. -/
theorem lasting_hasAlert (id : ℕ) :
    (photoProtocol (ι := ι) fails).Lasting i (fun _ => false)
      fun s => (s.state.alertPhotos id).isSome = true :=
  .of_kept (fun j l s _ _ _ h => by
      change ((l.effect s.state).alertPhotos id).isSome = true
      rw [alertPhotos_effect, Option.isSome_map]
      rwa [World.alertPhotos, Option.isSome_map] at h)
    fun w w' m _ henv h => by
      change (w'.alertPhotos id).isSome = true
      rw [henv id]
      exact h

/-- What a thread has read of the photos lasts. -/
theorem lasting_readPhotos (id : ℕ) (known : List String) :
    (photoProtocol (ι := ι) fails).Lasting i (CellMark.isRead i id)
      (ReadAs i id fun w => w.alertPhotos id = some known) := by
  refine .readAs (fun j l w m hm => thread_photoMark (w := w) hm)
    (fun j l s _ _ hquiet hknown => ?_)
    fun w w' henv hknown => (henv id).trans hknown
  have hwrites : l.writesPhotos ≠ some id := by
    intro hwrites
    have hmark : photoMark j l s.state = some (.wrote j [id]) := by
      cases l with
      | alertUpdate id' data | alertAppendPhotos id' photoUrls =>
          exact congrArg (Option.map fun id => CellMark.wrote j [id]) hwrites
      | _ => cases hwrites
    simpa [CellMark.isWrite] using hquiet _ hmark
  exact (alertPhotos_kept hwrites).trans hknown

end Protocol

section Threads

variable {ι : Type*} [DecidableEq ι] {fails : AlertCall → Prop} {i : ι} {id : ℕ}
  {s : Snapshot World (CellMark ι ℕ)}

theorem safe_findOwned_photos (userId : ℕ) (action : String) :
    Safe (photoProtocol (ι := ι) fails).contract i
      (OnReturn fun row s' =>
        ReadAs i id (fun w => w.alertPhotos id = some row.alert.pet_photos) s')
      (AlertService.findOwned id userId action) s := by
  have hnothing : (photoProtocol (ι := ι) fails).Lasting i _ _ := .nothing
  unfold AlertService.findOwned
  refine hnothing.query_bind trivial (by rfl) (fun _ => trivial) fun s₁ _ _ => ?_
  cases hrow : s₁.state.findAlert id with
  | none => exact Protocol.safe_onReturn_raise
  | some row =>
      dsimp only
      split
      · exact Protocol.safe_onReturn_raise
      obtain ⟨alert, halert, rfl⟩ := Option.map_eq_some_iff.1 hrow
      refine (lasting_readPhotos id alert.pet_photos).ret (.of ?_) fun _ _ h => h
      exact congrArg (Option.map Alert.pet_photos) halert

/-- The photos of an update are in the row that it writes. -/
theorem hasPhoto_updateData {w : World} {alert : Alert} {dto : UpdateAlertDto} {now : Time}
    {photo : String} (halert : (w.alerts.find? id).isSome = true)
    (hmem : photo ∈ dto.petPhotos.getD []) :
    ((alertUpdate id (AlertService.updateData alert dto now)).effect w).HasPhoto id photo := by
  obtain ⟨row, hrow⟩ := Option.isSome_iff_exists.1 halert
  cases hdto : dto.petPhotos with
  | none => simp [hdto] at hmem
  | some new =>
      rw [hdto, Option.getD_some] at hmem
      refine ⟨alert.pet_photos ++ new, ?_, List.mem_append_right alert.pet_photos hmem⟩
      rw [alertPhotos_alertUpdate, World.alertPhotos, hrow]
      simp [AlertService.updateData, hdto, List.ne_nil_of_mem hmem]

theorem safe_updateAlert_photos {alert : Alert} {dto : UpdateAlertDto} {now : Time}
    (hs : ReadAs i id (fun w => w.alertPhotos id = some alert.pet_photos) s) :
    Safe (photoProtocol (ι := ι) fails).contract i
      (OnReturn fun _ s' => ∀ photo ∈ dto.petPhotos.getD [], s'.state.HasPhoto id photo)
      (AlertService.updateAlert id (AlertService.updateData alert dto now)) s := by
  have hread : (photoProtocol (ι := ι) fails).Lasting i _ _ :=
    lasting_readPhotos id alert.pet_photos
  refine Protocol.safe_call rfl fun s₁ hr _ =>
    ⟨fun hadm => ⟨fun photos hphotos => ?_, fun _ => ?_⟩, fun _ => Protocol.safe_onReturn_raise⟩
  · cases hdto : dto.petPhotos with
    | none => simp [AlertService.updateData, hdto] at hphotos
    | some new =>
        refine ⟨alert.pet_photos, new, ?_, hread.stable hs hr⟩
        simp only [AlertService.updateData, hdto] at hphotos
        split at hphotos
        · cases hphotos
        · exact (Option.some.inj hphotos).symm
  · cases hrow : s₁.state.alerts.find? id with
    | none =>
        simp only [hrow]
        exact Protocol.safe_onReturn_raise
    | some row =>
        simp only [hrow]
        refine (lasting_hasPhotos id (dto.petPhotos.getD [])).ret (fun photo hmem => ?_)
          fun _ _ h => h
        exact hasPhoto_updateData (by rw [hrow, Option.isSome_some]) hmem

/-- A photo that the alert has stays there while the thread reads the alert. -/
theorem safe_findById_photos {photos : List String} (requesterId : Option ℕ)
    (hs : ∀ photo ∈ photos, s.state.HasPhoto id photo) :
    Safe (photoProtocol (ι := ι) fails).contract i
      (OnReturn fun _ s' => ∀ photo ∈ photos, s'.state.HasPhoto id photo)
      (AlertService.findById id requesterId) s := by
  have hread : (AlertService.findById id requesterId).Confined
      (fun l next => next = l.effect ∧ (∀ s, AppendsToRead i l s) ∧
        ∀ w m, photoMark i l w = some m → false = false) fun _ => True := by
    unfold AlertService.findById
    exact Process.confined_query_bind ⟨by rfl, fun _ => trivial, fun _ _ _ => rfl⟩ trivial
      fun _ => trivial
  exact (lasting_hasPhotos id photos).quietly hs hread

theorem safe_update_photos (userId : ℕ) (dto : UpdateAlertDto) :
    Safe (photoProtocol (ι := ι) fails).contract i
      (OnReturn fun _ s' => ∀ photo ∈ dto.petPhotos.getD [], s'.state.HasPhoto id photo)
      (AlertService.update id userId dto) s := by
  unfold AlertService.update
  refine Protocol.safe_onReturn_bind (safe_findOwned_photos userId "update") fun row s₁ _ hs₁ => ?_
  have hdate : (AlertCall.read .dateNow World.now).Confined
      (fun l next => next = l.effect ∧ (∀ s, AppendsToRead i l s) ∧
        ∀ w m, photoMark i l w = some m → CellMark.isRead i id m = false) fun _ => True :=
    Process.confined_query ⟨by rfl, fun _ => trivial, nofun⟩ trivial
  refine (lasting_readPhotos id row.alert.pet_photos).guarded_bind hs₁ hdate
    (fun now s₂ _ hs₂ => ?_) fun _ _ _ _ _ => trivial
  refine Protocol.safe_onReturn_bind (safe_updateAlert_photos hs₂) fun _ s₃ _ hs₃ => ?_
  exact safe_findById_photos (some userId) hs₃

theorem safe_addPhotos (userId : ℕ) (photoUrls : List String) :
    Safe (photoProtocol (ι := ι) fails).contract i
      (OnReturn fun _ s' => ∀ photo ∈ photoUrls, s'.state.HasPhoto id photo)
      (AlertService.addPhotos id userId photoUrls) s := by
  have hnothing : (photoProtocol (ι := ι) fails).Lasting i _ _ := .nothing
  have hfound : Safe (photoProtocol (ι := ι) fails).contract i
      (OnReturn fun alert s' => alert ≠ none → (s'.state.alertPhotos id).isSome = true)
      (AlertService.findById id (some userId)) s := by
    unfold AlertService.findById
    refine hnothing.query_bind trivial (by rfl) (fun _ => trivial) fun s₁ _ _ => ?_
    refine (lasting_hasAlert id).imp.ret (fun halert => ?_) fun _ _ h => h
    change (s₁.state.alertPhotos id).isSome = true
    cases hrow : s₁.state.alerts.find? id with
    | none => simp [World.findAlert, hrow] at halert
    | some row => simp [World.alertPhotos, hrow]
  unfold AlertService.addPhotos
  refine Protocol.safe_onReturn_bind hfound fun alert s₁ _ hs₁ => ?_
  cases alert with
  | none => exact Protocol.safe_onReturn_raise
  | some alert =>
      refine (lasting_hasAlert id).query_bind (hs₁ (Option.some_ne_none _)) (by rfl)
        (fun _ => trivial) fun s₂ _ hs₂ => ?_
      refine Protocol.safe_call rfl fun s₃ hr _ =>
        ⟨fun _ => ⟨trivial, fun _ => ?_⟩, fun _ => Protocol.safe_onReturn_raise⟩
      have hread : ((s₂.after photoMark i (alertFindUnique id)
          (alertFindUnique id).effect).state.alertPhotos id).isSome = true := hs₂
      have halert : (s₃.state.alertPhotos id).isSome = true := (lasting_hasAlert id).stable hread hr
      obtain ⟨photos, hphotos⟩ := Option.isSome_iff_exists.1 halert
      refine (lasting_hasPhotos id photoUrls).ret (fun photo hmem => ?_) fun _ _ h => h
      refine ⟨photos ++ photoUrls, ?_, List.mem_append_right photos hmem⟩
      change ((alertAppendPhotos id photoUrls).effect s₃.state).alertPhotos id = _
      rw [alertPhotos_alertAppendPhotos, hphotos, Option.map_some]

theorem safe_photoRequest (req : PhotoRequest) :
    Safe (photoProtocol (ι := ι) fails).contract i
      (OnReturn fun _ s' => ∀ photo ∈ req.photos, s'.state.HasPhoto req.alertId photo)
      req.process s := by
  cases req with
  | update alertId userId dto =>
      unfold PhotoRequest.process
      refine Protocol.safe_onReturn_bind (safe_update_photos userId dto) fun _ s₁ _ hs₁ => ?_
      exact (lasting_hasPhotos alertId _).ret hs₁ fun _ _ h => h
  | addPhotos alertId userId photoUrls => exact safe_addPhotos userId photoUrls

end Threads

/-- In every run in which each update finds the photos that it writes back as it read them: the
photos of a request that succeeded are in its alert from then on. -/
theorem photos_acknowledged {ι : Type*} [DecidableEq ι] (w₀ : World) (req : ι → PhotoRequest)
    (fails : AlertCall → Prop) {c : Config ι World AlertCall AppError Unit (CellMark ι ℕ)}
    (h : Reaches (photoSetting fails RewritesWhatItRead)
      (Config.init w₀ fun i => (req i).process) c)
    {i : ι} (hi : c.pool i = .ret ()) :
    ∀ photo ∈ (req i).photos, c.state.HasPhoto (req i).alertId photo := by
  have hsound : Sound (photoProtocol fails).contract
      (fun i => OnReturn fun _ s' =>
        ∀ photo ∈ (req i).photos, s'.state.HasPhoto (req i).alertId photo)
      (Config.init w₀ fun i => (req i).process) :=
    ⟨trivial, fun i => safe_photoRequest (req i)⟩
  exact (hsound.reaches h).result hi

def photoUrl (name : String) : String := "https://cdn.example/" ++ name ++ ".jpg"

/-- Two updates of alert 7 by its creator, and a request that adds a photo. -/
def photoRequests : Fin 3 → PhotoRequest
  | 0 => .update 7 1 { petPhotos := some [photoUrl "a"] }
  | 1 => .update 7 1 { petPhotos := some [photoUrl "b"] }
  | 2 => .addPhotos 7 1 [photoUrl "c"]

def photoPool : Config (Fin 3) World AlertCall AppError Unit (CellMark (Fin 3) ℕ) :=
  Config.init strangerWorld fun i => (photoRequests i).process

/-- One after the other. -/
theorem photos_acknowledged_inTurn :
    (photoPool.schedule photoMark [0, 0, 0, 0, 2, 2, 2, 1, 1, 1, 1]).state.HasPhoto 7
      (photoUrl "a") := by
  have hreach : Reaches (photoSetting (fun _ => False) RewritesWhatItRead) photoPool
      (photoPool.schedule photoMark [0, 0, 0, 0, 2, 2, 2, 1, 1, 1, 1]) :=
    Reaches.scheduleOk (fun i l s => decide (RewritesWhatItRead i l s))
      (fun _ _ _ => of_decide_eq_true) (by decide +kernel)
  have hended : ((photoPool.schedule photoMark [0, 0, 0, 0, 2, 2, 2, 1, 1, 1, 1]).pool
      0).result?.any Except.isOk = true := by
    decide +kernel
  obtain ⟨_, hended⟩ := Process.exists_ret_of_result? hended
  exact photos_acknowledged strangerWorld photoRequests (fun _ => False) hreach hended
    (photoUrl "a") List.mem_cons_self

/-- The second update writes back what it read before the others wrote: all three succeed, and
the alert has only its own photo. -/
theorem photos_lost :
    ∃ c, Reaches (photoSetting (fun _ => False) fun _ _ _ => True) photoPool c ∧
      (∀ i, c.pool i = .ret ()) ∧
      photoUrl "a" ∈ (photoRequests 0).photos ∧ ¬ c.state.HasPhoto 7 (photoUrl "a") ∧
      photoUrl "c" ∈ (photoRequests 2).photos ∧ ¬ c.state.HasPhoto 7 (photoUrl "c") := by
  refine ⟨_, Reaches.schedule (fun _ _ _ => trivial) [1, 1, 0, 0, 0, 0, 2, 2, 2, 1, 1] _, ?_, ?_⟩
  · have hended : ∀ i, ((photoPool.schedule photoMark [1, 1, 0, 0, 0, 0, 2, 2, 2, 1, 1]).pool
        i).result?.any Except.isOk = true := by
      decide +kernel
    intro i
    obtain ⟨_, hi⟩ := Process.exists_ret_of_result? (hended i)
    exact hi
  · have hphotos : (photoPool.schedule photoMark
        [1, 1, 0, 0, 0, 0, 2, 2, 2, 1, 1]).state.alertPhotos 7 = some [photoUrl "b"] := by
      decide +kernel
    have hlost : ∀ photo, photo ≠ photoUrl "b" → ¬ (photoPool.schedule photoMark
        [1, 1, 0, 0, 0, 0, 2, 2, 2, 1, 1]).state.HasPhoto 7 photo := by
      rintro photo hne ⟨photos, hfound, hmem⟩
      obtain rfl := Option.some.inj (hphotos.symm.trans hfound)
      exact hne (List.mem_singleton.1 hmem)
    exact ⟨List.mem_cons_self, hlost (photoUrl "a") (by decide), List.mem_cons_self,
      hlost (photoUrl "c") (by decide)⟩

end FifiAlert
