import FifiAlert.Adoption.AdoptionService
import FifiAlert.Concurrency.Since
import FifiAlert.Schema.Relations

/-!
# Deleting users, pets and listings

An administrator deletes a user, an owner deletes a pet or an adoption listing, which goes with its
pet. Each of them deletes one row, and the relations of the schema do the rest.

For any number of deletions of users, pets and listings in any interleaving, beside whatever the
database admits, and with any of their calls failing: the database stays intact, each deletion is
of a user, of a pet that its requester was found to own, or of the pet of a listing that they were
found to own, and it takes the rows that belong to the deleted one and no others. Where nobody
gives a pet another owner or another pet its id, the pet is still the requester's when it goes.
-/

namespace FifiAlert

open Concurrency Store

inductive DeletionCall where
  | alert (l : AlertCall)
  | adoption (l : AdoptionCall)
  | userFindUnique (id : ℕ)
  | userDelete (id : ℕ)
  | petDelete (id : ℕ)

namespace DeletionCall

/-- The key of the row that a call deletes. -/
def root : DeletionCall → Option EntityKey
  | userDelete id => some (.user, id)
  | petDelete id => some (.pet, id)
  | _ => none

def effect (l : DeletionCall) (w : World) : World :=
  match l.root with
  | some root => if (w.rowOf root).isSome then w.delete root else w
  | none => w

end DeletionCall

abbrev DeletionProcess := Process World DeletionCall AppError

/-- The statement that deletes a row, which has to be there. -/
def DeletionCall.deleteRow {α : Type} (l : DeletionCall) (found : World → Option α) :
    DeletionProcess α :=
  Process.atomic l (.prisma .other) fun w =>
    ((found w).elim (.error (.prisma .P2025)) .ok, l.effect w)

def UserService.delete (id : ℕ) : DeletionProcess User := do
  let existingUser ← Process.query (.userFindUnique id) (.prisma .other) fun w => w.users.find? id
  match existingUser with
  | none => .raise (.notFound "User not found with the provided identifier")
  | some _ => (DeletionCall.userDelete id).deleteRow fun w => w.users.find? id

def PetService.deletePet (id userId : ℕ) : DeletionProcess Unit := do
  let _ ← (PetService.findOne id userId).relabel DeletionCall.alert
  ((DeletionCall.petDelete id).deleteRow fun w => (w.pets.find? id).map fun _ => ()).tryCatch
    fun e => match e with
      | .prisma .P2025 => .raise (.notFound ("Pet with ID " ++ toString id ++ " not found"))
      | e => .raise e

def AdoptionService.remove (id userId : ℕ) : DeletionProcess Unit := do
  let found ← (AdoptionService.requireOwned id userId).relabel DeletionCall.adoption
  PetService.deletePet found.listing.petId userId

inductive DeletionRequest where
  | user (id : ℕ)
  | pet (id userId : ℕ)
  | listing (id userId : ℕ)

def DeletionRequest.process : DeletionRequest → DeletionProcess Unit
  | user id => (fun _ => ()) <$> UserService.delete id
  | pet id userId => PetService.deletePet id userId
  | listing id userId => AdoptionService.remove id userId

/-- The notable calls: a request found a listing or a pet, or deleted the row with a key. -/
inductive DeletionMark (ι : Type*) where
  | listingFound (thread : ι) (listing : AdoptionListing)
  | petFound (thread : ι) (pet : Pet)
  | deleted (thread : ι) (root : EntityKey) (before : World)

abbrev DeletionSnapshot (ι : Type*) := Snapshot World (DeletionMark ι)

def DeletionMark.of {ι : Type*} (i : ι) (l : DeletionCall) (w : World) : Option (DeletionMark ι) :=
  match l with
  | .adoption (.listingFindUnique id) => (w.findListing id).map fun found =>
      .listingFound i found.listing
  | .alert (.petFindUnique id) => (w.pets.find? id).map (.petFound i)
  | l => l.root.bind fun root => (w.rowOf root).map fun _ => .deleted i root w

/-- A thread has found a pet of the user under an id. -/
def FoundOwn {ι : Type*} (i : ι) (id userId : ℕ) (older : List (DeletionMark ι)) : Prop :=
  ∃ pet, .petFound i pet ∈ older ∧ pet.id = id ∧ pet.userId = userId

/-- The row is one that the request may delete, by what its thread has found. -/
def DeletionRequest.Takes {ι : Type*} (i : ι) (root : EntityKey) (older : List (DeletionMark ι)) :
    DeletionRequest → Prop
  | user id => root = (.user, id)
  | pet id userId => root = (.pet, id) ∧ FoundOwn i id userId older
  | listing id userId => ∃ listing, .listingFound i listing ∈ older ∧ listing.id = id ∧
      listing.userId = userId ∧ root = (.pet, listing.petId) ∧ FoundOwn i listing.petId userId older

/-- A pet that is deleted is the requester's. -/
def DeletionRequest.Owns (w : World) (root : EntityKey) : DeletionRequest → Prop
  | user _ => True
  | pet _ userId | listing _ userId =>
      ∀ pet ∈ w.pets.rows, root = (.pet, pet.id) → pet.userId = userId

/-- The deletion of a row takes what belongs to it and nothing else, and it leaves no key of what it
took. -/
structure World.Cascades (w : World) (root : EntityKey) : Prop where
  exact : foreignKeys.Deletes root (w.goneWith root) w.holds (w.delete root).holds
  traceless : ∀ row k, (w.delete root).holds row → w.goneWith root k = true →
    row.key ≠ some k ∧ k ∉ row.cascading ++ row.nullable

/-- A new pet gets a new id, and a pet keeps its owner. -/
structure KeepsOwners (w w' : World) : Prop where
  next : w.nextPet ≤ w'.nextPet
  fresh : ∀ pet ∈ w'.pets.rows, pet.id < w'.nextPet
  pets : ∀ pet' ∈ w'.pets.rows, pet'.id < w.nextPet →
    ∃ pet ∈ w.pets.rows, pet.id = pet'.id ∧ pet.userId = pet'.userId

/-- The pet with the id is the user's, and no other pet will get the id. -/
structure World.PetOf (w : World) (id userId : ℕ) : Prop where
  issued : id < w.nextPet
  owned : ∀ pet ∈ w.pets.rows, pet.id = id → pet.userId = userId

/-- The database is intact, and the ids of its pets have been given out. -/
structure World.DeletionReady (w : World) : Prop where
  intact : w.Intact
  fresh : ∀ pet ∈ w.pets.rows, pet.id < w.nextPet

section Effect

variable {ι : Type*} {w w' : World} {root : EntityKey} {id userId : ℕ} {i : ι} {l : DeletionCall}

theorem mem_of_mem_pets_effect (l : DeletionCall) (w : World) :
    ∀ pet ∈ (l.effect w).pets.rows, pet ∈ w.pets.rows := by
  unfold DeletionCall.effect
  split
  · split
    · exact fun pet hpet => (World.mem_deleteMany.1 hpet).1
    · exact fun _ h => h
  · exact fun _ h => h

theorem nextPet_effect (l : DeletionCall) (w : World) : (l.effect w).nextPet = w.nextPet := by
  unfold DeletionCall.effect
  split
  · split <;> rfl
  · rfl

theorem intact_effect (l : DeletionCall) (h : w.Intact) : (l.effect w).Intact := by
  unfold DeletionCall.effect
  split
  · split
    next hroot => exact (World.deletes_delete hroot).intact h
    next => exact h
  · exact h

theorem World.PetOf.effect (h : w.PetOf id userId) (l : DeletionCall) :
    (l.effect w).PetOf id userId where
  issued := h.issued.trans_eq (nextPet_effect l w).symm
  owned := fun pet hpet => h.owned pet (mem_of_mem_pets_effect l w pet hpet)

theorem World.PetOf.kept (h : w.PetOf id userId) (hw : KeepsOwners w w') :
    w'.PetOf id userId where
  issued := h.issued.trans_le hw.next
  owned := by
    intro pet' hpet' hid
    obtain ⟨pet, hpet, hsame, howner⟩ := hw.pets pet' hpet' (hid ▸ h.issued)
    exact howner.symm.trans (h.owned pet hpet (hsame.trans hid))

/-- The marks, by what they say. -/
theorem mark_cases {m : DeletionMark ι} (h : DeletionMark.of i l w = some m) :
    l.root = none ∧ (∃ listing, m = .listingFound i listing) ∨
      l.root = none ∧ (∃ pet, pet ∈ w.pets.rows ∧ m = .petFound i pet) ∨
      ∃ root, l.root = some root ∧ (w.rowOf root).isSome = true ∧ m = .deleted i root w := by
  unfold DeletionMark.of at h
  split at h
  · obtain ⟨found, -, rfl⟩ := Option.map_eq_some_iff.1 h
    exact .inl ⟨rfl, _, rfl⟩
  · obtain ⟨pet, hpet, rfl⟩ := Option.map_eq_some_iff.1 h
    exact .inr (.inl ⟨rfl, pet, Table.mem_of_find? hpet, rfl⟩)
  · obtain ⟨root, hroot, h⟩ := Option.bind_eq_some_iff.1 h
    obtain ⟨row, hrow, rfl⟩ := Option.map_eq_some_iff.1 h
    exact .inr (.inr ⟨root, hroot, by rw [hrow, Option.isSome_some], rfl⟩)

theorem mark_of_root (hroot : l.root = some root) (hrow : (w.rowOf root).isSome = true) :
    DeletionMark.of i l w = some (.deleted i root w) := by
  obtain ⟨row, hrow⟩ := Option.isSome_iff_exists.1 hrow
  cases l with
  | userDelete id | petDelete id => simp [DeletionMark.of, hroot, hrow]
  | _ => cases hroot

/-- What is true of a deletion of a row that is there. -/
theorem cascades_of_isSome (hroot : (w.rowOf root).isSome = true) : w.Cascades root where
  exact := World.deletes_delete hroot
  traceless := by
    intro row k hrow hgone
    have hdeletes := World.deletes_delete hroot
    refine ⟨fun hkey => ?_, fun hcites => ?_⟩
    · have hstays := hdeletes.key_ne (fun _ _ _ hp hp' => World.holds_unique hp hp') hrow hkey
      exact Bool.false_ne_true (hstays.symm.trans hgone)
    · exact Bool.false_ne_true ((hdeletes.not_cites hrow hcites).symm.trans hgone)

end Effect

end FifiAlert

namespace FifiAlert

open Concurrency Store

section Protocol

variable {ι : Type*} {others : World → World → Prop} {req : ι → DeletionRequest} {i : ι}
  {l : DeletionCall} {s : DeletionSnapshot ι} {fails : DeletionCall → Prop}

def DeletionPermits (req : ι → DeletionRequest) (i : ι) (l : DeletionCall)
    (s : DeletionSnapshot ι) : Prop :=
  ∀ root, l.root = some root → (s.state.rowOf root).isSome = true → (req i).Takes i root s.marks

/-- The deletions of the history were each one that its request may do. -/
def AllTaken (req : ι → DeletionRequest) : List (DeletionMark ι) → Prop
  | [] => True
  | .deleted i root _ :: older => (req i).Takes i root older ∧ AllTaken req older
  | _ :: older => AllTaken req older

theorem AllTaken.of_split {newer older : List (DeletionMark ι)} {root : EntityKey} {before : World}
    (h : AllTaken req (newer ++ .deleted i root before :: older)) : (req i).Takes i root older := by
  induction newer with
  | nil => exact h.1
  | cons m newer ih =>
      cases m with
      | deleted j root' before' => exact ih h.2
      | _ => exact ih h

/-- The pets that were found are still those of their owners, as were those that were deleted. -/
structure OwnersKept (req : ι → DeletionRequest) (s : DeletionSnapshot ι) : Prop where
  fresh : ∀ pet ∈ s.state.pets.rows, pet.id < s.state.nextPet
  found : ∀ i pet, .petFound i pet ∈ s.marks → s.state.PetOf pet.id pet.userId
  owned : ∀ i root before, .deleted i root before ∈ s.marks → (req i).Owns before root

structure DeletionInv (others : World → World → Prop) (req : ι → DeletionRequest)
    (s : DeletionSnapshot ι) : Prop where
  intact : s.state.Intact
  taken : AllTaken req s.marks
  cascades : ∀ i root before, .deleted i root before ∈ s.marks → before.Cascades root
  owners : (∀ w w', others w w' → KeepsOwners w w') → OwnersKept req s

/-- A pet that was found the requester's is theirs. -/
theorem OwnersKept.owns (h : OwnersKept req s) {r : DeletionRequest} {root : EntityKey}
    (htakes : r.Takes i root s.marks) : r.Owns s.state root := by
  have hown : ∀ {id userId : ℕ}, FoundOwn i id userId s.marks → root = (.pet, id) →
      ∀ pet ∈ s.state.pets.rows, root = (.pet, pet.id) → pet.userId = userId := by
    rintro _ _ ⟨found, hfound, rfl, rfl⟩ rfl pet hpet hroot
    exact (h.found i found hfound).owned pet hpet (congrArg Prod.snd hroot).symm
  cases r with
  | user id => trivial
  | pet id userId => exact hown htakes.2 htakes.1
  | listing id userId =>
      obtain ⟨listing, -, -, -, hroot, hfound⟩ := htakes
      exact hown hfound hroot

theorem OwnersKept.call (h : OwnersKept req s) (hper : DeletionPermits req i l s) :
    OwnersKept req (s.after DeletionMark.of i l l.effect) where
  fresh := fun pet hpet =>
    (h.fresh pet (mem_of_mem_pets_effect l _ pet hpet)).trans_eq (nextPet_effect l _).symm
  found := by
    intro j pet hm
    refine World.PetOf.effect ?_ l
    rcases Snapshot.mem_after.1 hm with hnew | hold
    · rcases mark_cases hnew with ⟨-, _, heq⟩ | ⟨-, _, hrow, heq⟩ | ⟨_, -, -, heq⟩ <;> cases heq
      refine ⟨h.fresh pet hrow, fun pet' hpet' hid => ?_⟩
      have hfind := Table.find?_of_mem hpet'
      rw [hid, Table.find?_of_mem hrow] at hfind
      rw [← Option.some.inj hfind]
    · exact h.found j pet hold
  owned := by
    intro j root before hm
    rcases Snapshot.mem_after.1 hm with hnew | hold
    · rcases mark_cases hnew with ⟨-, _, heq⟩ | ⟨-, _, -, heq⟩ | ⟨_, hroot, hrow, heq⟩ <;> cases heq
      exact h.owns (hper root hroot hrow)
    · exact h.owned j root before hold

theorem DeletionInv.call (h : DeletionInv others req s) (hper : DeletionPermits req i l s) :
    DeletionInv others req (s.after DeletionMark.of i l l.effect) where
  intact := intact_effect l h.intact
  taken := by
    change AllTaken req ((DeletionMark.of i l s.state).toList ++ s.marks)
    cases hmark : DeletionMark.of i l s.state with
    | none => exact h.taken
    | some m =>
        rcases mark_cases hmark with ⟨-, _, rfl⟩ | ⟨-, _, -, rfl⟩ | ⟨root, hroot, hrow, rfl⟩
        · exact h.taken
        · exact h.taken
        · exact ⟨hper root hroot hrow, h.taken⟩
  cascades := by
    intro j root before hm
    rcases Snapshot.mem_after.1 hm with hnew | hold
    · rcases mark_cases hnew with ⟨-, _, heq⟩ | ⟨-, _, -, heq⟩ | ⟨_, -, hrow, heq⟩ <;> cases heq
      exact cascades_of_isSome hrow
    · exact h.cascades j root before hold
  owners := fun hothers => (h.owners hothers).call hper

theorem OwnersKept.env {w w' : World} {marks : List (DeletionMark ι)} (hw : KeepsOwners w w')
    (h : OwnersKept req ⟨w, marks⟩) : OwnersKept req ⟨w', marks⟩ where
  fresh := hw.fresh
  found := fun i pet hm => (h.found i pet hm).kept hw
  owned := h.owned

def deletionSetting (others : World → World → Prop) (fails : DeletionCall → Prop) :
    Setting ι World DeletionCall (DeletionMark ι) where
  mark := DeletionMark.of
  env := others
  mayFail := fails
  admits := fun _ _ _ => True

/-- Others may do anything that leaves the database intact. -/
def Admissible (others : World → World → Prop) : Prop :=
  ∀ w w', others w w' → w.Intact → w'.Intact

/-- The protocol of the deletions. -/
def deletionProtocol (hothers : Admissible others) (req : ι → DeletionRequest)
    (fails : DeletionCall → Prop) : Protocol (deletionSetting (ι := ι) others fails) where
  effect := DeletionCall.effect
  permits := DeletionPermits req
  inv := DeletionInv others req
  inv_call := fun hinv hper _ => hinv.call hper
  inv_env := fun henv hinv => ⟨hothers _ _ henv hinv.intact, hinv.taken, hinv.cascades,
    fun hkeeps => (hinv.owners hkeeps).env (hkeeps _ _ henv)⟩

end Protocol

section Threads

variable {ι : Type*} {others : World → World → Prop} {hothers : Admissible others}
  {req : ι → DeletionRequest} {i : ι} {l : DeletionCall} {s : DeletionSnapshot ι}
  {fails : DeletionCall → Prop} {id userId : ℕ}

/-- The thread has deleted a row. -/
def HasDeleted (i : ι) (s : DeletionSnapshot ι) : Prop :=
  ∃ root before, .deleted i root before ∈ s.marks

theorem permits_of_root (h : l.root = none) : DeletionPermits req i l s :=
  fun _ hroot => nomatch h.symm.trans hroot

theorem lasting_hasDeleted :
    (deletionProtocol hothers req fails).Lasting i (fun _ => false) (HasDeleted i) :=
  .of_kept (fun _ _ _ _ _ _ ⟨root, before, hm⟩ => ⟨root, before, Snapshot.mem_after_of_mem hm⟩)
    fun _ _ _ _ _ h => h

/-- What a thread has found stays in the history. -/
theorem lasting_foundOwn (id userId : ℕ) :
    (deletionProtocol hothers req fails).Lasting i (fun _ => false)
      fun s => FoundOwn i id userId s.marks :=
  .of_kept (fun _ _ _ _ _ _ ⟨pet, hm, h⟩ => ⟨pet, Snapshot.mem_after_of_mem hm, h⟩)
    fun _ _ _ _ _ h => h

/-- A statement that deletes a row that the request may delete. -/
theorem safe_deleteRow {α : Type} {found : World → Option α} {root : EntityKey}
    {J : DeletionSnapshot ι → Prop} (hroot : l.root = some root)
    (hfound : ∀ w : World, (found w).isSome = (w.rowOf root).isSome)
    (hJ : (deletionProtocol hothers req fails).Lasting i (fun _ => false) J) (hs : J s)
    (htakes : ∀ s, J s → (req i).Takes i root s.marks) :
    Safe (deletionProtocol hothers req fails).contract i (OnReturn fun _ s => HasDeleted i s)
      (l.deleteRow found) s := by
  refine hJ.atomic hs rfl (fun s₁ _ _ h₁ root' hroot' _ => ?_) (fun _ => lasting_hasDeleted)
    fun a s₁ _ _ hanswer => ?_
  · obtain rfl := Option.some.inj (hroot.symm.trans hroot')
    exact htakes s₁ h₁
  · have hsome : (s₁.state.rowOf root).isSome = true := by
      rw [← hfound]
      cases hrow : found s₁.state with
      | none =>
          rw [hrow] at hanswer
          cases hanswer
      | some a => rfl
    exact ⟨root, s₁.state, Snapshot.mem_after.2 (.inl (mark_of_root hroot hsome))⟩

theorem safe_deleteUser (hreq : req i = .user id) :
    Safe (deletionProtocol hothers req fails).contract i (OnReturn fun _ s => HasDeleted i s)
      (UserService.delete id) s := by
  refine Protocol.Lasting.nothing.call_bind trivial (f := fun w => w) rfl
    (fun _ _ _ _ => permits_of_root rfl) (fun s₁ _ _ => ?_) fun _ _ _ _ => trivial
  cases s₁.state.users.find? id with
  | none => exact Safe.raise fun _ _ _ => trivial
  | some user =>
      refine safe_deleteRow rfl (fun w => ?_) .nothing trivial fun s _ => ?_
      · exact Option.isSome_map.symm
      · rw [hreq]
        exact rfl

/-- The caller finds a pet of their own, beside what their thread knows by then. -/
theorem safe_findOne {J : DeletionSnapshot ι → Prop}
    (hJ : (deletionProtocol hothers req fails).Lasting i (fun _ => false) J) (hs : J s) :
    Safe (deletionProtocol hothers req fails).contract i
      (OnReturn fun _ s => J s ∧ FoundOwn i id userId s.marks)
      ((PetService.findOne id userId).relabel DeletionCall.alert) s := by
  unfold PetService.findOne AlertCall.read
  rw [Process.relabel_bind, Process.relabel_query]
  refine hJ.kept_bind hs rfl (fun _ => permits_of_root rfl) fun s₁ _ _ hkept => ?_
  cases hpet : s₁.state.pets.find? id with
  | none => exact Safe.raise fun _ _ _ => trivial
  | some pet =>
      dsimp only
      split
      next => exact Safe.raise fun _ _ _ => trivial
      next howner =>
        have hmark : DeletionMark.of i (.alert (.petFindUnique id)) s₁.state =
            some (.petFound i pet) := by
          change (s₁.state.pets.find? id).map _ = _
          rw [hpet, Option.map_some]
        exact (hJ.and (lasting_foundOwn id userId)).ret ⟨hkept, pet,
          Snapshot.mem_after.2 (.inl hmark), Table.key_of_find? hpet, not_not.1 howner⟩
          fun _ _ h => h

theorem safe_deletePet {J : DeletionSnapshot ι → Prop}
    (hJ : (deletionProtocol hothers req fails).Lasting i (fun _ => false) J) (hs : J s)
    (htakes : ∀ s : DeletionSnapshot ι, J s ∧ FoundOwn i id userId s.marks →
      (req i).Takes i (.pet, id) s.marks) :
    Safe (deletionProtocol hothers req fails).contract i (OnReturn fun _ s => HasDeleted i s)
      (PetService.deletePet id userId) s := by
  refine Protocol.safe_onReturn_bind (safe_findOne hJ hs) fun _ s₁ _ hfound => ?_
  refine Protocol.safe_onReturn_tryCatch ?_ fun e s₂ => ?_
  · refine safe_deleteRow rfl (fun w => ?_) (hJ.and (lasting_foundOwn id userId)) hfound
      fun s h => htakes s h
    exact Option.isSome_map.trans Option.isSome_map.symm
  · split <;> exact Safe.raise fun _ _ _ => trivial

theorem safe_remove (hreq : req i = .listing id userId) :
    Safe (deletionProtocol hothers req fails).contract i (OnReturn fun _ s => HasDeleted i s)
      (AdoptionService.remove id userId) s := by
  unfold AdoptionService.remove AdoptionService.requireOwned
  rw [Process.relabel_bind, Process.relabel_query, Process.bind_assoc]
  refine Protocol.Lasting.nothing.kept_bind trivial rfl (fun _ => permits_of_root rfl)
    fun s₁ _ _ _ => ?_
  cases hfound : s₁.state.findListing id with
  | none => exact Safe.raise fun _ _ _ => trivial
  | some found =>
      unfold AdoptionService.ownedBy
      dsimp only
      split
      next => exact Safe.raise fun _ _ _ => trivial
      next howner =>
        have hmark : DeletionMark.of i (.adoption (.listingFindUnique id)) s₁.state =
            some (.listingFound i found.listing) := by
          change (s₁.state.findListing id).map _ = _
          rw [hfound, Option.map_some]
        have hmem : .listingFound i found.listing ∈ (s₁.after DeletionMark.of i
            (.adoption (.listingFindUnique id))
              (DeletionCall.adoption (.listingFindUnique id)).effect).marks :=
          Snapshot.mem_after.2 (.inl hmark)
        refine safe_deletePet (Protocol.Lasting.marked (.listingFound i found.listing)) hmem
          fun s h => ?_
        rw [hreq]
        exact ⟨found.listing, h.1, findListing_id hfound, not_not.1 howner, rfl, h.2⟩

theorem safe_deletionRequest :
    Safe (deletionProtocol hothers req fails).contract i (OnReturn fun _ s => HasDeleted i s)
      (req i).process s := by
  cases hreq : req i with
  | user id =>
      refine Protocol.safe_onReturn_bind (safe_deleteUser hreq) fun _ s₁ _ h => ?_
      exact lasting_hasDeleted.ret h fun _ _ h => h
  | pet id userId => exact safe_deletePet .nothing trivial fun s h => hreq ▸ ⟨rfl, h.2⟩
  | listing id userId => exact safe_remove hreq

end Threads

section Runs

variable {ι : Type*} [DecidableEq ι] {others : World → World → Prop} {fails : DeletionCall → Prop}
  {req : ι → DeletionRequest} {w₀ : World}

abbrev DeletionConfig (ι : Type*) := Config ι World DeletionCall AppError Unit (DeletionMark ι)

def deletionPool (w₀ : World) (req : ι → DeletionRequest) : DeletionConfig ι :=
  .init w₀ fun i => (req i).process

structure DeletionsCascade (others : World → World → Prop) (req : ι → DeletionRequest)
    (c : DeletionConfig ι) : Prop where
  intact : c.state.Intact
  takes : ∀ newer i root before older, c.marks = newer ++ .deleted i root before :: older →
    (req i).Takes i root older
  owned : (∀ w w', others w w' → KeepsOwners w w') → ∀ i root before,
    .deleted i root before ∈ c.marks → (req i).Owns before root
  cascades : ∀ i root before, .deleted i root before ∈ c.marks → before.Cascades root
  done : ∀ i, c.pool i = .ret () → ∃ root before, .deleted i root before ∈ c.marks

/-- In every interleaving the database stays intact, each deletion is of what its request has found
to be its requester's, and still is where pets keep their owners; it takes the rows that belong to
the deleted one and no others; and a request that returns has made one. -/
theorem deletions_cascade (hothers : Admissible others) (h₀ : w₀.DeletionReady)
    {c : DeletionConfig ι}
    (h : Reaches (deletionSetting others fails) (deletionPool w₀ req) c) :
    DeletionsCascade others req c := by
  have hstart : DeletionInv others req ⟨w₀, []⟩ :=
    ⟨h₀.intact, trivial, fun _ _ _ hm => absurd hm List.not_mem_nil, fun _ =>
      ⟨h₀.fresh, fun _ _ hm => absurd hm List.not_mem_nil,
        fun _ _ _ hm => absurd hm List.not_mem_nil⟩⟩
  have hsound : Sound (deletionProtocol hothers req fails).contract
      (fun i => OnReturn fun _ s => HasDeleted i s) (deletionPool w₀ req) :=
    ⟨hstart, fun _ => safe_deletionRequest⟩
  have hend := hsound.reaches h
  exact ⟨hend.1.intact, fun newer i root before older hmarks =>
      AllTaken.of_split (hmarks ▸ hend.1.taken),
    fun hkeeps => (hend.1.owners hkeeps).owned, hend.1.cascades, fun i hret => hend.result hret⟩

end Runs

section Example

/-- User 7 has a pet with an alert, on which user 8 has reported a sighting, and one that they give
away; both have devices that were told of it. -/
def ownerAndNeighbour : World where
  users := (Table.empty.insertNew { id := 7, email := "a@x.gr" }).insertNew
    { id := 8, email := "b@x.gr" }
  pets := (Table.empty.insertNew { (default : Pet) with id := 1, userId := 7 }).insertNew
    { (default : Pet) with id := 2, userId := 7 }
  nextPet := 3
  adoptionListings := Table.empty.insertNew { id := 1, petId := 2, userId := 7 }
  alerts := Table.empty.insertNew
    { (default : Alert) with id := 1, creator_id := 7, pet_id := some 1 }
  sightings := Table.empty.insertNew
    { (default : Sighting) with id := 1, alert_id := 1, reporter_id := 8 }
  devices := Table.empty.insertNew { (default : Device) with id := 1, user_id := 8 }
  auditLogs := Table.empty.insertNew
    { id := 1, eventType := .LOGIN, action := "login_success", userId := some 7 }

/-- The owner deletes a pet and a listing, then an administrator the owner. -/
def deletePetsAndOwner : Fin 3 → DeletionRequest
  | 0 => .pet 1 7
  | 1 => .listing 1 7
  | 2 => .user 7

def deletedRun : DeletionConfig (Fin 3) :=
  (deletionPool ownerAndNeighbour deletePetsAndOwner).schedule DeletionMark.of
    [2, 0, 1, 1, 1, 0, 2]

/-- Others leave the database intact, and the pets with their owners. -/
def IntactAndOwned (w w' : World) : Prop :=
  (w.Intact → w'.Intact) ∧ KeepsOwners w w'

theorem deletions_cascade_owner : DeletionsCascade IntactAndOwned deletePetsAndOwner deletedRun :=
  deletions_cascade (fun _ _ h => h.1) ⟨by decide +kernel, by decide +kernel⟩
    (Reaches.schedule (S := deletionSetting IntactAndOwned fun _ => False) (fun _ _ _ => trivial)
      _ _)

/-- Of the rows that belonged to the owner only the entry of the audit log is left, without them. -/
example : deletedRun.state.allRows.map Row.key =
    [some (.user, 8), some (.device, 1), none] := by decide +kernel

end Example

end FifiAlert
