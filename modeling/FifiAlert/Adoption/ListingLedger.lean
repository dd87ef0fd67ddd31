import FifiAlert.Adoption.AdoptionService
import FifiAlert.Concurrency.Since

/-!
# What is written to an adoption listing

The history of one listing: which thread read it, and how it stood after each write of its
status. A listing is adopted for good, and has a time of adoption while it is adopted, as long as
no withdrawal and no relisting overwrites an adoption that came after its read.
-/

namespace FifiAlert

open Concurrency Store

/-- How a listing stands: its status, and when it was adopted. -/
abbrev Standing := AdoptionStatus × Option Time

def World.listingStanding (w : World) (id : ℕ) : Option Standing :=
  (w.adoptionListings.find? id).map fun listing => (listing.status, listing.adoptedAt)

/-- The time of adoption is set when the status says so, and only then. -/
def Standing.Consistent (s : Standing) : Prop := s.2.isSome = true ↔ s.1 = .ADOPTED

/-- How a listing stands after an update. -/
def AdoptionListingUpdateInput.onStanding (data : AdoptionListingUpdateInput) (s : Standing) :
    Standing :=
  (data.status.getD s.1, data.adoptedAt <|> s.2)

inductive AdoptionMark (ι : Type*) where
  | read (thread : ι)
  | wrote (thread : ι) (standing : Standing)
  deriving DecidableEq

abbrev AdoptionSnapshot (ι : Type*) := Snapshot World (AdoptionMark ι)

/-- The marks of the calls on one listing. -/
def adoptionMark {ι : Type*} (id : ℕ) (i : ι) (l : AdoptionCall) (w : World) :
    Option (AdoptionMark ι) :=
  match l with
  | .listingFindUnique id' => if id' = id then some (.read i) else none
  | .listingUpdate id' data =>
    if id' = id then (w.listingStanding id).map fun s => .wrote i (data.onStanding s) else none
  | _ => none

namespace AdoptionMark

variable {ι : Type*}

def thread : AdoptionMark ι → ι
  | read i => i
  | wrote i _ => i

def isRead [DecidableEq ι] (i : ι) : AdoptionMark ι → Bool
  | read j => j = i
  | wrote _ _ => false

/-- The listing was adopted. -/
def isAdoption : AdoptionMark ι → Bool
  | read _ => false
  | wrote _ s => s.1 = .ADOPTED

end AdoptionMark

theorem thread_adoptionMark {ι : Type*} {id : ℕ} {i : ι} {l : AdoptionCall} {w : World}
    {m : AdoptionMark ι} (h : adoptionMark id i l w = some m) : m.thread = i := by
  unfold adoptionMark at h
  split at h
  · obtain ⟨-, h⟩ := Option.ite_none_right_eq_some.1 h
    cases h
    rfl
  · obtain ⟨-, h⟩ := Option.ite_none_right_eq_some.1 h
    obtain ⟨s, -, rfl⟩ := Option.map_eq_some_iff.1 h
    rfl
  · cases h

/-- How the listing stood in the course of the history, the last first. -/
def stood {ι : Type*} (first : Standing) : List (AdoptionMark ι) → List Standing
  | [] => [first]
  | .read _ :: marks => stood first marks
  | .wrote _ s :: marks => s :: stood first marks

/-- The life cycle of a listing: it is always consistent, and once it is adopted it stays so. -/
structure KeepsLifeCycle {ι : Type*} (first : Standing) (marks : List (AdoptionMark ι)) : Prop where
  consistent : ∀ s ∈ stood first marks, s.Consistent
  final : (stood first marks).Pairwise fun later earlier =>
    earlier.1 = .ADOPTED → later.1 = .ADOPTED

/-- No withdrawal and no relisting was overtaken: between its read and its write the listing was
not adopted. -/
def NoneOvertaken {ι : Type*} [DecidableEq ι] : List (AdoptionMark ι) → Prop
  | [] => True
  | .read _ :: marks => NoneOvertaken marks
  | .wrote i s :: marks =>
    (s.1 ≠ .ADOPTED → quietSince (AdoptionMark.isRead i) AdoptionMark.isAdoption marks = true) ∧
      NoneOvertaken marks

instance decidableNoneOvertaken {ι : Type*} [DecidableEq ι] :
    (marks : List (AdoptionMark ι)) → Decidable (NoneOvertaken marks)
  | [] => inferInstanceAs (Decidable True)
  | .read _ :: marks => decidableNoneOvertaken marks
  | .wrote _ _ :: marks =>
    @instDecidableAnd _ _ inferInstance (decidableNoneOvertaken marks)

section History

variable {ι : Type*} {i : ι} {first standing : Standing} {marks new : List (AdoptionMark ι)}
  {s : Standing}

theorem stood_suffix (h : marks <:+ new) : stood first marks <:+ stood first new := by
  obtain ⟨added, rfl⟩ := h
  induction added with
  | nil => exact List.suffix_refl _
  | cons m added ih =>
      cases m with
      | read j => exact ih
      | wrote j s => exact ih.trans (List.suffix_cons s _)

theorem mem_stood {m : AdoptionMark ι} (hm : m ∈ marks) (hadopted : m.isAdoption = true) :
    ∃ s ∈ stood first marks, s.1 = .ADOPTED := by
  induction marks with
  | nil => cases hm
  | cons m' marks ih =>
      rcases List.mem_cons.1 hm with rfl | hm
      · cases m with
        | read j => cases hadopted
        | wrote j s => exact ⟨s, List.mem_cons_self, of_decide_eq_true hadopted⟩
      · obtain ⟨s, hs, hstatus⟩ := ih hm
        exact ⟨s, (stood_suffix (List.suffix_cons m' marks)).subset hs, hstatus⟩

theorem keepsLifeCycle_read :
    KeepsLifeCycle first (.read i :: marks) ↔ KeepsLifeCycle first marks :=
  ⟨fun h => ⟨h.consistent, h.final⟩, fun h => ⟨h.consistent, h.final⟩⟩

theorem keepsLifeCycle_wrote :
    KeepsLifeCycle first (.wrote i s :: marks) ↔
      s.Consistent ∧ (∀ earlier ∈ stood first marks, earlier.1 = .ADOPTED → s.1 = .ADOPTED) ∧
        KeepsLifeCycle first marks := by
  constructor
  · rintro ⟨hcons, hfinal⟩
    obtain ⟨hhead, htail⟩ := List.pairwise_cons.1 hfinal
    exact ⟨hcons s List.mem_cons_self, hhead, fun s' hs' => hcons s' (List.mem_cons_of_mem _ hs'),
      htail⟩
  · rintro ⟨hs, hhead, hrest⟩
    exact ⟨List.forall_mem_cons.2 ⟨hs, hrest.consistent⟩, List.pairwise_cons.2 ⟨hhead, hrest.final⟩⟩

/-- Whatever came before the last standing of a life cycle, adopted or not, shows in it. -/
theorem KeepsLifeCycle.last (h : KeepsLifeCycle first marks)
    (hlast : (stood first marks).head? = some standing) (hs : s ∈ stood first marks)
    (hadopted : s.1 = .ADOPTED) : standing.1 = .ADOPTED := by
  have hfinal := h.final
  generalize stood first marks = l at hlast hs hfinal
  cases l with
  | nil => cases hlast
  | cons s' l =>
      cases hlast
      rcases List.mem_cons.1 hs with rfl | hs
      · exact hadopted
      · exact (List.pairwise_cons.1 hfinal).1 s hs hadopted

end History

end FifiAlert
