import FifiAlert.Adoption.BoardPages

/-!
# Listings that are hidden from a requester

What a requester is shown of the board does not depend on the listings that are hidden from
them, and nothing that is done to hidden listings in between the queries of a request shows in
its answer.
-/

namespace FifiAlert

open Concurrency Store AdoptionService

/-- A requester sees the listings that are available, and their own. -/
def AdoptionListing.visibleTo (requesterId : Option ℕ) (listing : AdoptionListing) : Bool :=
  listing.status = .AVAILABLE || some listing.userId = requesterId

def BoardWorld.visible (w : BoardWorld) (requesterId : Option ℕ) : List AdoptionListing :=
  w.world.adoptionListings.rows.filter fun listing => listing.visibleTo requesterId

/-- Boards that look alike to a requester, at the same time. -/
structure SameBoard (requesterId : Option ℕ) (w w' : BoardWorld) : Prop where
  now : w'.world.now = w.world.now
  visible : w'.visible requesterId = w.visible requesterId
  pets : ∀ listing ∈ w.visible requesterId,
    w'.world.pets.find? listing.petId = w.world.pets.find? listing.petId
  created_at : ∀ listing ∈ w.visible requesterId, w'.created_at listing.id = w.created_at listing.id

theorem sameBoard_equivalence (requesterId : Option ℕ) : Equivalence (SameBoard requesterId) where
  refl := fun _ => ⟨rfl, rfl, fun _ _ => rfl, fun _ _ => rfl⟩
  symm := fun h =>
    { now := h.now.symm, visible := h.visible.symm
      pets := fun listing hmem => (h.pets listing (h.visible ▸ hmem)).symm
      created_at := fun listing hmem => (h.created_at listing (h.visible ▸ hmem)).symm }
  trans := fun h h' =>
    { now := h'.now.trans h.now, visible := h'.visible.trans h.visible
      pets := fun listing hmem =>
        (h'.pets listing (h.visible.symm ▸ hmem)).trans (h.pets listing hmem)
      created_at := fun listing hmem =>
        (h'.created_at listing (h.visible.symm ▸ hmem)).trans (h.created_at listing hmem) }

section Shown

variable {E : BoardEnv} {query : ListAdoptionsQueryDto} {w w' : BoardWorld}
  {requesterId : Option ℕ} {id : ℕ} {found : AdoptionListingWithRelations}

theorem mem_visible {listing : AdoptionListing} : listing ∈ w.visible requesterId ↔
    listing ∈ w.world.adoptionListings.rows ∧ listing.visibleTo requesterId = true :=
  List.mem_filter

theorem findListing_mem (h : w.world.findListing id = some found) :
    found.listing ∈ w.world.adoptionListings.rows := by
  obtain ⟨listing, hlisting, hpet⟩ := Option.bind_eq_some_iff.1 h
  obtain ⟨pet, -, rfl⟩ := Option.map_eq_some_iff.1 hpet
  exact Table.mem_of_find? hlisting

/-- A visible listing is found alike. -/
theorem SameBoard.findListing (h : SameBoard requesterId w w') {listing : AdoptionListing}
    (hlisting : listing ∈ w.visible requesterId) :
    w'.world.findListing listing.id = w.world.findListing listing.id := by
  have hlisting' : listing ∈ w'.visible requesterId := h.visible ▸ hlisting
  rw [findListing_of_mem (mem_visible.1 hlisting).1, findListing_of_mem (mem_visible.1 hlisting').1,
    h.pets listing hlisting]

/-- What is found and visible is found in both. -/
theorem SameBoard.findListing_eq_some (h : SameBoard requesterId w w')
    (hfind : w.world.findListing id = some found)
    (hvisible : found.listing.visibleTo requesterId = true) :
    w'.world.findListing id = some found := by
  have hmem := mem_visible.2 ⟨findListing_mem hfind, hvisible⟩
  have hsame := h.findListing hmem
  rw [findListing_id hfind] at hsame
  rw [hsame, hfind]

/-- Listings that a filter selects among the visible ones. -/
theorem filter_eq_visible {p : AdoptionListing → Bool}
    (hp : ∀ listing, p listing = true → listing.visibleTo requesterId = true) :
    w.world.adoptionListings.rows.filter p = (w.visible requesterId).filter p := by
  rw [BoardWorld.visible, List.filter_filter]
  refine List.filter_congr fun listing _ => ?_
  cases hlisting : p listing with
  | false => simp
  | true => simp [hp listing hlisting]

theorem visible_of_isListed (requesterId : Option ℕ) {now : Time}
    (h : isListed E query now found = true) :
    found.listing.visibleTo requesterId = true := by
  simp only [isListed, Bool.and_eq_true, decide_eq_true_eq] at h
  simp [AdoptionListing.visibleTo, h.1.1.1.1.1.1]

/-- The search sees the visible listings only. -/
theorem listed_eq (requesterId : Option ℕ) : listed E query w =
    ((w.visible requesterId).filterMap fun listing => w.world.findListing listing.id).filter
      (isListed E query w.world.now) := by
  unfold listed BoardWorld.visible
  rw [List.filter_filterMap, List.filter_filterMap, List.filterMap_filter]
  refine List.filterMap_congr fun listing hlisting => ?_
  cases hvisible : listing.visibleTo requesterId with
  | true => rfl
  | false =>
      rw [findListing_of_mem hlisting]
      cases w.world.pets.find? listing.petId with
      | none => rfl
      | some pet =>
          refine Option.filter_eq_none_iff.2 fun found hfound hlisted => ?_
          obtain rfl := Option.some.inj hfound
          have hshown := visible_of_isListed requesterId hlisted
          exact Bool.false_ne_true (hvisible.symm.trans hshown)

theorem SameBoard.listed (h : SameBoard requesterId w w') :
    AdoptionService.listed E query w' = AdoptionService.listed E query w := by
  rw [listed_eq requesterId, listed_eq requesterId, h.visible, h.now]
  congr 1
  exact List.filterMap_congr fun listing hlisting => h.findListing hlisting

theorem SameBoard.boardRows (h : SameBoard requesterId w w') :
    AdoptionService.boardRows E query w' = AdoptionService.boardRows E query w := by
  unfold AdoptionService.boardRows
  rw [h.listed]
  congr 1
  refine List.map_congr_left fun found hfound => ?_
  obtain ⟨hfind, hlisted⟩ := mem_listed.1 hfound
  have hmem := mem_visible.2
    ⟨findListing_mem hfind, visible_of_isListed requesterId hlisted⟩
  unfold idDistanceRow
  rw [h.created_at found.listing hmem]

end Shown

section Requests

variable {E : BoardEnv} {query : ListAdoptionsQueryDto} {w w' : BoardWorld}
  {requesterId : Option ℕ} {id userId : ℕ}

theorem SameBoard.listingsByIds (h : SameBoard requesterId w w') {rows : List IdDistanceRow}
    (hrows : ∀ row ∈ rows, row ∈ AdoptionService.boardRows E query w) :
    AdoptionService.listingsByIds (rows.map IdDistanceRow.id) w' =
      AdoptionService.listingsByIds (rows.map IdDistanceRow.id) w := by
  refine List.filterMap_congr fun id hid => ?_
  obtain ⟨row, hrow, rfl⟩ := List.mem_map.1 hid
  obtain ⟨found, hfound, rfl⟩ := List.mem_map.1 (RowOrder.mem_sort.1 (hrows row hrow))
  obtain ⟨hfind, hlisted⟩ := mem_listed.1 hfound
  exact (h.findListing_eq_some hfind (visible_of_isListed requesterId hlisted)).trans hfind.symm

theorem findAvailable_indifferent (requesterId : Option ℕ) :
    (findAvailable E query).Indifferent (SameBoard requesterId) w := by
  unfold findAvailable
  cases query.check with
  | error e => trivial
  | ok _ =>
      refine Process.indifferent_query_bind (fun w' h => ?_) ?_
      · rw [h.boardRows]
      refine Process.indifferent_query_bind (fun w' h => ?_) ?_
      · rw [h.listed]
      split
      · trivial
      · refine Process.indifferent_query_bind (fun w' h => ?_) trivial
        rw [h.listingsByIds fun row hrow => mem_of_mem_page hrow]

theorem isHidden_iff {listing : AdoptionListing} :
    (decide (listing.status ≠ .AVAILABLE) && decide (some listing.userId ≠ requesterId)) = true ↔
      listing.visibleTo requesterId = false := by
  simp [AdoptionListing.visibleTo]

/-- What is made of the listing under an id. -/
def showTo (requesterId : Option ℕ) (id : ℕ) :
    Option AdoptionListingWithRelations → BoardProcess AdoptionListingWithRelations
  | none => .raise (.notFound (notFoundMessage id))
  | some found =>
    if found.listing.visibleTo requesterId then .ret found
    else .raise (.notFound (notFoundMessage id))

theorem findOneForRequester_eq : findOneForRequester id requesterId =
    BoardCall.read (.listingFindUnique id) (fun w => w.world.findListing id) >>=
      showTo requesterId id := by
  unfold findOneForRequester
  refine congrArg _ (funext fun found => ?_)
  cases found with
  | none => rfl
  | some found =>
      unfold showTo
      dsimp only
      cases hvisible : found.listing.visibleTo requesterId with
      | false => rw [if_pos (isHidden_iff.2 hvisible), if_neg Bool.false_ne_true]
      | true =>
          rw [if_neg fun h => Bool.false_ne_true ((isHidden_iff.1 h).symm.trans hvisible),
            if_pos rfl]
          rfl

/-- A listing that is shown in one board is shown in a board that looks alike. -/
theorem SameBoard.showTo_eq (h : SameBoard requesterId w w') {found : AdoptionListingWithRelations}
    (hfind : w.world.findListing id = some found)
    (hvisible : found.listing.visibleTo requesterId = true) :
    showTo requesterId id (w'.world.findListing id) =
      showTo requesterId id (w.world.findListing id) := by
  rw [h.findListing_eq_some hfind hvisible, hfind]

/-- An id without a listing to show. -/
theorem showTo_of_hidden
    (h : ∀ found, w.world.findListing id = some found →
      found.listing.visibleTo requesterId = false) :
    showTo requesterId id (w.world.findListing id) = .raise (.notFound (notFoundMessage id)) := by
  cases hfind : w.world.findListing id with
  | none => rfl
  | some found => rw [showTo, h found hfind, if_neg Bool.false_ne_true]

theorem findOneForRequester_indifferent :
    (findOneForRequester id requesterId).Indifferent (SameBoard requesterId) w := by
  rw [findOneForRequester_eq]
  refine Process.indifferent_query_bind (fun w' h => ?_) ?_
  · by_cases hshown : ∃ found, w.world.findListing id = some found ∧
        found.listing.visibleTo requesterId = true
    · obtain ⟨found, hfind, hvisible⟩ := hshown
      exact h.showTo_eq hfind hvisible
    · have hhidden : ∀ found, w.world.findListing id = some found →
          found.listing.visibleTo requesterId = false :=
        fun found hfind => Bool.eq_false_iff.2 fun hvisible => hshown ⟨found, hfind, hvisible⟩
      have hhidden' : ∀ found, w'.world.findListing id = some found →
          found.listing.visibleTo requesterId = false := by
        refine fun found hfind => Bool.eq_false_iff.2 fun hvisible => hshown ⟨found, ?_, hvisible⟩
        exact ((sameBoard_equivalence requesterId).symm h).findListing_eq_some hfind hvisible
      rw [showTo_of_hidden hhidden, showTo_of_hidden hhidden']
  · cases w.world.findListing id with
    | none => trivial
    | some found =>
        rw [showTo]
        split <;> trivial

theorem SameBoard.ownListings (O : RowOrder) (h : SameBoard (some userId) w w') :
    AdoptionService.ownListings O userId w' = AdoptionService.ownListings O userId w := by
  have hown : ∀ listing : AdoptionListing, decide (listing.userId = userId) = true →
      listing.visibleTo (some userId) = true := by
    intro listing hlisting
    simp [AdoptionListing.visibleTo, of_decide_eq_true hlisting]
  unfold AdoptionService.ownListings Table.findMany
  rw [filter_eq_visible hown, filter_eq_visible hown, h.visible]
  have hkeys : ((w.visible (some userId)).filter fun listing => listing.userId = userId).map
      (fun listing => (w'.created_at listing.id, listing.id)) =
        ((w.visible (some userId)).filter fun listing => listing.userId = userId).map
          fun listing => (w.created_at listing.id, listing.id) := by
    refine List.map_congr_left fun listing hlisting => ?_
    rw [h.created_at listing (List.mem_of_mem_filter hlisting)]
  rw [hkeys]
  refine List.filterMap_congr fun row hrow => ?_
  obtain ⟨listing, hlisting, rfl⟩ := List.mem_map.1 (RowOrder.mem_sort.1 hrow)
  exact h.findListing (List.mem_of_mem_filter hlisting)

theorem findMine_indifferent (O : RowOrder) :
    (findMine O userId).Indifferent (SameBoard (some userId)) w :=
  ⟨fun _ h => ⟨congrArg Process.ret (h.ownListings O), h⟩, trivial⟩

end Requests

section Runs

inductive BoardRequest where
  | browse (query : ListAdoptionsQueryDto)
  | view (id : ℕ)
  | mine (userId : ℕ)

inductive BoardAnswer where
  | page (listings : PaginatedListings)
  | listing (found : AdoptionListingWithRelations)
  | mine (listings : List AdoptionListingWithRelations)
  deriving DecidableEq

/-- The process of a request; a view comes with the requester, if there is one. -/
def BoardRequest.process (E : BoardEnv) (requesterId : Option ℕ) :
    BoardRequest → BoardProcess BoardAnswer
  | browse query => BoardAnswer.page <$> findAvailable E query
  | view id => BoardAnswer.listing <$> findOneForRequester id requesterId
  | mine userId => BoardAnswer.mine <$> findMine E.rowOrder userId

/-- A requester asks for their own listings only. -/
def BoardRequest.by (requesterId : Option ℕ) : BoardRequest → Prop
  | mine userId => requesterId = some userId
  | _ => True

theorem boardRequest_indifferent {E : BoardEnv} {requesterId : Option ℕ} {w : BoardWorld}
    {req : BoardRequest} (hby : req.by requesterId) :
    (req.process E requesterId).Indifferent (SameBoard requesterId) w := by
  cases req with
  | browse query => exact (findAvailable_indifferent requesterId).map _
  | view id => exact findOneForRequester_indifferent.map _
  | mine userId =>
      obtain rfl := hby
      exact (findMine_indifferent E.rowOrder).map _

/-- Beside a request of the requester, anything may be done to the listings hidden from them. -/
def boardSetting (requesterId : Option ℕ) : Setting Unit BoardWorld BoardCall Unit where
  mark := fun _ _ _ => none
  env := SameBoard requesterId
  mayFail := fun _ => False
  admits := fun _ _ _ => True

/-- Whatever is done to hidden listings in between the queries of a request, from a board that looks
alike to the requester it is answered as on a board that nobody touches. -/
theorem hiddenListings_unseen {E : BoardEnv} {requesterId : Option ℕ} {req : BoardRequest}
    (hby : req.by requesterId) {w w₀ : BoardWorld} (hw : SameBoard requesterId w w₀)
    {c : Config Unit BoardWorld BoardCall AppError BoardAnswer Unit}
    (h : Reaches (boardSetting requesterId) (.init w₀ fun _ => req.process E requesterId) c)
    {r : Except AppError BoardAnswer} (hend : (c.pool ()).result? = some r) :
    ((req.process E requesterId).run w).1 = r := by
  have hindifferent := boardRequest_indifferent (E := E) (w := w₀) hby
  have hrun := h.answer_eq (sameBoard_equivalence requesterId) hindifferent
    (P := fun _ _ _ => True) (T := fun _ _ => True) (fun j hne => absurd rfl hne)
    (fun j _ _ _ hne => absurd rfl hne) (fun _ _ he => he) (fun _ hf => hf) hend
  rw [← hrun]
  exact hindifferent.run_eq ((sameBoard_equivalence requesterId).symm hw)

end Runs

section Withdrawn

/-- One of the two listings is withdrawn. -/
def withdrawnBoard : BoardWorld :=
  { twoListings with world := twoListings.world.setListing 2 { status := some .WITHDRAWN } }

/-- One of the two listings is gone. -/
def goneBoard : BoardWorld :=
  { twoListings with
    world := { twoListings.world with
      adoptionListings := twoListings.world.adoptionListings.deleteMany fun l => l.id = 2 } }

theorem sameBoard_withdrawn : SameBoard (some 7) withdrawnBoard goneBoard where
  now := rfl
  visible := by decide +kernel
  pets := fun _ _ => rfl
  created_at := fun _ _ => rfl

def browseOpen : BoardRequest := .browse {}

/-- User 7 browses the board, and the withdrawn listing goes after the first query. -/
def browsedRun : Config Unit BoardWorld BoardCall AppError BoardAnswer Unit :=
  { (Config.init withdrawnBoard fun _ => browseOpen.process plainBoard (some 7)).move
      (fun _ _ _ => none) () with state := goneBoard }.schedule (fun _ _ _ => none) [(), ()]

/-- The page is that of a board on which the withdrawn listing stays. -/
theorem hiddenListings_unseen_withdrawn :
    (browsedRun.pool ()).result? =
      some ((browseOpen.process plainBoard (some 7)).run withdrawnBoard).1 := by
  have hrun : Reaches (boardSetting (some 7))
      (.init withdrawnBoard fun _ => browseOpen.process plainBoard (some 7)) browsedRun :=
    (Reaches.move fun _ => trivial).trans
      ((Relation.ReflTransGen.single (.env sameBoard_withdrawn)).trans
        (Reaches.schedule (fun _ _ _ => trivial) _ _))
  obtain ⟨r, hr⟩ : ∃ r, (browsedRun.pool ()).result? = some r :=
    Option.isSome_iff_exists.1 (by decide +kernel)
  have hsame : SameBoard (some 7) withdrawnBoard withdrawnBoard :=
    (sameBoard_equivalence (some 7)).refl withdrawnBoard
  rw [hr, hiddenListings_unseen (by trivial) hsame hrun hr]

end Withdrawn

end FifiAlert
