import FifiAlert.Adoption.AdoptionBoard
import Mathlib.Algebra.Order.Ring.Rat

/-!
# Walking over the board

On a board that does not change, and on which no two listings tie, the pages put together show every
listing of the search once, in the order of the search, each with its distance; and each page knows
how many there are.
-/

namespace FifiAlert

open Concurrency Store AdoptionService

variable {E : BoardEnv} {query : ListAdoptionsQueryDto} {w : BoardWorld}

section Order

theorem boardLe_total (a b : IdDistanceRow) :
    (boardLe query a b || boardLe query b a) = true := by
  unfold boardLe
  split
  · simp only [Bool.or_eq_true, Bool.and_eq_true, decide_eq_true_eq]
    rcases lt_trichotomy (a.distance_km.getD 0) (b.distance_km.getD 0) with hlt | heq | hgt
    · exact .inl (.inl hlt)
    · rcases le_total b.created_at a.created_at with hle | hge
      · exact .inl (.inr ⟨heq, hle⟩)
      · exact .inr (.inr ⟨heq.symm, hge⟩)
    · exact .inr (.inl hgt)
  · simpa using le_total b.created_at a.created_at

theorem boardLe_trans (a b c : IdDistanceRow) (hab : boardLe query a b = true)
    (hbc : boardLe query b c = true) : boardLe query a c = true := by
  unfold boardLe at *
  split at hab
  next hplace =>
    rw [if_pos hplace] at hbc ⊢
    simp only [Bool.or_eq_true, Bool.and_eq_true, decide_eq_true_eq] at *
    rcases hab with hab | ⟨hab, hab'⟩ <;> rcases hbc with hbc | ⟨hbc, hbc'⟩
    · exact .inl (hab.trans hbc)
    · exact .inl (hbc ▸ hab)
    · exact .inl (hab ▸ hbc)
    · exact .inr ⟨hab.trans hbc, hbc'.trans hab'⟩
  next hplace =>
    rw [if_neg hplace] at hbc ⊢
    simp only [decide_eq_true_eq] at *
    exact hbc.trans hab

end Order

section Rows

theorem findListing_of_mem {world : World} {listing : AdoptionListing}
    (h : listing ∈ world.adoptionListings.rows) :
    world.findListing listing.id =
      (world.pets.find? listing.petId).map fun pet => { listing, pet } := by
  rw [World.findListing, Table.find?_of_mem h]
  rfl

theorem mem_listed {found : AdoptionListingWithRelations} :
    found ∈ listed E query w ↔
      w.world.findListing found.listing.id = some found ∧
        isListed E query w.world.now found = true := by
  unfold listed
  rw [List.mem_filter, List.mem_filterMap]
  refine and_congr_left fun _ => ⟨?_, fun h => ?_⟩
  · rintro ⟨listing, -, hfind⟩
    rw [findListing_id hfind]
    exact hfind
  · obtain ⟨listing, hlisting, hpet⟩ := Option.bind_eq_some_iff.1 h
    refine ⟨listing, Table.mem_of_find? hlisting, ?_⟩
    rw [Table.key_of_find? hlisting]
    exact h

/-- A row of the board comes from a listing that is found under its id. -/
theorem exists_of_mem_boardRows {row : IdDistanceRow} (h : row ∈ boardRows E query w) :
    ∃ found, w.world.findListing row.id = some found ∧
      row = idDistanceRow E query w.created_at found
    := by
  obtain ⟨found, hfound, rfl⟩ := List.mem_map.1 (RowOrder.mem_sort.1 h)
  exact ⟨found, (mem_listed.1 hfound).1, rfl⟩

/-- The listings of rows, each with its distance. -/
theorem distances_listingsByIds {rows : List IdDistanceRow}
    (h : ∀ row ∈ rows, row ∈ boardRows E query w) :
    rows.map (fun row => (row.id, row.distance_km)) =
      (listingsByIds (rows.map IdDistanceRow.id) w).map fun found =>
        (found.listing.id, (idDistanceRow E query w.created_at found).distance_km) := by
  induction rows with
  | nil => rfl
  | cons row rows ih =>
      obtain ⟨found, hfind, hrow⟩ := exists_of_mem_boardRows (h row List.mem_cons_self)
      have ih := ih fun row' hrow' => h row' (List.mem_cons_of_mem row hrow')
      rw [List.map_cons, ih]
      have hcons : listingsByIds ((row :: rows).map IdDistanceRow.id) w =
          found :: listingsByIds (rows.map IdDistanceRow.id) w := by
        rw [listingsByIds, List.map_cons, List.filterMap_cons_some hfind]
        rfl
      rw [hcons, List.map_cons, findListing_id hfind, ← hrow]

/-- All rows of the board lead to all listings of the search. -/
theorem listingsByIds_boardRows_perm :
    (listingsByIds ((boardRows E query w).map IdDistanceRow.id) w).Perm (listed E query w) := by
  have hrows : ((boardRows E query w).map IdDistanceRow.id).Perm
      ((listed E query w).map fun found => found.listing.id) := by
    refine ((E.rowOrder.perm _ _).map IdDistanceRow.id).trans ?_
    rw [List.map_map]
    rfl
  refine (hrows.filterMap w.world.findListing).trans ?_
  have hall : ∀ found ∈ listed E query w,
      w.world.findListing found.listing.id = some found := fun found h => (mem_listed.1 h).1
  have hsame : ((listed E query w).map fun found => found.listing.id).filterMap
      w.world.findListing = listed E query w := by
    generalize listed E query w = l at hall
    induction l with
    | nil => rfl
    | cons found l ih =>
        rw [List.map_cons, List.filterMap_cons_some (hall found List.mem_cons_self),
          ih fun found' h => hall found' (List.mem_cons_of_mem found h)]
  rw [hsame]

end Rows

section Walk

/-- The query of page `k`. -/
def ListAdoptionsQueryDto.pageOf (query : ListAdoptionsQueryDto) (limit k : ℕ) :
    ListAdoptionsQueryDto :=
  { query with limit := some limit, offset := some (k * limit) }

/-- The answer of a request for a page on a board that does not change. -/
def pageAnswer (E : BoardEnv) (query : ListAdoptionsQueryDto) (w : BoardWorld) :
    PaginatedListings where
  data := listingsByIds ((page query.pageLimit query.pageOffset (boardRows E query w)).map
    IdDistanceRow.id) w
  distances := (page query.pageLimit query.pageOffset (boardRows E query w)).map fun row =>
    (row.id, row.distance_km)
  total := (listed E query w).length
  limit := query.pageLimit
  offset := query.pageOffset

theorem run_findAvailable (hcheck : query.check = .ok ()) :
    (findAvailable E query).run w = (.ok (pageAnswer E query w), w) := by
  unfold findAvailable BoardCall.read
  rw [hcheck]
  dsimp only
  rw [Process.run_query_bind, Process.run_query_bind]
  cases hrows : page query.pageLimit query.pageOffset (boardRows E query w) with
  | nil =>
      unfold pageAnswer
      rw [hrows]
      rfl
  | cons row rows =>
      unfold pageAnswer
      rw [hrows]
      rfl

/-- No two listings of the search are in the same place of the order. -/
def NoTies (E : BoardEnv) (query : ListAdoptionsQueryDto) (w : BoardWorld) : Prop :=
  ∀ a ∈ (listed E query w).map (idDistanceRow E query w.created_at),
    ∀ b ∈ (listed E query w).map (idDistanceRow E query w.created_at),
      boardLe query a b = true → boardLe query b a = true → a = b

/-- The answers to the requests for the first pages put together the search. -/
structure WalksBoard (E : BoardEnv) (query : ListAdoptionsQueryDto) (w : BoardWorld) (limit n : ℕ)
    (pages : ℕ → PaginatedListings) : Prop where
  whole : (List.range n).flatMap (fun k => (pages k).data) =
    listingsByIds ((boardRows E query w).map IdDistanceRow.id) w
  once : ((List.range n).flatMap fun k => (pages k).data).Perm (listed E query w)
  bounded : ∀ k, (pages k).data.length ≤ limit
  total : ∀ k, (pages k).total = (listed E query w).length
  distances : ∀ k, (pages k).distances = (pages k).data.map fun found =>
    (found.listing.id, (idDistanceRow E query w.created_at found).distance_km)

/-- Each page is a query of its own, which settles ties in its own way; without ties the pages put
together are the search. -/
theorem findAvailable_walks (orders : ℕ → RowOrder) {limit n : ℕ} (hcheck : query.check = .ok ())
    (hties : NoTies E query w) (hlength : (listed E query w).length ≤ n * limit) :
    ∃ pages, WalksBoard E query w limit n pages ∧ ∀ k,
      (findAvailable { E with rowOrder := orders k } (query.pageOf limit k)).run w =
        (.ok (pages k), w) := by
  have hsame : ∀ k, boardRows { E with rowOrder := orders k } (query.pageOf limit k) w =
      boardRows E query w := fun k =>
    RowOrder.sort_eq_of_no_ties (orders k) E.rowOrder boardLe_total boardLe_trans hties
  have hdata : ∀ k, (pageAnswer { E with rowOrder := orders k } (query.pageOf limit k) w).data =
      listingsByIds (page limit (k * limit) ((boardRows E query w).map IdDistanceRow.id)) w := by
    intro k
    unfold pageAnswer
    rw [hsame, map_page]
    rfl
  have hwhole : (List.range n).flatMap (fun k =>
      (pageAnswer { E with rowOrder := orders k } (query.pageOf limit k) w).data) =
        listingsByIds ((boardRows E query w).map IdDistanceRow.id) w := by
    simp only [hdata]
    have hpages : (List.range n).flatMap (fun k =>
        page limit (k * limit) ((boardRows E query w).map IdDistanceRow.id)) =
          (boardRows E query w).map IdDistanceRow.id := by
      refine flatMap_page_of_le ?_
      rw [List.length_map, boardRows, (E.rowOrder.perm _ _).length_eq, List.length_map]
      exact hlength
    rw [← congrArg (listingsByIds · w) hpages]
    exact List.filterMap_flatMap.symm
  refine ⟨_, ⟨hwhole, ?_, fun k => ?_, fun k => rfl, fun k => ?_⟩, fun k => ?_⟩
  · rw [hwhole]
    exact listingsByIds_boardRows_perm
  · rw [hdata]
    exact (List.length_filterMap_le _ _).trans length_page_le
  · unfold pageAnswer
    rw [hsame]
    exact distances_listingsByIds fun row hrow => mem_of_mem_page hrow
  · exact run_findAvailable hcheck

end Walk

section TwoListings

/-- Two listings on the board, created one after the other. -/
def twoListings : BoardWorld where
  world :=
    { pets := (Table.empty.insertNew { (default : Pet) with id := 1, userId := 7 }).insertNew
        { (default : Pet) with id := 2, userId := 8 }
      adoptionListings := (Table.empty.insertNew
        { (default : AdoptionListing) with id := 1, petId := 1, userId := 7 }).insertNew
          { (default : AdoptionListing) with id := 2, petId := 2, userId := 8 } }
  created_at := fun id => id

def plainBoard : BoardEnv where
  ST_Distance := fun _ _ => 0
  ST_DWithin := fun _ _ _ => true
  monthsBefore := fun time months => time - months
  rowOrder := .insertion

instance : Decidable (NoTies plainBoard {} twoListings) :=
  inferInstanceAs (Decidable (∀ a ∈ _, ∀ b ∈ _, _))

/-- Two pages of one listing each. -/
theorem findAvailable_walks_two :
    ∃ pages, WalksBoard plainBoard {} twoListings 1 2 pages ∧ ∀ k,
      (findAvailable { plainBoard with rowOrder := .insertion }
        (ListAdoptionsQueryDto.pageOf {} 1 k)).run twoListings = (.ok (pages k), twoListings) :=
  findAvailable_walks (fun _ => .insertion) rfl (by decide +kernel) (by decide +kernel)

end TwoListings

end FifiAlert
