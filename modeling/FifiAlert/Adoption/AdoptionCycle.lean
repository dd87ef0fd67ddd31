import FifiAlert.Adoption.ListingLedger

/-!
# Adopted listings stay adopted while nobody is overtaken

The three changes of an adoption listing, in any number and any interleaving and with any calls
failing. Each reads the status, checks it, and then writes without looking again. The life cycle
of the listing is kept if and only if no withdrawal and no relisting is overtaken by an adoption
(`adoptionLifeCycle_kept_iff`).
-/

namespace FifiAlert

open Concurrency Store AdoptionService

/-- What the calls of the three changes do. -/
def AdoptionCall.onListings : AdoptionCall → World → World
  | listingUpdate id data, w => w.setListing id data
  | _, w => w

theorem listingStanding_setListing (w : World) (id id' : ℕ) (data : AdoptionListingUpdateInput) :
    (w.setListing id' data).listingStanding id =
      if id' = id then (w.listingStanding id).map data.onStanding else w.listingStanding id := by
  unfold World.setListing World.listingStanding
  rw [Table.find?_updateMany_ite]
  by_cases heq : id' = id
  · rw [if_pos heq.symm, if_pos heq, Option.map_map, Option.map_map]
    rfl
  · rw [if_neg (Ne.symm heq), if_neg heq]

/-- A call writes to the listing, or leaves it as it stands. -/
theorem adoption_cases {ι : Type*} (id : ℕ) (i : ι) (l : AdoptionCall) (w : World) :
    (∃ data s, l = .listingUpdate id data ∧ w.listingStanding id = some s ∧
      adoptionMark id i l w = some (.wrote i (data.onStanding s)) ∧
      (l.onListings w).listingStanding id = some (data.onStanding s)) ∨
    ((∀ m, adoptionMark id i l w = some m → m = .read i) ∧
      (l.onListings w).listingStanding id = w.listingStanding id) := by
  cases l with
  | listingFindUnique id' =>
      refine .inr ⟨fun m hm => ?_, rfl⟩
      exact (Option.some.inj (Option.ite_none_right_eq_some.1 hm).2).symm
  | listingUpdate id' data =>
      by_cases hid : id' = id
      · subst hid
        cases hstands : w.listingStanding id' with
        | none =>
            refine .inr ⟨fun m hm => ?_, ?_⟩
            · simp [adoptionMark, hstands] at hm
            · simp [AdoptionCall.onListings, listingStanding_setListing, hstands]
        | some s =>
            refine .inl ⟨data, s, rfl, rfl, ?_, ?_⟩
            · simp [adoptionMark, hstands]
            · simp [AdoptionCall.onListings, listingStanding_setListing, hstands]
      · refine .inr ⟨fun m hm => ?_, ?_⟩
        · simp [adoptionMark, hid] at hm
        · simp [AdoptionCall.onListings, listingStanding_setListing, hid]
  | _ => exact .inr ⟨nofun, rfl⟩

section Ledger

variable {ι : Type*} [DecidableEq ι] {id : ℕ} {first : Standing}

/-- The invariant of the history of a listing. -/
structure ListingLedger (id : ℕ) (first : Standing) (s : AdoptionSnapshot ι) : Prop where
  stands : ∀ standing, s.state.listingStanding id = some standing →
    (stood first s.marks).head? = some standing
  kept_iff : KeepsLifeCycle first s.marks ↔ NoneOvertaken s.marks

/-- The listing is not adopted. -/
def NotAdopted (id : ℕ) (w : World) : Prop :=
  ∀ s, w.listingStanding id = some s → s.1 ≠ .ADOPTED

/-- The thread has read the listing, and then it was not adopted. -/
def ReadOpen (id : ℕ) (i : ι) (s : AdoptionSnapshot ι) : Prop :=
  AdoptionMark.read i ∈ s.marks ∧
    KnownSince (AdoptionMark.isRead i) AdoptionMark.isAdoption (NotAdopted id) s

/-- A write adopts the listing at some time, or it gives it another status, and then its thread
has read the listing before. -/
def MayRewrite (id : ℕ) (i : ι) (l : AdoptionCall) (s : AdoptionSnapshot ι) : Prop :=
  ∀ data, l = .listingUpdate id data →
    (∃ date, data = { status := some .ADOPTED, adoptedAt := some date }) ∨
    ∃ status, status ≠ .ADOPTED ∧ data = { status := some status } ∧ ReadOpen id i s

theorem mayRewrite_of_ne {i : ι} {l : AdoptionCall} {s : AdoptionSnapshot ι}
    (h : ∀ data, l ≠ .listingUpdate id data) : MayRewrite id i l s :=
  fun data hl => absurd hl (h data)

variable {i : ι} {w w' : World} {marks : List (AdoptionMark ι)} {s : AdoptionSnapshot ι}
  {standing : Standing}

theorem ListingLedger.init (h : w.listingStanding id = some first) (hfirst : first.Consistent) :
    ListingLedger (ι := ι) id first ⟨w, []⟩ where
  stands := fun standing hs => by
    rw [h] at hs
    exact hs
  kept_iff := by
    refine iff_of_true ⟨fun s hs => ?_, List.pairwise_singleton _ _⟩ trivial
    rw [List.mem_singleton.1 hs]
    exact hfirst

theorem ListingLedger.silent (added : Option (AdoptionMark ι))
    (h : ListingLedger id first ⟨w, marks⟩) (hadded : ∀ m, added = some m → ∃ j, m = .read j)
    (hstands : w'.listingStanding id = w.listingStanding id ∨ w'.listingStanding id = none) :
    ListingLedger id first ⟨w', added.toList ++ marks⟩ := by
  have hkept : ∀ standing, w'.listingStanding id = some standing →
      (stood first marks).head? = some standing := by
    intro standing hs
    rcases hstands with heq | hnone
    · exact h.stands standing (heq.symm.trans hs)
    · rw [hnone] at hs
      cases hs
  cases added with
  | none => exact ⟨hkept, h.kept_iff⟩
  | some m =>
      obtain ⟨j, rfl⟩ := hadded m rfl
      exact ⟨hkept, keepsLifeCycle_read.trans h.kept_iff⟩

theorem ListingLedger.adopted {date : Time} (h : ListingLedger id first ⟨w, marks⟩)
    (hstands : w'.listingStanding id = some (.ADOPTED, some date)) :
    ListingLedger id first ⟨w', .wrote i (.ADOPTED, some date) :: marks⟩ where
  stands := fun standing hs => hstands.symm.trans hs
  kept_iff := by
    rw [keepsLifeCycle_wrote, h.kept_iff]
    constructor
    · exact fun hk => ⟨fun hne => absurd rfl hne, hk.2.2⟩
    · exact fun hk => ⟨iff_of_true rfl rfl, fun _ _ _ => rfl, hk.2⟩

/-- A write over another status keeps the life cycle if and only if the listing was not adopted
since it was read. -/
theorem ListingLedger.reopened {status : AdoptionStatus} (h : ListingLedger id first ⟨w, marks⟩)
    (hs : w.listingStanding id = some standing) (hstatus : status ≠ .ADOPTED)
    (hread : ReadOpen id i ⟨w, marks⟩)
    (hstands : w'.listingStanding id = some (status, standing.2)) :
    ListingLedger id first ⟨w', .wrote i (status, standing.2) :: marks⟩ where
  stands := fun _ hs' => hstands.symm.trans hs'
  kept_iff := by
    have hlast := h.stands standing hs
    rw [keepsLifeCycle_wrote]
    constructor
    · rintro ⟨-, hearlier, hrest⟩
      refine ⟨fun _ => quietSince_of_never hread.1 (by simp [AdoptionMark.isRead]) fun m hm => ?_,
        h.kept_iff.1 hrest⟩
      rw [Bool.eq_false_iff]
      intro hadopted
      obtain ⟨s, hmem, hs⟩ : ∃ s ∈ stood first marks, s.1 = .ADOPTED := mem_stood hm hadopted
      exact hstatus (hearlier s hmem hs)
    · rintro ⟨hquiet, hrest⟩
      have hkept := h.kept_iff.2 hrest
      have hopen : standing.1 ≠ .ADOPTED := hread.2 (hquiet hstatus) standing hs
      have hmem : standing ∈ stood first marks := List.mem_of_head? hlast
      refine ⟨?_, fun s hmem' hadopted => absurd (hkept.last hlast hmem' hadopted) hopen, hkept⟩
      exact iff_of_false (fun hset => hopen ((hkept.consistent standing hmem).1 hset)) hstatus

theorem ListingLedger.call {l : AdoptionCall} (h : ListingLedger id first s)
    (hmay : MayRewrite id i l s) :
    ListingLedger id first (s.after (adoptionMark id) i l l.onListings) := by
  rcases adoption_cases id i l s.state with ⟨data, standing, hl, hs, hmark, hstands⟩ |
    ⟨hsilent, hstands⟩
  · unfold Snapshot.after
    rw [hmark]
    rcases hmay data hl with ⟨date, rfl⟩ | ⟨status, hstatus, rfl, hread⟩
    · exact h.adopted hstands
    · exact h.reopened hs hstatus hread hstands
  · exact h.silent _ (fun m hm => ⟨i, hsilent m hm⟩) (.inl hstands)

end Ledger

section Protocol

variable {ι : Type*} [DecidableEq ι]

/-- The surroundings: the listing is left as it stands, or deleted. -/
def adoptionSetting {ι : Type*} (id : ℕ) (fails : AdoptionCall → Prop) :
    Setting ι World AdoptionCall (AdoptionMark ι) where
  mark := adoptionMark id
  env := fun w w' => w'.listingStanding id = w.listingStanding id ∨ w'.listingStanding id = none
  mayFail := fails
  admits := fun _ _ _ => True

/-- The protocol of the changes of a listing. -/
def adoptionProtocol (id : ℕ) (first : Standing) (fails : AdoptionCall → Prop) :
    Protocol (adoptionSetting (ι := ι) id fails) where
  effect := AdoptionCall.onListings
  permits := MayRewrite id
  inv := ListingLedger id first
  inv_call := fun hinv hper _ => hinv.call hper
  inv_env := fun henv hinv => hinv.silent none nofun henv

variable {id : ℕ} {first : Standing} {fails : AdoptionCall → Prop} {i : ι}

/-- A thread that has read an open listing knows it is not adopted until an adoption is
written. -/
theorem lasting_readOpen :
    (adoptionProtocol id first fails).Lasting i (fun m => false || AdoptionMark.isRead i m)
      (ReadOpen id i) := by
  refine Protocol.Lasting.and (.of_kept (fun _ _ _ _ _ _ h => Snapshot.mem_after_of_mem h)
    fun _ _ _ _ _ h => h) (.known ?_ ?_ ?_)
  · intro j l s _ _ _ hgood hopen
    rcases adoption_cases id j l s.state with ⟨data, standing, -, -, hmark, hstands⟩ | ⟨-, hstands⟩
    · intro s' hs'
      change (l.onListings s.state).listingStanding id = some s' at hs'
      cases hstands.symm.trans hs'
      simpa [AdoptionMark.isAdoption] using hgood _ hmark
    · intro s' hs'
      change (l.onListings s.state).listingStanding id = some s' at hs'
      exact hopen s' (hstands.symm.trans hs')
  · intro w w' m _ henv hopen s' hs'
    rcases henv with heq | hnone
    · exact hopen s' (heq.symm.trans hs')
    · rw [hnone] at hs'
      cases hs'
  · intro j l w m hm hask
    have hthread := thread_adoptionMark hm
    cases m with
    | read j' => exact hthread.symm.trans (of_decide_eq_true hask)
    | wrote j' s => cases hask

end Protocol

section Threads

/-- A change of a listing. -/
inductive CycleRequest where
  | markAdopted (id userId : ℕ)
  | withdraw (id userId : ℕ)
  | relist (id userId : ℕ)

def CycleRequest.process : CycleRequest → AdoptionProcess AdoptionListingWithRelations
  | markAdopted id userId => AdoptionService.markAdopted id userId
  | withdraw id userId => AdoptionService.withdraw id userId
  | relist id userId => AdoptionService.relist id userId

variable {ι : Type*} [DecidableEq ι] {id id' : ℕ} {first : Standing}
  {fails : AdoptionCall → Prop} {i : ι} {s : AdoptionSnapshot ι} {α : Type}

/-- What a thread knows that has read a listing in this status. -/
def HasReadListing (id id' : ℕ) (i : ι) (status : AdoptionStatus) (s : AdoptionSnapshot ι) : Prop :=
  id' = id → status ≠ .ADOPTED → ReadOpen id i s

theorem lasting_hasReadListing (status : AdoptionStatus) :
    (adoptionProtocol id first fails).Lasting i (fun m => false || AdoptionMark.isRead i m)
      (HasReadListing id id' i status) :=
  .imp (.imp lasting_readOpen)

/-- The read at the start of every change. -/
theorem safe_requireOwned {userId : ℕ}
    {k : AdoptionListingWithRelations → AdoptionProcess α}
    (hk : ∀ found s₁, HasReadListing id id' i found.listing.status s₁ →
      Safe (adoptionProtocol id first fails).contract i (fun _ _ => True) (k found) s₁) :
    Safe (adoptionProtocol id first fails).contract i (fun _ _ => True)
      (requireOwned id' userId >>= k) s := by
  unfold requireOwned
  rw [Process.bind_assoc]
  refine Protocol.Lasting.nothing.call_bind trivial rfl
    (fun _ _ _ _ => mayRewrite_of_ne fun _ => nofun) (fun s₁ _ _ => ?_) fun _ _ _ _ => trivial
  cases hfound : s₁.state.findListing id' with
  | none => exact Safe.raise fun _ _ _ => trivial
  | some found =>
      unfold ownedBy
      dsimp only
      split
      · exact Safe.raise fun _ _ _ => trivial
      · refine hk found _ fun hid hopen => ⟨Snapshot.mem_after.2 (.inl (if_pos hid)), .of ?_⟩
        subst hid
        obtain ⟨listing, hlisting, hpair⟩ := Option.bind_eq_some_iff.1 hfound
        obtain ⟨pet, -, rfl⟩ := Option.map_eq_some_iff.1 hpair
        intro standing hs
        change s₁.state.listingStanding id' = some standing at hs
        rw [World.listingStanding, hlisting] at hs
        cases hs
        exact hopen

theorem safe_listingUpdate {status : AdoptionStatus} {data : AdoptionListingUpdateInput}
    (hs : HasReadListing id id' i status s)
    (hper : ∀ s₁, HasReadListing id id' i status s₁ →
      MayRewrite id i (.listingUpdate id' data) s₁) :
    Safe (adoptionProtocol id first fails).contract i (fun _ _ => True) (listingUpdate id' data)
      s := by
  refine Protocol.safe_call rfl fun s₁ hr _ => ⟨fun _ => ⟨?_, fun _ => ?_⟩, fun _ => ?_⟩
  · exact hper s₁ ((lasting_hasReadListing status).stable hs hr)
  · dsimp only
    split <;> exact fun _ _ _ => trivial
  · exact fun _ _ _ => trivial

theorem safe_markAdopted (userId : ℕ) :
    Safe (adoptionProtocol id first fails).contract i (fun _ _ => True)
      (AdoptionService.markAdopted id' userId) s := by
  refine safe_requireOwned fun found s₁ hs₁ => ?_
  split
  · exact Safe.raise fun _ _ _ => trivial
  · refine (lasting_hasReadListing found.listing.status).call_bind hs₁ rfl
      (fun _ _ _ _ => mayRewrite_of_ne fun _ => nofun) (fun s₂ _ hs₂ => ?_)
      fun _ _ _ _ => trivial
    refine safe_listingUpdate (s := s₂.after _ i _ _) hs₂ fun s₃ _ data hdata => ?_
    cases hdata
    exact .inl ⟨_, rfl⟩

/-- A withdrawal or a relisting, after the check of the status. -/
theorem safe_reopen {status new : AdoptionStatus} (hs : HasReadListing id id' i status s)
    (hstatus : status ≠ .ADOPTED) (hnew : new ≠ .ADOPTED) :
    Safe (adoptionProtocol id first fails).contract i (fun _ _ => True)
      (listingUpdate id' { status := some new }) s := by
  refine safe_listingUpdate hs fun s₁ hs₁ data hdata => ?_
  cases hdata
  exact .inr ⟨new, hnew, rfl, hs₁ rfl hstatus⟩

theorem safe_withdraw (userId : ℕ) :
    Safe (adoptionProtocol id first fails).contract i (fun _ _ => True)
      (AdoptionService.withdraw id' userId) s := by
  refine safe_requireOwned fun found s₁ hs₁ => ?_
  split
  next => exact Safe.raise fun _ _ _ => trivial
  next havailable =>
      have hstatus : found.listing.status = .AVAILABLE := not_not.1 havailable
      exact safe_reopen hs₁ (by rw [hstatus]; nofun) nofun

theorem safe_relist (userId : ℕ) :
    Safe (adoptionProtocol id first fails).contract i (fun _ _ => True)
      (AdoptionService.relist id' userId) s := by
  refine safe_requireOwned fun found s₁ hs₁ => ?_
  split
  next => exact Safe.raise fun _ _ _ => trivial
  next hwithdrawn =>
      have hstatus : found.listing.status = .WITHDRAWN := not_not.1 hwithdrawn
      exact safe_reopen hs₁ (by rw [hstatus]; nofun) nofun

theorem safe_cycleRequest (request : CycleRequest) :
    Safe (adoptionProtocol id first fails).contract i (fun _ _ => True) request.process s := by
  cases request with
  | markAdopted id' userId => exact safe_markAdopted userId
  | withdraw id' userId => exact safe_withdraw userId
  | relist id' userId => exact safe_relist userId

end Threads

/-- In every run of the changes of a listing: its life cycle is kept if and only if no withdrawal
and no relisting was overtaken. Then from one state of the run to a later one an adopted listing
stays adopted, and in both the time of adoption is set if and only if it is adopted. -/
theorem adoptionLifeCycle_kept_iff {ι : Type*} [DecidableEq ι] (fails : AdoptionCall → Prop)
    (w₀ : World) (id : ℕ) (first : Standing) (h₀ : w₀.listingStanding id = some first)
    (hfirst : first.Consistent) (requests : ι → CycleRequest)
    {c c' : Config ι World AdoptionCall AppError AdoptionListingWithRelations (AdoptionMark ι)}
    (h : Reaches (adoptionSetting id fails) (Config.init w₀ fun i => (requests i).process) c)
    (h' : Reaches (adoptionSetting id fails) c c') :
    (KeepsLifeCycle first c'.marks ↔ NoneOvertaken c'.marks) ∧
      ∀ s s', c.state.listingStanding id = some s → c'.state.listingStanding id = some s' →
        s ∈ stood first c'.marks ∧ s' ∈ stood first c'.marks ∧
        (NoneOvertaken c'.marks →
          s.Consistent ∧ s'.Consistent ∧ (s.1 = .ADOPTED → s'.1 = .ADOPTED)) := by
  have hsound : Sound (adoptionProtocol id first fails).contract (fun _ _ _ => True)
      (Config.init w₀ fun i => (requests i).process) :=
    ⟨ListingLedger.init h₀ hfirst, fun i => safe_cycleRequest (requests i)⟩
  have hc := hsound.reaches h
  have hledger : ListingLedger id first c.toSnapshot := hc.1
  have hledger' : ListingLedger id first c'.toSnapshot := (hc.reaches h').1
  refine ⟨hledger'.kept_iff, fun s s' hs hs' => ?_⟩
  have hmem : s ∈ stood first c'.marks :=
    (stood_suffix h'.marks_suffix).subset (List.mem_of_head? (hledger.stands s hs))
  have hlast := hledger'.stands s' hs'
  have hmem' : s' ∈ stood first c'.marks := List.mem_of_head? hlast
  refine ⟨hmem, hmem', fun hnone => ?_⟩
  have hkept := hledger'.kept_iff.2 hnone
  exact ⟨hkept.consistent s hmem, hkept.consistent s' hmem', fun hadopted =>
    hkept.last hlast hmem hadopted⟩

section Runs

/-- A pet that its owner offers for adoption. -/
def listedWorld : World where
  pets := Table.empty.insertNew { id := 1, userId := 1 }
  adoptionListings := Table.empty.insertNew { id := 1, petId := 1, userId := 1 }

def cyclePool {n : ℕ} (requests : Fin n → CycleRequest) :
    Config (Fin n) World AdoptionCall AppError AdoptionListingWithRelations
      (AdoptionMark (Fin n)) :=
  Config.init listedWorld fun i => (requests i).process

theorem listingStanding_listedWorld : listedWorld.listingStanding 1 = some (.AVAILABLE, none) := by
  decide +kernel

/-- The listing is withdrawn, listed again and adopted. -/
def wholeCycle (i : Fin 3) : CycleRequest :=
  match i with
  | 0 => .withdraw 1 1
  | 1 => .relist 1 1
  | 2 => .markAdopted 1 1

theorem adoptionLifeCycle_kept_inTurn :
    KeepsLifeCycle (.AVAILABLE, none)
      ((cyclePool wholeCycle).schedule (adoptionMark 1) [0, 0, 1, 1, 2, 2, 2]).marks := by
  have hreach : Reaches (adoptionSetting 1 fun _ => False) (cyclePool wholeCycle)
      ((cyclePool wholeCycle).schedule (adoptionMark 1) [0, 0, 1, 1, 2, 2, 2]) :=
    Reaches.schedule (fun _ _ _ => trivial) _ _
  have hiff := adoptionLifeCycle_kept_iff (fun _ => False) listedWorld 1 (.AVAILABLE, none)
    listingStanding_listedWorld (by simp [Standing.Consistent]) wholeCycle hreach .refl
  exact hiff.1.2 (by decide +kernel)

/-- The listing is adopted and withdrawn at once. -/
def racingChanges (i : Fin 2) : CycleRequest :=
  match i with
  | 0 => .markAdopted 1 1
  | 1 => .withdraw 1 1

/-- The withdrawal has read the listing before it is adopted, and overwrites the adoption. -/
theorem adoptionLifeCycle_lost :
    ∃ c c', Reaches (adoptionSetting 1 fun _ => False) (cyclePool racingChanges) c ∧
      Reaches (adoptionSetting 1 fun _ => False) c c' ∧
      c.state.listingStanding 1 = some (.ADOPTED, some 0) ∧
      c'.state.listingStanding 1 = some (.WITHDRAWN, some 0) := by
  refine ⟨(cyclePool racingChanges).schedule (adoptionMark 1) [0, 1, 0, 0],
    ((cyclePool racingChanges).schedule (adoptionMark 1) [0, 1, 0, 0]).schedule (adoptionMark 1)
      [1], Reaches.schedule (fun _ _ _ => trivial) _ _,
    Reaches.schedule (fun _ _ _ => trivial) _ _, by decide +kernel, by decide +kernel⟩

end Runs

end FifiAlert
