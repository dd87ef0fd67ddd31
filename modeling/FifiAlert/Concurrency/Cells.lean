import FifiAlert.Concurrency.Since

/-!
# Cells that are read and later rewritten

A cell is a part of the shared state that a thread reads, and that it writes later from what it
read. The write undoes what others wrote in between. The history says who read and who wrote which
cells; what a thread has read of a cell it knows until somebody writes the cell.
-/

namespace Concurrency

/-- The notable calls: a thread read some cells, or it wrote some. -/
inductive CellMark (ι κ : Type*) where
  | read (thread : ι) (cells : List κ)
  | wrote (thread : ι) (cells : List κ)

namespace CellMark

variable {ι κ : Type*}

def thread : CellMark ι κ → ι
  | read i _ => i
  | wrote i _ => i

variable [DecidableEq ι] [DecidableEq κ] {i : ι} {k : κ}

/-- The thread read the cell. -/
def isRead (i : ι) (k : κ) : CellMark ι κ → Bool
  | read j cells => j = i && cells.contains k
  | wrote _ _ => false

/-- Somebody wrote the cell. -/
def isWrite (k : κ) : CellMark ι κ → Bool
  | read _ _ => false
  | wrote _ cells => cells.contains k

theorem thread_of_isRead {m : CellMark ι κ} (h : isRead i k m = true) : m.thread = i := by
  cases m with
  | read j cells => exact of_decide_eq_true (Bool.and_eq_true_iff.1 h).1
  | wrote j cells => cases h

end CellMark

section Cells

variable {ι κ σ ℓ : Type*} [DecidableEq ι] [DecidableEq κ] {i : ι} {k : κ} {K : σ → Prop}

/-- Nobody wrote the cell since the thread read it. -/
def Unwritten (i : ι) (k : κ) (marks : List (CellMark ι κ)) : Prop :=
  quietSince (CellMark.isRead i k) (CellMark.isWrite k) marks = true

instance (i : ι) (k : κ) (marks : List (CellMark ι κ)) : Decidable (Unwritten i k marks) :=
  inferInstanceAs (Decidable (_ = true))

/-- What the thread has read of the cell holds unless somebody wrote the cell since. -/
def ReadAs (i : ι) (k : κ) (K : σ → Prop) (s : Snapshot σ (CellMark ι κ)) : Prop :=
  Unwritten i k s.marks → K s.state

theorem ReadAs.of {s : Snapshot σ (CellMark ι κ)} (h : K s.state) : ReadAs i k K s :=
  fun _ => h

variable {S : Setting ι σ ℓ (CellMark ι κ)} {P : Protocol S}

/-- It lasts until the thread reads the cell again, when only writes of the cell take it away. -/
theorem Protocol.Lasting.readAs
    (hthread : ∀ j l w m, S.mark j l w = some m → m.thread = j)
    (hcall : ∀ j l s, P.permits j l s → S.admits j l s →
      (∀ m, S.mark j l s.state = some m → m.isWrite k = false) → K s.state →
        K (P.effect l s.state))
    (henv : ∀ w w', S.env w w' → K w → K w') :
    P.Lasting i (CellMark.isRead i k) (ReadAs i k K) :=
  .known (fun j l s _ hper hadm hquiet hK => hcall j l s hper hadm hquiet hK)
    (fun w w' _ _ h hK => henv w w' h hK)
    fun j l w m hm h => (hthread j l w m hm).symm.trans (CellMark.thread_of_isRead h)

end Cells

end Concurrency
