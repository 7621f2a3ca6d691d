/-
Module: SorobanUpgrades.Library.Worklist
Purpose: Graph search with a list of pending nodes: what every turn preserves, and
  what an empty list says about reachability.
Trusted boundary: none
Main exports: Explores, Explores.skip, Explores.enter, Explores.done_iff
-/
import Mathlib

namespace SorobanUpgrades

open Relation (ReflTransGen)

variable {α : Type} {edge : α → α → Prop} {start node : α} {pending successors : List α}
  {done : Set α}

/-- A search from `start` that has left the nodes `done` behind. The pending list may
hold a node several times, and also one that is done. -/
structure Explores (edge : α → α → Prop) (start : α) (pending : List α) (done : Set α) :
    Prop where
  started : start ∈ done ∨ start ∈ pending
  doneReached : ∀ node ∈ done, ReflTransGen edge start node
  pendingReached : ∀ node ∈ pending, ReflTransGen edge start node
  closed : ∀ node ∈ done, ∀ next, edge node next → next ∈ done ∨ next ∈ pending

namespace Explores

theorem initial : Explores edge start [start] ∅ where
  started := Or.inr List.mem_cons_self
  doneReached := by
    intro node impossible
    cases impossible
  pendingReached := by
    intro node listed
    rw [List.mem_singleton.1 listed]
  closed := by
    intro node impossible
    cases impossible

/-- A node that is done may be dropped. -/
theorem skip (explores : Explores edge start (node :: pending) done) (known : node ∈ done) :
    Explores edge start pending done where
  started := by
    rcases explores.started with before | listed
    · exact Or.inl before
    · rcases List.mem_cons.1 listed with rfl | later
      · exact Or.inl known
      · exact Or.inr later
  doneReached := explores.doneReached
  pendingReached := fun other listed =>
    explores.pendingReached other (List.mem_cons_of_mem _ listed)
  closed := by
    intro other finished next follows
    rcases explores.closed other finished next follows with before | listed
    · exact Or.inl before
    · rcases List.mem_cons.1 listed with rfl | later
      · exact Or.inl known
      · exact Or.inr later

/-- A node is done once its successors are pending. -/
theorem enter (explores : Explores edge start (node :: pending) done)
    (follows : ∀ next, edge node next ↔ next ∈ successors) :
    Explores edge start (successors ++ pending) (insert node done) where
  started := by
    rcases explores.started with before | listed
    · exact Or.inl (Or.inr before)
    · rcases List.mem_cons.1 listed with rfl | later
      · exact Or.inl (Or.inl rfl)
      · exact Or.inr (List.mem_append_right _ later)
  doneReached := by
    rintro other (rfl | before)
    · exact explores.pendingReached other List.mem_cons_self
    · exact explores.doneReached other before
  pendingReached := by
    intro other listed
    rcases List.mem_append.1 listed with successor | later
    · exact (explores.pendingReached node List.mem_cons_self).tail ((follows other).2 successor)
    · exact explores.pendingReached other (List.mem_cons_of_mem _ later)
  closed := by
    rintro other (rfl | before) next onward
    · exact Or.inr (List.mem_append_left _ ((follows next).1 onward))
    · rcases explores.closed other before next onward with known | listed
      · exact Or.inl (Or.inr known)
      · rcases List.mem_cons.1 listed with rfl | later
        · exact Or.inl (Or.inl rfl)
        · exact Or.inr (List.mem_append_right _ later)

/-- With nothing pending, the nodes left behind are the reachable ones. -/
theorem done_iff (explores : Explores edge start [] done) :
    node ∈ done ↔ ReflTransGen edge start node := by
  constructor
  · exact explores.doneReached node
  · intro reached
    induction reached with
    | refl => exact explores.started.resolve_right List.not_mem_nil
    | tail _ onward inductionHypothesis =>
        exact (explores.closed _ inductionHypothesis _ onward).resolve_right List.not_mem_nil

end Explores

end SorobanUpgrades
