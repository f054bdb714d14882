import Changeset.Proofs.Repair.Session
import Changeset.Proofs.Script.Locate
import Changeset.Script.Reading

/-!
# Trees of what is read

The repair of a text begins on a stack of the text, so the tree that it comes to
is one of the text (`isIn_tree?`), and so is every tree of a text that is no
program (`isIn_of_read`). What is wrong with it stands at the end of a
beginning of the text (`exists_prefix_diagnose`).
-/

namespace Changeset.Script

variable {g : Grammar} {s : List Char}

theorem isIn_repaired (g : Grammar) (s : List Char) : (repaired g s).IsIn s := by
  unfold repaired
  extract_lets m isVisible
  have hstart : Repair.Session.IsIn ⟨g, m, .new s, none, 0, isVisible⟩ s :=
    ⟨Repair.Stack.isIn_new s, by simp⟩
  rw [StateT.run]
  exact (Repair.Work.keeps_run _ 0 _ hstart).2

theorem isIn_tree? {t : Repair.Tree} (h : tree? g s = some t) : t.IsIn s :=
  (isIn_repaired g s).finished t h

theorem isIn_faultyTree (g : Grammar) (s : List Char) : (faultyTree g s).val.IsIn s := by
  have hstart : ((Place.ofText s).skip isBlank).IsIn s := (Place.isIn_ofText s).skip isBlank
  unfold faultyTree
  extract_lets start
  split
  · exact Repair.Tree.isIn_broken hstart Repair.Tree.allIn_nil
  · rename_i t ht
    split
    · exact isIn_tree? ht
    · exact Repair.Tree.isIn_broken hstart (List.forall_mem_singleton.mpr (isIn_tree? ht))

theorem isIn_of_read {tree : FaultyTree} (h : read g s = .faulty tree) : tree.val.IsIn s := by
  rw [read] at h
  cases hprogram : program g s with
  | some r => simp [hprogram] at h
  | none =>
    rw [hprogram] at h
    exact Reading.faulty.inj h ▸ isIn_faultyTree g s

theorem exists_prefix_diagnose {t : Repair.Tree} (h : t.IsIn s) :
    ∃ before, before <+: s ∧ (diagnose t).place.octets = (Utf8.encode before).length ∧
      (diagnose t).place.position (Utf8.encode s) = .ok (Position.start.advance before) := by
  obtain ⟨n, hn, hplace⟩ := exists_place_diagnose t
  rw [hplace]
  exact (h n hn).start.exists_prefix

end Changeset.Script
