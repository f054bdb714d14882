import Changeset.Repair.Tree

/-!
# Diagnosis

What is wrong with a text, and where: the first fault of its tree. A tree
without one would be a problem of the whole text.
-/

namespace Changeset.Script

inductive Problem where
  | unexpected
  /-- A token of this name has to be put in. -/
  | missing (token : String)
  /-- The tree shows no place where something is wrong. -/
  | unlocated
  deriving DecidableEq, Repr

def Problem.ofFault (f : Repair.Fault) : Problem :=
  match f.missing with
  | none => unexpected
  | some token => missing token

structure Diagnosis where
  problem : Problem
  place : Place

theorem sizeOf_append {α : Type} [SizeOf α] (xs ys : List α) :
    sizeOf (xs ++ ys) + 1 = sizeOf xs + sizeOf ys := by
  induction xs with
  | nil =>
    simp only [List.nil_append, List.nil.sizeOf_spec]
    omega
  | cons x xs ih =>
    simp only [List.cons_append, List.cons.sizeOf_spec]
    omega

/-- The first fault in the trees of a stack. Parts are put on the stack in front of what is left,
unless nothing is wrong with any of them. -/
def locate : List Repair.Tree → Option Repair.Fault
  | [] => none
  | .node tag parts :: rest =>
    match (Repair.Tree.node tag parts).fault? with
    | some f => some f
    | none =>
      if (Repair.Tree.node tag parts).hasError then locate (parts ++ rest) else locate rest
termination_by ts => sizeOf ts
decreasing_by
  · have := sizeOf_append parts rest
    simp only [List.cons.sizeOf_spec, Repair.Tree.node.sizeOf_spec]
    omega
  · simp only [List.cons.sizeOf_spec]
    omega

def diagnose (t : Repair.Tree) : Diagnosis :=
  match locate [t] with
  | none => ⟨.unlocated, t.tag.start⟩
  | some f => ⟨.ofFault f, f.place⟩

end Changeset.Script
