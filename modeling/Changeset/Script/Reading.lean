import Changeset.Repair.Session
import Changeset.Repair.Typed
import Changeset.Script.Program

/-!
# Readings

A text is a program, or it has a tree that shows where it is none.
-/

namespace Changeset.Script

/-! ## Repaired texts -/

def repaired (g : Grammar) (s : List Char) : Repair.Session :=
  let m := Repair.Machine.new (match g with
    | .javascript => Repair.Untyped.description
    | .typescript => Repair.Typed.description false
    | .tsx => Repair.Typed.description true)
  let isVisible := fun i =>
    let p := i - m.net.terminals.size
    p < Repair.Net.grammarPhrases && !(Repair.Phrase.ofNat p).isHidden
  (StateT.run (Repair.Work.run (64 * s.length + 1024) 0)
    (⟨g, m, .new s, none, 0, isVisible⟩ : Repair.Session)).2

def tree? (g : Grammar) (s : List Char) : Option Repair.Tree := (repaired g s).finished

abbrev FaultyTree := { t : Repair.Tree // t.hasError = true }

def FaultyTree.ofParts (p : Place) (ts : List Repair.Tree) : FaultyTree :=
  ⟨.broken p ts, by simp [Repair.Tree.broken, Repair.Tree.ofParts, Repair.Tree.hasError,
    Repair.Tree.fault?, Repair.Tree.isBroken, Repair.Tree.tag]⟩

/-- The tree of a text that is no program. If its repair shows nothing wrong, or does not come to an
end, it is broken as a whole. -/
def faultyTree (g : Grammar) (s : List Char) : FaultyTree :=
  let start := (Place.ofText s).skip isBlank
  match tree? g s with
  | none => .ofParts start []
  | some t => if h : t.hasError = true then ⟨t, h⟩ else .ofParts start [t]

/-! ## Reading -/

inductive Reading where
  | program (declarations : List Placed)
  | faulty (tree : FaultyTree)

def read (g : Grammar) (s : List Char) : Reading :=
  match program g s with
  | some r => .program r.value
  | none => .faulty (faultyTree g s)

end Changeset.Script
