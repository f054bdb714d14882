import Changeset.Note
import Changeset.Patch.Fragment

/-!
# Splitting patches

Any text can be split. What is no patch, or has no hunks, stays whole, and a
patch of several files is split by hunk because symbols belong to one file.
-/

namespace Changeset.Patch

def readNoted (patch : String) : Noted (Except Fault (Option Document)) :=
  match Document.read patch with
  | .ok d => do
    Noted.note (.patchRead d.files.length d.hunks.length)
    pure (.ok (if d.hunks.isEmpty then none else some d))
  | .error f =>
    if f.isFormat then do
      Noted.note (.patchUnreadable f.message)
      pure (.ok none)
    else pure (.error f)

/-- Splits what `readNoted` gives by `cut`; the text stays whole if there is nothing to cut. -/
def splitWith (cut : Document → Noted (List String)) (patch : String) :
    Noted (Except Fault (List String)) := do
  match ← readNoted patch with
  | .error f => pure (.error f)
  | .ok none => pure (.ok [patch])
  | .ok (some d) => (cut d).map .ok

theorem value_splitWith (cut : Document → Noted (List String)) (patch : String) :
    (splitWith cut patch).value =
      match Document.read patch with
      | .ok d => if d.hunks.isEmpty then .ok [patch] else .ok (cut d).value
      | .error f => if f.isFormat then .ok [patch] else .error f := by
  simp only [splitWith, readNoted, Noted.value_bind]
  cases Document.read patch with
  | ok d => by_cases hd : d.hunks.isEmpty <;> simp [hd, Noted.map]
  | error f => by_cases hf : f.isFormat <;> simp [hf]

def byHunk (patch : String) : Noted (Except Fault (List String)) :=
  splitWith (fun d => pure (splitByHunk d)) patch

def cutBySymbol (before after : Table) (d : Document) : Noted (List String) := do
  if 1 < d.files.length then
    Noted.note (.severalFiles d.files.length)
    pure (splitByHunk d)
  else
    let fragments := splitBySymbol before after d
    Noted.note (.aligned d.hunks.length fragments.length)
    pure fragments

theorem value_cutBySymbol (before after : Table) (d : Document) :
    (cutBySymbol before after d).value =
      if 1 < d.files.length then splitByHunk d else splitBySymbol before after d := by
  by_cases h : 1 < d.files.length <;> simp [cutBySymbol, h]

/-- One fragment for each symbol that hunks change, and for each other hunk. -/
def bySymbol (before after : Table) (patch : String) : Noted (Except Fault (List String)) :=
  splitWith (cutBySymbol before after) patch

end Changeset.Patch
