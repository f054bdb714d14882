import Changeset.Text.Quoted

/-!
# Notes

What a comparison or a split remarks on while it works, for whoever wants to
know why a result is as it is. Notes never change a result.
-/

namespace Changeset

inductive Topic where
  | engine
  | source
  | patch
  | segmentation
  deriving DecidableEq, Repr

inductive Note where
  | lineDiffWithoutParser (language : String)
  | hunksWithoutParser (language : String)
  | hunksDespiteStrategy (strategy language : String)
  | redeclared (key : String) (line : Int)
  | patchRead (files hunks : Nat)
  | patchUnreadable (message : String)
  | severalFiles (files : Nat)
  | aligned (hunks fragments : Nat)
  deriving DecidableEq, Repr

namespace Note

def topic : Note → Topic
  | lineDiffWithoutParser _ | hunksWithoutParser _ | hunksDespiteStrategy _ _ => .engine
  | redeclared _ _ => .source
  | patchRead _ _ => .patch
  | patchUnreadable _ | severalFiles _ | aligned _ _ => .segmentation

def message : Note → String
  | lineDiffWithoutParser l => "No parser for language " ++ quoted l ++ ", using line diff"
  | hunksWithoutParser l => "No parser for language " ++ quoted l ++ ", splitting by hunk"
  | hunksDespiteStrategy s l =>
    "Strategy " ++ quoted s ++ " requested for " ++ quoted l ++ " patch, splitting by hunk"
  | redeclared key line =>
    "Symbol " ++ key ++ " redeclared at line " ++ toString line ++ ", keeping the later one"
  | patchRead files hunks =>
    "Parsed " ++ toString files ++ " file(s), " ++ toString hunks ++ " hunk(s)"
  | patchUnreadable m => "Falling back to a single fragment: " ++ m
  | severalFiles n =>
    "Patch spans " ++ toString n ++ " files, symbol alignment needs one; using hunk mode"
  | aligned hunks fragments =>
    "Aligned " ++ toString hunks ++ " hunk(s) into " ++ toString fragments ++ " fragment(s)"

end Note

/-- A result with the notes taken on the way, first one first. -/
structure Noted (α : Type) where
  value : α
  notes : List Note
  deriving Repr

namespace Noted

def map {α β : Type} (f : α → β) (x : Noted α) : Noted β := ⟨f x.value, x.notes⟩

def bind {α β : Type} (x : Noted α) (f : α → Noted β) : Noted β :=
  ⟨(f x.value).value, x.notes ++ (f x.value).notes⟩

def note (n : Note) : Noted Unit := ⟨(), [n]⟩

instance : Monad Noted where
  pure a := ⟨a, []⟩
  bind := bind

@[simp] theorem value_pure {α : Type} (a : α) : (pure a : Noted α).value = a := rfl

@[simp] theorem value_bind {α β : Type} (x : Noted α) (f : α → Noted β) :
    (x >>= f).value = (f x.value).value := rfl

end Noted

end Changeset
