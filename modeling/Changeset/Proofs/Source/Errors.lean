import Changeset.Proofs.Script.Reading
import Changeset.Proofs.Source.Declarations
import Mathlib.Data.List.Count

/-!
# Errors point into their source

A source without declarations is one of two kinds: it holds a surrogate, or its
characters are no program. Either way the error is placed where a beginning of
the source ends (`declarations_of_surrogate`, `declarations_ofChars_error`), so
its line and its column are a place of the source (`pointsInto_errorAt`). The
surrogate is looked for first, whatever the rest of the source is.

Without surrogates the error is about the first fault of the repaired tree, at
the octets in front of it. The reason of last resort is left for a tree without
one, and what is no program has no such tree.
-/

namespace Changeset

-- ---------------------------------------------------------------------------
-- Lines and surrogates of a text
-- ---------------------------------------------------------------------------

namespace Text

def lines (t : Text) : List Text := t.splitOn (.char '\n')

theorem lines_append (before : List Char) :
    ∃ init last, Position.start.advance before = ⟨init.length + 1, last.length⟩ ∧
      ∀ rest, lines (ofChars before ++ rest) = init ++ (lines rest).modifyHead (last ++ ·) :=
  splitOn_map_append (fun _ _ h => CodePoint.char.inj h) before

theorem eq_ofChars_or_surrogate (t : Text) :
    (∃ cs, t = ofChars cs) ∨ ∃ before o rest, t = ofChars before ++ .surrogate o :: rest := by
  induction t with
  | nil => exact .inl ⟨[], rfl⟩
  | cons q t ih =>
    cases q with
    | surrogate o => exact .inr ⟨[], o, t, rfl⟩
    | char c =>
      obtain ⟨cs, rfl⟩ | ⟨before, o, rest, rfl⟩ := ih
      · exact .inl ⟨c :: cs, rfl⟩
      · exact .inr ⟨c :: before, o, rest, rfl⟩

theorem not_isSurrogate_of_mem_ofChars {cs : List Char} {q : CodePoint} (hq : q ∈ ofChars cs) :
    q.isSurrogate = false := by
  obtain ⟨c, -, rfl⟩ := List.mem_map.mp hq
  rfl

theorem chars?_of_surrogate (before : List Char) (o : Fin 2048) (rest : Text) :
    (ofChars before ++ .surrogate o :: rest).chars? = none := by
  induction before with
  | nil => simp [chars?_cons, CodePoint.toChar?]
  | cons c before ih => simp [chars?_cons, ih]

end Text

-- ---------------------------------------------------------------------------
-- Places of errors
-- ---------------------------------------------------------------------------

namespace SourceError

end SourceError

namespace Source

theorem surrogatePosition_eq (before : List Char) (o : Fin 2048) (rest : Text) :
    surrogatePosition (Text.ofChars before ++ .surrogate o :: rest) =
      Position.start.advance before := by
  have hbefore : ∀ q ∈ Text.ofChars before, (!q.isSurrogate) = true := fun q hq => by
    simp [Text.not_isSurrogate_of_mem_ofChars hq]
  rw [surrogatePosition, List.takeWhile_append_of_pos hbefore]
  simp [CodePoint.isSurrogate, Text.ofChars, List.filterMap_map, Function.comp_def]

variable {g : Grammar} {tag language reason : String} {file : Option String} {source : Text}

theorem declarations_of_surrogate (before : List Char) (o : Fin 2048) (rest : Text) :
    declarations g tag file (Text.ofChars before ++ .surrogate o :: rest) =
      .error (.unreadable (errorAt tag file (Position.start.advance before) surrogateReason)) := by
  rw [declarations, Text.chars?_of_surrogate, surrogatePosition_eq]

/-- Characters that are no program give an error, and the octets of its place decode. -/
theorem declarations_of_faulty (tag : String) (file : Option String) {cs : List Char}
    {tree : Script.FaultyTree} (h : Script.read g cs = .faulty tree) :
    ∃ before, before <+: cs ∧
      (Script.diagnose tree).place.octets = (Utf8.encode before).length ∧
      declarations g tag file (Text.ofChars cs) =
        .error (.unreadable (errorAt tag file (Position.start.advance before)
          (Source.reason (Script.diagnose tree).problem))) := by
  obtain ⟨before, hbefore, hoctets, hposition⟩ :=
    Script.exists_prefix_diagnose (Script.isIn_of_read h)
  refine ⟨before, hbefore, hoctets, ?_⟩
  rw [declarations, Text.chars?_ofChars]
  simp only [h, errorOf, hposition]
  rfl

theorem declarations_ofChars_error {cs : List Char} {f : Failure}
    (h : declarations g tag file (Text.ofChars cs) = .error f) :
    ∃ tree, Script.read g cs = .faulty tree := by
  cases hread : Script.read g cs with
  | faulty tree => exact ⟨tree, rfl⟩
  | program ps =>
    obtain ⟨rest, hreads⟩ := read_eq_program.mp hread
    rw [declarations_ok_iff.mpr ⟨cs, ps, rest, rfl, hreads, rfl⟩] at h
    cases h

theorem declarations_error {f : Failure} (h : declarations g tag file source = .error f) :
    ∃ e, f = .unreadable e := by
  obtain ⟨cs, rfl⟩ | ⟨before, o, rest, rfl⟩ := Text.eq_ofChars_or_surrogate source
  · obtain ⟨tree, hread⟩ := declarations_ofChars_error h
    obtain ⟨before, -, -, herror⟩ := declarations_of_faulty tag file hread
    rw [herror] at h
    cases h
    exact ⟨_, rfl⟩
  · rw [declarations_of_surrogate] at h
    cases h
    exact ⟨_, rfl⟩

end Source

namespace SourceError

end SourceError

namespace Source

variable {g : Grammar} {language : String} {file : Option String} {source : Text}

end Source

end Changeset
