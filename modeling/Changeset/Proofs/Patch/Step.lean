import Changeset.Patch.Reader
import Changeset.Proofs.Outcome
import Mathlib.Data.List.Basic

/-!
# What a line does to the hunks

A line outside of bodies leaves the hunks that were read as they are, adds a
line to the last of them, or opens a new one (`entryStep_cases`). What holds of
the hunks of a patch follows from these three cases, whatever else the reader
keeps.
-/

namespace Changeset.Patch

-- ---------------------------------------------------------------------------
-- The hunks so far
-- ---------------------------------------------------------------------------

def Place.hunks : Place → List Hunk
  | .outside => []
  | .header f | .file f | .body f _ _ _ => f.hunks

def State.hunks (s : State) : List Hunk :=
  s.done.reverse.flatMap FilePatch.hunks ++ s.place.hunks

def Hunk.addLine (h : Hunk) (l : Line) : Hunk := { h with body := h.body ++ [l] }

theorem FilePatch.hunks_extendLast {f g : FilePatch} {l : Line} (h : f.extendLast l = some g) :
    ∃ init last, f.hunks = init ++ [last] ∧ g.hunks = init ++ [last.addLine l] := by
  unfold extendLast at h
  split at h
  · cases h
  · rename_i last hlast
    cases h
    exact ⟨_, last, (List.dropLast_append_getLast? last hlast).symm, rfl⟩

namespace State

variable {s t : State}

def IsClosed (s : State) : Prop := ∀ f hunk o n, s.place ≠ .body f hunk o n

theorem isClosed_outside (done : List FilePatch) (pending : Option String) :
    IsClosed ⟨done, .outside, pending⟩ := fun _ _ _ _ => nofun

theorem isClosed_header (done : List FilePatch) (f : FilePatch) (pending : Option String) :
    IsClosed ⟨done, .header f, pending⟩ := fun _ _ _ _ => nofun

theorem isClosed_file (done : List FilePatch) (f : FilePatch) (pending : Option String) :
    IsClosed ⟨done, .file f, pending⟩ := fun _ _ _ _ => nofun

theorem isClosed_skip (s : State) : s.skip.IsClosed := by
  obtain ⟨done, place, pending⟩ := s
  cases place with
  | header f => exact isClosed_header _ _ _
  | outside | file f | body f hunk o n => exact isClosed_outside _ _

theorem hunks_place_of_current {f : FilePatch} (h : s.current? = some f) :
    s.place.hunks = f.hunks := by
  unfold current? at h
  split at h
  case h_1 => cases h
  all_goals
    rename_i hp
    cases h
    rw [hp]
    rfl

theorem hunks_place_of_none (h : s.current? = none) : s.place.hunks = [] := by
  unfold current? at h
  split at h
  case h_1 hp =>
    rw [hp]
    rfl
  all_goals cases h

theorem hunks_files (s : State) : s.files.reverse.flatMap FilePatch.hunks = s.hunks := by
  cases hc : s.current? with
  | none => simp [files, hunks, hc, hunks_place_of_none hc]
  | some f => simp [files, hunks, hc, hunks_place_of_current hc]

theorem hunks_close (s : State) : s.close.hunks = s.hunks := by
  rw [← hunks_files s]
  exact List.append_nil _

theorem hunks_skip (s : State) : s.skip.hunks = s.hunks := by
  unfold skip
  split
  · rfl
  · exact hunks_close s

-- ---------------------------------------------------------------------------
-- One line
-- ---------------------------------------------------------------------------

/-- A body line that a line outside of bodies can add to the hunk before it. -/
inductive Adds (line : List Char) : Line → Prop
  | comment : Entry.ofLine line = .noNewline → Adds line Entry.noNewlineMark
  | blank : Entry.ofLine line = .blank → Adds line []

inductive LineEffect (s : State) (line : List Char) (t : State) : Prop
  | keeps (closed : t.IsClosed) (hunks : t.hunks = s.hunks)
  | adds {init : List Hunk} {last : Hunk} {l : Line} (closed : t.IsClosed) (added : Adds line l)
      (before : s.hunks = init ++ [last]) (after : t.hunks = init ++ [last.addLine l])
  | opens {header : HunkHeader} {f : FilePatch} {place : Place}
      (entry : Entry.ofLine line = .hunk header) (current : s.current? = some f)
      (opened : openHunk header f = .ok place) (state : t = { s with place })

theorem LineEffect.extend {f g : FilePatch} {l : Line} {line : List Char} (hl : Adds line l)
    (hf : s.current? = some f) (hg : f.extendLast l = some g) :
    LineEffect s line { s with place := .file g } := by
  obtain ⟨init, last, hbefore, hafter⟩ := FilePatch.hunks_extendLast hg
  have hs : s.hunks = s.done.reverse.flatMap FilePatch.hunks ++ init ++ [last] := by
    rw [hunks, hunks_place_of_current hf, hbefore, List.append_assoc]
  refine .adds (isClosed_file _ _ _) hl hs ?_
  rw [hunks, Place.hunks, hafter, List.append_assoc]

/-- Whatever a line outside of bodies is read as, it does one of three things to the hunks. -/
theorem entryStep_cases (hs : s.IsClosed) {line : List Char} (h : s.entryStep line = .ok t) :
    LineEffect s line t := by
  unfold entryStep at h
  cases he : Entry.ofLine line <;> simp only [he] at h
  case git x y =>
    cases h
    refine .keeps (isClosed_header _ _ _) ?_
    simpa [hunks, Place.hunks] using hunks_files s
  case newFile | deletedFile =>
    split at h <;> cases h
    rename_i hp
    refine .keeps (isClosed_header _ _ _) ?_
    simp [hunks, hp, Place.hunks]
  case source x =>
    cases h
    exact .keeps s.isClosed_skip (hunks_skip s)
  case target y =>
    split at h
    · split at h <;> cases h
      exact .keeps hs rfl
    · rename_i hnone _
      cases h
      refine .keeps (isClosed_file _ _ _) ?_
      rw [hunks, hunks, hunks_place_of_none hnone]
      rfl
    · cases h
  case hunk header =>
    split at h
    · cases h
    · rename_i f hf
      obtain ⟨place, hopen, rfl⟩ := map_ok.mp h
      exact .opens he hf hopen rfl
  case noNewline =>
    split at h
    · cases h
    · rename_i hf
      split at h <;> cases h
      rename_i hg
      exact .extend (.comment he) hf hg
  case blank =>
    split at h
    · rename_i hp
      split at h <;> cases h
      · exact .keeps (isClosed_outside _ _) (hunks_close s)
      · rename_i hg
        exact .extend (.blank he) (by rw [current?, hp]) hg
    · cases h
      exact .keeps s.isClosed_skip (hunks_skip s)
  case binary x y =>
    split at h <;> cases h
    · exact .keeps (isClosed_outside _ _) (hunks_close s)
    · refine .keeps (isClosed_outside _ _) ?_
      rw [← hunks_files s]
      simp [hunks, Place.hunks]
  case gitBinary =>
    split at h <;> cases h
    exact .keeps (isClosed_outside _ _) (hunks_close s)
  case text =>
    cases h
    exact .keeps s.isClosed_skip (hunks_skip s)

-- ---------------------------------------------------------------------------
-- The end
-- ---------------------------------------------------------------------------

/-- A text ends outside of bodies, or behind the header of a hunk without lines. -/
theorem finish_cases {d : Document} (h : s.finish = .ok d) :
    (s.IsClosed ∧ d.files = s.files.reverse ∧ d.hunks = s.hunks) ∨
      ∃ f hunk, s.place = .body f hunk 0 0 ∧
        d.hunks = s.hunks ++ [{ hunk with body := hunk.body.reverse }] := by
  unfold finish at h
  split at h
  · rename_i f hunk hp
    cases h
    refine .inr ⟨f, hunk, hp, ?_⟩
    simp [Document.hunks, hunks, hp, Place.hunks, FilePatch.addHunk]
  · cases h
  · rename_i hs
    cases h
    exact .inl ⟨hs, rfl, hunks_files s⟩

end State

end Changeset.Patch
