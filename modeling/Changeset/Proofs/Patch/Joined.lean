import Changeset.Patch.Split
import Changeset.Proofs.Patch.Kept

/-!
# Patches one behind the other

The files that are complete play no part in what the reader does with a line,
and it leaves them as they are: it reads the same behind any files
(`step_behind`, `foldlM_behind`). A git header completes the file that is open
and sets the pending name anew. So outside of bodies nothing of the text before
it is left but the files, and a patch that begins with one is read behind
another patch as it is read alone (`read_joined`).
-/

namespace Changeset.Patch

-- ---------------------------------------------------------------------------
-- Lines of two texts
-- ---------------------------------------------------------------------------

def IsEnded (cs : List Char) : Prop := ∀ c ∈ cs.getLast?, c = '\n'

instance (cs : List Char) : Decidable (IsEnded cs) :=
  Option.decidableForallMem cs.getLast?

/-- The line that a text ends with does not go on with the text behind it. -/
theorem IsEnded.lines_append {cs : List Char} (h : IsEnded cs) (ds : List Char) :
    Document.lines (cs ++ ds) = Document.lines cs ++ Document.lines ds :=
  Lines.split_append (fun c hc => beq_iff_eq.mpr (h c hc)) ds

-- ---------------------------------------------------------------------------
-- Reading behind files
-- ---------------------------------------------------------------------------

namespace State

def behind (earlier : List FilePatch) (s : State) : State := { s with done := s.done ++ earlier }

variable (earlier : List FilePatch) (s : State)

theorem files_behind : (s.behind earlier).files = s.files ++ earlier :=
  (List.append_assoc ..).symm

theorem close_behind : (s.behind earlier).close = s.close.behind earlier := by
  rw [close, files_behind]
  rfl

theorem skip_behind : (s.behind earlier).skip = s.skip.behind earlier := by
  obtain ⟨done, place, pending⟩ := s
  cases place with
  | header f => rfl
  | outside | file f | body f hunk o n => exact close_behind earlier _

theorem entryStep_behind (line : List Char) :
    (s.behind earlier).entryStep line = (s.entryStep line).map (behind earlier) := by
  have hcurrent : (s.behind earlier).current? = s.current? := rfl
  have hplace : (s.behind earlier).place = s.place := rfl
  have hpending : (s.behind earlier).pending = s.pending := rfl
  unfold entryStep
  simp only [files_behind, close_behind, skip_behind, hcurrent, hplace, hpending]
  cases Entry.ofLine line <;> dsimp only
  case git | source | text => rfl
  case hunk header =>
    cases s.current? with
    | none => rfl
    | some f => cases h : openHunk header f <;> simp [h, Except.map, behind]
  all_goals
    repeat' split
    all_goals rfl

/-- A line is read in the same way behind any files, and leaves them as they are. -/
theorem step_behind (line : List Char) :
    (s.behind earlier).step line = (s.step line).map (behind earlier) := by
  obtain ⟨done, place, pending⟩ := s
  cases place with
  | body f hunk o n =>
    simp only [step, behind]
    cases bodyStep f hunk o n line <;> rfl
  | outside | header f | file f => exact entryStep_behind earlier _ line

theorem foldlM_behind (lines : List (List Char)) :
    lines.foldlM step (s.behind earlier) = (lines.foldlM step s).map (behind earlier) := by
  induction lines generalizing s with
  | nil => rfl
  | cons line lines ih =>
    rw [List.foldlM_cons, List.foldlM_cons, step_behind]
    cases s.step line with
    | error f => rfl
    | ok t => exact ih t

theorem finish_behind :
    (s.behind earlier).finish = s.finish.map fun d => ⟨earlier.reverse ++ d.files⟩ := by
  obtain ⟨done, place, pending⟩ := s
  cases place with
  | outside | header f | file f => simp [finish, behind, files, current?, Except.map]
  | body f hunk o n => cases o <;> cases n <;> simp [finish, behind, Except.map]

-- ---------------------------------------------------------------------------
-- Between two patches
-- ---------------------------------------------------------------------------

variable {s}

/-- Behind a git header nothing is left of what was read but the files. -/
theorem IsClosed.step_git (hs : s.IsClosed) {line : List Char} {x y : String}
    (hline : Entry.ofLine line = .git x y) :
    s.step line = (start.step line).map (behind s.files) := by
  obtain ⟨done, place, pending⟩ := s
  cases place with
  | body f hunk o n => exact absurd rfl (hs f hunk o n)
  | outside | header f | file f =>
    simp [step, entryStep, start, hline, behind, files, current?, Except.map]

theorem Sound.isClosed_of_finish {d : Document} (hs : s.Sound) (h : s.finish = .ok d)
    (hbodies : ∀ hunk ∈ d.hunks, hunk.body ≠ []) :
    s.IsClosed ∧ d.files = s.files.reverse := by
  rcases finish_cases h with ⟨hclosed, hfiles, -⟩ | ⟨f, hunk, hp, hd⟩
  · exact ⟨hclosed, hfiles⟩
  · have hplace := hs.place
    rw [hp] at hplace
    obtain ⟨-, a, b, c, d, -, hopen⟩ := hplace
    refine absurd hopen.bare.1 (hbodies { hunk with body := hunk.body.reverse } ?_)
    rw [hd]
    exact List.mem_append_right _ (List.mem_singleton_self _)

end State

-- ---------------------------------------------------------------------------
-- Joined patches
-- ---------------------------------------------------------------------------

def OpensWithGit (cs : List Char) : Prop :=
  ∃ line lines x y, Document.lines cs = line :: lines ∧ Entry.ofLine line = .git x y

theorem value_byHunk {p : String} {d : Document} (h : Document.read p = .ok d)
    (hne : d.hunks ≠ []) : (byHunk p).value = .ok (splitByHunk d) := by
  rw [byHunk, value_splitWith]
  simp [h, hne]

theorem Document.read_append {p q : String} {d e : Document} (hp : Document.read p = .ok d)
    (hended : IsEnded p.toList) (hbodies : ∀ h ∈ d.hunks, h.body ≠ [])
    (hq : Document.read q = .ok e) (hgit : OpensWithGit q.toList) :
    Document.read (p ++ q) = .ok ⟨d.files ++ e.files⟩ := by
  obtain ⟨line, lines, x, y, hlines, hline⟩ := hgit
  rw [read, ofLines] at hp hq
  obtain ⟨s, hs, hfinish⟩ := bind_ok.mp hp
  obtain ⟨t, ht, hfinish'⟩ := bind_ok.mp hq
  have hsound : s.Sound := State.Sound.start.foldlM (fun _ => isTextLine_of_mem_lines) hs
  obtain ⟨hclosed, hfiles⟩ := hsound.isClosed_of_finish hfinish hbodies
  -- The git header is read as it is at the beginning, and then all lines behind it are.
  have hrest : (Document.lines q.toList).foldlM State.step s = .ok (t.behind s.files) := by
    rw [hlines, List.foldlM_cons] at ht ⊢
    obtain ⟨u, hu, ht⟩ := bind_ok.mp ht
    rw [hclosed.step_git hline, hu]
    exact (State.foldlM_behind s.files u lines).trans (by rw [ht]; rfl)
  have hall : (Document.lines (p ++ q).toList).foldlM State.step State.start =
      .ok (t.behind s.files) := by
    rw [String.toList_append, hended.lines_append, List.foldlM_append, hs]
    exact hrest
  rw [read, ofLines, hall]
  refine (t.finish_behind s.files).trans ?_
  rw [hfinish', hfiles]
  rfl

/-- A git patch behind another patch adds its files to those of the first, and its fragments. -/
theorem read_joined {p q : String} {d e : Document} (hp : Document.read p = .ok d)
    (hended : IsEnded p.toList) (hbodies : ∀ h ∈ d.hunks, h.body ≠ [])
    (hq : Document.read q = .ok e) (hgit : OpensWithGit q.toList) :
    Document.read (p ++ q) = .ok ⟨d.files ++ e.files⟩ ∧
    (d.hunks ≠ [] → e.hunks ≠ [] → ∃ chunks more, (byHunk p).value = .ok chunks ∧
      (byHunk q).value = .ok more ∧ (byHunk (p ++ q)).value = .ok (chunks ++ more)) := by
  have hread := Document.read_append hp hended hbodies hq hgit
  refine ⟨hread, fun hd he => ?_⟩
  refine ⟨_, _, value_byHunk hp hd, value_byHunk hq he, ?_⟩
  have hhunks : Document.hunks ⟨d.files ++ e.files⟩ = d.hunks ++ e.hunks := by
    simp [Document.hunks]
  rw [value_byHunk hread (by simp [hhunks, hd]), splitByHunk, hhunks, List.map_append]
  rfl

/-- A changed file, and a renamed one whose git header is still open at the end of the text. -/
def renamed : String :=
  "--- a\n+++ b\n@@ -1 +1 @@ f()\n-p\n+q\ndiff --git a/u b/v\nrename from u\nrename to v\n"

def renamedDocument : Document := ⟨[
  ⟨"a", "b", [⟨1, 1, 1, 1, ["-p".toList, "+q".toList], "f()".toList⟩]⟩,
  ⟨"a/u", "b/v", []⟩]⟩

def created : String :=
  "diff --git a/n b/n\nnew file mode 100644\n--- /dev/null\n+++ b/n\n@@ -0,0 +1 @@\n+z\n"

def createdDocument : Document := ⟨[
  ⟨"/dev/null", "b/n", [⟨0, 0, 1, 1, ["+z".toList], []⟩]⟩]⟩

theorem read_joined_renamed :
    Document.read renamed = .ok renamedDocument ∧ IsEnded renamed.toList ∧
    (∀ h ∈ renamedDocument.hunks, h.body ≠ []) ∧
    Document.read created = .ok createdDocument ∧ OpensWithGit created.toList ∧
    Document.read (renamed ++ created) =
      .ok ⟨renamedDocument.files ++ createdDocument.files⟩ ∧
    ∃ chunks more, (byHunk renamed).value = .ok chunks ∧ (byHunk created).value = .ok more ∧
      (byHunk (renamed ++ created)).value = .ok (chunks ++ more) := by
  have hp : Document.read renamed = .ok renamedDocument := by decide +kernel
  have hended : IsEnded renamed.toList := by decide +kernel
  have hbodies : ∀ h ∈ renamedDocument.hunks, h.body ≠ [] := by decide
  have hq : Document.read created = .ok createdDocument := by decide +kernel
  have hgit : OpensWithGit created.toList :=
    ⟨"diff --git a/n b/n\n".toList, _, "a/n", "b/n", rfl, by decide +kernel⟩
  obtain ⟨hread, hsplit⟩ := read_joined hp hended hbodies hq hgit
  exact ⟨hp, hended, hbodies, hq, hgit, hread, hsplit (by decide) (by decide)⟩

end Changeset.Patch
