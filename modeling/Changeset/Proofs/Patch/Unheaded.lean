import Changeset.Proofs.Patch.Kept
import Changeset.Proofs.Patch.Undivided

/-!
# Texts without hunk headers

A hunk comes from a hunk header, and every hunk header begins in the same way.
So in a text without such a line no file ever gains a hunk
(`foldlM_unheaded`), whatever else its lines are taken for, and no number can be
too long. Either the reader ends without hunks or the text breaks the format,
and in both cases it stays whole (`splits_whole_of_unheaded`).
-/

namespace Changeset.Patch

def IsUnheaded (line : List Char) : Prop := ¬ "@@ -".toList <+: line

instance (line : List Char) : Decidable (IsUnheaded line) := inferInstanceAs (Decidable (¬ _))

theorem IsUnheaded.ofLine_ne {line : List Char} (h : IsUnheaded line) (header : HunkHeader) :
    Entry.ofLine line ≠ .hunk header := by
  intro he
  have hopening := Entry.opening_prefix line
  rw [he] at hopening
  exact h hopening

theorem isUnheaded_of_chomp {line : List Char} (hline : IsTextLine line)
    (h : IsUnheaded (chomp line)) : IsUnheaded line := by
  obtain ⟨m, hm, hlm⟩ := hline
  rw [chomp_of_isTextLine hm hlm] at h
  intro hprefix
  rcases hlm with rfl | rfl
  · exact h hprefix
  · refine h ((List.prefix_concat_iff.mp hprefix).resolve_left fun he => ?_)
    have hnewline : '\n' ∈ "@@ -".toList := he ▸ List.mem_append_right m (List.mem_singleton_self _)
    exact absurd hnewline (by decide)

theorem isUnheaded_lines {text : List Char} (h : ∀ l ∈ textLines text, IsUnheaded l) :
    ∀ line ∈ Document.lines text, IsUnheaded line := by
  intro line hline
  have hmem := (map_chomp_lines text).subset (List.mem_map_of_mem hline)
  exact isUnheaded_of_chomp (isTextLine_of_mem_lines hline) (h _ hmem)

-- ---------------------------------------------------------------------------
-- Reading
-- ---------------------------------------------------------------------------

/-- Outside of bodies, and no file has a hunk. -/
structure State.Hunkless (s : State) : Prop where
  closed : s.IsClosed
  hunks : s.hunks = []

namespace State.Hunkless

variable {s t : State}

theorem start : State.start.Hunkless := ⟨isClosed_outside _ _, rfl⟩

theorem step (hs : s.Hunkless) {line : List Char} (hline : IsUnheaded line)
    (h : s.step line = .ok t) : t.Hunkless := by
  have hentry : s.entryStep line = .ok t := by
    unfold State.step at h
    split at h
    · rename_i hp
      exact absurd hp (hs.closed _ _ _ _)
    · exact h
  cases entryStep_cases hs.closed hentry with
  | keeps ht hhunks => exact ⟨ht, hhunks.trans hs.hunks⟩
  | adds _ _ hbefore _ =>
    rw [hs.hunks] at hbefore
    simp at hbefore
  | opens hheader => exact absurd hheader (hline.ofLine_ne _)

theorem foldlM (hs : s.Hunkless) {lines : List (List Char)}
    (hlines : ∀ line ∈ lines, IsUnheaded line) (h : lines.foldlM State.step s = .ok t) :
    t.Hunkless :=
  foldlM_invariant (fun line hline _ _ hs => hs.step (hlines line hline)) hs h

theorem finish (hs : s.Hunkless) {d : Document} (h : s.finish = .ok d) : d.hunks = [] := by
  rcases finish_cases h with ⟨-, -, hd⟩ | ⟨f, hunk, hp, -⟩
  · rw [hd, hs.hunks]
  · exact absurd hp (hs.closed _ _ _ _)

end State.Hunkless

-- ---------------------------------------------------------------------------
-- Splitting
-- ---------------------------------------------------------------------------

theorem uncut_of_unheaded {patch : String}
    (h : ∀ l ∈ textLines patch.toList, IsUnheaded l) : Uncut patch := by
  have hlines := isUnheaded_lines h
  cases hr : Document.read patch with
  | ok d =>
    refine .inl ⟨d, hr, ?_⟩
    rw [Document.read, Document.ofLines] at hr
    obtain ⟨s, hs, hfinish⟩ := bind_ok.mp hr
    exact (State.Hunkless.start.foldlM hlines hs).finish hfinish
  | error f =>
    refine .inr ⟨f, hr, Bool.of_not_eq_false fun hf => ?_⟩
    obtain ⟨n, rfl⟩ := Fault.isFormat_eq_false_iff.mp hf
    -- The only other fault is met at a hunk header.
    obtain ⟨done, line, rest, s, hsplit, -, -, header, hheader, -⟩ :=
      read_numberTooLong_iff.mp ⟨n, hr⟩
    have hline : line ∈ Document.lines patch.toList := by simp [hsplit]
    exact (hlines line hline).ofLine_ne header hheader

/-- A text of which no line begins as hunk headers do stays whole under both strategies. -/
theorem splits_whole_of_unheaded {patch : String}
    (h : ∀ l ∈ textLines patch.toList, IsUnheaded l) (before after : Table) :
    (byHunk patch).value = .ok [patch] ∧ (bySymbol before after patch).value = .ok [patch] :=
  ⟨(uncut_of_unheaded h).splitWith _, (uncut_of_unheaded h).splitWith _⟩

/-- A renamed file, a binary one, one with names alone, what only looks like hunk headers, and a
comment without a hunk. -/
def hunkless : String :=
  "diff --git a/x b/y\nold mode 100644\nrename to y\nBinary files a/p and b/q differ\n" ++
    "--- p\n+++ q\n @@ -1 +1 @@\n@@@ -1 -1 +1 @@@\n@@\n\\ No newline at end of file\n"

theorem splits_whole_of_unheaded_hunkless :
    (∀ l ∈ textLines hunkless.toList, IsUnheaded l) ∧
    (byHunk hunkless).value = .ok [hunkless] ∧
    (bySymbol nested nested hunkless).value = .ok [hunkless] := by
  have h : ∀ l ∈ textLines hunkless.toList, IsUnheaded l := by decide +kernel
  exact ⟨h, splits_whole_of_unheaded h nested nested⟩

end Changeset.Patch
