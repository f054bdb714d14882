import Changeset.Proofs.Patch.Kept
import Changeset.Proofs.Patch.Undivided

/-!
# Counts of a header and the lines under it

A hunk shows its counted lines, and behind them what the reader adds to it: a
comment, which stands in neither file, or an empty line, which by its mark
stands in both. So the lines under a header are as many as it says and the empty
ones besides (`Readable.linesIn_body`), and header and lines agree exactly if no
line of the body is empty (`agrees_iff_no_empty_line`). An empty line behind a
hunk is enough for them to differ (`not_agrees_separated`).
-/

namespace Changeset.Patch

open Changeset.Patch.Mark (inOld inNew)

-- ---------------------------------------------------------------------------
-- Counted and empty lines
-- ---------------------------------------------------------------------------

structure Hunk.Agrees (h : Hunk) : Prop where
  old : h.oldCount = linesIn inOld h.body
  new : h.newCount = linesIn inNew h.body

theorem linesIn_trailers {inFile : Mark → Bool} (hcontext : inFile .context = true)
    (hcomment : inFile .comment = false) {ls : List Line} (h : ∀ l ∈ ls, IsTrailer l) :
    linesIn inFile ls = ls.count [] := by
  refine List.countP_congr fun l hl => ?_
  rcases h l hl with rfl | rfl
  · simp [mark, hcontext]
  · simp [Entry.noNewlineMark, mark, hcomment]

theorem IsBodyLine.ne_nil {l : Line} (h : IsBodyLine l) : l ≠ [] := by
  obtain ⟨c, -, cs, rfl⟩ := h.marked
  exact List.cons_ne_nil c cs

theorem Hunk.SoundWith.linesIn_body {h : Hunk} {counted trailing : List Line} {a b c d : Nat}
    (hw : h.SoundWith counted trailing a b c d) {inFile : Mark → Bool}
    (hcontext : inFile .context = true) (hcomment : inFile .comment = false) :
    linesIn inFile h.body = linesIn inFile counted + h.body.count [] := by
  -- A counted line has a mark, so all empty ones are trailers.
  have hnone : counted.count [] = 0 :=
    List.count_eq_zero.mpr fun hmem => (hw.complete.lines [] hmem).ne_nil rfl
  rw [hw.body, linesIn_append, List.count_append, hnone, Nat.zero_add,
    linesIn_trailers hcontext hcomment hw.trailers]

theorem Readable.linesIn_body {hs : List Hunk} (hr : Readable hs) {h : Hunk} (hh : h ∈ hs) :
    (linesIn inOld h.body : Int) = h.oldCount + h.body.count [] ∧
      (linesIn inNew h.body : Int) = h.newCount + h.body.count [] := by
  rcases hr.sound_or_bare hh with ⟨counted, trailing, a, b, c, d, hw⟩ | ⟨⟨a, c, hnum⟩, hbody⟩
  · rw [hw.linesIn_body rfl rfl, hw.linesIn_body rfl rfl, hw.numbers.oldCount, hw.numbers.newCount,
      hw.complete.old, hw.complete.new]
    exact ⟨rfl, rfl⟩
  · rw [hbody, hnum.oldCount, hnum.newCount]
    exact ⟨rfl, rfl⟩

theorem Readable.agrees_iff {hs : List Hunk} (hr : Readable hs) {h : Hunk} (hh : h ∈ hs) :
    h.Agrees ↔ [] ∉ h.body := by
  obtain ⟨hold, hnew⟩ := hr.linesIn_body hh
  rw [← List.count_eq_zero]
  constructor
  · intro ⟨hold', _⟩
    omega
  · intro hnone
    exact ⟨by omega, by omega⟩

-- ---------------------------------------------------------------------------
-- Empty lines of the text
-- ---------------------------------------------------------------------------

theorem eq_nil_of_isKept_nil {l : Line} (h : IsKept l []) : l = [] := by
  cases h with
  | verbatim h =>
    rcases h with rfl | ⟨-, h⟩
    · rfl
    · cases h

theorem eq_newline_of_chomp_eq_nil {text line : List Char} (hline : line ∈ Document.lines text)
    (h : chomp line = []) : line = ['\n'] := by
  obtain ⟨m, hm, hlm⟩ := isTextLine_of_mem_lines hline
  rw [chomp_of_isTextLine hm hlm] at h
  subst h
  rcases hlm with rfl | rfl
  · exact absurd rfl (Lines.ne_nil_of_mem_split _ _ _ hline)
  · rfl

theorem newline_mem_lines {p : String} {d : Document} (hr : Document.read p = .ok d) {h : Hunk}
    (hh : h ∈ d.hunks) (hempty : [] ∈ h.body) : ['\n'] ∈ Document.lines p.toList := by
  rw [Document.read, Document.ofLines] at hr
  obtain ⟨s, hs, hfinish⟩ := bind_ok.mp hr
  have hstart : Matches IsKept [] State.start.bodies := ⟨[], List.Sublist.refl _, .nil⟩
  have hmatches := foldlM_matches (fun _ => isTextLine_of_mem_lines) hstart hs
  rw [List.nil_append, ← bodies_finish hfinish] at hmatches
  obtain ⟨l, hl, hkept⟩ := hmatches.exists_of_mem (List.mem_flatMap.mpr ⟨h, hh, hempty⟩)
  obtain ⟨line, hline, hchomp⟩ := List.mem_map.mp hl
  rw [eq_nil_of_isKept_nil hkept] at hchomp
  rwa [eq_newline_of_chomp_eq_nil hline hchomp] at hline

-- ---------------------------------------------------------------------------
-- Fragments
-- ---------------------------------------------------------------------------

/-- The fragment of some hunks of `d`, where all headers agree with the lines under them exactly if
none of these lines is empty. -/
def AgreesUnlessEmpty (d : Document) (c : String) : Prop :=
  ∃ hs, hs ≠ [] ∧ hs ⊆ d.hunks ∧ c = fragment hs ∧
    ((∀ h ∈ hs, h.Agrees) ↔ ∀ h ∈ hs, [] ∉ h.body)

theorem agreesUnlessEmpty_of_cutsHunks {cut : Document → Noted (List String)} (hcut : CutsHunks cut)
    {p : String} {d : Document} (hr : Document.read p = .ok d) (hne : d.hunks ≠ []) :
    ∃ chunks, (splitWith cut p).value = .ok chunks ∧ ∀ c ∈ chunks, AgreesUnlessEmpty d c := by
  have hreadable := Document.readable_of_read hr
  refine ⟨(cut d).value, ?_, ?_⟩
  · rw [value_splitWith]
    simp [hr, hne]
  · intro c hc
    obtain ⟨hs, hhs, hsub, rfl⟩ := hcut d c hc
    refine ⟨hs, hhs, hsub, rfl, ?_⟩
    exact forall₂_congr fun h hh => hreadable.agrees_iff (hsub hh)

/-- The lines under the header of a hunk are as many as its counts say and the empty ones besides,
which are empty lines of the text. So the header agrees with them exactly if none is empty, in the
document and in each fragment that the patch is split into. -/
theorem agrees_iff_no_empty_line {p : String} {d : Document} (hr : Document.read p = .ok d) :
    (∀ h ∈ d.hunks,
      (linesIn inOld h.body : Int) = h.oldCount + h.body.count [] ∧
      (linesIn inNew h.body : Int) = h.newCount + h.body.count [] ∧
      (h.Agrees ↔ [] ∉ h.body)) ∧
    (['\n'] ∉ Document.lines p.toList → ∀ h ∈ d.hunks, h.Agrees) ∧
    (d.hunks ≠ [] →
      (∃ chunks, (byHunk p).value = .ok chunks ∧ ∀ c ∈ chunks, AgreesUnlessEmpty d c) ∧
      ∀ before after : Table, ∃ chunks, (bySymbol before after p).value = .ok chunks ∧
        ∀ c ∈ chunks, AgreesUnlessEmpty d c) := by
  have hreadable := Document.readable_of_read hr
  refine ⟨?_, ?_, ?_⟩
  · intro h hh
    obtain ⟨hold, hnew⟩ := hreadable.linesIn_body hh
    exact ⟨hold, hnew, hreadable.agrees_iff hh⟩
  · intro hfull h hh
    exact (hreadable.agrees_iff hh).mpr fun hempty => hfull (newline_mem_lines hr hh hempty)
  · intro hne
    refine ⟨agreesUnlessEmpty_of_cutsHunks cutsHunks_splitByHunk hr hne, ?_⟩
    intro before after
    exact agreesUnlessEmpty_of_cutsHunks (cutsHunks_cutBySymbol before after) hr hne

/-- A blank line of the file, comments among the counted lines and behind them, and a hunk of no
lines. -/
def commented : String :=
  "--- a\n+++ b\n@@ -1,2 +1,2 @@\n \n-x\n\\ No newline at end of file\n+y\n" ++
    "\\ No newline at end of file\n@@ -9,0 +9,0 @@\n"

def commentedDocument : Document := ⟨[⟨"a", "b", [
  ⟨1, 2, 1, 2, [[' '], ['-', 'x'], Entry.noNewlineMark, ['+', 'y'], Entry.noNewlineMark], []⟩,
  ⟨9, 0, 9, 0, [], []⟩]⟩]⟩

theorem agrees_iff_no_empty_line_commented :
    Document.read commented = .ok commentedDocument ∧
    ['\n'] ∉ Document.lines commented.toList ∧ commentedDocument.hunks ≠ [] ∧
    (∀ h ∈ commentedDocument.hunks, h.Agrees) ∧
    ∃ chunks, (bySymbol nested nested commented).value = .ok chunks ∧
      ∀ c ∈ chunks, AgreesUnlessEmpty commentedDocument c := by
  have hr : Document.read commented = .ok commentedDocument := by decide +kernel
  have hfull : ['\n'] ∉ Document.lines commented.toList := by decide +kernel
  have hne : commentedDocument.hunks ≠ [] := by decide
  obtain ⟨-, hagree, hsplit⟩ := agrees_iff_no_empty_line hr
  exact ⟨hr, hfull, hne, hagree hfull, (hsplit hne).2 nested nested⟩

def separated : String :=
  "--- a\n+++ b\n@@ -1 +1 @@\n-x\n+y\n\n@@ -9 +9 @@\n-p\n+q\n"

def separatedDocument : Document := ⟨[⟨"a", "b", [
  ⟨1, 1, 1, 1, [['-', 'x'], ['+', 'y'], []], []⟩,
  ⟨9, 1, 9, 1, [['-', 'p'], ['+', 'q']], []⟩]⟩]⟩

/-- The first header says one line of either file, and two stand under it. -/
theorem not_agrees_separated :
    Document.read separated = .ok separatedDocument ∧
    ¬ ∀ h ∈ separatedDocument.hunks, h.Agrees := by
  have hr : Document.read separated = .ok separatedDocument := by decide +kernel
  refine ⟨hr, fun hall => ?_⟩
  have hfirst := (hall _ (List.mem_cons_self ..)).old
  exact absurd hfirst (by decide)

end Changeset.Patch
