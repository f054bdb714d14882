import Changeset.Proofs.Patch.Reader

/-!
# Numbers of changed lines

The lines of a file that a body shows are numbered one after the other, so the
numbers of the changed ones go up and stay among as many as the body shows
(`isNumbering_numbersFrom`). In a hunk of a patch these are the lines that the
header counts, since what follows them in the body is not changed
(`changed_numbers_inside`). Comments have no number and move none.
-/

namespace Changeset.Patch

open Changeset.Patch.Mark (inOld inNew)

/-- Numbers that go up, one for each of `lines` lines, and lie among `count` ones from `start` on. -/
structure IsNumbering (ns : List Int) (lines : Nat) (start count : Int) : Prop where
  increasing : ns.Pairwise (· < ·)
  length : ns.length = lines
  inside : ∀ n ∈ ns, start ≤ n ∧ n ≤ start + count - 1

-- ---------------------------------------------------------------------------
-- Numbering lines
-- ---------------------------------------------------------------------------

theorem isNumbering_nil (start count : Int) : IsNumbering [] 0 start count :=
  ⟨.nil, rfl, by simp⟩

theorem IsNumbering.cons {ns : List Int} {lines count : Nat} {n : Int}
    (h : IsNumbering ns lines (n + 1) count) :
    IsNumbering (n :: ns) (lines + 1) n (1 + count : Nat) := by
  refine ⟨.cons ?_ h.increasing, by rw [List.length_cons, h.length], ?_⟩
  · intro k hk
    have := (h.inside k hk).1
    omega
  · intro k hk
    rcases List.mem_cons.mp hk with rfl | hk
    · omega
    · have := h.inside k hk
      omega

theorem IsNumbering.behind {ns : List Int} {lines skipped count : Nat} {n : Int}
    (h : IsNumbering ns lines (n + skipped) count) :
    IsNumbering ns lines n (skipped + count : Nat) := by
  refine ⟨h.increasing, h.length, ?_⟩
  intro k hk
  have := h.inside k hk
  omega

section
variable {m : Mark} {counts : Mark → Bool}

theorem numbersFrom_cons (n : Int) (l : Line) (ls : List Line) :
    numbersFrom m counts n (l :: ls) =
      (if mark l = m then [n] else []) ++ numbersFrom m counts (n + linesIn counts [l]) ls := by
  have hnext : (if counts (mark l) = true then n + 1 else n) = n + linesIn counts [l] := by
    rw [linesIn_singleton]
    split <;> simp
  rw [numbersFrom, hnext]
  split <;> rfl

theorem numbersFrom_append (n : Int) (ls ms : List Line) :
    numbersFrom m counts n (ls ++ ms) =
      numbersFrom m counts n ls ++ numbersFrom m counts (n + linesIn counts ls) ms := by
  induction ls generalizing n with
  | nil => simp [numbersFrom, linesIn_nil]
  | cons l ls ih =>
    rw [List.cons_append, numbersFrom_cons, numbersFrom_cons, ih, List.append_assoc,
      linesIn_cons counts l ls, Nat.cast_add, Int.add_assoc]

theorem isNumbering_numbersFrom (hm : counts m = true) (n : Int) (ls : List Line) :
    IsNumbering (numbersFrom m counts n ls) (ls.countP (mark · = m)) n (linesIn counts ls) := by
  induction ls generalizing n with
  | nil => exact isNumbering_nil _ _
  | cons l ls ih =>
    have hrest := ih (n + linesIn counts [l])
    rw [numbersFrom_cons, linesIn_cons counts l ls, List.countP_cons]
    by_cases hl : mark l = m
    · -- A marked line counts, so it takes `n` and the rest is numbered from `n + 1` on.
      have hone : linesIn counts [l] = 1 := by simp [linesIn_singleton, hl, hm]
      rw [hone] at hrest ⊢
      simpa [hl] using hrest.cons
    · simpa [hl] using hrest.behind

theorem numbersFrom_eq_nil (n : Int) {ls : List Line} (h : ∀ l ∈ ls, mark l ≠ m) :
    numbersFrom m counts n ls = [] := by
  induction ls generalizing n with
  | nil => rfl
  | cons l ls ih =>
    obtain ⟨hl, hls⟩ := List.forall_mem_cons.mp h
    rw [numbersFrom_cons, if_neg hl, ih _ hls, List.nil_append]

end

-- ---------------------------------------------------------------------------
-- Bodies of hunks
-- ---------------------------------------------------------------------------

theorem IsTrailer.mark_eq {l : Line} (h : IsTrailer l) : mark l = .context ∨ mark l = .comment := by
  rcases h with rfl | rfl
  · exact .inl rfl
  · exact .inr rfl

theorem isNumbering_body {m : Mark} (hm : m = .added ∨ m = .removed) {counts : Mark → Bool}
    (hcounts : counts m = true) {counted trailing : List Line}
    (htrailing : ∀ l ∈ trailing, IsTrailer l) (n : Int) :
    IsNumbering (numbersFrom m counts n (counted ++ trailing))
      ((counted ++ trailing).countP (mark · = m)) n (linesIn counts counted) := by
  -- Behind the counted lines nothing is changed, so these are all that is numbered.
  have hunchanged : ∀ l ∈ trailing, mark l ≠ m := by
    intro l hl
    rcases hm with rfl | rfl <;> rcases (htrailing l hl).mark_eq with h | h <;> simp [h]
  have hnone : trailing.countP (mark · = m) = 0 := by
    simpa [List.countP_eq_zero] using hunchanged
  rw [numbersFrom_append, numbersFrom_eq_nil _ hunchanged, List.append_nil, List.countP_append,
    hnone, Nat.add_zero]
  exact isNumbering_numbersFrom hcounts n counted

theorem Readable.isNumbering {hs : List Hunk} (hr : Readable hs) {h : Hunk} (hh : h ∈ hs) :
    IsNumbering h.added (h.body.countP (mark · = .added)) h.newStart h.newCount ∧
      IsNumbering h.removed (h.body.countP (mark · = .removed)) h.oldStart h.oldCount := by
  rcases hr.sound_or_bare hh with ⟨counted, trailing, a, b, c, d, hw⟩ | hbare
  · rw [Hunk.added, Hunk.removed, hw.body, hw.numbers.newCount, hw.numbers.oldCount,
      hw.complete.new, hw.complete.old]
    exact ⟨isNumbering_body (.inl rfl) rfl hw.trailers _,
      isNumbering_body (.inr rfl) rfl hw.trailers _⟩
  · rw [Hunk.added, Hunk.removed, hbare.body]
    exact ⟨isNumbering_nil _ _, isNumbering_nil _ _⟩

-- ---------------------------------------------------------------------------
-- Comments
-- ---------------------------------------------------------------------------

/-- `ms` is what is left of `ls` when some of its comments are dropped. -/
inductive DropsComments : List Line → List Line → Prop
  | nil : DropsComments [] []
  | keep (l : Line) {ls ms : List Line} : DropsComments ls ms → DropsComments (l :: ls) (l :: ms)
  | drop (l : Line) {ls ms : List Line} :
    mark l = .comment → DropsComments ls ms → DropsComments (l :: ls) ms

theorem numbersFrom_dropsComments {m : Mark} (hm : m ≠ .comment) {counts : Mark → Bool}
    (hcounts : counts .comment = false) {ls ms : List Line} (h : DropsComments ls ms) (n : Int) :
    numbersFrom m counts n ms = numbersFrom m counts n ls := by
  induction h generalizing n with
  | nil => rfl
  | keep l _ ih => rw [numbersFrom_cons, numbersFrom_cons, ih]
  | drop l hl _ ih =>
    have hnone : linesIn counts [l] = 0 := by simp [linesIn_singleton, hl, hcounts]
    rw [numbersFrom_cons, hl, if_neg (Ne.symm hm), List.nil_append, hnone, ih, Nat.cast_zero,
      Int.add_zero]

/-- The numbers of the added lines of a hunk go up, are as many as these lines and lie in the range
of the new file that the header gives, and so do those of the removed lines for the old file. Of any
hunk, comments can be dropped without a change to either. -/
theorem changed_numbers_inside :
    (∀ (p : String) (d : Document), Document.read p = .ok d → ∀ h ∈ d.hunks,
      IsNumbering h.added (h.body.countP (mark · = .added)) h.newStart h.newCount ∧
      IsNumbering h.removed (h.body.countP (mark · = .removed)) h.oldStart h.oldCount) ∧
    ∀ (h : Hunk) (body : List Line), DropsComments h.body body →
      ({ h with body } : Hunk).added = h.added ∧ ({ h with body } : Hunk).removed = h.removed := by
  constructor
  · intro p d hr h hh
    exact (Document.readable_of_read hr).isNumbering hh
  · intro h body hdrops
    exact ⟨numbersFrom_dropsComments (by decide) rfl hdrops _,
      numbersFrom_dropsComments (by decide) rfl hdrops _⟩

def interrupted : String :=
  "--- a\n+++ b\n@@ -10,3 +12,3 @@\n ctx\n-gone\n\\ No newline at end of file\n+new\n" ++
    "\\ No newline at end of file\n\n\n@@ -20 +22,2 @@\n+p\n z\n"

def interruptedHunk : Hunk :=
  ⟨10, 3, 12, 3, [" ctx".toList, "-gone".toList, Entry.noNewlineMark, "+new".toList,
    Entry.noNewlineMark, [' '], []], []⟩

def interruptedDocument : Document := ⟨[⟨"a", "b", [
  interruptedHunk, ⟨20, 1, 22, 2, ["+p".toList, " z".toList], []⟩]⟩]⟩

def lessInterrupted : List Line :=
  [" ctx".toList, "-gone".toList, Entry.noNewlineMark, "+new".toList, [' '], []]

theorem changed_numbers_inside_interrupted :
    Document.read interrupted = .ok interruptedDocument ∧
    interruptedHunk ∈ interruptedDocument.hunks ∧
    interruptedHunk.added = [13] ∧ interruptedHunk.removed = [11] ∧
    IsNumbering [13] 1 12 3 ∧ IsNumbering [11] 1 10 3 ∧
    DropsComments interruptedHunk.body lessInterrupted ∧
    ({ interruptedHunk with body := lessInterrupted } : Hunk).added = interruptedHunk.added := by
  have hr : Document.read interrupted = .ok interruptedDocument := by decide +kernel
  have hmem : interruptedHunk ∈ interruptedDocument.hunks := List.mem_cons_self ..
  have hdrops : DropsComments interruptedHunk.body lessInterrupted :=
    .keep _ <| .keep _ <| .keep _ <| .keep _ <| .drop _ rfl <| .keep _ <| .keep _ .nil
  obtain ⟨hadded, hremoved⟩ := changed_numbers_inside.1 _ _ hr _ hmem
  exact ⟨hr, hmem, rfl, rfl, hadded, hremoved, hdrops, (changed_numbers_inside.2 _ _ hdrops).1⟩

end Changeset.Patch
