import Changeset.Patch.Split
import Changeset.Proofs.Patch.Hunk

/-!
# Documents, written and read

`read_written`: a well-formed document that is written in the unified format
is read as that document, and is split by hunk into its hunks without their
headings. Nothing is asked of a body line but its mark, so a line of a body can
look like a file line or a hunk header; only the counts end a hunk.
-/

namespace Changeset.Patch

open Changeset.Patch.Mark (inOld inNew)

-- ---------------------------------------------------------------------------
-- Writing
-- ---------------------------------------------------------------------------

def Hunk.written (h : Hunk) : List Line := (h.header ++ ' ' :: h.heading) :: h.body

def FilePatch.written (f : FilePatch) : List Line :=
  sourceLine f.source :: targetLine f.target :: f.hunks.flatMap Hunk.written

def Document.written (d : Document) : String :=
  String.ofList (unlines (d.files.flatMap FilePatch.written))

-- ---------------------------------------------------------------------------
-- Well-formed documents
-- ---------------------------------------------------------------------------

def IsNumber (i : Int) : Prop := 0 ≤ i ∧ i.toNat < 10 ^ maxDigits

/-- A line of either file with its mark, or the comment on a missing newline. -/
def IsWrittenLine (l : Line) : Prop :=
  '\n' ∉ l ∧ (l.head? ∈ [some ' ', some '+', some '-'] ∨ l = Entry.noNewlineMark)

@[mk_iff]
structure Hunk.WellFormed (h : Hunk) : Prop where
  oldStart : IsNumber h.oldStart
  oldCount : IsNumber h.oldCount
  newStart : IsNumber h.newStart
  newCount : IsNumber h.newCount
  heading : '\n' ∉ h.heading
  lines : ∀ l ∈ h.body, IsWrittenLine l
  old : h.oldCount = linesIn inOld h.body
  new : h.newCount = linesIn inNew h.body
  pos : 0 < h.oldCount + h.newCount

@[mk_iff]
structure FilePatch.WellFormed (f : FilePatch) : Prop where
  source : IsName f.source
  target : IsName f.target
  nonempty : f.hunks ≠ []
  hunks : ∀ h ∈ f.hunks, h.WellFormed

@[mk_iff]
structure Document.WellFormed (d : Document) : Prop where
  nonempty : d.files ≠ []
  files : ∀ f ∈ d.files, f.WellFormed

instance (i : Int) : Decidable (IsNumber i) := inferInstanceAs (Decidable (_ ∧ _))

instance (l : Line) : Decidable (IsWrittenLine l) := inferInstanceAs (Decidable (_ ∧ _))

instance (h : Hunk) : Decidable h.WellFormed := decidable_of_iff _ (Hunk.wellFormed_iff h).symm

instance (f : FilePatch) : Decidable f.WellFormed :=
  decidable_of_iff _ (FilePatch.wellFormed_iff f).symm

instance (d : Document) : Decidable d.WellFormed :=
  decidable_of_iff _ (Document.wellFormed_iff d).symm

theorem IsNumber.exists_natCast {i : Int} (h : IsNumber i) :
    ∃ n : Nat, i = n ∧ n < 10 ^ maxDigits :=
  ⟨i.toNat, (Int.toNat_of_nonneg h.1).symm, h.2⟩

theorem IsWrittenLine.isBodyLine {l : Line} (h : IsWrittenLine l) : IsBodyLine l := by
  obtain ⟨hn, hc | rfl⟩ := h
  · simp only [List.mem_cons, List.not_mem_nil, or_false] at hc
    rcases hc with hc | hc | hc <;> obtain ⟨cs, rfl⟩ := List.head?_eq_some_iff.mp hc
    all_goals exact ⟨hn, _, by simp, cs, rfl⟩
  · exact ⟨hn, '\\', by simp, _, rfl⟩

theorem IsWrittenLine.isTrailer {l : Line} (h : IsWrittenLine l) (hl : mark l = .comment) :
    IsTrailer l := by
  obtain ⟨-, hc | hm⟩ := h
  · simp only [List.mem_cons, List.not_mem_nil, or_false] at hc
    rcases hc with hc | hc | hc <;> obtain ⟨cs, rfl⟩ := List.head?_eq_some_iff.mp hc
    all_goals simp [mark] at hl
  · exact .inr hm

-- ---------------------------------------------------------------------------
-- Counted lines and comments behind them
-- ---------------------------------------------------------------------------

def isComment (l : Line) : Bool := mark l = .comment

def countedLines (ls : List Line) : List Line := ls.rdropWhile isComment

theorem linesIn_comments {inFile : Mark → Bool} (hfile : inFile .comment = false) {ls : List Line}
    (h : ∀ l ∈ ls, isComment l) : linesIn inFile ls = 0 := by
  refine List.countP_eq_zero.mpr fun l hl => ?_
  have hc : mark l = .comment := by simpa [isComment] using h l hl
  rw [hc, hfile]
  decide

theorem exists_countedLines (ls : List Line) :
    ∃ comments, ls = countedLines ls ++ comments ∧ ∀ l ∈ comments, isComment l :=
  ⟨ls.rtakeWhile isComment, List.rdropWhile_append_rtakeWhile.symm,
    fun _ hl => List.mem_rtakeWhile_imp hl⟩

theorem last_countedLines {ls init : List Line} {l : Line} (h : countedLines ls = init ++ [l]) :
    mark l ≠ .comment := by
  rw [countedLines] at h
  have hlast := List.rdropWhile_last_not isComment ls (by simp [h])
  simpa [h, isComment] using hlast

/-- A body with something to count is complete up to its last comments. -/
theorem Hunk.WellFormed.sound {h : Hunk} (hw : h.WellFormed) : h.Sound := by
  obtain ⟨a, ha, ha'⟩ := hw.oldStart.exists_natCast
  obtain ⟨b, hb, hb'⟩ := hw.oldCount.exists_natCast
  obtain ⟨c, hc, hc'⟩ := hw.newStart.exists_natCast
  obtain ⟨d, hd, hd'⟩ := hw.newCount.exists_natCast
  obtain ⟨comments, hbody, hcomments⟩ := exists_countedLines h.body
  have hlines : ∀ l ∈ countedLines h.body ++ comments, IsWrittenLine l := hbody ▸ hw.lines
  have hold : b = linesIn inOld (countedLines h.body) := by
    have hcount := hw.old
    rw [hbody, linesIn_append, linesIn_comments rfl hcomments] at hcount
    omega
  have hnew : d = linesIn inNew (countedLines h.body) := by
    have hcount := hw.new
    rw [hbody, linesIn_append, linesIn_comments rfl hcomments] at hcount
    omega
  refine ⟨countedLines h.body, comments, a, b, c, d,
    ⟨ha, hb, hc, hd, ha', hb', hc', hd'⟩, hbody, ⟨?_, ?_, hold, hnew, ?_⟩, ?_⟩
  · intro hnil
    have hpos := hw.pos
    rw [hnil, linesIn_nil] at hold hnew
    omega
  · exact fun l hl => (hlines l (List.mem_append_left _ hl)).isBodyLine
  · exact fun init l hl _ => last_countedLines hl
  · intro l hl
    have hc : mark l = .comment := by simpa [isComment] using hcomments l hl
    exact (hlines l (List.mem_append_right _ hl)).isTrailer hc

-- ---------------------------------------------------------------------------
-- Reading what was written
-- ---------------------------------------------------------------------------

theorem heading_written {heading : Line} (h : '\n' ∉ heading) :
    Entry.heading (' ' :: heading ++ ['\n']) = heading := by
  have hin : ∀ c ∈ heading, (c != '\n') = true := by
    intro c hc
    have hn : c ≠ '\n' := fun he => h (he ▸ hc)
    simpa using hn
  rw [List.cons_append, Entry.heading, List.takeWhile_append_of_pos hin]
  simp

theorem FilePatch.WellFormed.readLines {f : FilePatch} (hf : f.WellFormed) {s : State}
    (hs : s.Between) : s.readLines f.written = .ok ⟨s.files, .file f, none⟩ := by
  have hread := readLines_hunks s.files ⟨f.source, f.target, []⟩ none
    (fun h hh => (hf.hunks h hh).sound) fun h => ' ' :: h.heading
  have hheading : f.hunks.map (fun h =>
      { h with heading := Entry.heading (' ' :: h.heading ++ ['\n']) }) = f.hunks := by
    refine (List.map_congr_left fun h hh => ?_).trans (List.map_id _)
    rw [heading_written (hf.hunks h hh).heading]
    rfl
  rw [hheading] at hread
  exact (State.readLines_append (readLines_fileLines hs hf.source hf.target) _).trans hread

theorem readLines_written {fs : List FilePatch} (hfs : ∀ f ∈ fs, f.WellFormed) {s : State}
    (hs : s.Between) :
    ∃ t : State, s.readLines (fs.flatMap FilePatch.written) = .ok t ∧ t.Between ∧
      t.files = fs.reverse ++ s.files := by
  induction fs generalizing s with
  | nil => exact ⟨s, rfl, hs, rfl⟩
  | cons f fs ih =>
    obtain ⟨t, ht, hbetween, hfiles⟩ :=
      ih (s := ⟨s.files, .file f, none⟩) (fun g hg => hfs g (List.mem_cons_of_mem _ hg))
        (.inr ⟨f, rfl⟩)
    refine ⟨t, ?_, hbetween, ?_⟩
    · rw [List.flatMap_cons, State.readLines_append ((hfs f (by simp)).readLines hs), ht]
    · rw [hfiles, List.reverse_cons, List.append_assoc]
      rfl

theorem State.Between.finish {s : State} (hs : s.Between) : s.finish = .ok ⟨s.files.reverse⟩ := by
  obtain ⟨done, place, pending⟩ := s
  rcases hs with rfl | ⟨f, rfl⟩ <;> rfl

theorem FilePatch.WellFormed.newline {f : FilePatch} (hf : f.WellFormed) :
    ∀ l ∈ f.written, '\n' ∉ l := by
  intro l hl
  simp only [written, List.mem_cons, List.mem_flatMap, Hunk.written] at hl
  rcases hl with rfl | rfl | ⟨h, hh, rfl | hl⟩
  · exact newline_not_mem_sourceLine hf.source
  · exact newline_not_mem_targetLine hf.target
  · have hw := hf.hunks h hh
    simp [hw.sound.newline h.header (List.mem_cons_self ..), hw.heading]
  · exact ((hf.hunks h hh).lines l hl).1

theorem Document.WellFormed.read {d : Document} (hd : d.WellFormed) :
    Document.read d.written = .ok d := by
  have hlines : ∀ l ∈ d.files.flatMap FilePatch.written, '\n' ∉ l := by
    intro l hl
    obtain ⟨f, hf, hl⟩ := List.mem_flatMap.mp hl
    exact (hd.files f hf).newline l hl
  obtain ⟨t, ht, hbetween, hfiles⟩ := readLines_written hd.files (s := .start) (.inl rfl)
  rw [Document.written, read_unlines hlines, ofLines_eq, ht]
  refine hbetween.finish.trans ?_
  rw [hfiles, List.reverse_append, List.reverse_reverse]
  rfl

theorem Document.WellFormed.hunks_ne_nil {d : Document} (hd : d.WellFormed) : d.hunks ≠ [] := by
  obtain ⟨f, fs, hfs⟩ := List.exists_cons_of_ne_nil hd.nonempty
  have hf := hd.files f (by simp [hfs])
  simp [Document.hunks, hfs, hf.nonempty]

/-- Reading inverts writing, and cutting gives the hunks that were written. -/
theorem read_written {d : Document} (hd : d.WellFormed) :
    Document.read d.written = .ok d ∧
    (byHunk d.written).value = .ok (d.hunks.map fun h =>
      String.ofList (unlines (['-', '-', '-'] :: ['+', '+', '+'] :: h.header :: h.body))) := by
  refine ⟨hd.read, ?_⟩
  rw [byHunk, value_splitWith, hd.read]
  simp only [List.isEmpty_iff, if_neg hd.hunks_ne_nil, Noted.value_pure, Except.ok.injEq]
  refine List.map_congr_left fun h _ => ?_
  simp [fragment, placeholder, Hunk.render]

/--
Two files. The lines `-- x` removed and `++ y` added look like file lines once
they are marked, and a comment stands inside a body and behind one.
-/
def misleading : Document := ⟨[
  ⟨"a", "b", [
    ⟨1, 2, 1, 2, ["--- x".toList, "+++ y".toList, " @@ -1 +1 @@".toList], "f()".toList⟩,
    ⟨7, 1, 7, 0, ["-z".toList, Entry.noNewlineMark], []⟩]⟩,
  ⟨"c d", "c d", [
    ⟨0, 1, 1, 1, ["-p".toList, Entry.noNewlineMark, "+q".toList], " g".toList⟩]⟩]⟩

theorem read_written_misleading :
    misleading.WellFormed ∧ Document.read misleading.written = .ok misleading ∧
    (byHunk misleading.written).value = .ok (misleading.hunks.map fun h =>
      String.ofList (unlines (['-', '-', '-'] :: ['+', '+', '+'] :: h.header :: h.body))) := by
  have hw : misleading.WellFormed := by decide +kernel
  exact ⟨hw, read_written hw⟩

end Changeset.Patch
