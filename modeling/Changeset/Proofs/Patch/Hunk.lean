import Changeset.Proofs.Patch.Body

/-!
# Hunks and files, written and read

`Hunk.Sound` describes the hunks that the reader gives: four numbers within
the limit, a complete body, and behind it comments and blank lines. A sound
hunk that is written behind a file's lines is read as it is, with whatever its
header line ends in as the heading (`readLines_hunks`).
-/

namespace Changeset.Patch

-- ---------------------------------------------------------------------------
-- Sound hunks
-- ---------------------------------------------------------------------------

/-- What the reader adds to a hunk whose counts are met. -/
def IsTrailer (l : Line) : Prop := l = [] ∨ l = Entry.noNewlineMark

theorem IsTrailer.newline {l : Line} (h : IsTrailer l) : '\n' ∉ l := by
  rcases h with rfl | rfl
  · simp
  · exact newline_not_mem_noNewlineMark

structure Hunk.SoundWith (h : Hunk) (counted trailing : List Line) (a b c d : Nat) : Prop where
  numbers : h.Numbers a b c d
  body : h.body = counted ++ trailing
  complete : Complete b d counted
  trailers : ∀ l ∈ trailing, IsTrailer l

def Hunk.Sound (h : Hunk) : Prop :=
  ∃ counted trailing a b c d, h.SoundWith counted trailing a b c d

theorem Hunk.Sound.addTrailer {h : Hunk} (hs : h.Sound) {l : Line} (hl : IsTrailer l) :
    Hunk.Sound { h with body := h.body ++ [l] } := by
  obtain ⟨counted, trailing, a, b, c, d, hw⟩ := hs
  refine ⟨counted, trailing ++ [l], a, b, c, d, ⟨hw.numbers.withBody _, ?_, hw.complete, ?_⟩⟩
  · rw [hw.body, List.append_assoc]
  · exact List.forall_mem_append.mpr ⟨hw.trailers, List.forall_mem_singleton.mpr hl⟩

theorem Hunk.Sound.newline {h : Hunk} (hs : h.Sound) : ∀ l ∈ h.render, '\n' ∉ l := by
  obtain ⟨counted, trailing, a, b, c, d, hw⟩ := hs
  rw [Hunk.render, hw.body]
  intro l hl
  rcases List.mem_cons.mp hl with rfl | hl
  · exact newline_not_mem_header hw.numbers
  · rcases List.mem_append.mp hl with hl | hl
    · exact (hw.complete.lines l hl).newline
    · exact (hw.trailers l hl).newline

-- ---------------------------------------------------------------------------
-- Reading hunks
-- ---------------------------------------------------------------------------

def FilePatch.push (f : FilePatch) (h : Hunk) : FilePatch := { f with hunks := f.hunks ++ [h] }

theorem FilePatch.addHunk_eq_push (f : FilePatch) (h : Hunk) :
    f.addHunk h = f.push { h with body := h.body.reverse } := rfl

theorem FilePatch.extendLast_push (f : FilePatch) (h : Hunk) (l : Line) :
    (f.push h).extendLast l = some (f.push { h with body := h.body ++ [l] }) := by
  simp [extendLast, push]

section
variable (done : List FilePatch) (f : FilePatch) (pending : Option String)

theorem State.step_file (line : List Char) :
    State.step ⟨done, .file f, pending⟩ line = State.entryStep ⟨done, .file f, pending⟩ line :=
  rfl

theorem step_trailer (h : Hunk) {l : Line} (hl : IsTrailer l) :
    State.step ⟨done, .file (f.push h), pending⟩ (l ++ ['\n']) =
      .ok ⟨done, .file (f.push { h with body := h.body ++ [l] }), pending⟩ := by
  rw [State.step_file]
  rcases hl with rfl | rfl
  · have hb : Entry.ofLine ([] ++ ['\n']) = .blank := rfl
    simp only [State.entryStep, hb, f.extendLast_push]
  · simp only [State.entryStep, ofLine_noNewlineMark, State.current?, f.extendLast_push]

theorem readLines_trailers (h : Hunk) {ls : List Line} (hls : ∀ l ∈ ls, IsTrailer l) :
    State.readLines ⟨done, .file (f.push h), pending⟩ ls =
      .ok ⟨done, .file (f.push { h with body := h.body ++ ls }), pending⟩ := by
  induction ls generalizing h with
  | nil => rw [State.readLines_nil, List.append_nil]
  | cons l ls ih =>
    rw [State.readLines_cons (step_trailer done f pending h (hls l (by simp))),
      ih _ fun m hm => hls m (List.mem_cons_of_mem _ hm)]
    simp

theorem step_header {h : Hunk} {a b c d : Nat} (hn : h.Numbers a b c d) (tail : Line) :
    State.step ⟨done, .file f, pending⟩ (h.header ++ tail ++ ['\n']) =
      .ok ⟨done, .body f { h with body := [], heading := Entry.heading (tail ++ ['\n']) } b d,
        pending⟩ := by
  rw [State.step_file, List.append_assoc]
  simp only [State.entryStep, ofLine_header hn, State.current?, openHunk_header hn]
  rfl

/-- A sound hunk is read as it was written, up to its heading. -/
theorem Hunk.Sound.readLines {h : Hunk} (hs : h.Sound) (tail : Line) :
    State.readLines ⟨done, .file f, pending⟩ ((h.header ++ tail) :: h.body) =
      .ok ⟨done, .file (f.push { h with heading := Entry.heading (tail ++ ['\n']) }), pending⟩ := by
  obtain ⟨counted, trailing, a, b, c, d, hw⟩ := hs
  rw [State.readLines_cons (step_header done f pending hw.numbers tail), hw.body,
    State.readLines_append (hw.complete.readLines done f _ pending), f.addHunk_eq_push]
  simp only [List.append_nil, List.reverse_reverse]
  rw [readLines_trailers done f pending _ hw.trailers, ← hw.body]

theorem readLines_hunks {hs : List Hunk} (hhs : ∀ h ∈ hs, h.Sound) (tail : Hunk → Line) :
    State.readLines ⟨done, .file f, pending⟩ (hs.flatMap fun h => (h.header ++ tail h) :: h.body) =
      .ok ⟨done, .file { f with hunks := f.hunks ++ hs.map fun h =>
        { h with heading := Entry.heading (tail h ++ ['\n']) } }, pending⟩ := by
  induction hs generalizing f with
  | nil => simp [State.readLines_nil]
  | cons h hs ih =>
    rw [List.flatMap_cons,
      State.readLines_append ((hhs h (by simp)).readLines done f pending (tail h)),
      ih _ fun g hg => hhs g (List.mem_cons_of_mem _ hg)]
    simp [FilePatch.push]

end

-- ---------------------------------------------------------------------------
-- Reading files
-- ---------------------------------------------------------------------------

/-- Where a file can begin: neither inside a hunk nor inside a git header. -/
def State.Between (s : State) : Prop := s.place = .outside ∨ ∃ f, s.place = .file f

theorem readLines_fileLines {s : State} (hs : s.Between) {x y : String} (hx : IsName x)
    (hy : IsName y) :
    s.readLines [sourceLine x, targetLine y] = .ok ⟨s.files, .file ⟨x, y, []⟩, none⟩ := by
  have hsource : s.step (sourceLine x ++ ['\n']) = .ok ⟨s.files, .outside, some x⟩ := by
    rcases hs with hp | ⟨f, hp⟩ <;>
      simp only [State.step, State.entryStep, hp, ofLine_sourceLine hx, State.skip, State.close]
  have htarget : State.step ⟨s.files, .outside, some x⟩ (targetLine y ++ ['\n']) =
      .ok ⟨s.files, .file ⟨x, y, []⟩, none⟩ := by
    simp only [State.step, State.entryStep, ofLine_targetLine hy, State.current?]
  rw [State.readLines_cons hsource, State.readLines_cons htarget, State.readLines_nil]

theorem ofLines_eq (ls : List Line) :
    Document.ofLines (ls.map (· ++ ['\n'])) = State.start.readLines ls >>= State.finish := rfl

end Changeset.Patch
