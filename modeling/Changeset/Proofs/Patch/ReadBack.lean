import Changeset.Proofs.Patch.Reader

/-!
# Rendered hunks, read back

`read_named_sublist`: hunks of any patch that are rendered behind the lines of
a file are read as the hunks that they were, up to their headings. This holds
of some of the hunks as of all, since a sound hunk ends where its counts say,
and a bare one was the last and still is.
-/

namespace Changeset.Patch

def named (x y : String) (hs : List Hunk) : String :=
  String.ofList (unlines (sourceLine x :: targetLine y :: hs.flatMap Hunk.render))

def Hunk.withoutHeading (h : Hunk) : Hunk := { h with heading := [] }

theorem Hunk.Bare.newline {h : Hunk} (hb : h.Bare) : ∀ l ∈ h.render, '\n' ∉ l := by
  obtain ⟨⟨a, c, hnum⟩, hbody⟩ := hb
  rw [Hunk.render, hbody]
  exact List.forall_mem_singleton.mpr (newline_not_mem_header hnum)

theorem Readable.newline {hs : List Hunk} (hr : Readable hs) :
    ∀ l ∈ hs.flatMap Hunk.render, '\n' ∉ l := by
  intro l hl
  obtain ⟨h, hh, hl⟩ := List.mem_flatMap.mp hl
  rcases hr.sound_or_bare hh with hsound | hbare
  · exact hsound.newline l hl
  · exact hbare.newline l hl

section
variable (done : List FilePatch) (f : FilePatch) (pending : Option String)

theorem readLines_render {hs : List Hunk} (hhs : ∀ h ∈ hs, h.Sound) :
    State.readLines ⟨done, .file f, pending⟩ (hs.flatMap Hunk.render) =
      .ok ⟨done, .file { f with hunks := f.hunks ++ hs.map Hunk.withoutHeading }, pending⟩ := by
  have hread := readLines_hunks done f pending hhs fun _ => []
  simp only [List.append_nil] at hread
  exact hread

theorem readLines_bare {h : Hunk} (hb : h.Bare) :
    State.readLines ⟨done, .file f, pending⟩ h.render >>= State.finish =
      .ok ⟨done.reverse ++ [f.push h.withoutHeading]⟩ := by
  obtain ⟨⟨a, c, hnum⟩, hbody⟩ := hb
  have hstep := step_header done f pending hnum []
  rw [List.append_nil] at hstep
  rw [Hunk.render, hbody, State.readLines_cons hstep, Hunk.withoutHeading, hbody]
  simp [State.readLines_nil, bind, Except.bind, State.finish, FilePatch.addHunk, FilePatch.push,
    Entry.heading]

theorem readLines_readable {hs : List Hunk} (hr : Readable hs) :
    State.readLines ⟨done, .file f, pending⟩ (hs.flatMap Hunk.render) >>= State.finish =
      .ok ⟨done.reverse ++ [{ f with hunks := f.hunks ++ hs.map Hunk.withoutHeading }]⟩ := by
  obtain ⟨init, last, rfl, hinit, hlast⟩ := hr
  rw [List.flatMap_append, State.readLines_append (readLines_render done f pending hinit)]
  rcases hlast with rfl | ⟨h, rfl, hbare⟩
  · simp [State.readLines_nil, bind, Except.bind, State.finish, State.files, State.current?]
  · rw [List.flatMap_singleton, readLines_bare _ _ _ hbare]
    simp [FilePatch.push]

end

theorem Readable.read_named {hs : List Hunk} (hr : Readable hs) {x y : String} (hx : IsName x)
    (hy : IsName y) :
    Document.read (named x y hs) = .ok ⟨[⟨x, y, hs.map Hunk.withoutHeading⟩]⟩ := by
  have hlines : ∀ l ∈ sourceLine x :: targetLine y :: hs.flatMap Hunk.render, '\n' ∉ l :=
    List.forall_mem_cons.mpr ⟨newline_not_mem_sourceLine hx,
      List.forall_mem_cons.mpr ⟨newline_not_mem_targetLine hy, hr.newline⟩⟩
  have hopen := State.readLines_append (readLines_fileLines (s := .start) (.inl rfl) hx hy)
    (hs.flatMap Hunk.render)
  rw [named, read_unlines hlines, ofLines_eq]
  refine (congrArg (· >>= State.finish) hopen).trans ?_
  rw [readLines_readable _ _ _ hr]
  rfl

/-- Any hunks of a patch, in their order, read back as they are. -/
theorem read_named_sublist {p : String} {d : Document} (hp : Document.read p = .ok d)
    {hs : List Hunk} (hhs : hs.Sublist d.hunks) {x y : String} (hx : IsName x) (hy : IsName y) :
    Document.read (named x y hs) = .ok ⟨[⟨x, y, hs.map Hunk.withoutHeading⟩]⟩ :=
  ((Document.readable_of_read hp).sublist hhs).read_named hx hy

def ragged : String :=
  "--- a\n+++ b\n@@ -1,3 +1,3 @@ f()\n\n-x\n\\ No newline at end of file\n+y\n z\n\n" ++
    "@@ -9 +9 @@\n-p\n+q\n\\ No newline at end of file\n@@ -12,0 +12,0 @@ g()\n"

def raggedDocument : Document := ⟨[⟨"a", "b", [
  ⟨1, 3, 1, 3, [" ".toList, "-x".toList, Entry.noNewlineMark, "+y".toList, " z".toList, []],
    "f()".toList⟩,
  ⟨9, 1, 9, 1, ["-p".toList, "+q".toList, Entry.noNewlineMark], []⟩,
  ⟨12, 0, 12, 0, [], "g()".toList⟩]⟩]⟩

theorem read_named_sublist_ragged :
    Document.read ragged = .ok raggedDocument ∧
    (raggedDocument.hunks.eraseIdx 1).Sublist raggedDocument.hunks ∧
    IsName "x" ∧ IsName "y z" ∧
    Document.read (named "x" "y z" (raggedDocument.hunks.eraseIdx 1)) =
      .ok ⟨[⟨"x", "y z", (raggedDocument.hunks.eraseIdx 1).map Hunk.withoutHeading⟩]⟩ := by
  have hr : Document.read ragged = .ok raggedDocument := by decide +kernel
  have hs := List.eraseIdx_sublist raggedDocument.hunks 1
  have hx : IsName "x" := by decide
  have hy : IsName "y z" := by decide
  exact ⟨hr, hs, hx, hy, read_named_sublist hr hs hx hy⟩

end Changeset.Patch
