import Changeset.Proofs.Outcome
import Changeset.Proofs.Patch.Hunk
import Changeset.Proofs.Patch.Step

/-!
# What the reader gives

`Document.readable_of_read`: every hunk of a patch is sound, except that the
last one is bare if the text ends behind the header of a hunk without lines.
The invariant is `State.Sound`, and a line of text keeps it wherever the reader
stands (`State.Sound.step`).
-/

namespace Changeset.Patch

-- ---------------------------------------------------------------------------
-- Opening and extending hunks
-- ---------------------------------------------------------------------------

theorem readNumber_lt {digits : List Char} {n : Nat} (h : readNumber digits = .ok n) :
    n < 10 ^ maxDigits := by
  unfold readNumber at h
  split at h
  · rename_i hl
    cases h
    exact (Digit.toNat_lt digits).trans_le (Nat.pow_le_pow_right (by decide) hl)
  · cases h

theorem readCount_lt {digits : Option (List Char)} {n : Nat} (h : readCount digits = .ok n) :
    n < 10 ^ maxDigits := by
  cases digits with
  | some digits => exact readNumber_lt h
  | none =>
    cases h
    exact Nat.one_lt_pow (by decide) (by decide)

theorem openHunk_ok {header : HunkHeader} {f : FilePatch} {place : Place}
    (h : openHunk header f = .ok place) :
    ∃ (hunk : Hunk) (a b c d : Nat), place = .body f hunk b d ∧ hunk.Numbers a b c d ∧
      hunk.body = [] := by
  simp only [openHunk, bind_ok] at h
  obtain ⟨a, ha, b, hb, c, hc, d, hd, h⟩ := h
  cases h
  exact ⟨_, a, b, c, d, rfl, ⟨rfl, rfl, rfl, rfl, readNumber_lt ha, readCount_lt hb,
    readNumber_lt hc, readCount_lt hd⟩, rfl⟩

def FilePatch.Sound (f : FilePatch) : Prop := ∀ h ∈ f.hunks, h.Sound

-- ---------------------------------------------------------------------------
-- The invariant
-- ---------------------------------------------------------------------------

def Place.Sound : Place → Prop
  | .outside => True
  | .header f | .file f => f.Sound
  | .body f hunk o n => f.Sound ∧ ∃ a b c d, hunk.Numbers a b c d ∧ Open b d hunk.body.reverse o n

structure State.Sound (s : State) : Prop where
  done : ∀ f ∈ s.done, f.Sound
  place : s.place.Sound

namespace State.Sound

variable {s t : State}

theorem start : State.start.Sound := ⟨by simp [State.start], trivial⟩

theorem hunks (hs : s.Sound) : ∀ h ∈ s.hunks, h.Sound := by
  refine List.forall_mem_append.mpr ⟨fun h hh => ?_, ?_⟩
  · obtain ⟨f, hf, hh⟩ := List.mem_flatMap.mp hh
    exact hs.done f (List.mem_reverse.mp hf) h hh
  · have hp := hs.place
    cases hplace : s.place with
    | outside => simp [Place.hunks]
    | header f | file f =>
      rw [hplace] at hp
      exact hp
    | body f hunk o n =>
      rw [hplace] at hp
      exact hp.1

theorem of_hunks (hclosed : s.IsClosed) (h : ∀ h ∈ s.hunks, h.Sound) : s.Sound := by
  obtain ⟨hdone, hplace⟩ := List.forall_mem_append.mp h
  refine ⟨fun f hf g hg => hdone g (List.mem_flatMap.mpr ⟨f, List.mem_reverse.mpr hf, hg⟩), ?_⟩
  cases hp : s.place with
  | outside => trivial
  | header f | file f =>
    rw [hp] at hplace
    exact hplace
  | body f hunk o n => exact absurd hp (hclosed f hunk o n)

theorem current (hs : s.Sound) {f : FilePatch} (h : s.current? = some f) : f.Sound := by
  intro hunk hh
  rw [← State.hunks_place_of_current h] at hh
  exact hs.hunks hunk (List.mem_append_right _ hh)

theorem withPlace (hs : s.Sound) {place : Place} (hp : place.Sound) :
    State.Sound { s with place } :=
  ⟨hs.done, hp⟩

theorem entryStep (hs : s.Sound) (hclosed : s.IsClosed) {line : List Char}
    (h : s.entryStep line = .ok t) : t.Sound := by
  cases State.entryStep_cases hclosed h with
  | keeps ht hhunks => exact of_hunks ht (hhunks ▸ hs.hunks)
  | adds ht hadded hbefore hafter =>
    have hhunks := hs.hunks
    rw [hbefore, List.forall_mem_append, List.forall_mem_singleton] at hhunks
    obtain ⟨hinit, hlast⟩ := hhunks
    refine of_hunks ht ?_
    rw [hafter, List.forall_mem_append, List.forall_mem_singleton]
    refine ⟨hinit, hlast.addTrailer ?_⟩
    cases hadded with
    | comment => exact .inr rfl
    | blank => exact .inl rfl
  | opens _ hf hopen ht =>
    subst ht
    obtain ⟨hunk, a, b, c, d, rfl, hnum, hbody⟩ := openHunk_ok hopen
    refine hs.withPlace ⟨hs.current hf, a, b, c, d, hnum, ?_⟩
    rw [hbody]
    exact Open.nil b d

/-- A body line brings the hunk nearer to its counts or completes it. -/
theorem bodyStep {f : FilePatch} {hunk : Hunk} {o n : Nat}
    (hp : Place.Sound (.body f hunk o n)) {line : List Char} (hline : IsTextLine line)
    {place : Place} (h : bodyStep f hunk o n line = .ok place) : place.Sound := by
  obtain ⟨hf, a, b, c, d, hnum, hopen⟩ := hp
  obtain ⟨l, o, n, hl, rfl, rfl⟩ := bodyStep_ok h
  have hbody := isBodyLine_of_bodyLine? hl hline
  rw [bodyStep_eq f hunk hl, Except.ok.injEq] at h
  subst h
  split
  · rename_i hdone
    obtain ⟨rfl, rfl⟩ := hdone
    refine List.forall_mem_append.mpr ⟨hf, List.forall_mem_singleton.mpr ?_⟩
    refine ⟨hunk.body.reverse ++ [l], [], a, b, c, d,
      ⟨hnum.withBody _, ?_, hopen.complete hbody, by simp⟩⟩
    simp
  · rename_i hmore
    refine ⟨hf, a, b, c, d, hnum.withBody _, ?_⟩
    rw [List.reverse_cons]
    exact hopen.concat hbody (by omega)

theorem step (hs : s.Sound) {line : List Char} (hline : IsTextLine line)
    (h : s.step line = .ok t) : t.Sound := by
  unfold State.step at h
  split at h
  · rename_i hp
    obtain ⟨place, hplace, rfl⟩ := map_ok.mp h
    exact hs.withPlace (bodyStep (hp ▸ hs.place) hline hplace)
  · rename_i hclosed
    exact hs.entryStep hclosed h

theorem foldlM (hs : s.Sound) {ls : List (List Char)} (hls : ∀ line ∈ ls, IsTextLine line)
    (h : ls.foldlM State.step s = .ok t) : t.Sound :=
  foldlM_invariant (fun line hline _ _ hs => hs.step (hls line hline)) hs h

end State.Sound

-- ---------------------------------------------------------------------------
-- The document
-- ---------------------------------------------------------------------------

/-- A hunk of no lines whose header ends the text. -/
structure Hunk.Bare (h : Hunk) : Prop where
  numbers : ∃ a c, h.Numbers a 0 c 0
  body : h.body = []

def Readable (hs : List Hunk) : Prop :=
  ∃ init last, hs = init ++ last ∧ (∀ h ∈ init, h.Sound) ∧
    (last = [] ∨ ∃ h : Hunk, last = [h] ∧ h.Bare)

theorem Open.bare {old new : Nat} {ls : List Line} (h : Open old new ls 0 0) :
    ls = [] ∧ old = 0 ∧ new = 0 := by
  have hnil : ls = [] := by
    by_contra hne
    exact absurd (h.pending hne) (by decide)
  subst hnil
  exact ⟨rfl, h.old, h.new⟩

theorem State.Sound.finish {s : State} (hs : s.Sound) {d : Document} (h : s.finish = .ok d) :
    Readable d.hunks := by
  rcases State.finish_cases h with ⟨-, -, hd⟩ | ⟨f, hunk, hp, hd⟩
  · exact ⟨s.hunks, [], by rw [hd, List.append_nil], hs.hunks, .inl rfl⟩
  · have hplace := hs.place
    rw [hp] at hplace
    obtain ⟨-, a, b, c, d, hnum, hopen⟩ := hplace
    obtain ⟨hbody, rfl, rfl⟩ := hopen.bare
    exact ⟨s.hunks, _, hd, hs.hunks, .inr ⟨_, rfl, ⟨a, c, hnum.withBody _⟩, hbody⟩⟩

theorem Document.readable_of_read {p : String} {d : Document} (h : Document.read p = .ok d) :
    Readable d.hunks := by
  rw [Document.read, Document.ofLines] at h
  obtain ⟨s, hs, hfinish⟩ := bind_ok.mp h
  exact (State.Sound.start.foldlM (fun _ => isTextLine_of_mem_lines) hs).finish hfinish

theorem Readable.sound_or_bare {hs : List Hunk} (hr : Readable hs) {h : Hunk} (hh : h ∈ hs) :
    h.Sound ∨ h.Bare := by
  obtain ⟨init, last, rfl, hinit, hlast⟩ := hr
  rcases List.mem_append.mp hh with hh | hh
  · exact .inl (hinit h hh)
  · rcases hlast with rfl | ⟨g, rfl, hbare⟩
    · cases hh
    · rw [List.mem_singleton.mp hh]
      exact .inr hbare

theorem Readable.sublist {hs gs : List Hunk} (h : Readable hs) (hgs : gs.Sublist hs) :
    Readable gs := by
  obtain ⟨init, last, rfl, hinit, hlast⟩ := h
  obtain ⟨front, back, rfl, hfront, hback⟩ := List.sublist_append_iff.mp hgs
  refine ⟨front, back, rfl, fun g hg => hinit g (hfront.subset hg), ?_⟩
  rcases hlast with rfl | ⟨g, rfl, hg⟩
  · exact .inl (List.sublist_nil.mp hback)
  · rcases List.sublist_singleton.mp hback with rfl | rfl
    · exact .inl rfl
    · exact .inr ⟨g, rfl, hg⟩

end Changeset.Patch
