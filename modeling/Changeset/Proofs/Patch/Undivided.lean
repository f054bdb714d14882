import Changeset.Proofs.Patch.Merged
import Changeset.Proofs.Patch.Overlong

/-!
# Fragments are not split again

A fragment names no file, so its first hunk header stands outside of files and
the reader stops there (`read_fragment`). What is cut from a patch is made of
its hunks, whose numbers read back, and so each fragment is a text that cannot
be cut, like a text that stayed whole in the first place (`fragments_undivided`).
-/

namespace Changeset.Patch

-- ---------------------------------------------------------------------------
-- Texts that cannot be cut
-- ---------------------------------------------------------------------------

/-- A patch without hunks, or a text that breaks the format. -/
def Uncut (patch : String) : Prop :=
  (∃ d, Document.read patch = .ok d ∧ d.hunks = []) ∨
    ∃ f, Document.read patch = .error f ∧ f.isFormat = true

theorem Uncut.splitWith {patch : String} (h : Uncut patch)
    (cut : Document → Noted (List String)) : (splitWith cut patch).value = .ok [patch] := by
  rw [value_splitWith]
  rcases h with ⟨d, hr, hd⟩ | ⟨f, hr, hf⟩
  · simp [hr, hd]
  · simp [hr, hf]

theorem splitWith_ok {cut : Document → Noted (List String)} {patch : String}
    {chunks : List String} (h : (splitWith cut patch).value = .ok chunks) :
    (Uncut patch ∧ chunks = [patch]) ∨
      ∃ d, Document.read patch = .ok d ∧ d.hunks ≠ [] ∧ chunks = (cut d).value := by
  rw [value_splitWith] at h
  split at h
  · rename_i d hr
    split at h <;> cases h
    · rename_i hd
      exact .inl ⟨.inl ⟨d, hr, by simpa using hd⟩, rfl⟩
    · rename_i hd
      exact .inr ⟨d, hr, by simpa using hd, rfl⟩
  · rename_i f hr
    split at h <;> cases h
    rename_i hf
    exact .inl ⟨.inr ⟨f, hr, hf⟩, rfl⟩

-- ---------------------------------------------------------------------------
-- Reading fragments
-- ---------------------------------------------------------------------------

theorem Readable.numbers {hs : List Hunk} (hr : Readable hs) {h : Hunk} (hh : h ∈ hs) :
    ∃ a b c d, h.Numbers a b c d := by
  rcases hr.sound_or_bare hh with ⟨counted, trailing, a, b, c, d, hw⟩ | ⟨⟨a, c, hnum⟩, -⟩
  · exact ⟨a, b, c, d, hw.numbers⟩
  · exact ⟨a, 0, c, 0, hnum⟩

/-- The placeholders open no file, so the reader stops at the first hunk header. -/
theorem read_fragment {h : Hunk} {a b c d : Nat} (hn : h.Numbers a b c d) (hs : List Hunk) :
    Document.read (fragment (h :: hs)) = .error (.hunkWithoutFile (h.header ++ ['\n'])) := by
  have htext : (fragment (h :: hs)).toList = ['-', '-', '-'] ++ '\n' :: (['+', '+', '+'] ++
      '\n' :: (h.header ++ '\n' :: unlines (h.body ++ hs.flatMap Hunk.render))) := by
    simp [fragment, placeholder, unlines, Hunk.render]
  have hstart : [['-', '-', '-', '\n'], ['+', '+', '+', '\n']].foldlM State.step State.start =
      .ok State.start := rfl
  have hheader : State.start.step (h.header ++ ['\n']) =
      .error (.hunkWithoutFile (h.header ++ ['\n'])) := by
    simp only [State.step, State.start, State.entryStep, ofLine_header hn, State.current?]
  rw [Document.read, htext, lines_append (by decide), lines_append (by decide),
    lines_append (newline_not_mem_header hn), Document.ofLines, bind_error, foldlM_error]
  exact .inl ⟨_, _, _, _, rfl, hstart, hheader⟩

theorem uncut_fragment {p : String} {d : Document} (hr : Document.read p = .ok d)
    {hs : List Hunk} (hne : hs ≠ []) (hsub : hs ⊆ d.hunks) : Uncut (fragment hs) := by
  obtain ⟨h, hs, rfl⟩ := List.exists_cons_of_ne_nil hne
  obtain ⟨a, b, c, e, hn⟩ :=
    (Document.readable_of_read hr).numbers (hsub (List.mem_cons_self ..))
  exact .inr ⟨_, read_fragment hn hs, rfl⟩

-- ---------------------------------------------------------------------------
-- What is cut from a patch
-- ---------------------------------------------------------------------------

def CutsHunks (cut : Document → Noted (List String)) : Prop :=
  ∀ d, ∀ c ∈ (cut d).value, ∃ hs, hs ≠ [] ∧ hs ⊆ d.hunks ∧ c = fragment hs

theorem mem_splitByHunk {d : Document} {c : String} (h : c ∈ splitByHunk d) :
    ∃ hs, hs ≠ [] ∧ hs ⊆ d.hunks ∧ c = fragment hs := by
  obtain ⟨hunk, hh, rfl⟩ := List.mem_map.mp h
  exact ⟨[hunk], List.cons_ne_nil _ _, by simpa using hh, rfl⟩

theorem cutsHunks_splitByHunk : CutsHunks fun d => pure (splitByHunk d) :=
  fun _ _ => mem_splitByHunk

theorem cutsHunks_cutBySymbol (before after : Table) : CutsHunks (cutBySymbol before after) := by
  intro d c hc
  rw [value_cutBySymbol] at hc
  split at hc
  · exact mem_splitByHunk hc
  · obtain ⟨g, hg, rfl⟩ := List.mem_map.mp hc
    obtain ⟨hne, hsub⟩ := groups_members _ _ g hg
    exact ⟨g.members, hne, hsub, rfl⟩

theorem uncut_of_mem {cut : Document → Noted (List String)} (hcut : CutsHunks cut) {p : String}
    {chunks : List String} (h : (splitWith cut p).value = .ok chunks) : ∀ c ∈ chunks, Uncut c := by
  rcases splitWith_ok h with ⟨hp, rfl⟩ | ⟨d, hr, -, rfl⟩
  · exact List.forall_mem_singleton.mpr hp
  · intro c hc
    obtain ⟨hs, hne, hsub, rfl⟩ := hcut d c hc
    exact uncut_fragment hr hne hsub

/-- What a text is split into, by hunk or by symbol, is not split any further, whichever way it is
tried. -/
theorem fragments_undivided {p : String} {before after : Table} {chunks : List String}
    (h : (byHunk p).value = .ok chunks ∨ (bySymbol before after p).value = .ok chunks) :
    ∀ c ∈ chunks, (byHunk c).value = .ok [c] ∧
      ∀ before after : Table, (bySymbol before after c).value = .ok [c] := by
  have huncut : ∀ c ∈ chunks, Uncut c := by
    rcases h with h | h
    · exact uncut_of_mem cutsHunks_splitByHunk h
    · exact uncut_of_mem (cutsHunks_cutBySymbol before after) h
  intro c hc
  exact ⟨(huncut c hc).splitWith _, fun _ _ => (huncut c hc).splitWith _⟩

theorem fragments_undivided_mixed :
    ((byHunk mixed).value = .ok (splitBySymbol nested nested mixedDocument) ∨
      (bySymbol nested nested mixed).value = .ok (splitBySymbol nested nested mixedDocument)) ∧
    fragment mixedHunks ∈ splitBySymbol nested nested mixedDocument ∧
    (byHunk (fragment mixedHunks)).value = .ok [fragment mixedHunks] ∧
    ∀ before after : Table,
      (bySymbol before after (fragment mixedHunks)).value = .ok [fragment mixedHunks] := by
  have hsplit : (bySymbol nested nested mixed).value =
      .ok (splitBySymbol nested nested mixedDocument) := by decide +kernel
  have hmem : fragment mixedHunks ∈ splitBySymbol nested nested mixedDocument := by
    decide +kernel
  exact ⟨.inr hsplit, hmem, fragments_undivided (.inr hsplit) _ hmem⟩

end Changeset.Patch
