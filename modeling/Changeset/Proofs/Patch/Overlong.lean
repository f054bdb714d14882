import Changeset.Proofs.Patch.Reader

/-!
# Numbers that are too long

The one fault that is no breach of the format is a number of a hunk header with
more digits than can be read. `read_numberTooLong_iff` says when a text ends in
it: its lines are read up to such a header, which stands in a file and outside
of hunk bodies. A number like this anywhere else does no harm.
-/

namespace Changeset.Patch

-- ---------------------------------------------------------------------------
-- Headers
-- ---------------------------------------------------------------------------

def HunkHeader.numerals (h : HunkHeader) : List (List Char) :=
  [h.oldStart] ++ h.oldCount.toList ++ [h.newStart] ++ h.newCount.toList

def HunkHeader.IsOverlong (h : HunkHeader) : Prop := ∃ ds ∈ h.numerals, maxDigits < ds.length

theorem Fault.isFormat_eq_false_iff {f : Fault} :
    f.isFormat = false ↔ ∃ n, f = .numberTooLong n := by
  cases f <;> simp [Fault.isFormat]

theorem readNumber_error {digits : List Char} {f : Fault} (h : readNumber digits = .error f) :
    f = .numberTooLong digits.length ∧ maxDigits < digits.length := by
  unfold readNumber at h
  split at h
  · cases h
  · rename_i hlen
    cases h
    exact ⟨rfl, by omega⟩

theorem readCount_error {digits : Option (List Char)} {f : Fault}
    (h : readCount digits = .error f) :
    ∃ ds ∈ digits, f = .numberTooLong ds.length ∧ maxDigits < ds.length := by
  cases digits with
  | none => cases h
  | some ds => exact ⟨ds, rfl, readNumber_error h⟩

theorem openHunk_error {header : HunkHeader} {file : FilePatch} {f : Fault}
    (h : openHunk header file = .error f) :
    ∃ ds ∈ header.numerals, f = .numberTooLong ds.length ∧ maxDigits < ds.length := by
  unfold openHunk at h
  rcases bind_error.mp h with h | ⟨a, -, h⟩
  · exact ⟨_, by simp [HunkHeader.numerals], readNumber_error h⟩
  rcases bind_error.mp h with h | ⟨b, -, h⟩
  · obtain ⟨ds, hds, hf⟩ := readCount_error h
    exact ⟨ds, by simp [HunkHeader.numerals, Option.mem_def.mp hds], hf⟩
  rcases bind_error.mp h with h | ⟨c, -, h⟩
  · exact ⟨_, by simp [HunkHeader.numerals], readNumber_error h⟩
  rcases bind_error.mp h with h | ⟨d, -, h⟩
  · obtain ⟨ds, hds, hf⟩ := readCount_error h
    exact ⟨ds, by simp [HunkHeader.numerals, Option.mem_def.mp hds], hf⟩
  · cases h

theorem length_le_of_readNumber {digits : List Char} {n : Nat} (h : readNumber digits = .ok n) :
    digits.length ≤ maxDigits := by
  unfold readNumber at h
  split at h
  · assumption
  · cases h

theorem length_le_of_readCount {digits : Option (List Char)} {n : Nat}
    (h : readCount digits = .ok n) : ∀ ds ∈ digits, ds.length ≤ maxDigits := by
  rintro ds rfl
  exact length_le_of_readNumber h

theorem not_isOverlong_of_openHunk {header : HunkHeader} {file : FilePatch} {place : Place}
    (h : openHunk header file = .ok place) : ¬ header.IsOverlong := by
  simp only [openHunk, bind_ok] at h
  obtain ⟨a, ha, b, hb, c, hc, d, hd, -⟩ := h
  rintro ⟨ds, hds, hlong⟩
  simp only [HunkHeader.numerals, List.mem_append, List.mem_singleton, Option.mem_toList] at hds
  have hle : ds.length ≤ maxDigits := by
    rcases hds with ((rfl | hds) | rfl) | hds
    · exact length_le_of_readNumber ha
    · exact length_le_of_readCount hb ds hds
    · exact length_le_of_readNumber hc
    · exact length_le_of_readCount hd ds hds
  omega

theorem openHunk_numberTooLong_iff {header : HunkHeader} {file : FilePatch} :
    (∃ n, openHunk header file = .error (.numberTooLong n)) ↔ header.IsOverlong := by
  constructor
  · rintro ⟨n, h⟩
    obtain ⟨ds, hds, -, hlong⟩ := openHunk_error h
    exact ⟨ds, hds, hlong⟩
  · intro hlong
    cases h : openHunk header file with
    | ok place => exact absurd hlong (not_isOverlong_of_openHunk h)
    | error f =>
      obtain ⟨ds, -, rfl, -⟩ := openHunk_error h
      exact ⟨_, rfl⟩

-- ---------------------------------------------------------------------------
-- Lines
-- ---------------------------------------------------------------------------

/-- A line that opens a hunk in a file, by a header with a number that is too long. -/
def State.MeetsOverlong (s : State) (line : List Char) : Prop :=
  (∃ f, s.place = .header f ∨ s.place = .file f) ∧
    ∃ header, Entry.ofLine line = .hunk header ∧ header.IsOverlong

theorem bodyStep_isFormat {file : FilePatch} {hunk : Hunk} {old new : Nat} {line : List Char}
    {f : Fault} (h : bodyStep file hunk old new line = .error f) : f.isFormat = true := by
  unfold bodyStep at h
  split at h
  · cases h
    rfl
  · simp only [← linesIn_singleton Mark.inOld, ← linesIn_singleton Mark.inNew] at h
    split at h
    · cases h
      rfl
    · split at h <;> cases h

theorem entryStep_numberTooLong {s : State} {line : List Char} {n : Nat}
    (h : s.entryStep line = .error (.numberTooLong n)) :
    ∃ f header, s.current? = some f ∧ Entry.ofLine line = .hunk header ∧
      openHunk header f = .error (.numberTooLong n) := by
  unfold State.entryStep at h
  cases hline : Entry.ofLine line <;> simp only [hline] at h
  case hunk header =>
    split at h
    · cases h
    · rename_i f hf
      exact ⟨f, header, hf, rfl, map_error.mp h⟩
  all_goals
    repeat' split at h
    all_goals cases h

theorem step_numberTooLong_iff {s : State} {line : List Char} :
    (∃ n, s.step line = .error (.numberTooLong n)) ↔ s.MeetsOverlong line := by
  unfold State.step
  split
  · rename_i f hunk o n hp
    constructor
    -- In a body every line is counted, a header too, so nothing there is too long.
    · rintro ⟨m, h⟩
      exact absurd (bodyStep_isFormat (map_error.mp h)) (by simp [Fault.isFormat])
    · rintro ⟨⟨g, hg | hg⟩, -⟩ <;> rw [hp] at hg <;> cases hg
  · rename_i hbody
    constructor
    · rintro ⟨n, h⟩
      obtain ⟨f, header, hf, hline, hopen⟩ := entryStep_numberTooLong h
      refine ⟨?_, header, hline, openHunk_numberTooLong_iff.mp ⟨n, hopen⟩⟩
      unfold State.current? at hf
      split at hf
      · cases hf
      · rename_i g hg
        exact ⟨g, .inl hg⟩
      · rename_i g hg
        exact ⟨g, .inr hg⟩
      · rename_i g hunk o m hg
        exact absurd hg (hbody g hunk o m)
    · rintro ⟨⟨f, hf⟩, header, hline, hlong⟩
      obtain ⟨n, hopen⟩ := (@openHunk_numberTooLong_iff header f).mpr hlong
      have hcurrent : s.current? = some f := by
        rcases hf with hf | hf <;> simp [State.current?, hf]
      exact ⟨n, by simp [State.entryStep, hline, hcurrent, hopen, Except.map]⟩

-- ---------------------------------------------------------------------------
-- Texts
-- ---------------------------------------------------------------------------

def MeetsOverlong (patch : String) : Prop :=
  ∃ done line rest s, Document.lines patch.toList = done ++ line :: rest ∧
    done.foldlM State.step State.start = .ok s ∧ s.MeetsOverlong line

theorem finish_isFormat {s : State} {f : Fault} (h : s.finish = .error f) : f.isFormat = true := by
  unfold State.finish at h
  split at h <;> cases h
  rfl

/-- What stops the reader without a breach of the format is an overlong number, and nothing else. -/
theorem read_numberTooLong_iff {patch : String} :
    (∃ n, Document.read patch = .error (.numberTooLong n)) ↔ MeetsOverlong patch := by
  rw [Document.read, Document.ofLines]
  constructor
  · rintro ⟨n, h⟩
    rcases bind_error.mp h with h | ⟨s, -, h⟩
    · obtain ⟨done, line, rest, s, hlines, hs, hstep⟩ := foldlM_error.mp h
      exact ⟨done, line, rest, s, hlines, hs, step_numberTooLong_iff.mp ⟨n, hstep⟩⟩
    · exact absurd (finish_isFormat h) (by simp [Fault.isFormat])
  · rintro ⟨done, line, rest, s, hlines, hs, hmeets⟩
    obtain ⟨n, hstep⟩ := step_numberTooLong_iff.mpr hmeets
    exact ⟨n, bind_error.mpr (.inl (foldlM_error.mpr ⟨done, line, rest, s, hlines, hs, hstep⟩))⟩

-- ---------------------------------------------------------------------------
-- Headers that are met
-- ---------------------------------------------------------------------------

theorem number?_digits {ds : List Char} (hne : ds ≠ []) (hds : ∀ c ∈ ds, Digit.isDigit c = true)
    {c : Char} (hc : Digit.isDigit c = false) (cs : List Char) :
    Entry.number? (ds ++ c :: cs) = some (ds, c :: cs) := by
  obtain ⟨d, es, rfl⟩ := List.exists_cons_of_ne_nil hne
  have hc' : ¬ Digit.isDigit c = true := by simp [hc]
  rw [Entry.number?, List.takeWhile_append_of_pos hds, List.dropWhile_append_of_pos hds,
    List.takeWhile_cons_of_neg hc', List.dropWhile_cons_of_neg hc', List.append_nil]

theorem ofLine_uncounted {ds : List Char} (hne : ds ≠ [])
    (hds : ∀ c ∈ ds, Digit.isDigit c = true) :
    Entry.ofLine ("@@ -".toList ++ ds ++ " +1 @@".toList ++ ['\n']) =
      .hunk ⟨ds, none, ['1'], none, []⟩ := by
  have hh : "@@ -".toList ++ ds ++ " +1 @@".toList ++ ['\n'] =
      '@' :: '@' :: ' ' :: '-' :: (ds ++ ' ' :: '+' :: '1' :: ' ' :: '@' :: '@' :: ['\n']) := by
    simp
  have hold : Entry.range? (ds ++ ' ' :: '+' :: '1' :: ' ' :: '@' :: '@' :: ['\n']) =
      some (ds, none, ' ' :: '+' :: '1' :: ' ' :: '@' :: '@' :: ['\n']) := by
    rw [Entry.range?, number?_digits hne hds (by decide)]
    rfl
  have hnew : Entry.range? ('1' :: ' ' :: '@' :: '@' :: ['\n']) =
      some (['1'], none, ' ' :: '@' :: '@' :: ['\n']) := by
    decide
  rw [hh]
  simp only [Entry.ofLine, Entry.hunk?, hold, hnew, Option.bind_eq_bind, Option.bind_some,
    Option.pure_def, Option.getD_some]
  rfl

def headed (ds : List Char) : List Line :=
  ["--- a".toList, "+++ b".toList, "@@ -".toList ++ ds ++ " +1 @@".toList]

theorem meetsOverlong_headed {ds : List Char} (hds : ∀ c ∈ ds, Digit.isDigit c = true)
    (hlong : maxDigits < ds.length) {body : List Line} (hbody : ∀ l ∈ body, '\n' ∉ l) :
    MeetsOverlong (String.ofList (unlines (headed ds ++ body))) := by
  have hne : ds ≠ [] := List.ne_nil_of_length_pos (by omega)
  have hnewline : '\n' ∉ ds := fun h => absurd (hds _ h) (by decide)
  have hlines : ∀ l ∈ headed ds ++ body, '\n' ∉ l := by
    refine List.forall_mem_append.mpr ⟨?_, hbody⟩
    simp [headed, hnewline]
  have hstart : ["--- a\n".toList, "+++ b\n".toList].foldlM State.step State.start =
      .ok ⟨[], .file ⟨"a", "b", []⟩, none⟩ := by
    decide +kernel
  refine ⟨["--- a\n".toList, "+++ b\n".toList], _, body.map (· ++ ['\n']), _, ?_, hstart,
    ⟨_, .inr rfl⟩, _, ofLine_uncounted hne hds, ds, by simp [HunkHeader.numerals], hlong⟩
  rw [String.toList_ofList, lines_unlines hlines]
  rfl

end Changeset.Patch
