import Changeset.Patch.Fragment
import Changeset.Proofs.Text.Numeral
import Mathlib.Data.List.DropRight

/-!
# The lines of a patch, written and read

`lines_unlines`: a text that is written line by line has these lines. The
other lemmas say what a written line is read as outside of hunk bodies, with
`ofLine_header` for the header of a hunk: its four numerals read back, and
what follows the second pair of at signs is its heading.
-/

namespace Changeset.Patch

-- ---------------------------------------------------------------------------
-- Lines
-- ---------------------------------------------------------------------------

theorem lines_newline (cs : List Char) :
    Document.lines ('\n' :: cs) = ['\n'] :: Document.lines cs :=
  Lines.split_cons_end rfl cs

theorem lines_cons {c : Char} (hc : c ≠ '\n') (cs : List Char) :
    Document.lines (c :: cs) = Lines.extend c (Document.lines cs) :=
  Lines.split_cons_inner (by simpa using hc) cs

theorem lines_append {l : Line} (h : '\n' ∉ l) (rest : List Char) :
    Document.lines (l ++ '\n' :: rest) = (l ++ ['\n']) :: Document.lines rest :=
  Lines.split_append_end (fun _ hc => by simpa using ne_of_mem_of_not_mem hc h) rfl rest

theorem lines_unlines {ls : List Line} (h : ∀ l ∈ ls, '\n' ∉ l) :
    Document.lines (unlines ls) = ls.map (· ++ ['\n']) := by
  induction ls with
  | nil => rfl
  | cons l ls ih =>
    have hl : unlines (l :: ls) = l ++ '\n' :: unlines ls := by simp [unlines]
    rw [hl, lines_append (h l (by simp)), ih fun m hm => h m (List.mem_cons_of_mem _ hm),
      List.map_cons]

theorem read_unlines {ls : List Line} (h : ∀ l ∈ ls, '\n' ∉ l) :
    Document.read (String.ofList (unlines ls)) = Document.ofLines (ls.map (· ++ ['\n'])) := by
  rw [Document.read, String.toList_ofList, lines_unlines h]

/-- A line of a text: only its end is a newline, and the last one can lack it. -/
def IsTextLine (line : List Char) : Prop :=
  ∃ l : Line, '\n' ∉ l ∧ (line = l ∨ line = l ++ ['\n'])

theorem isTextLine_of_mem_lines {text line : List Char} (h : line ∈ Document.lines text) :
    IsTextLine line := by
  induction text generalizing line with
  | nil => simp [Document.lines] at h
  | cons c cs ih =>
    by_cases hc : c = '\n'
    · rw [hc, lines_newline, List.mem_cons] at h
      rcases h with rfl | h
      · exact ⟨[], by simp, .inr rfl⟩
      · exact ih h
    · rw [lines_cons hc] at h
      cases hs : Document.lines cs with
      | nil =>
        rw [hs, Lines.extend, List.mem_singleton] at h
        exact ⟨[c], by simpa using Ne.symm hc, .inl h⟩
      | cons l ls =>
        rw [hs] at h ih
        rcases List.mem_cons.mp h with rfl | h
        · obtain ⟨m, hm, he⟩ := ih (List.mem_cons_self ..)
          refine ⟨c :: m, by simp [Ne.symm hc, hm], ?_⟩
          rcases he with rfl | rfl
          · exact .inl rfl
          · exact .inr rfl
        · exact ih (List.mem_cons_of_mem _ h)

theorem chomp_eq_rdropWhile (l : List Char) : chomp l = l.rdropWhile (· == '\n') := rfl

theorem chomp_of_not_mem {l : Line} (h : '\n' ∉ l) : chomp l = l := by
  rw [chomp_eq_rdropWhile, List.rdropWhile_eq_self_iff]
  intro hl
  have hlast : l.getLast hl ≠ '\n' := fun he => h (he ▸ List.getLast_mem hl)
  simpa using hlast

theorem chomp_concat_newline (l : Line) : chomp (l ++ ['\n']) = chomp l :=
  List.rdropWhile_concat_pos _ _ _ rfl

-- ---------------------------------------------------------------------------
-- File lines and comments
-- ---------------------------------------------------------------------------

def IsName (n : String) : Prop := '\t' ∉ n.toList ∧ '\n' ∉ n.toList

instance (n : String) : Decidable (IsName n) := inferInstanceAs (Decidable (_ ∧ _))

def sourceLine (n : String) : Line := ['-', '-', '-', ' '] ++ n.toList

def targetLine (n : String) : Line := ['+', '+', '+', ' '] ++ n.toList

theorem name_of_isName {n : String} (h : IsName n) : Entry.name (n.toList ++ ['\n']) = n := by
  have hin : ∀ c ∈ n.toList, Entry.inName c = true := by
    intro c hc
    have ht : c ≠ '\t' := fun he => h.1 (he ▸ hc)
    have hn : c ≠ '\n' := fun he => h.2 (he ▸ hc)
    simp [Entry.inName, ht, hn]
  rw [Entry.name, List.takeWhile_append_of_pos hin, List.takeWhile_cons_of_neg (by decide),
    List.append_nil, String.ofList_toList]

theorem ofLine_sourceLine {n : String} (h : IsName n) :
    Entry.ofLine (sourceLine n ++ ['\n']) = .source n :=
  congrArg Entry.source (name_of_isName h)

theorem ofLine_targetLine {n : String} (h : IsName n) :
    Entry.ofLine (targetLine n ++ ['\n']) = .target n :=
  congrArg Entry.target (name_of_isName h)

theorem newline_not_mem_sourceLine {n : String} (h : IsName n) : '\n' ∉ sourceLine n := by
  simp [sourceLine, h.2]

theorem newline_not_mem_targetLine {n : String} (h : IsName n) : '\n' ∉ targetLine n := by
  simp [targetLine, h.2]

theorem ofLine_noNewlineMark : Entry.ofLine (Entry.noNewlineMark ++ ['\n']) = .noNewline := by
  decide

theorem newline_not_mem_noNewlineMark : '\n' ∉ Entry.noNewlineMark := by
  decide

-- ---------------------------------------------------------------------------
-- Hunk headers
-- ---------------------------------------------------------------------------

theorem number?_ofNat_append (n : Nat) {c : Char} (hc : Digit.isDigit c = false) (cs : List Char) :
    Entry.number? (Decimal.ofNat n ++ c :: cs) = some (Decimal.ofNat n, c :: cs) := by
  obtain ⟨d, ds, hd⟩ := List.exists_cons_of_ne_nil (Decimal.ofNat_ne_nil n)
  rw [Entry.number?, Decimal.takeWhile_ofNat_append n hc, Decimal.dropWhile_ofNat_append n hc, hd]

theorem range?_ofNat_append (a b : Nat) (cs : List Char) :
    Entry.range? (Decimal.ofNat a ++ ',' :: (Decimal.ofNat b ++ ' ' :: cs)) =
      some (Decimal.ofNat a, some (Decimal.ofNat b), ' ' :: cs) := by
  rw [Entry.range?, number?_ofNat_append a (by decide)]
  simp [number?_ofNat_append b (show Digit.isDigit ' ' = false by decide)]

structure Hunk.Numbers (h : Hunk) (a b c d : Nat) : Prop where
  oldStart : h.oldStart = a
  oldCount : h.oldCount = b
  newStart : h.newStart = c
  newCount : h.newCount = d
  oldStart_lt : a < 10 ^ maxDigits
  oldCount_lt : b < 10 ^ maxDigits
  newStart_lt : c < 10 ^ maxDigits
  newCount_lt : d < 10 ^ maxDigits

theorem Hunk.Numbers.withBody {h : Hunk} {a b c d : Nat} (hn : h.Numbers a b c d)
    (body : List Line) : Hunk.Numbers { h with body } a b c d :=
  ⟨hn.1, hn.2, hn.3, hn.4, hn.5, hn.6, hn.7, hn.8⟩

theorem ofLine_header {h : Hunk} {a b c d : Nat} (hn : h.Numbers a b c d) (tail : List Char) :
    Entry.ofLine (h.header ++ tail) = .hunk ⟨Decimal.ofNat a, some (Decimal.ofNat b),
      Decimal.ofNat c, some (Decimal.ofNat d), Entry.heading tail⟩ := by
  have hh : h.header ++ tail = '@' :: '@' :: ' ' :: '-' :: (Decimal.ofNat a ++
      ',' :: (Decimal.ofNat b ++ ' ' :: '+' :: (Decimal.ofNat c ++
        ',' :: (Decimal.ofNat d ++ ' ' :: '@' :: '@' :: tail)))) := by
    simp [Hunk.header, hn.oldStart, hn.oldCount, hn.newStart, hn.newCount, Decimal.ofInt]
  rw [hh]
  simp only [Entry.ofLine, Entry.hunk?, range?_ofNat_append, Option.bind_eq_bind, Option.bind_some,
    Option.pure_def, Option.getD_some]

theorem readNumber_ofNat {n : Nat} (h : n < 10 ^ maxDigits) :
    readNumber (Decimal.ofNat n) = .ok n := by
  have hl : (Decimal.ofNat n).length ≤ maxDigits := Decimal.length_ofNat_le (by decide) h
  rw [readNumber, if_pos hl, Decimal.toNat_ofNat]

theorem openHunk_header {h : Hunk} {a b c d : Nat} (hn : h.Numbers a b c d) (heading : Line)
    (file : FilePatch) :
    openHunk ⟨Decimal.ofNat a, some (Decimal.ofNat b), Decimal.ofNat c, some (Decimal.ofNat d),
      heading⟩ file = .ok (.body file { h with body := [], heading } b d) := by
  simp only [openHunk, readCount, readNumber_ofNat hn.oldStart_lt, readNumber_ofNat hn.oldCount_lt,
    readNumber_ofNat hn.newStart_lt, readNumber_ofNat hn.newCount_lt, hn.oldStart, hn.oldCount,
    hn.newStart, hn.newCount]
  rfl

theorem newline_not_mem_ofNat (n : Nat) : '\n' ∉ Decimal.ofNat n :=
  fun h => absurd (Decimal.isDigit_of_mem_ofNat _ h) (by decide)

theorem newline_not_mem_header {h : Hunk} {a b c d : Nat} (hn : h.Numbers a b c d) :
    '\n' ∉ h.header := by
  simp [Hunk.header, hn.oldStart, hn.oldCount, hn.newStart, hn.newCount, Decimal.ofInt,
    newline_not_mem_ofNat]

end Changeset.Patch
