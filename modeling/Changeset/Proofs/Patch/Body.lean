import Changeset.Proofs.Patch.Line

/-!
# Hunk bodies, written and read

A body has lines that its header counts, and behind them comments and blank
lines that the reader adds to the last hunk. `Complete` says when a row of
lines is exactly what the counts ask for: it meets both of them, and its last
line is the one that does. Such a row is read to its end and no further
(`Complete.readLines`), and a row that the reader has closed is such a row
(`Open.complete`), whatever the lines were before they were kept.
-/

namespace Changeset.Patch

open Changeset.Patch.Mark (inOld inNew)

-- ---------------------------------------------------------------------------
-- Reading several lines
-- ---------------------------------------------------------------------------

def State.readLines (s : State) (ls : List Line) : Except Fault State :=
  (ls.map (· ++ ['\n'])).foldlM State.step s

theorem State.readLines_nil (s : State) : s.readLines [] = .ok s := rfl

theorem State.readLines_cons {s t : State} {l : Line} (h : s.step (l ++ ['\n']) = .ok t)
    (ls : List Line) : s.readLines (l :: ls) = t.readLines ls := by
  rw [readLines, List.map_cons, List.foldlM_cons, h]
  rfl

theorem State.readLines_append {s t : State} {ls : List Line} (h : s.readLines ls = .ok t)
    (ms : List Line) : s.readLines (ls ++ ms) = t.readLines ms := by
  unfold readLines at h
  rw [readLines, List.map_append, List.foldlM_append, h]
  rfl

-- ---------------------------------------------------------------------------
-- Body lines
-- ---------------------------------------------------------------------------

structure IsBodyLine (l : Line) : Prop where
  newline : '\n' ∉ l
  marked : ∃ c ∈ [' ', '+', '-', '\\'], ∃ cs, l = c :: cs

theorem IsBodyLine.bodyLine? {l : Line} (h : IsBodyLine l) : bodyLine? (l ++ ['\n']) = some l := by
  obtain ⟨c, hc, cs, rfl⟩ := h.marked
  have hchomp : chomp (c :: (cs ++ ['\n'])) = c :: cs :=
    (chomp_concat_newline (c :: cs)).trans (chomp_of_not_mem h.newline)
  simp only [List.mem_cons, List.not_mem_nil, or_false] at hc
  rcases hc with rfl | rfl | rfl | rfl <;> simp [Patch.bodyLine?, isBreak, hchomp]

theorem line_head {c : Char} {cs m : List Char} (h : c :: cs = m ∨ c :: cs = m ++ ['\n']) :
    (c = '\n' ∧ cs = []) ∨ ∃ ds, m = c :: ds := by
  rcases h with rfl | h
  · exact .inr ⟨cs, rfl⟩
  · cases m with
    | nil => exact .inl (by simpa using h)
    | cons d ds => exact .inr ⟨ds, by rw [(List.cons.inj h).1]⟩

/-- A blank line is kept as a blank and at most two carriage returns. -/
theorem isBodyLine_blank {c : Char} {cs : List Char} (hc : isBreak c = true)
    (hcs : c = '\n' → cs = []) :
    IsBodyLine (chomp (' ' :: c :: (cs.take 1).filter isBreak)) := by
  have hmem : c :: (cs.take 1).filter isBreak ∈ [['\n'], ['\r'], ['\r', '\r'], ['\r', '\n']] := by
    rcases (by simpa [isBreak] using hc : c = '\r' ∨ c = '\n') with rfl | rfl
    · rcases cs with _ | ⟨d, ds⟩
      · simp
      · by_cases hd : isBreak d = true
        · rcases (by simpa [isBreak] using hd : d = '\r' ∨ d = '\n') with rfl | rfl <;>
            simp [isBreak]
        · simp [hd]
    · simp [hcs rfl]
  simp only [List.mem_cons, List.not_mem_nil, or_false] at hmem
  rcases hmem with h | h | h | h <;> rw [h] <;> exact ⟨by decide, ' ', by decide, _, rfl⟩

/-- Whatever the reader keeps in a body has a mark and no newline, since a blank line gains one. -/
theorem isBodyLine_of_bodyLine? {line l : List Char} (h : bodyLine? line = some l)
    (hline : IsTextLine line) : IsBodyLine l := by
  obtain ⟨m, hm, hlm⟩ := hline
  cases line with
  | nil => simp [bodyLine?] at h
  | cons c cs =>
    have hhead := line_head hlm
    by_cases hbreak : isBreak c = true
    · rw [bodyLine?, if_pos hbreak, Option.some.injEq] at h
      subst h
      refine isBodyLine_blank hbreak ?_
      rintro rfl
      rcases hhead with ⟨-, hcs⟩ | ⟨ds, rfl⟩
      · exact hcs
      · exact absurd (List.mem_cons_self ..) hm
    · rw [bodyLine?, if_neg hbreak, Option.ite_none_right_eq_some, Option.some.injEq] at h
      obtain ⟨hc, rfl⟩ := h
      have hkeep : chomp (c :: cs) = m := by
        rcases hlm with hlm | hlm
        · rw [hlm, chomp_of_not_mem hm]
        · rw [hlm, chomp_concat_newline, chomp_of_not_mem hm]
      rw [hkeep]
      refine ⟨hm, c, by simpa [or_assoc] using hc, ?_⟩
      rcases hhead with ⟨rfl, -⟩ | hds
      · simp [isBreak] at hbreak
      · exact hds

-- ---------------------------------------------------------------------------
-- Counting
-- ---------------------------------------------------------------------------

def linesIn (inFile : Mark → Bool) (ls : List Line) : Nat := ls.countP fun l => inFile (mark l)

theorem linesIn_nil (inFile : Mark → Bool) : linesIn inFile [] = 0 := rfl

theorem linesIn_append (inFile : Mark → Bool) (ls ms : List Line) :
    linesIn inFile (ls ++ ms) = linesIn inFile ls + linesIn inFile ms :=
  List.countP_append

theorem linesIn_cons (inFile : Mark → Bool) (l : Line) (ls : List Line) :
    linesIn inFile (l :: ls) = linesIn inFile [l] + linesIn inFile ls :=
  linesIn_append inFile [l] ls

theorem linesIn_singleton (inFile : Mark → Bool) (l : Line) :
    linesIn inFile [l] = if inFile (mark l) then 1 else 0 := by
  simp [linesIn, List.countP_cons]

theorem lines_singleton_pos_iff {l : Line} :
    0 < linesIn inOld [l] + linesIn inNew [l] ↔ mark l ≠ .comment := by
  rw [linesIn_singleton, linesIn_singleton]
  cases mark l <;> simp [Mark.inOld, Mark.inNew]

-- ---------------------------------------------------------------------------
-- One body line
-- ---------------------------------------------------------------------------

theorem bodyStep_eq (file : FilePatch) (hunk : Hunk) {line : List Char} {l : Line}
    (h : bodyLine? line = some l) (o n : Nat) :
    bodyStep file hunk (linesIn inOld [l] + o) (linesIn inNew [l] + n) line =
      .ok (if o = 0 ∧ n = 0 then .file (file.addHunk { hunk with body := l :: hunk.body })
        else .body file { hunk with body := l :: hunk.body } o n) := by
  simp only [bodyStep, h, linesIn_singleton]
  have hlt (k m : Nat) : ¬ k + m < k := by omega
  simp only [hlt, decide_false, Bool.or_self, Bool.false_eq_true, if_false, Nat.add_eq_left,
    Nat.add_sub_cancel_left, Bool.and_eq_true, decide_eq_true_eq]
  split <;> rfl

theorem bodyStep_ok {file : FilePatch} {hunk : Hunk} {old new : Nat} {line : List Char}
    {place : Place} (h : bodyStep file hunk old new line = .ok place) :
    ∃ l o n, bodyLine? line = some l ∧ old = linesIn inOld [l] + o ∧
      new = linesIn inNew [l] + n := by
  unfold bodyStep at h
  split at h
  · cases h
  · rename_i l hl
    simp only [← linesIn_singleton inOld, ← linesIn_singleton inNew] at h
    split at h
    · cases h
    · rename_i hle
      simp only [Bool.or_eq_true, decide_eq_true_eq, not_or, Nat.not_lt] at hle
      exact ⟨l, old - linesIn inOld [l], new - linesIn inNew [l], hl, by omega, by omega⟩

-- ---------------------------------------------------------------------------
-- Open and complete bodies
-- ---------------------------------------------------------------------------

/-- Lines that leave `o` and `n` of the counts `old` and `new` to come. -/
structure Open (old new : Nat) (ls : List Line) (o n : Nat) : Prop where
  lines : ∀ l ∈ ls, IsBodyLine l
  old : old = linesIn inOld ls + o
  new : new = linesIn inNew ls + n
  pending : ls ≠ [] → 0 < o + n

/-- Lines that meet the counts `old` and `new`, the last of them being the one that does. -/
structure Complete (old new : Nat) (ls : List Line) : Prop where
  nonempty : ls ≠ []
  lines : ∀ l ∈ ls, IsBodyLine l
  old : old = linesIn inOld ls
  new : new = linesIn inNew ls
  last : ∀ init l, ls = init ++ [l] → init ≠ [] → mark l ≠ .comment

section
variable {old new : Nat} {ls : List Line} {l : Line} {o n : Nat}

theorem Open.nil (old new : Nat) : Open old new [] old new :=
  ⟨by simp, by simp [linesIn_nil], by simp [linesIn_nil], fun h => absurd rfl h⟩

theorem Open.concat (h : Open old new ls (linesIn inOld [l] + o) (linesIn inNew [l] + n))
    (hl : IsBodyLine l) (hpos : 0 < o + n) : Open old new (ls ++ [l]) o n where
  lines := List.forall_mem_append.mpr ⟨h.lines, List.forall_mem_singleton.mpr hl⟩
  old := by rw [h.old, linesIn_append, Nat.add_assoc]
  new := by rw [h.new, linesIn_append, Nat.add_assoc]
  pending := fun _ => hpos

theorem Open.complete (h : Open old new ls (linesIn inOld [l]) (linesIn inNew [l]))
    (hl : IsBodyLine l) : Complete old new (ls ++ [l]) where
  nonempty := by simp
  lines := List.forall_mem_append.mpr ⟨h.lines, List.forall_mem_singleton.mpr hl⟩
  old := by rw [h.old, linesIn_append]
  new := by rw [h.new, linesIn_append]
  last := by
    intro init m hm hinit
    obtain ⟨rfl, hlm⟩ := List.append_inj' hm rfl
    rw [← (List.cons.inj hlm).1]
    exact lines_singleton_pos_iff.mp (h.pending hinit)

theorem Complete.tail (h : Complete old new (l :: ls)) (hls : ls ≠ []) :
    Complete (linesIn inOld ls) (linesIn inNew ls) ls ∧
      0 < linesIn inOld ls + linesIn inNew ls := by
  have hlast : ∀ init m, ls = init ++ [m] → mark m ≠ .comment :=
    fun init m hm => h.last (l :: init) m (by rw [hm]; rfl) (List.cons_ne_nil _ _)
  refine ⟨⟨hls, fun m hm => h.lines m (List.mem_cons_of_mem _ hm), rfl, rfl,
    fun init m hm _ => hlast init m hm⟩, ?_⟩
  obtain ⟨init, m, rfl⟩ := (List.eq_nil_or_concat' ls).resolve_left hls
  have hpos := lines_singleton_pos_iff.mpr (hlast init m rfl)
  rw [linesIn_append, linesIn_append]
  omega

theorem State.step_body (done : List FilePatch) (file : FilePatch) (hunk : Hunk)
    (old new : Nat) (pending : Option String) (line : List Char) :
    State.step ⟨done, .body file hunk old new, pending⟩ line =
      (bodyStep file hunk old new line).map fun place => ⟨done, place, pending⟩ :=
  rfl

/-- A complete body is read to its end, and then the hunk is one of the file. -/
theorem Complete.readLines (h : Complete old new ls) (done : List FilePatch) (file : FilePatch)
    (hunk : Hunk) (pending : Option String) :
    State.readLines ⟨done, .body file hunk old new, pending⟩ ls =
      .ok ⟨done, .file (file.addHunk { hunk with body := ls.reverse ++ hunk.body }), pending⟩ := by
  induction ls generalizing old new hunk with
  | nil => exact absurd rfl h.nonempty
  | cons l ls ih =>
    have hstep := bodyStep_eq file hunk
      (h.lines l (List.mem_cons_self ..)).bodyLine? (linesIn inOld ls) (linesIn inNew ls)
    rw [← linesIn_cons, ← linesIn_cons, ← h.old, ← h.new] at hstep
    have hread := State.step_body done file hunk old new pending (l ++ ['\n'])
    rw [hstep] at hread
    rw [State.readLines_cons hread]
    by_cases hls : ls = []
    · subst hls
      rfl
    · obtain ⟨htail, hpos⟩ := h.tail hls
      rw [if_neg (by omega), ih htail]
      simp

end

end Changeset.Patch
