import Changeset.Proofs.Patch.Entry
import Changeset.Proofs.Patch.Reader
import Changeset.Proofs.Text.Lines
import Mathlib.Data.List.Forall2

/-!
# What becomes of a line of the text

Every body line of a document is what was kept of a line of the text, and no
line of the text is used twice or out of order (`bodies_kept`). `IsKept` says
what that can be. Most lines are kept as they are, and a blank one gains its
mark. Two kinds lose text (`LosesText`): a line that begins with a carriage
return is looked at for two characters only, and a comment behind the counted
lines is put down in its usual form, whatever else its line holds.
-/

namespace Changeset.Patch

-- ---------------------------------------------------------------------------
-- Lines
-- ---------------------------------------------------------------------------

/-- A body line that is the line `l`, which may gain its mark if it is blank. -/
def IsVerbatim (l body : Line) : Prop := body = l ∨ (∀ c ∈ l, c = '\r') ∧ body = ' ' :: l

-- The characters of the line are gone through, not all that there are.
instance (l body : Line) : Decidable (IsVerbatim l body) :=
  have : Decidable (∀ c ∈ l, c = '\r') := List.decidableBAll _ l
  inferInstanceAs (Decidable (_ ∨ _ ∧ _))

inductive IsKept : Line → Line → Prop
  | verbatim {l body : Line} : IsVerbatim l body → IsKept l body
  | blank (cs : Line) : IsKept ('\r' :: cs) (' ' :: '\r' :: (cs.take 1).filter (· == '\r'))
  | comment (cs : Line) : IsKept (Entry.noNewlineMark ++ cs) Entry.noNewlineMark

def LosesText (l : Line) : Prop :=
  (l.head? = some '\r' ∧ 2 ≤ l.length ∧ l ≠ ['\r', '\r']) ∨
    (Entry.noNewlineMark <+: l ∧ l ≠ Entry.noNewlineMark)

instance (l : Line) : Decidable (LosesText l) := inferInstanceAs (Decidable (_ ∨ _))

theorem IsKept.isVerbatim {l body : Line} (h : IsKept l body) (hl : ¬ LosesText l) :
    IsVerbatim l body := by
  cases h with
  | verbatim h => exact h
  | blank cs =>
    rcases cs with _ | ⟨c, cs⟩
    · exact .inr ⟨by simp, rfl⟩
    · have hcs : '\r' :: c :: cs = ['\r', '\r'] := by
        by_contra hne
        exact hl (.inl ⟨rfl, by simp, hne⟩)
      cases hcs
      exact .inr ⟨by simp, rfl⟩
  | comment cs =>
    refine .inl ?_
    by_contra hne
    exact hl (.inr ⟨List.prefix_append _ cs, Ne.symm hne⟩)

theorem chomp_of_isTextLine {line m : List Char} (hm : '\n' ∉ m)
    (h : line = m ∨ line = m ++ ['\n']) : chomp line = m := by
  rcases h with rfl | rfl
  · exact chomp_of_not_mem hm
  · rw [chomp_concat_newline, chomp_of_not_mem hm]

theorem chomp_cons {c : Char} (hc : c ≠ '\n') (l : List Char) : chomp (c :: l) = c :: chomp l := by
  simp only [chomp, List.reverse_cons, List.dropWhile_append]
  split
  · rename_i h
    simp [List.isEmpty_iff.mp h, hc]
  · simp

/-- Of a line that begins with a carriage return its first two characters are looked at. -/
theorem bodyLine?_return {cs l : List Char} (h : bodyLine? ('\r' :: cs) = some l)
    (hline : IsTextLine ('\r' :: cs)) : IsKept (chomp ('\r' :: cs)) l := by
  obtain ⟨m, hm, hlm⟩ := hline
  rw [chomp_of_isTextLine hm hlm]
  rw [bodyLine?, if_pos (by decide), Option.some.injEq] at h
  subst h
  rcases line_head hlm with ⟨h, -⟩ | ⟨ds, rfl⟩
  · exact absurd h (by decide)
  · have hds : cs = ds ∨ cs = ds ++ ['\n'] := by simpa using hlm
    have hkept := IsKept.blank ds
    rcases ds with _ | ⟨d, ds⟩
    · rcases hds with rfl | rfl <;> exact hkept
    · have hd : d ≠ '\n' := by
        rintro rfl
        simp at hm
      have htake : cs.take 1 = [d] := by
        rcases hds with rfl | rfl <;> rfl
      have hfilter : [d].filter isBreak = [d].filter (· == '\r') :=
        List.filter_congr (by simp [isBreak, hd])
      have hnewline : '\n' ∉ ' ' :: '\r' :: [d].filter (· == '\r') := by
        by_cases hr : d = '\r' <;> simp [hr]
      rw [htake, hfilter, chomp_of_not_mem hnewline]
      exact hkept

theorem isKept_of_bodyLine? {line l : List Char} (h : bodyLine? line = some l)
    (hline : IsTextLine line) : IsKept (chomp line) l := by
  rcases line with _ | ⟨c, cs⟩
  · cases h
  · by_cases hr : c = '\r'
    · subst hr
      exact bodyLine?_return h hline
    · by_cases hn : c = '\n'
      · subst hn
        obtain ⟨m, hm, hlm⟩ := hline
        obtain ⟨-, rfl⟩ | ⟨ds, rfl⟩ := line_head hlm
        · cases h
          exact .verbatim (.inr ⟨by simp [chomp], by decide⟩)
        · simp at hm
      · have hbreak : ¬ isBreak c = true := by simp [isBreak, hr, hn]
        rw [bodyLine?, if_neg hbreak, Option.ite_none_right_eq_some, Option.some.injEq] at h
        exact .verbatim (.inl h.2.symm)

/-- A comment outside of a body is known by its beginning, so the rest of its line is lost. -/
theorem isKept_noNewline {line : List Char} (h : Entry.ofLine line = .noNewline)
    (hline : IsTextLine line) : IsKept (chomp line) Entry.noNewlineMark := by
  have hmark : Entry.noNewlineMark <+: line := by
    have hopening := Entry.opening_prefix line
    rwa [h] at hopening
  obtain ⟨m, hm, hlm⟩ := hline
  rw [chomp_of_isTextLine hm hlm]
  have hmark : Entry.noNewlineMark <+: m := by
    rcases hlm with rfl | rfl
    · exact hmark
    · refine (List.prefix_concat_iff.mp hmark).resolve_left fun he => ?_
      exact newline_not_mem_noNewlineMark (he ▸ List.mem_append_right m (List.mem_singleton_self _))
  obtain ⟨cs, rfl⟩ := hmark
  exact .comment cs

theorem isKept_blank {line : List Char} (h : Entry.ofLine line = .blank)
    (hline : IsTextLine line) : IsKept (chomp line) [] := by
  have hnewline := Entry.opening_prefix line
  rw [h] at hnewline
  obtain ⟨cs, rfl⟩ := hnewline
  obtain ⟨m, hm, hlm⟩ := hline
  rcases line_head hlm with ⟨-, rfl⟩ | ⟨ds, rfl⟩
  · exact .verbatim (.inl rfl)
  · simp at hm

-- ---------------------------------------------------------------------------
-- Body lines so far
-- ---------------------------------------------------------------------------

def FilePatch.bodies (f : FilePatch) : List Line := f.hunks.flatMap Hunk.body

def Document.bodies (d : Document) : List Line := d.hunks.flatMap Hunk.body

def Place.bodies : Place → List Line
  | .outside => []
  | .header f | .file f => f.bodies
  | .body f hunk _ _ => f.bodies ++ hunk.body.reverse

def State.bodies (s : State) : List Line :=
  s.done.reverse.flatMap FilePatch.bodies ++ s.place.bodies

theorem FilePatch.bodies_addHunk (f : FilePatch) (h : Hunk) :
    (f.addHunk h).bodies = f.bodies ++ h.body.reverse := by
  simp [bodies, addHunk]

theorem State.bodies_eq (s : State) :
    s.bodies = s.hunks.flatMap Hunk.body ++
      match s.place with
      | .body _ hunk _ _ => hunk.body.reverse
      | _ => [] := by
  have hdone : s.done.reverse.flatMap FilePatch.bodies =
      (s.done.reverse.flatMap FilePatch.hunks).flatMap Hunk.body := (List.flatMap_assoc ..).symm
  rw [bodies, hunks, List.flatMap_append, hdone]
  cases s.place <;> simp [Place.bodies, Place.hunks, FilePatch.bodies]

theorem State.IsClosed.bodies_eq {s : State} (hs : s.IsClosed) :
    s.bodies = s.hunks.flatMap Hunk.body := by
  rw [State.bodies_eq]
  cases hp : s.place with
  | outside | header f | file f => exact List.append_nil _
  | body f hunk o n => exact absurd hp (hs f hunk o n)

-- ---------------------------------------------------------------------------
-- One line
-- ---------------------------------------------------------------------------

/-- The body lines before and after a line of the text is read: at most one is kept of it. -/
def Keeps (line : List Char) (before after : List Line) : Prop :=
  after = before ∨ ∃ body, IsKept (chomp line) body ∧ after = before ++ [body]

theorem Keeps.append_left {line : List Char} {before after : List Line}
    (h : Keeps line before after) (pre : List Line) :
    Keeps line (pre ++ before) (pre ++ after) := by
  rcases h with rfl | ⟨body, hbody, rfl⟩
  · exact .inl rfl
  · exact .inr ⟨body, hbody, (List.append_assoc ..).symm⟩

theorem isKept_of_adds {line : List Char} {l : Line} (h : State.Adds line l)
    (hline : IsTextLine line) : IsKept (chomp line) l := by
  cases h with
  | comment he => exact isKept_noNewline he hline
  | blank he => exact isKept_blank he hline

theorem entryStep_keeps {s t : State} (hs : s.IsClosed) {line : List Char}
    (hline : IsTextLine line) (h : s.entryStep line = .ok t) : Keeps line s.bodies t.bodies := by
  cases State.entryStep_cases hs h with
  | keeps ht hhunks => exact .inl (by rw [ht.bodies_eq, hs.bodies_eq, hhunks])
  | adds ht hadded hbefore hafter =>
    refine .inr ⟨_, isKept_of_adds hadded hline, ?_⟩
    rw [ht.bodies_eq, hs.bodies_eq, hbefore, hafter]
    simp [Hunk.addLine]
  | opens _ hf hopen ht =>
    subst ht
    obtain ⟨hunk, a, b, c, d, rfl, -, hbody⟩ := openHunk_ok hopen
    refine .inl ?_
    rw [hs.bodies_eq, State.bodies_eq, State.hunks, State.hunks, State.hunks_place_of_current hf]
    simp [Place.hunks, hbody]

theorem bodyStep_keeps {f : FilePatch} {hunk : Hunk} {o n : Nat} {line : List Char}
    (hline : IsTextLine line) {place : Place} (h : bodyStep f hunk o n line = .ok place) :
    Keeps line (Place.bodies (.body f hunk o n)) place.bodies := by
  obtain ⟨l, o, n, hl, rfl, rfl⟩ := bodyStep_ok h
  rw [bodyStep_eq f hunk hl, Except.ok.injEq] at h
  subst h
  refine .inr ⟨l, isKept_of_bodyLine? hl hline, ?_⟩
  split <;> simp [Place.bodies, FilePatch.bodies_addHunk]

theorem step_keeps {s t : State} {line : List Char} (hline : IsTextLine line)
    (h : s.step line = .ok t) : Keeps line s.bodies t.bodies := by
  unfold State.step at h
  split at h
  · rename_i hp
    obtain ⟨place, hplace, rfl⟩ := map_ok.mp h
    have hkeeps := bodyStep_keeps hline hplace
    rw [← hp] at hkeeps
    exact hkeeps.append_left _
  · rename_i hs
    exact entryStep_keeps hs hline h

-- ---------------------------------------------------------------------------
-- All lines
-- ---------------------------------------------------------------------------

/-- The body lines are what was kept of some of the lines, in the same order. -/
def Matches (kept : Line → Line → Prop) (ls bodies : List Line) : Prop :=
  ∃ used, used.Sublist ls ∧ List.Forall₂ kept used bodies

theorem Matches.keeps {ls before after : List Line} {line : List Char}
    (h : Matches IsKept ls before) (hline : Keeps line before after) :
    Matches IsKept (ls ++ [chomp line]) after := by
  obtain ⟨used, hused, hkept⟩ := h
  rcases hline with rfl | ⟨body, hbody, rfl⟩
  · exact ⟨used, hused.trans (List.sublist_append_left _ _), hkept⟩
  · refine ⟨used ++ [chomp line], hused.append (List.Sublist.refl _), ?_⟩
    exact List.rel_append hkept (.cons hbody .nil)

theorem foldlM_matches {s t : State} {lines : List (List Char)} {ls : List Line}
    (hlines : ∀ line ∈ lines, IsTextLine line) (hs : Matches IsKept ls s.bodies)
    (h : lines.foldlM State.step s = .ok t) :
    Matches IsKept (ls ++ lines.map chomp) t.bodies := by
  -- `ls` are the lines behind the state, so what is matched in them grows with each step.
  induction lines generalizing s ls with
  | nil =>
    cases h
    simpa using hs
  | cons line lines ih =>
    rw [List.foldlM_cons] at h
    obtain ⟨u, hu, h⟩ := bind_ok.mp h
    have hkeeps := hs.keeps (step_keeps (hlines line (by simp)) hu)
    simpa using ih (fun m hm => hlines m (List.mem_cons_of_mem _ hm)) hkeeps h

theorem bodies_finish {s : State} {d : Document} (h : s.finish = .ok d) : d.bodies = s.bodies := by
  rw [Document.bodies]
  rcases State.finish_cases h with ⟨hs, -, hd⟩ | ⟨f, hunk, hp, hd⟩
  · rw [hd, hs.bodies_eq]
  · rw [hd, State.bodies_eq, hp]
    simp

/-- Only the text behind the last newline is no line that the reader gets, if it is empty. -/
theorem map_chomp_lines (cs : List Char) : (Document.lines cs).map chomp <+: textLines cs := by
  induction cs with
  | nil => exact List.nil_prefix
  | cons c cs ih =>
    by_cases hc : c = '\n'
    · subst hc
      rw [lines_newline, textLines_newline, List.map_cons]
      exact List.cons_prefix_cons.mpr ⟨rfl, ih⟩
    · rw [lines_cons hc, textLines_cons hc]
      obtain ⟨l, ls, hl⟩ := exists_textLines cs
      rw [hl] at ih ⊢
      cases hm : Document.lines cs with
      | nil =>
        have hcs : cs = [] := by
          by_contra hne
          exact Lines.split_ne_nil hne hm
        subst hcs
        cases hl
        exact ⟨[], by simp [Lines.extend, chomp_of_not_mem, Ne.symm hc]⟩
      | cons m ms =>
        rw [hm, List.map_cons, List.cons_prefix_cons] at ih
        obtain ⟨hhead, htail⟩ := ih
        rw [Lines.extend, List.map_cons, chomp_cons hc, hhead]
        exact List.cons_prefix_cons.mpr ⟨rfl, htail⟩

theorem forall₂_isVerbatim {used bodies : List Line} (h : List.Forall₂ IsKept used bodies)
    (hall : ∀ l ∈ used, ¬ LosesText l) : List.Forall₂ IsVerbatim used bodies := by
  induction h with
  | nil => exact .nil
  | cons hkept _ ih =>
    obtain ⟨hl, hls⟩ := List.forall_mem_cons.mp hall
    exact .cons (hkept.isVerbatim hl) (ih hls)

theorem Matches.exists_of_mem {kept : Line → Line → Prop} {ls bodies : List Line}
    (h : Matches kept ls bodies) {body : Line} (hbody : body ∈ bodies) : ∃ l ∈ ls, kept l body := by
  obtain ⟨used, hused, hkept⟩ := h
  suffices hmem : ∃ l ∈ used, kept l body by
    obtain ⟨l, hl, hk⟩ := hmem
    exact ⟨l, hused.subset hl, hk⟩
  clear hused
  induction hkept with
  | nil => cases hbody
  | cons hk _ ih =>
    rcases List.mem_cons.mp hbody with rfl | hbody
    · exact ⟨_, List.mem_cons_self .., hk⟩
    · obtain ⟨l, hl, hk⟩ := ih hbody
      exact ⟨l, List.mem_cons_of_mem _ hl, hk⟩

/-- Every body line is kept of a line of the text of its own, in the order of the text, and it is
that line unless the line is one that loses text. -/
theorem bodies_kept {p : String} {d : Document} (h : Document.read p = .ok d) :
    Matches IsKept (textLines p.toList) d.bodies ∧
      ((∀ l ∈ textLines p.toList, ¬ LosesText l) →
        Matches IsVerbatim (textLines p.toList) d.bodies) := by
  rw [Document.read, Document.ofLines] at h
  obtain ⟨s, hs, hfinish⟩ := bind_ok.mp h
  have hlines : ∀ line ∈ Document.lines p.toList, IsTextLine line :=
    fun line => isTextLine_of_mem_lines
  have hstart : Matches IsKept [] State.start.bodies := ⟨[], List.Sublist.refl _, .nil⟩
  have hmatches := foldlM_matches hlines hstart hs
  rw [List.nil_append, ← bodies_finish hfinish] at hmatches
  obtain ⟨used, hused, hkept⟩ := hmatches
  have hused := hused.trans (map_chomp_lines p.toList).sublist
  refine ⟨⟨used, hused, hkept⟩, fun hall => ⟨used, hused, ?_⟩⟩
  exact forall₂_isVerbatim hkept fun l hl => hall l (hused.subset hl)

def returned : String :=
  "--- a\r\n+++ b\r\n@@ -1 +1 @@\r\n-x\r\n+y\r\n\\ No newline at end of file\r\n"

def returnedDocument : Document := ⟨[⟨"a\r", "b\r", [
  ⟨1, 1, 1, 1, ["-x\r".toList, "+y\r".toList, Entry.noNewlineMark], ['\r']⟩]⟩]⟩

/-- The comment of the patch is not what any of its lines says. -/
theorem bodies_not_verbatim_returned :
    Document.read returned = .ok returnedDocument ∧
    ¬ Matches IsVerbatim (textLines returned.toList) returnedDocument.bodies := by
  have hr : Document.read returned = .ok returnedDocument := by decide +kernel
  have hnone : ∀ l ∈ textLines returned.toList, ¬ IsVerbatim l Entry.noNewlineMark := by
    decide +kernel
  have hmark : Entry.noNewlineMark ∈ returnedDocument.bodies := by decide
  refine ⟨hr, fun h => ?_⟩
  obtain ⟨l, hl, hv⟩ := h.exists_of_mem hmark
  exact hnone l hl hv

def blanks : String :=
  "--- a\n+++ b\n@@ -1,4 +1,4 @@\n\n\r\n\r\r\n-x\r\n+y\r\n\\ No newline at end of file\n\n"

def blanksDocument : Document := ⟨[⟨"a", "b", [
  ⟨1, 4, 1, 4, [[' '], [' ', '\r'], [' ', '\r', '\r'], "-x\r".toList, "+y\r".toList,
    Entry.noNewlineMark, []], []⟩]⟩]⟩

theorem bodies_kept_blanks :
    Document.read blanks = .ok blanksDocument ∧
    (∀ l ∈ textLines blanks.toList, ¬ LosesText l) ∧
    Matches IsVerbatim (textLines blanks.toList) blanksDocument.bodies := by
  have hr : Document.read blanks = .ok blanksDocument := by decide +kernel
  have hall : ∀ l ∈ textLines blanks.toList, ¬ LosesText l := by decide +kernel
  exact ⟨hr, hall, (bodies_kept hr).2 hall⟩

end Changeset.Patch
