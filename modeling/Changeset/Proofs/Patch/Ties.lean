import Changeset.Proofs.Patch.Enclosing
import Changeset.Proofs.Source.Table

/-!
# Symbols of equal span

Of the smallest symbols around the added lines of a hunk, alignment finds the
one that comes first in the table, which is the one whose key is declared first
(`pairwise_symbols_ofList`). Declarations come in the order of the source
(`pairwise_startsBefore`), so this is also the symbol that starts first, unless
its key is declared again: then it stands for the last of its declarations, and
what is declared in between starts in front of it. These are the only symbols
that do (`align?_startsBefore_iff`), and there can be some (`align?_passes_first`).
-/

namespace Changeset

-- ---------------------------------------------------------------------------
-- Where symbols start
-- ---------------------------------------------------------------------------

namespace Symbol

variable {s t : Symbol}

/-- `s` starts in an earlier line than `t`, or in the same line in front of it. -/
def StartsBefore (s t : Symbol) : Prop :=
  s.line < t.line ∨ s.line = t.line ∧ s.column < t.column

instance : Decidable (s.StartsBefore t) :=
  inferInstanceAs (Decidable (s.line < t.line ∨ s.line = t.line ∧ s.column < t.column))

theorem StartsBefore.asymm (h : s.StartsBefore t) : ¬ t.StartsBefore s := by
  unfold StartsBefore at *
  omega

theorem SharesStatement.not_startsBefore (h : s.SharesStatement t) :
    ¬ s.StartsBefore t ∧ ¬ t.StartsBefore s := by
  have hline := h.line
  have hcolumn := h.column
  unfold StartsBefore
  omega

theorem EndsBefore.startsBefore (h : s.EndsBefore t) (hs : s.sourceText ≠ "") :
    s.StartsBefore t := by
  obtain ⟨p, q, ⟨hline, hcolumn⟩, ⟨hline', hcolumn'⟩, hle⟩ := h
  obtain ⟨c, cs, htext⟩ := List.exists_cons_of_ne_nil (fun hnil => hs (String.toList_eq_nil_iff.mp hnil))
  rw [htext, Position.advance_cons] at hle
  have hle := Position.le_trans ((p.next c).le_advance cs) hle
  rw [Position.le_def, Position.next] at hle
  unfold StartsBefore
  split at hle <;> simp only at hle <;> omega

end Symbol

namespace Source

variable {language : String} {file : Option String} {source : Text} {ss : List Symbol}

/-- A symbol starts behind all earlier ones that are not of its statement. -/
theorem pairwise_startsBefore (h : declarationsIn language file source = .ok ss) :
    ss.Pairwise fun s t => s.SharesStatement t ∨ s.StartsBefore t := by
  obtain ⟨cs, ps, -, hps, rfl⟩ := exists_inOrder h
  refine List.pairwise_flatMap.mpr ⟨fun p hp => ?_, hps.pairwise.imp ?_⟩
  · obtain ⟨-, rest, hends⟩ := hps.of_mem hp
    exact (sharesStatement_symbols hends).imp .inl
  · rintro p q ⟨hahead, rest, hends, hq⟩ s hs t ht
    obtain ⟨name, hname, rfl⟩ := List.mem_map.mp hs
    obtain ⟨name', -, rfl⟩ := List.mem_map.mp ht
    have hslice := isSliceOf_symbol hahead hends hname
    exact .inr ((endsBefore_symbol hahead hends hq name name').startsBefore hslice.nonempty)

end Source

-- ---------------------------------------------------------------------------
-- The order of a table
-- ---------------------------------------------------------------------------

theorem pairwise_eraseDups {α : Type} [BEq α] [LawfulBEq α] (l : List α) :
    l.eraseDups.Pairwise fun a b => ∀ pre post, l = pre ++ b :: post → a ∈ pre := by
  induction l using List.reverseRecOn with
  | nil => exact .nil
  | append_singleton l x ih =>
    -- What occurs in the longer list is its new value, behind all of `l`, or occurs in `l`.
    have hcases : ∀ {b pre post}, l ++ [x] = pre ++ b :: post →
        pre = l ∨ ∃ post', l = pre ++ b :: post' := by
      intro b pre post h
      rcases List.eq_nil_or_concat post with rfl | ⟨post', y, rfl⟩
      · exact .inl (List.append_inj' h rfl).1.symm
      · have h : l ++ [x] = (pre ++ b :: post') ++ [y] := by simpa using h
        exact .inr ⟨post', (List.append_inj' h rfl).1⟩
    have hold : l.eraseDups.Pairwise fun a b =>
        ∀ pre post, l ++ [x] = pre ++ b :: post → a ∈ pre := by
      refine ih.imp_of_mem fun ha _ hab pre post h => ?_
      rcases hcases h with rfl | ⟨post', hl⟩
      · exact List.mem_eraseDups.mp ha
      · exact hab pre post' hl
    rw [eraseDups_concat]
    split
    · exact hold
    · rename_i hx
      refine List.pairwise_append.mpr ⟨hold, List.pairwise_singleton _ _, ?_⟩
      intro a ha b hb pre post h
      cases List.mem_singleton.mp hb
      rcases hcases h with rfl | ⟨post', hl⟩
      · exact List.mem_eraseDups.mp ha
      · exact absurd (by simp [hl]) hx

theorem Table.pairwise_symbols_ofList (ss : List Symbol) :
    (ofList ss).symbols.Pairwise fun s t =>
      ∀ pre post, ss = pre ++ t :: post → ∃ d ∈ pre, d.key = s.key := by
  have hkeys := pairwise_eraseDups (ss.map Symbol.key)
  rw [← keys_ofList, keys, List.pairwise_map] at hkeys
  refine hkeys.imp fun hkey pre post hss => ?_
  rw [hss, List.map_append, List.map_cons] at hkey
  exact List.mem_map.mp (hkey _ _ rfl)

-- ---------------------------------------------------------------------------
-- Symbols that are as small as the one that is found
-- ---------------------------------------------------------------------------

namespace Patch

open Source (declarationsIn tableIn)

section
variable {language : String} {file : Option String} {source : Text} {ss : List Symbol}
  {before after : Table} {lines : List Int} {s t : Symbol} {h : Hunk} {k : String}

/-- A hunk that only adds lines is aligned with the first of the smallest symbols around them. -/
theorem isSmallestEnclosing_of_align? (hadded : h.added ≠ []) (hremoved : h.removed = [])
    (hk : align? before after h = some k) :
    ∃ s, IsSmallestEnclosing after.symbols h.added s ∧ s.key = k := by
  rw [align?, if_pos hadded] at hk
  split at hk
  · cases hk
  · rename_i s hs
    rw [if_pos hremoved] at hk
    exact ⟨s, isSmallestEnclosing_of_eq_some hs, Option.some.inj hk⟩

theorem IsSmallestEnclosing.declaredFirst
    (hs : IsSmallestEnclosing (Table.ofList ss).symbols lines s)
    (ht : t ∈ (Table.ofList ss).symbols) (hlines : t.encloses lines = true)
    (hspan : t.spanSize = s.spanSize) (hne : t ≠ s) {pre post : List Symbol}
    (hss : ss = pre ++ t :: post) : ∃ d ∈ pre, d.key = s.key := by
  have hpairs := Table.pairwise_symbols_ofList ss
  obtain ⟨front, behind, hsymbols, hlarger, -⟩ := hs.first
  rw [hsymbols] at ht hpairs
  rcases List.mem_append.mp ht with ht | ht
  · exact absurd (hlarger t ht hlines) (by omega)
  rcases List.mem_cons.mp ht with rfl | ht
  · exact absurd rfl hne
  · exact (List.pairwise_cons.mp (List.pairwise_append.mp hpairs).2.1).1 t ht pre post hss

theorem IsSmallestEnclosing.startsBefore_iff (hss : declarationsIn language file source = .ok ss)
    (hs : IsSmallestEnclosing (Table.ofList ss).symbols lines s)
    (ht : t ∈ (Table.ofList ss).symbols) (hlines : t.encloses lines = true)
    (hspan : t.spanSize = s.spanSize) :
    t.StartsBefore s ↔
      ∃ d, List.Sublist [d, t, s] ss ∧ d.key = s.key ∧ ¬ t.SharesStatement s := by
  have hpairs := Source.pairwise_startsBefore hss
  constructor
  · intro hstart
    have hne : t ≠ s := by
      rintro rfl
      exact hstart.asymm hstart
    obtain ⟨pre, post, hsplit⟩ := List.append_of_mem (Table.mem_of_mem_ofList ht)
    obtain ⟨d, hd, hkey⟩ := hs.declaredFirst ht hlines hspan hne hsplit
    have hmem := Table.mem_of_mem_ofList hs.mem
    rw [hsplit, List.pairwise_append] at hpairs
    obtain ⟨-, hbehind, hfront⟩ := hpairs
    rw [hsplit] at hmem ⊢
    rcases List.mem_append.mp hmem with hmem | hmem
    · -- In front of `t`, the symbol `s` would start first.
      rcases hfront s hmem t (List.mem_cons_self ..) with hshare | hfirst
      · exact absurd hstart hshare.not_startsBefore.2
      · exact absurd hstart hfirst.asymm
    rcases List.mem_cons.mp hmem with rfl | hmem
    · exact absurd rfl hne
    · refine ⟨d, ?_, hkey, fun hshare => hshare.not_startsBefore.1 hstart⟩
      have hsub : List.Sublist [t, s] (t :: post) :=
        (List.singleton_sublist.mpr hmem).cons_cons t
      exact (List.singleton_sublist.mpr hd).append hsub
  · rintro ⟨d, hsub, -, hshare⟩
    have hpair := (hpairs.sublist hsub).tail
    simp only [List.tail_cons, List.pairwise_cons, List.mem_singleton, forall_eq] at hpair
    exact hpair.1.resolve_left hshare

/-- Of the symbols that are as small as the one that is found for added lines, those start in front
of it that stand between two declarations of its key, in another statement than the last. -/
theorem align?_startsBefore_iff (hafter : tableIn language file source = .ok after)
    (hadded : h.added ≠ []) (hremoved : h.removed = []) (hk : align? before after h = some k) :
    ∃ ss s, declarationsIn language file source = .ok ss ∧ after.get? k = some s ∧
      ∀ t ∈ after.symbols, t.encloses h.added = true → t.spanSize = s.spanSize →
        (t.StartsBefore s ↔
          ∃ d, List.Sublist [d, t, s] ss ∧ d.key = k ∧ ¬ t.SharesStatement s) := by
  cases hss : declarationsIn language file source with
  | error f =>
    rw [Source.tableIn_error_iff.mpr hss] at hafter
    cases hafter
  | ok ss =>
    rw [Source.tableIn_ok hss] at hafter
    cases hafter
    obtain ⟨s, hs, rfl⟩ := isSmallestEnclosing_of_align? hadded hremoved hk
    refine ⟨ss, s, rfl, Table.mem_symbols_iff.mp hs.mem, ?_⟩
    intro t ht hlines hspan
    exact hs.startsBefore_iff hss ht hlines hspan

end

/-- A function that is declared twice behind a variable of the same line. -/
def repeatedBehind : Text := Text.ofString "let x; function f() \x7b\x7d function f() \x7b\x7d"

def repeatedBehindSymbols : List Symbol := [
  ⟨"let:x", "x", "let", "let x;", 1, 0, 1⟩,
  ⟨"function:f", "f", "function", "function f() \x7b\x7d", 1, 7, 1⟩,
  ⟨"function:f", "f", "function", "function f() \x7b\x7d", 1, 23, 1⟩]

/-- The same with the first declaration in a line of its own, in front of the variable. -/
def repeatedAround : Text := Text.ofString "function f() \x7b\x7d\nlet x; function f() \x7b\x7d"

def repeatedAroundSymbols : List Symbol := [
  ⟨"function:f", "f", "function", "function f() \x7b\x7d", 1, 0, 1⟩,
  ⟨"let:x", "x", "let", "let x;", 2, 0, 2⟩,
  ⟨"function:f", "f", "function", "function f() \x7b\x7d", 2, 7, 2⟩]

def addingLine (n : Nat) : Hunk := ⟨n, 0, n, 1, ["+line".toList], []⟩

theorem align?_startsBefore_iff_repeatedBehind :
    tableIn "js" none repeatedBehind = .ok (Table.ofList repeatedBehindSymbols) ∧
    (addingLine 1).added ≠ [] ∧ (addingLine 1).removed = [] ∧
    align? Table.empty (Table.ofList repeatedBehindSymbols) (addingLine 1) = some "let:x" ∧
    ∃ ss s, declarationsIn "js" none repeatedBehind = .ok ss ∧
      (Table.ofList repeatedBehindSymbols).get? "let:x" = some s ∧
      ∀ t ∈ (Table.ofList repeatedBehindSymbols).symbols,
        t.encloses (addingLine 1).added = true → t.spanSize = s.spanSize →
          (t.StartsBefore s ↔
            ∃ d, List.Sublist [d, t, s] ss ∧ d.key = "let:x" ∧ ¬ t.SharesStatement s) := by
  have hss : declarationsIn "js" none repeatedBehind = .ok repeatedBehindSymbols := by
    decide +kernel
  have hafter := Source.tableIn_ok hss
  have hadded : (addingLine 1).added ≠ [] := by decide
  have hremoved : (addingLine 1).removed = [] := by decide
  have hk : align? Table.empty (Table.ofList repeatedBehindSymbols) (addingLine 1) =
      some "let:x" := by decide +kernel
  exact ⟨hafter, hadded, hremoved, hk, align?_startsBefore_iff hafter hadded hremoved hk⟩

/-- The function keeps its place in the table and moves behind the variable in the source. -/
theorem align?_passes_first :
    declarationsIn "js" none repeatedAround = .ok repeatedAroundSymbols ∧
    tableIn "js" none repeatedAround = .ok (Table.ofList repeatedAroundSymbols) ∧
    (addingLine 2).added ≠ [] ∧ (addingLine 2).removed = [] ∧
    align? Table.empty (Table.ofList repeatedAroundSymbols) (addingLine 2) =
      some "function:f" ∧
    ∃ s t, (Table.ofList repeatedAroundSymbols).get? "function:f" = some s ∧
      t ∈ (Table.ofList repeatedAroundSymbols).symbols ∧
      t.encloses (addingLine 2).added = true ∧ t.spanSize = s.spanSize ∧ t.StartsBefore s := by
  have hss : declarationsIn "js" none repeatedAround = .ok repeatedAroundSymbols := by
    decide +kernel
  refine ⟨hss, Source.tableIn_ok hss, by decide, by decide, by decide +kernel, ?_⟩
  exact ⟨⟨"function:f", "f", "function", "function f() \x7b\x7d", 2, 7, 2⟩,
    ⟨"let:x", "x", "let", "let x;", 2, 0, 2⟩, by decide +kernel, by decide +kernel, by decide,
    by decide, by decide⟩

end Patch

end Changeset
