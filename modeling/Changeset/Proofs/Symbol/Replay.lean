import Changeset.Proofs.Symbol.Diff
import Mathlib.Data.List.DropRight
import Mathlib.Data.List.Perm.Subperm
import Mathlib.Logic.Function.Basic

/-!
# Replaying the changes between two tables

A change keeps the kind of its symbol in its detail and the name beside it, and
both together are the symbol's key (`IsKeyed.key_change`). So changes can be replayed on
the texts of the old table alone. The keys that are reported are those with
different texts (`mem_keys_diff`), and therefore the changes lead to the texts of
the new table, all of them are needed, and no key comes twice (`diff_isScript`).
-/

namespace Changeset

-- ---------------------------------------------------------------------------
-- The keys of changes
-- ---------------------------------------------------------------------------

namespace Change

/-- The detail without its last word. -/
def symbolKind (c : Change) : String :=
  String.ofList (c.detail.toList.rdropWhile (· ≠ ' ')).dropLast

def key (c : Change) : String := c.symbolKind ++ ":" ++ c.name

end Change

namespace Symbol

@[simp] theorem kind_change (s : Symbol) (kind : ChangeKind) (verb : String) :
    (s.change kind verb).kind = kind := rfl

theorem symbolKind_change (s : Symbol) (kind : ChangeKind) {verb : String}
    (hverb : ' ' ∉ verb.toList) : (s.change kind verb).symbolKind = s.kind := by
  have hword : ∀ c ∈ verb.toList.reverse, decide (c ≠ ' ') = true := by
    intro c hc
    simpa using ne_of_mem_of_not_mem (List.mem_reverse.mp hc) hverb
  rw [Change.symbolKind, change, String.toList_append, String.toList_append, List.append_assoc,
    List.rdropWhile, List.reverse_append, List.reverse_append,
    List.append_assoc, List.dropWhile_append_of_pos hword]
  simp

theorem IsKeyed.key_change {s : Symbol} (hs : s.IsKeyed) (kind : ChangeKind) (verb : String)
    (hverb : ' ' ∉ verb.toList) : (s.change kind verb).key = s.key := by
  rw [Change.key, s.symbolKind_change kind hverb, hs.key]
  rfl

end Symbol

namespace Table

def texts (t : Table) (k : String) : Option String := (t.get? k).map Symbol.sourceText

variable {before after : Table}

theorem texts_of_mem {t : Table} {s : Symbol} (h : s ∈ t.symbols) :
    t.texts s.key = some s.sourceText := by
  rw [texts, mem_symbols_iff.mp h, Option.map_some]

/-- The symbols of `t` that `other` does not have under the same key with the same text. -/
def changedFrom (t other : Table) : List Symbol :=
  t.symbols.filter fun s => other.texts s.key ≠ some s.sourceText

-- ---------------------------------------------------------------------------
-- The keys that are reported
-- ---------------------------------------------------------------------------

theorem map_key_arrivals (hafter : ∀ s ∈ after.symbols, s.IsKeyed) :
    (after.symbols.filterMap (arrival? before)).map Change.key =
      (after.changedFrom before).map Symbol.key := by
  have hkey : ∀ s ∈ after.symbols, (arrival? before s).map Change.key =
      if before.texts s.key ≠ some s.sourceText then some s.key else none := by
    intro s hs
    rcases arrival?_cases before s with ⟨hk, ha⟩ | ⟨old, hk, ⟨ht, ha⟩ | ⟨ht, ha⟩⟩
    · simp [texts, hk, ha, (hafter s hs).key_change .insert "added" (by decide)]
    · simp [texts, hk, ha, ht, (hafter s hs).key_change .update "modified" (by decide)]
    · simp [texts, hk, ha, ht]
  rw [List.map_filterMap, List.filterMap_congr hkey, changedFrom, ← List.filterMap_eq_map,
    List.filterMap_filter]
  simp

theorem map_key_departures (hbefore : ∀ s ∈ before.symbols, s.IsKeyed) :
    (before.symbols.filterMap (departure? after)).map Change.key =
      (before.missingFrom after).map Symbol.key := by
  have hkey : ∀ s ∈ before.symbols, (departure? after s).map Change.key =
      if (after.get? s.key).isNone then some s.key else none := by
    intro s hs
    rcases departure?_cases after s with ⟨hk, hd⟩ | ⟨new, hk, hd⟩
    · simp [hk, hd, (hbefore s hs).key_change .delete "removed" (by decide)]
    · simp [hk, hd]
  rw [List.map_filterMap, List.filterMap_congr hkey, missingFrom, ← List.filterMap_eq_map,
    List.filterMap_filter]
  simp

theorem mem_keys_diff (hbefore : ∀ s ∈ before.symbols, s.IsKeyed)
    (hafter : ∀ s ∈ after.symbols, s.IsKeyed) {k : String} :
    k ∈ (before.diff after).map Change.key ↔ before.texts k ≠ after.texts k := by
  rw [diff, List.map_append, map_key_arrivals hafter, map_key_departures hbefore, List.mem_append]
  constructor
  · rintro (hk | hk)
    · obtain ⟨s, hs, rfl⟩ := List.mem_map.mp hk
      obtain ⟨hs, hne⟩ := List.mem_filter.mp hs
      rw [texts_of_mem hs]
      simpa using hne
    · obtain ⟨s, hs, rfl⟩ := List.mem_map.mp hk
      obtain ⟨hs, hnone⟩ := List.mem_filter.mp hs
      rw [texts_of_mem hs, texts, Option.isNone_iff_eq_none.mp hnone]
      simp
  · intro hne
    cases hk : after.get? k with
    | some s =>
      cases key_of_get? hk
      refine .inl (List.mem_map_of_mem (List.mem_filter.mpr ⟨mem_of_get? hk, ?_⟩))
      rw [← texts_of_mem (mem_of_get? hk)]
      simpa using hne
    | none =>
      cases hk' : before.get? k with
      | some s =>
        cases key_of_get? hk'
        refine .inr (List.mem_map_of_mem (List.mem_filter.mpr ⟨mem_of_get? hk', ?_⟩))
        simp [hk]
      | none => simp [texts, hk, hk'] at hne

theorem nodup_keys_diff (hbefore : ∀ s ∈ before.symbols, s.IsKeyed)
    (hafter : ∀ s ∈ after.symbols, s.IsKeyed) : ((before.diff after).map Change.key).Nodup := by
  rw [diff, List.map_append, map_key_arrivals hafter, map_key_departures hbefore,
    List.nodup_append]
  refine ⟨after.nodup.sublist (List.filter_sublist.map _),
    before.nodup.sublist (List.filter_sublist.map _), ?_⟩
  intro k hk k' hk' heq
  obtain ⟨s, hs, rfl⟩ := List.mem_map.mp hk
  obtain ⟨t, ht, rfl⟩ := List.mem_map.mp hk'
  -- What has departed is under no key of the new table.
  have hnone := (List.mem_filter.mp ht).2
  rw [← heq, mem_symbols_iff.mp (List.mem_filter.mp hs).1] at hnone
  simp at hnone

end Table

-- ---------------------------------------------------------------------------
-- Replaying
-- ---------------------------------------------------------------------------

/-- The texts after a change: none under its key if the symbol was removed, and that of the table
`new` otherwise. -/
def Change.replay (new : Table) (texts : String → Option String) (c : Change) :
    String → Option String :=
  Function.update texts c.key (if c.kind = .delete then none else new.texts c.key)

namespace Table

def replay (new : Table) (texts : String → Option String) (cs : List Change) :
    String → Option String :=
  cs.foldl (Change.replay new) texts

/-- As long as only symbols are removed that the new table lacks, a replay gives the new texts to
the keys of the changes and leaves all others alone. -/
theorem replay_apply {new : Table} {cs : List Change}
    (hcs : ∀ c ∈ cs, c.kind = .delete → new.texts c.key = none) (texts : String → Option String)
    (k : String) :
    new.replay texts cs k = if k ∈ cs.map Change.key then new.texts k else texts k := by
  induction cs generalizing texts with
  | nil => rfl
  | cons c cs ih =>
    obtain ⟨hc, hcs⟩ := List.forall_mem_cons.mp hcs
    have hstep : Change.replay new texts c = Function.update texts c.key (new.texts c.key) := by
      rw [Change.replay]
      split
      · rename_i hdelete
        rw [hc hdelete]
      · rfl
    rw [replay, List.foldl_cons, ← replay, ih hcs, hstep]
    by_cases hk : k = c.key
    · subst hk
      simp
    · simp [hk]

structure Fits (before after : Table) (c : Change) : Prop where
  insert : c.kind = .insert ↔ before.texts c.key = none
  delete : c.kind = .delete ↔ after.texts c.key = none

theorem fits_arrival (hafter : ∀ s ∈ after.symbols, s.IsKeyed) {c : Change}
    (h : c ∈ after.symbols.filterMap (arrival? before)) :
    c.kind ≠ .delete ∧ Fits before after c := by
  obtain ⟨s, hs, hc⟩ := List.mem_filterMap.mp h
  have hnew := texts_of_mem hs
  rcases arrival?_cases before s with ⟨hk, ha⟩ | ⟨old, hk, ⟨-, ha⟩ | ⟨-, ha⟩⟩
  · rw [ha, Option.some.injEq] at hc
    subst hc
    have hkey := (hafter s hs).key_change .insert "added" (by decide)
    exact ⟨by simp, ⟨by simp [hkey, texts, hk], by simp [hkey, hnew]⟩⟩
  · rw [ha, Option.some.injEq] at hc
    subst hc
    have hkey := (hafter s hs).key_change .update "modified" (by decide)
    exact ⟨by simp, ⟨by simp [hkey, texts, hk], by simp [hkey, hnew]⟩⟩
  · rw [ha] at hc
    cases hc

theorem fits_departure (hbefore : ∀ s ∈ before.symbols, s.IsKeyed) {c : Change}
    (h : c ∈ before.symbols.filterMap (departure? after)) :
    c.kind = .delete ∧ Fits before after c := by
  obtain ⟨s, hs, hc⟩ := List.mem_filterMap.mp h
  rcases departure?_cases after s with ⟨hk, hd⟩ | ⟨new, hk, hd⟩
  · rw [hd, Option.some.injEq] at hc
    subst hc
    have hkey := (hbefore s hs).key_change .delete "removed" (by decide)
    exact ⟨rfl, ⟨by simp [hkey, texts_of_mem hs], by simp [hkey, texts, hk]⟩⟩
  · rw [hd] at hc
    cases hc

theorem fits_of_mem_diff (hbefore : ∀ s ∈ before.symbols, s.IsKeyed)
    (hafter : ∀ s ∈ after.symbols, s.IsKeyed) : ∀ c ∈ before.diff after, Fits before after c := by
  intro c hc
  rcases List.mem_append.mp hc with hc | hc
  · exact (fits_arrival hafter hc).2
  · exact (fits_departure hbefore hc).2

-- ---------------------------------------------------------------------------
-- Scripts
-- ---------------------------------------------------------------------------

/-- The changes lead from the texts of one table to those of another, and none of them can be left
out. -/
structure IsScript (before after : Table) (cs : List Change) : Prop where
  distinct : (cs.map Change.key).Nodup
  fits : ∀ c ∈ cs, Fits before after c
  complete : after.replay before.texts cs = after.texts
  minimal : ∀ part, part.Sublist cs → part ≠ cs → after.replay before.texts part ≠ after.texts
  inOrder : ∃ kept gone, cs = kept ++ gone ∧
    (∀ c ∈ kept, c.kind ≠ .delete) ∧ (∀ c ∈ gone, c.kind = .delete) ∧
    (kept.map Change.key).Sublist after.keys ∧ (gone.map Change.key).Sublist before.keys

/-- A change that is left out leaves the old text under its key. -/
theorem replay_ne_of_sublist {cs part : List Change} (hdistinct : (cs.map Change.key).Nodup)
    (hfits : ∀ c ∈ cs, Fits before after c)
    (hchanged : ∀ c ∈ cs, before.texts c.key ≠ after.texts c.key) (hpart : part.Sublist cs)
    (hne : part ≠ cs) : after.replay before.texts part ≠ after.texts := by
  intro hsame
  have hdelete : ∀ c ∈ part, c.kind = .delete → after.texts c.key = none :=
    fun c hc => (hfits c (hpart.subset hc)).delete.mp
  have hkeys : cs.map Change.key ⊆ part.map Change.key := by
    intro k hk
    obtain ⟨c, hc, rfl⟩ := List.mem_map.mp hk
    by_contra hmissing
    have happly := replay_apply hdelete before.texts c.key
    rw [hsame, if_neg hmissing] at happly
    exact hchanged c hc happly.symm
  have hlength := (List.subperm_of_subset hdistinct hkeys).length_le
  exact hne (hpart.eq_of_length_le (by simpa using hlength))

/-- The changes between two tables whose keys are made of kinds and names: they lead from the one to
the other, none of them is too much, and they come in the order of the tables. -/
theorem diff_isScript (hbefore : ∀ s ∈ before.symbols, s.IsKeyed)
    (hafter : ∀ s ∈ after.symbols, s.IsKeyed) :
    IsScript before after (before.diff after) ∧
      (before.diff after = [] ↔ before.texts = after.texts) := by
  have hdistinct := nodup_keys_diff hbefore hafter
  have hfits := fits_of_mem_diff hbefore hafter
  have hchanged : ∀ c ∈ before.diff after, before.texts c.key ≠ after.texts c.key :=
    fun c hc => (mem_keys_diff hbefore hafter).mp (List.mem_map_of_mem hc)
  refine ⟨⟨hdistinct, hfits, ?_, ?_, ?_⟩, ?_⟩
  · funext k
    rw [replay_apply fun c hc => (hfits c hc).delete.mp]
    split
    · rfl
    · rename_i hk
      exact not_not.mp fun hne => hk ((mem_keys_diff hbefore hafter).mpr hne)
  · intro part hpart hne
    exact replay_ne_of_sublist hdistinct hfits hchanged hpart hne
  · refine ⟨_, _, rfl, fun c hc => (fits_arrival hafter hc).1,
      fun c hc => (fits_departure hbefore hc).1, ?_, ?_⟩
    · rw [map_key_arrivals hafter]
      exact List.filter_sublist.map _
    · rw [map_key_departures hbefore]
      exact List.filter_sublist.map _
  · rw [diff_eq_nil_iff, funext_iff]
    rfl

def former : Table := Table.ofList [
  ⟨"function:a", "a", "function", "1", 1, 0, 1⟩, ⟨"class:a", "a", "class", "2", 2, 0, 2⟩,
  ⟨"let:b", "b", "let", "3", 3, 0, 3⟩, ⟨"var:c", "c", "var", "4", 4, 0, 4⟩]

def latter : Table := Table.ofList [
  ⟨"const:c", "c", "const", "4", 1, 0, 1⟩, ⟨"let:b", "b", "let", "3", 2, 0, 2⟩,
  ⟨"class:a", "a", "class", "5", 3, 0, 3⟩]

theorem diff_isScript_sameName :
    (∀ s ∈ former.symbols, s.IsKeyed) ∧ (∀ s ∈ latter.symbols, s.IsKeyed) ∧
    former.diff latter = [⟨.insert, "c", "const added", 1, 0⟩,
      ⟨.update, "a", "class modified", 3, 0⟩, ⟨.delete, "a", "function removed", 1, 0⟩,
      ⟨.delete, "c", "var removed", 4, 0⟩] ∧
    IsScript former latter (former.diff latter) ∧
    (former.diff latter = [] ↔ former.texts = latter.texts) := by
  have hbefore : ∀ s ∈ former.symbols, s.IsKeyed := by decide +kernel
  have hafter : ∀ s ∈ latter.symbols, s.IsKeyed := by decide +kernel
  refine ⟨hbefore, hafter, by decide +kernel, diff_isScript hbefore hafter⟩

end Table

end Changeset
