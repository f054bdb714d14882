import Changeset.Proofs.Symbol.Table
import Changeset.Symbol.Diff
import Mathlib.Data.List.Forall2
import Mathlib.Data.List.Nodup

/-!
# Symbol differences in both directions

What two tables are to each other does not depend on which one is the old one:
what is added in one direction is removed in the other, symbol by symbol and in
the same order (`mirrorEachOther_diff`), and the same keys have other texts in
both (`perm_keys_differingFrom`). What an update says about them is the same as
long as the tables mean the same symbols by these keys (`perm_updatesIn_diff`).
Nothing is reported exactly if the tables have the same texts under the same
keys (`diff_eq_nil_iff`).
-/

namespace Changeset

-- ---------------------------------------------------------------------------
-- Changes of one kind
-- ---------------------------------------------------------------------------

def changesOf (kind : ChangeKind) (cs : List Change) : List Change := cs.filter (·.kind = kind)

namespace Table

variable (before after : Table)

theorem arrival?_cases (s : Symbol) :
    (before.get? s.key = none ∧ arrival? before s = some (s.change .insert "added")) ∨
      ∃ old, before.get? s.key = some old ∧
        (old.sourceText ≠ s.sourceText ∧ arrival? before s = some (s.change .update "modified") ∨
          old.sourceText = s.sourceText ∧ arrival? before s = none) := by
  cases h : before.get? s.key with
  | none => exact .inl ⟨rfl, by simp [arrival?, h]⟩
  | some old =>
    refine .inr ⟨old, rfl, ?_⟩
    by_cases ht : old.sourceText = s.sourceText
    · exact .inr ⟨ht, by simp [arrival?, h, ht]⟩
    · exact .inl ⟨ht, by simp [arrival?, h, ht]⟩

theorem departure?_cases (s : Symbol) :
    (after.get? s.key = none ∧ departure? after s = some (s.change .delete "removed")) ∨
      ∃ new, after.get? s.key = some new ∧ departure? after s = none := by
  cases h : after.get? s.key with
  | none => exact .inl ⟨rfl, by simp [departure?, contains_eq_isSome, h]⟩
  | some new => exact .inr ⟨new, rfl, by simp [departure?, contains_eq_isSome, h]⟩

theorem changesOf_diff (kind : ChangeKind) :
    changesOf kind (diff before after) =
      after.symbols.filterMap (fun s => (arrival? before s).filter (·.kind = kind)) ++
        before.symbols.filterMap (fun s => (departure? after s).filter (·.kind = kind)) := by
  rw [changesOf, diff, List.filter_append, List.filter_filterMap, List.filter_filterMap]

def missingFrom (t other : Table) : List Symbol :=
  t.symbols.filter fun s => (other.get? s.key).isNone

/-- The symbols of `t` that `other` has under the same key with another text. -/
def differingFrom (t other : Table) : List Symbol :=
  t.symbols.filter fun s => (other.get? s.key).any (·.sourceText ≠ s.sourceText)

theorem changesOf_insert_diff :
    changesOf .insert (diff before after) =
      (after.missingFrom before).map (·.change .insert "added") := by
  have harrival : ∀ s, (arrival? before s).filter (·.kind = .insert) =
      if (before.get? s.key).isNone then some (s.change .insert "added") else none := by
    intro s
    rcases arrival?_cases before s with ⟨hk, ha⟩ | ⟨old, hk, ⟨-, ha⟩ | ⟨-, ha⟩⟩ <;>
      simp [hk, ha, Symbol.change]
  have hdeparture : ∀ s, (departure? after s).filter (·.kind = .insert) = none := by
    intro s
    rcases departure?_cases after s with ⟨-, hd⟩ | ⟨-, -, hd⟩ <;> simp [hd, Symbol.change]
  rw [changesOf_diff, missingFrom, ← List.filterMap_eq_map, List.filterMap_filter]
  simp [harrival, hdeparture]

theorem changesOf_update_diff :
    changesOf .update (diff before after) =
      (after.differingFrom before).map (·.change .update "modified") := by
  have harrival : ∀ s, (arrival? before s).filter (·.kind = .update) =
      if (before.get? s.key).any (·.sourceText ≠ s.sourceText) then
        some (s.change .update "modified") else none := by
    intro s
    rcases arrival?_cases before s with ⟨hk, ha⟩ | ⟨old, hk, ⟨ht, ha⟩ | ⟨ht, ha⟩⟩
    · simp [hk, ha, Symbol.change]
    · simp [hk, ha, ht, Symbol.change]
    · simp [hk, ha, ht]
  have hdeparture : ∀ s, (departure? after s).filter (·.kind = .update) = none := by
    intro s
    rcases departure?_cases after s with ⟨-, hd⟩ | ⟨-, -, hd⟩ <;> simp [hd, Symbol.change]
  rw [changesOf_diff, differingFrom, ← List.filterMap_eq_map, List.filterMap_filter]
  simp [harrival, hdeparture]

theorem changesOf_delete_diff :
    changesOf .delete (diff before after) =
      (before.missingFrom after).map (·.change .delete "removed") := by
  have harrival : ∀ s, (arrival? before s).filter (·.kind = .delete) = none := by
    intro s
    rcases arrival?_cases before s with ⟨-, ha⟩ | ⟨-, -, ⟨-, ha⟩ | ⟨-, ha⟩⟩ <;>
      simp [ha, Symbol.change]
  have hdeparture : ∀ s, (departure? after s).filter (·.kind = .delete) =
      if (after.get? s.key).isNone then some (s.change .delete "removed") else none := by
    intro s
    rcases departure?_cases after s with ⟨hk, hd⟩ | ⟨new, hk, hd⟩ <;> simp [hk, hd, Symbol.change]
  rw [changesOf_diff, missingFrom, ← List.filterMap_eq_map, List.filterMap_filter]
  simp [harrival, hdeparture]

-- ---------------------------------------------------------------------------
-- No change
-- ---------------------------------------------------------------------------

variable {before after}

theorem diff_eq_nil_iff :
    diff before after = [] ↔
      ∀ k, (before.get? k).map Symbol.sourceText = (after.get? k).map Symbol.sourceText := by
  simp only [diff, List.append_eq_nil_iff, List.filterMap_eq_nil_iff]
  constructor
  · rintro ⟨harrival, hdeparture⟩ k
    cases hafter : after.get? k with
    | some s =>
      cases key_of_get? hafter
      rcases arrival?_cases before s with ⟨-, ha⟩ | ⟨old, hold, ⟨-, ha⟩ | ⟨ht, -⟩⟩
      · simp [harrival s (mem_of_get? hafter)] at ha
      · simp [harrival s (mem_of_get? hafter)] at ha
      · simp [hold, ht]
    | none =>
      cases hbefore : before.get? k with
      | none => rfl
      | some s =>
        cases key_of_get? hbefore
        rcases departure?_cases after s with ⟨-, hd⟩ | ⟨new, hnew, -⟩
        · simp [hdeparture s (mem_of_get? hbefore)] at hd
        · simp [hafter] at hnew
  · intro h
    constructor
    · intro s hs
      have hk := h s.key
      rw [mem_symbols_iff.mp hs] at hk
      rcases arrival?_cases before s with ⟨hnone, -⟩ | ⟨old, hold, ⟨ht, -⟩ | ⟨-, ha⟩⟩
      · simp [hnone] at hk
      · simp [hold, ht] at hk
      · exact ha
    · intro s hs
      have hk := h s.key
      rw [mem_symbols_iff.mp hs] at hk
      rcases departure?_cases after s with ⟨hnone, -⟩ | ⟨new, -, hd⟩
      · simp [hnone] at hk
      · exact hd

end Table

-- ---------------------------------------------------------------------------
-- The two directions
-- ---------------------------------------------------------------------------

/-- The removal `d` is of what `c` adds: the same symbol in the same place. -/
structure Change.IsTakenBackBy (c d : Change) : Prop where
  name : d.name = c.name
  line : d.line = c.line
  column : d.column = c.column
  detail : ∃ kind, c.detail = kind ++ " added" ∧ d.detail = kind ++ " removed"

structure MirrorEachOther (there back : List Change) : Prop where
  additions : List.Forall₂ Change.IsTakenBackBy (changesOf .insert there) (changesOf .delete back)
  removals : List.Forall₂ Change.IsTakenBackBy (changesOf .insert back) (changesOf .delete there)

def updatesIn (cs : List Change) : List (String × String) :=
  (changesOf .update cs).map fun c => (c.name, c.detail)

theorem Symbol.isTakenBackBy_change (s : Symbol) :
    (s.change .insert "added").IsTakenBackBy (s.change .delete "removed") where
  name := rfl
  line := rfl
  column := rfl
  detail := by
    refine ⟨s.kind, ?_, ?_⟩
    · simp [change, String.append_assoc]
    · simp [change, String.append_assoc]

namespace Table

variable (x y : Table)

theorem forall₂_isTakenBackBy :
    List.Forall₂ Change.IsTakenBackBy (changesOf .insert (x.diff y))
      (changesOf .delete (y.diff x)) := by
  rw [changesOf_insert_diff, changesOf_delete_diff, List.forall₂_map_left_iff,
    List.forall₂_map_right_iff, List.forall₂_same]
  intro s _
  exact s.isTakenBackBy_change

theorem mirrorEachOther_diff : MirrorEachOther (x.diff y) (y.diff x) :=
  ⟨forall₂_isTakenBackBy x y, forall₂_isTakenBackBy y x⟩

/-- Symbols that the tables have under the same key with different texts are of the same kind and
name. -/
def AgreesWith (x y : Table) : Prop :=
  ∀ s ∈ x.symbols, ∀ t ∈ y.symbols,
    s.key = t.key → t.sourceText ≠ s.sourceText → s.kind = t.kind ∧ s.name = t.name

instance : Decidable (x.AgreesWith y) :=
  inferInstanceAs (Decidable (∀ s ∈ x.symbols, ∀ t ∈ y.symbols,
    s.key = t.key → t.sourceText ≠ s.sourceText → s.kind = t.kind ∧ s.name = t.name))

variable {x y}

theorem agreesWith_ofList {ss ts : List Symbol} (hss : ∀ s ∈ ss, s.IsKeyed)
    (hts : ∀ t ∈ ts, t.IsKeyed) : (ofList ss).AgreesWith (ofList ts) := by
  intro s hs t ht hkey _
  exact (hss s (mem_of_mem_ofList hs)).same (hts t (mem_of_mem_ofList ht)) hkey

theorem mem_differingFrom {s : Symbol} :
    s ∈ x.differingFrom y ↔
      x.get? s.key = some s ∧ ∃ t, y.get? s.key = some t ∧ t.sourceText ≠ s.sourceText := by
  rw [differingFrom, List.mem_filter, mem_symbols_iff]
  cases y.get? s.key with
  | none => simp
  | some t => simp

theorem mem_keys_differingFrom {k : String} :
    k ∈ (x.differingFrom y).map Symbol.key ↔
      ∃ s t, x.get? k = some s ∧ y.get? k = some t ∧ t.sourceText ≠ s.sourceText := by
  constructor
  · intro hk
    obtain ⟨s, hs, rfl⟩ := List.mem_map.mp hk
    obtain ⟨hs, t, ht, hne⟩ := mem_differingFrom.mp hs
    exact ⟨s, t, hs, ht, hne⟩
  · rintro ⟨s, t, hs, ht, hne⟩
    cases key_of_get? hs
    exact List.mem_map_of_mem (mem_differingFrom.mpr ⟨hs, t, ht, hne⟩)

theorem nodup_keys_differingFrom (x y : Table) : ((x.differingFrom y).map Symbol.key).Nodup :=
  x.nodup.sublist (List.filter_sublist.map _)

theorem perm_keys_differingFrom (x y : Table) :
    ((x.differingFrom y).map Symbol.key).Perm ((y.differingFrom x).map Symbol.key) := by
  rw [List.perm_ext_iff_of_nodup (nodup_keys_differingFrom x y) (nodup_keys_differingFrom y x)]
  intro k
  rw [mem_keys_differingFrom, mem_keys_differingFrom]
  constructor
  · rintro ⟨s, t, hs, ht, hne⟩
    exact ⟨t, s, ht, hs, hne.symm⟩
  · rintro ⟨t, s, ht, hs, hne⟩
    exact ⟨s, t, hs, ht, hne.symm⟩

/-- What an update says about a symbol: its name, and its kind in the detail. -/
def updateOf (s : Symbol) : String × String := (s.name, s.kind ++ " modified")

theorem updatesIn_diff : updatesIn (x.diff y) = (y.differingFrom x).map updateOf := by
  rw [updatesIn, changesOf_update_diff, List.map_map]
  apply List.map_congr_left
  intro s _
  simp [updateOf, Symbol.change, String.append_assoc]

theorem map_updateOf_eq (t : Table) {ss : List Symbol}
    (h : ∀ s ∈ ss, ∃ s', t.get? s.key = some s' ∧ s.kind = s'.kind ∧ s.name = s'.name) :
    ss.map updateOf = (ss.map Symbol.key).filterMap fun k => (t.get? k).map updateOf := by
  induction ss with
  | nil => rfl
  | cons s ss ih =>
    obtain ⟨s', hs', hkind, hname⟩ := h s (List.mem_cons_self)
    have hrest := ih fun s hs => h s (List.mem_cons_of_mem _ hs)
    rw [List.map_cons, List.map_cons, List.filterMap_cons, hs', ← hrest]
    simp [updateOf, hkind, hname]

theorem perm_updatesIn_diff (h : x.AgreesWith y) :
    (updatesIn (x.diff y)).Perm (updatesIn (y.diff x)) := by
  have hy : ∀ s ∈ y.differingFrom x,
      ∃ s', y.get? s.key = some s' ∧ s.kind = s'.kind ∧ s.name = s'.name := by
    intro s hs
    exact ⟨s, (mem_differingFrom.mp hs).1, rfl, rfl⟩
  have hx : ∀ s ∈ x.differingFrom y,
      ∃ s', y.get? s.key = some s' ∧ s.kind = s'.kind ∧ s.name = s'.name := by
    intro s hs
    obtain ⟨hs, t, ht, hne⟩ := mem_differingFrom.mp hs
    exact ⟨t, ht, h s (mem_of_get? hs) t (mem_of_get? ht) (key_of_get? ht).symm hne⟩
  rw [updatesIn_diff, updatesIn_diff, map_updateOf_eq y hy, map_updateOf_eq y hx]
  exact (perm_keys_differingFrom y x).filterMap _

end Table

end Changeset
