import Changeset.Symbol.Table
import Mathlib.Data.List.Basic
import Mathlib.Data.List.Induction

/-!
# Looking symbols up

A symbol is in a table exactly if it is found under its own key
(`mem_symbols_iff`), and a table made of a list holds the last symbol of each
key (`get?_ofList`) where the key comes first (`keys_ofList`). Keys of a kind, a
colon and a name tell these two apart as long as no kind has a colon
(`Symbol.IsKeyed.same`).
-/

namespace Changeset

theorem eraseDups_concat {α : Type} [BEq α] [LawfulBEq α] (l : List α) (a : α) :
    (l ++ [a]).eraseDups = if a ∈ l then l.eraseDups else l.eraseDups ++ [a] := by
  rw [List.eraseDups_append, List.removeAll]
  split
  · rename_i h
    rw [List.filter_cons_of_neg (by simpa using h), List.filter_nil, List.eraseDups_nil,
      List.append_nil]
  · rename_i h
    rw [List.filter_cons_of_pos (by simpa using h), List.filter_nil]
    rfl

theorem nodup_eraseDups {α : Type} [BEq α] [LawfulBEq α] (l : List α) : l.eraseDups.Nodup := by
  induction l using List.reverseRecOn with
  | nil => exact List.nodup_nil
  | append_singleton l a ih =>
    rw [eraseDups_concat]
    split
    · exact ih
    · rename_i ha
      refine List.nodup_append.mpr ⟨ih, List.pairwise_singleton _ a, ?_⟩
      intro b hb c hc hbc
      rw [hbc, List.mem_singleton.mp hc, List.mem_eraseDups] at hb
      exact ha hb

namespace Table

variable {t : Table} {s : Symbol} {k : String}

theorem mem_of_get? (h : t.get? k = some s) : s ∈ t.symbols := List.mem_of_find?_eq_some h

theorem mem_symbols_iff : s ∈ t.symbols ↔ t.get? s.key = some s := by
  constructor
  · intro hs
    obtain ⟨pre, post, hsymbols⟩ := List.append_of_mem hs
    have hdistinct := t.nodup
    rw [hsymbols, List.map_append, List.map_cons, List.nodup_append] at hdistinct
    obtain ⟨-, -, hdisjoint⟩ := hdistinct
    rw [get?, hsymbols, List.find?_append, List.find?_eq_none.mpr]
    · simp
    · intro x hx hkey
      refine hdisjoint x.key (List.mem_map_of_mem hx) s.key (by simp) ?_
      simpa using hkey
  · exact mem_of_get?

theorem contains_eq_isSome (t : Table) (k : String) : t.contains k = (t.get? k).isSome := by
  rw [Bool.eq_iff_iff]
  simp [contains, keys, get?]

@[simp] theorem get?_empty (k : String) : empty.get? k = none := rfl

theorem get?_ofList (ss : List Symbol) (k : String) :
    (ofList ss).get? k = ss.reverse.find? (·.key = k) := by
  suffices h : ∀ t : Table,
      (ss.foldl insert t).get? k = (ss.reverse.find? (·.key = k)).or (t.get? k) by
    rw [ofList, h empty, get?_empty, Option.or_none]
  induction ss with
  | nil => simp
  | cons s ss ih =>
    intro t
    rw [List.foldl_cons, ih, get?_insert, List.reverse_cons, List.find?_append, Option.or_assoc]
    congr 1
    by_cases h : s.key = k <;> simp [h]

theorem get?_ofList_map {f : Symbol → Symbol} (hf : ∀ s, (f s).key = s.key) (ss : List Symbol)
    (k : String) : (ofList (ss.map f)).get? k = ((ofList ss).get? k).map f := by
  rw [get?_ofList, get?_ofList, ← List.map_reverse, List.find?_map]
  simp only [Function.comp_def, hf]

theorem ofList_concat (ss : List Symbol) (s : Symbol) :
    ofList (ss ++ [s]) = (ofList ss).insert s := List.foldl_append

theorem keys_ofList (ss : List Symbol) : (ofList ss).keys = (ss.map Symbol.key).eraseDups := by
  induction ss using List.reverseRecOn with
  | nil => rfl
  | append_singleton ss s ih =>
    simp only [ofList_concat, keys_insert, ih, List.map_append, List.map_singleton,
      eraseDups_concat, List.mem_eraseDups]

theorem mem_of_mem_ofList {ss : List Symbol} (h : s ∈ (ofList ss).symbols) : s ∈ ss := by
  rw [mem_symbols_iff, get?_ofList] at h
  exact List.mem_reverse.mp (List.mem_of_find?_eq_some h)

end Table

def Symbol.IsLastIn (s : Symbol) (ss : List Symbol) : Prop :=
  ∃ pre post, ss = pre ++ s :: post ∧ ∀ t ∈ post, t.key ≠ s.key

/-- The table has each key of the list once, in the order in which they come first, and under each
key the symbol that comes last with it. -/
structure Table.KeepsLast (t : Table) (ss : List Symbol) : Prop where
  keys : t.keys = (ss.map Symbol.key).eraseDups
  isSome_get? : ∀ k, (t.get? k).isSome ↔ k ∈ t.keys
  get? : ∀ k s, t.get? k = some s ↔ s.key = k ∧ s.IsLastIn ss
  own : ∀ s ∈ t.symbols, t.get? s.key = some s

namespace Table

theorem get?_ofList_eq_some_iff {ss : List Symbol} {k : String} {s : Symbol} :
    (ofList ss).get? k = some s ↔ s.key = k ∧ s.IsLastIn ss := by
  rw [get?_ofList, List.find?_eq_some_iff_append, decide_eq_true_eq]
  refine and_congr_right fun hk => ?_
  subst hk
  constructor
  · rintro ⟨post, pre, hss, hpost⟩
    refine ⟨pre.reverse, post.reverse, ?_, fun t ht => ?_⟩
    · rw [← List.reverse_reverse ss, hss]
      simp
    · simpa using hpost t (List.mem_reverse.mp ht)
  · rintro ⟨pre, post, rfl, hpost⟩
    exact ⟨post.reverse, pre.reverse, by simp, fun t ht => by simpa using hpost t (by simpa using ht)⟩

theorem keepsLast_ofList (ss : List Symbol) : (ofList ss).KeepsLast ss where
  keys := keys_ofList ss
  isSome_get? k := by rw [← contains_eq_isSome, contains, List.contains_iff_mem]
  get? _ _ := get?_ofList_eq_some_iff
  own _ := mem_symbols_iff.mp

end Table

namespace Symbol

/-- The key is made of the kind and the name, and the kind ends at the first colon of the key. -/
structure IsKeyed (s : Symbol) : Prop where
  key : s.key = s.kind ++ ":" ++ s.name
  kind : ':' ∉ s.kind.toList

instance (s : Symbol) : Decidable s.IsKeyed :=
  decidable_of_iff (s.key = s.kind ++ ":" ++ s.name ∧ ':' ∉ s.kind.toList)
    ⟨fun h => ⟨h.1, h.2⟩, fun h => ⟨h.key, h.kind⟩⟩

theorem IsKeyed.takeWhile_key {s : Symbol} (h : s.IsKeyed) :
    s.key.toList.takeWhile (· ≠ ':') = s.kind.toList := by
  have hkind : ∀ c ∈ s.kind.toList, decide (c ≠ ':') = true := by
    intro c hc
    simpa using ne_of_mem_of_not_mem hc h.kind
  rw [h.key, String.toList_append, String.toList_append, List.append_assoc,
    List.takeWhile_append_of_pos hkind]
  simp

theorem IsKeyed.same {s t : Symbol} (hs : s.IsKeyed) (ht : t.IsKeyed) (h : s.key = t.key) :
    s.kind = t.kind ∧ s.name = t.name := by
  have hkind : s.kind = t.kind := by
    rw [← String.toList_inj, ← hs.takeWhile_key, h, ht.takeWhile_key]
  refine ⟨hkind, ?_⟩
  rw [hs.key, ht.key, hkind] at h
  simpa [← String.toList_inj] using h

end Symbol

end Changeset
