import Changeset.Engine
import Changeset.Proofs.Source.Table
import Changeset.Proofs.Symbol.Diff

/-!
# Comparing in both directions

Two sources that are both read are compared by their tables (`value_compare`).
So what one direction reports as added the other reports as removed, and both
report the same updates up to their order: `compare_mirrored`, where the same is
said of any two tables. Tables that are not made from sources can have symbols
under one key whose kinds and names differ; the updates then name the symbol of
whichever version is the new one (`not_perm_updatesIn_colon`).
-/

namespace Changeset.Engine

section
variable {settings : Settings} {language : String} {l : Parsable} {file : Option String}
  {x y : Text} {sx sy : List Symbol}

theorem value_tables (hx : Source.declarations l.grammar l.tag file x = .ok sx)
    (hy : Source.declarations l.grammar l.tag file y = .ok sy) :
    (tables l file x y).value = .ok (Table.ofList sx, Table.ofList sy) := by
  simp only [tables, Noted.value_bind, Source.value_table hx, Source.value_table hy,
    Noted.value_pure]

theorem value_compare (hl : parsable? settings language = some l)
    (hx : Source.declarations l.grammar l.tag file x = .ok sx)
    (hy : Source.declarations l.grammar l.tag file y = .ok sy) :
    (compare settings language file x y).value =
      .ok ((Table.ofList sx).diff (Table.ofList sy)) := by
  simp only [compare, hl, Noted.map, value_tables hx hy]
  rfl

end

/-- Either direction of a comparison reports what the other one does, with additions and removals
exchanged. For tables of any symbols this holds of the updates too if they agree on the keys of the
updated symbols. -/
theorem compare_mirrored :
    (∀ (settings : Settings) (language : String) (l : Parsable) (file : Option String)
        (x y : Text) (sx sy : List Symbol),
      parsable? settings language = some l →
      Source.declarations l.grammar l.tag file x = .ok sx →
      Source.declarations l.grammar l.tag file y = .ok sy →
      ∃ there back, (compare settings language file x y).value = .ok there ∧
        (compare settings language file y x).value = .ok back ∧
        MirrorEachOther there back ∧ (updatesIn there).Perm (updatesIn back)) ∧
    ∀ x y : Table, MirrorEachOther (x.diff y) (y.diff x) ∧
      (x.AgreesWith y → (updatesIn (x.diff y)).Perm (updatesIn (y.diff x))) := by
  constructor
  · intro settings language l file x y sx sy hl hx hy
    have hagree : (Table.ofList sx).AgreesWith (Table.ofList sy) :=
      Table.agreesWith_ofList (Source.isKeyed_of_mem_declarations hx)
        (Source.isKeyed_of_mem_declarations hy)
    refine ⟨_, _, value_compare hl hx hy, value_compare hl hy hx, ?_, ?_⟩
    · exact Table.mirrorEachOther_diff _ _
    · exact Table.perm_updatesIn_diff hagree
  · intro x y
    refine ⟨Table.mirrorEachOther_diff x y, ?_⟩
    intro hagree
    exact Table.perm_updatesIn_diff hagree

/-- The second version has the first one's symbols in another order, one of them twice, and other
texts for three of them. -/
def earlier : Text :=
  Text.ofString "function f() \x7b return 1 \x7d\nlet a = 1, b;\nclass A \x7b\x7d"

def later : Text :=
  Text.ofString "class A \x7b x \x7d\nlet b;\nfunction g() \x7b\x7d\nlet a = 2, b;"

def earlierSymbols : List Symbol := [
  ⟨"function:f", "f", "function", "function f() \x7b return 1 \x7d", 1, 0, 1⟩,
  ⟨"let:a", "a", "let", "let a = 1, b;", 2, 0, 2⟩,
  ⟨"let:b", "b", "let", "let a = 1, b;", 2, 0, 2⟩,
  ⟨"class:A", "A", "class", "class A \x7b\x7d", 3, 0, 3⟩]

def laterSymbols : List Symbol := [
  ⟨"class:A", "A", "class", "class A \x7b x \x7d", 1, 0, 1⟩,
  ⟨"let:b", "b", "let", "let b;", 2, 0, 2⟩,
  ⟨"function:g", "g", "function", "function g() \x7b\x7d", 3, 0, 3⟩,
  ⟨"let:a", "a", "let", "let a = 2, b;", 4, 0, 4⟩,
  ⟨"let:b", "b", "let", "let a = 2, b;", 4, 0, 4⟩]

theorem compare_mirrored_reordered :
    parsable? .default "TS" = some ⟨"ts", .typescript⟩ ∧
    Source.declarations .typescript "ts" none earlier = .ok earlierSymbols ∧
    Source.declarations .typescript "ts" none later = .ok laterSymbols ∧
    (Table.ofList earlierSymbols).AgreesWith (Table.ofList laterSymbols) ∧
    (∃ there back, (compare .default "TS" none earlier later).value = .ok there ∧
      (compare .default "TS" none later earlier).value = .ok back ∧
      MirrorEachOther there back ∧ (updatesIn there).Perm (updatesIn back)) ∧
    (updatesIn ((Table.ofList earlierSymbols).diff (Table.ofList laterSymbols))).Perm
      (updatesIn ((Table.ofList laterSymbols).diff (Table.ofList earlierSymbols))) := by
  have hl : parsable? .default "TS" = some ⟨"ts", .typescript⟩ := by decide +kernel
  have hx : Source.declarations .typescript "ts" none earlier = .ok earlierSymbols := by
    decide +kernel
  have hy : Source.declarations .typescript "ts" none later = .ok laterSymbols := by
    decide +kernel
  have hagree : (Table.ofList earlierSymbols).AgreesWith (Table.ofList laterSymbols) := by
    decide +kernel
  exact ⟨hl, hx, hy, hagree, compare_mirrored.1 _ _ _ _ _ _ _ _ hl hx hy,
    (compare_mirrored.2 _ _).2 hagree⟩

def colonInName : Table := Table.empty.insert ⟨"type:a:b", "a:b", "type", "1", 1, 0, 1⟩

def colonInKind : Table := Table.empty.insert ⟨"type:a:b", "b", "type:a", "2", 1, 0, 1⟩

theorem not_perm_updatesIn_colon :
    ¬ (updatesIn (colonInName.diff colonInKind)).Perm
      (updatesIn (colonInKind.diff colonInName)) := by
  decide +kernel

end Changeset.Engine
