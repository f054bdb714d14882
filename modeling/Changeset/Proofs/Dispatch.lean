import Changeset.Engine
import Changeset.Proofs.Settings.Alias
import Changeset.Proofs.Source.Errors

/-!
# Which languages are parsed

Settings give a tag to each language, and the language is parsed if this tag has
a grammar. Whoever looks the tag up again finds the same grammar, so a source of
such a language is never refused as one without parser (`compareByTag_cases`).
An alias is looked up once and stands for its target: a comparison under it is
the one that settings without aliases make under the target (`compare_alias`).
`compare_dispatch` puts this together for the settings of any accepted request.
-/

namespace Changeset

theorem Source.tableIn_eq {tag : String} {g : Grammar} (h : Language.grammar? tag = some g)
    (file : Option String) (source : Text) :
    tableIn tag file source = (table g tag file source).value.mapError .ofFailure := by
  simp only [tableIn, declarationsIn, h, table]
  cases declarations g tag file source <;> rfl

theorem Source.table_error {tag : String} {g : Grammar} {file : Option String} {source : Text}
    {f : Failure} (h : (table g tag file source).value = .error f) : ∃ e, f = .unreadable e := by
  rw [table] at h
  cases hdecls : declarations g tag file source with
  | error f' =>
    rw [hdecls] at h
    cases h
    exact declarations_error hdecls
  | ok ss =>
    rw [hdecls] at h
    cases h

namespace Engine

variable {settings : Settings} {language : String} {l : Parsable}

-- ---------------------------------------------------------------------------
-- Tags with a grammar
-- ---------------------------------------------------------------------------

theorem parsable?_eq_some_iff :
    parsable? settings language = some l ↔
      resolve settings language = l.tag ∧ Language.grammarOf l.tag = some l.grammar := by
  simp only [parsable?, Option.map_eq_some_iff]
  constructor
  · rintro ⟨g, hg, rfl⟩
    exact ⟨rfl, hg⟩
  · rintro ⟨htag, hg⟩
    exact ⟨l.grammar, htag ▸ hg, by rw [htag]⟩

theorem grammar?_tag (h : parsable? settings language = some l) :
    Language.grammar? l.tag = some l.grammar :=
  Language.grammar?_of_grammarOf (parsable?_eq_some_iff.mp h).2

/-- A comparison in which each source is read by the name of its language. -/
def compareByTag (settings : Settings) (language : String) (file : Option String)
    (before after : Text) : Except Source.Fault (List Change) :=
  match parsable? settings language with
  | none => .ok (LineDiff.changes before after)
  | some l => do
    let b ← Source.tableIn l.tag file before
    let a ← Source.tableIn l.tag file after
    return b.diff a

/-- Reading by name gives the changes that are reported or the error of the same source, and not the
fault of a language without parser. -/
theorem compareByTag_cases (settings : Settings) (language : String) (file : Option String)
    (before after : Text) :
    (∃ changes, compareByTag settings language file before after = .ok changes ∧
      (compare settings language file before after).value = .ok changes) ∨
    ∃ e, compareByTag settings language file before after = .error (.unreadable e) ∧
      (compare settings language file before after).value = .error (.source e) := by
  unfold compareByTag compare
  cases hl : parsable? settings language with
  | none => exact .inl ⟨_, rfl, rfl⟩
  | some l =>
    simp only [Source.tableIn_eq (grammar?_tag hl), Noted.map, tables, Noted.value_bind]
    cases hb : (Source.table l.grammar l.tag file before).value with
    | error f =>
      obtain ⟨e, rfl⟩ := Source.table_error hb
      exact .inr ⟨e, rfl, rfl⟩
    | ok b =>
      simp only [Noted.value_bind]
      cases ha : (Source.table l.grammar l.tag file after).value with
      | error f =>
        obtain ⟨e, rfl⟩ := Source.table_error ha
        exact .inr ⟨e, rfl, rfl⟩
      | ok a => exact .inl ⟨_, rfl, rfl⟩

-- ---------------------------------------------------------------------------
-- Aliases
-- ---------------------------------------------------------------------------

theorem resolve_of_aliases_nil {plain : Settings} (h : plain.aliases = []) (language : String) :
    resolve plain language = Letter.lower language := by
  rw [resolve, h]
  rfl

theorem compare_congr {other : Settings} {name : String}
    (h : parsable? settings language = some l) (h' : parsable? other name = some l)
    (file : Option String) (before after : Text) :
    compare settings language file before after = compare other name file before after := by
  simp only [compare, h, h']

section
variable {r : Settings.Request} {target : String}

theorem resolve_alias (h : Settings.ofRequest r = .ok settings)
    (ht : r.target? (Letter.lower language) = some target) :
    resolve settings language = Letter.lower target := by
  rw [resolve, Settings.lookup_aliases h, ht]
  rfl

theorem compare_alias (h : Settings.ofRequest r = .ok settings)
    (ht : r.target? (Letter.lower language) = some target) {plain : Settings}
    (hplain : plain.aliases = []) (file : Option String) (before after : Text) :
    compare settings language file before after = compare plain target file before after ∧
    compare settings language file before after =
      compare plain (Letter.lower target) file before after := by
  obtain ⟨g, hg⟩ := Settings.grammarOf_target h ht
  have halias : parsable? settings language = some ⟨Letter.lower target, g⟩ :=
    parsable?_eq_some_iff.mpr ⟨resolve_alias h ht, hg⟩
  have hwritten : parsable? plain target = some ⟨Letter.lower target, g⟩ :=
    parsable?_eq_some_iff.mpr ⟨resolve_of_aliases_nil hplain target, hg⟩
  have hkept : parsable? plain (Letter.lower target) = some ⟨Letter.lower target, g⟩ := by
    refine parsable?_eq_some_iff.mpr ⟨?_, hg⟩
    rw [resolve_of_aliases_nil hplain, Language.lower_of_grammarOf hg]
  exact ⟨compare_congr halias hwritten file before after,
    compare_congr halias hkept file before after⟩

theorem parsable?_eq_none (h : Settings.ofRequest r = .ok settings)
    (ht : r.target? (Letter.lower language) = none) (hg : Language.grammar? language = none) :
    parsable? settings language = none := by
  have hresolve : resolve settings language = Letter.lower language := by
    rw [resolve, Settings.lookup_aliases h, ht]
    rfl
  rw [parsable?, hresolve]
  exact Option.map_eq_none_iff.mpr hg

/-- Under the settings of an accepted request, a language is either compared line by line or has a
tag with a grammar, and a comparison ends in changes or in the error of a source that cannot be
read. A tag that is neither known nor an alias gives no error, and an alias is compared as its
target is without aliases. -/
theorem compare_dispatch (h : Settings.ofRequest r = .ok settings) (language : String)
    (file : Option String) (before after : Text) :
    (∀ l, parsable? settings language = some l → Language.grammar? l.tag = some l.grammar) ∧
    ((∃ changes, compareByTag settings language file before after = .ok changes ∧
      (compare settings language file before after).value = .ok changes) ∨
    ∃ e, compareByTag settings language file before after = .error (.unreadable e) ∧
      (compare settings language file before after).value = .error (.source e)) ∧
    (Language.grammar? language = none → r.target? (Letter.lower language) = none →
      (compare settings language file before after).value =
        .ok (LineDiff.changes before after)) ∧
    ∀ target, r.target? (Letter.lower language) = some target →
      ∀ plain : Settings, plain.aliases = [] →
        compare settings language file before after = compare plain target file before after ∧
        compare settings language file before after =
          compare plain (Letter.lower target) file before after := by
  refine ⟨fun l => grammar?_tag, compareByTag_cases settings language file before after, ?_, ?_⟩
  · intro hg ht
    simp only [compare, parsable?_eq_none h ht hg, Noted.value_bind, Noted.value_pure]
  · intro target ht plain hplain
    exact compare_alias h ht hplain file before after

/-- Two entries for one tag, in other cases, and an alias for a tag that has a grammar. -/
def shadowing : Settings.Request :=
  ⟨.text "hunk", some [(.text "ES6", .text "TS"), (.text "TS", .text "Jsx"),
    (.text "es6", .text "Js")], .text "info"⟩

def shadowingSettings : Settings := ⟨.hunk, [("es6", "js"), ("ts", "jsx")], .info⟩

theorem compare_dispatch_shadowing :
    Settings.ofRequest shadowing = .ok shadowingSettings ∧
    Language.grammar? "py" = none ∧ shadowing.target? (Letter.lower "py") = none ∧
    (compare shadowingSettings "py" none (Text.ofString "a\n") (Text.ofString "b\n")).value =
      .ok (LineDiff.changes (Text.ofString "a\n") (Text.ofString "b\n")) ∧
    shadowing.target? (Letter.lower "tS") = some "Jsx" ∧
    compare shadowingSettings "tS" none (Text.ofString "<p/>") (Text.ofString "type A = <") =
      compare .default "Jsx" none (Text.ofString "<p/>") (Text.ofString "type A = <") ∧
    shadowing.target? (Letter.lower "Es6") = some "Js" ∧
    compare shadowingSettings "Es6" (some "f") (Text.ofString "let a") (Text.ofString "let a, b") =
      compare .default "js" (some "f") (Text.ofString "let a") (Text.ofString "let a, b") := by
  have hlevel : Level.ofName? (Letter.upper "info") = some .info := by decide +kernel
  have h : Settings.ofRequest shadowing = .ok shadowingSettings := by
    refine Settings.ofRequest_ok_iff.mpr ⟨rfl, ⟨_, rfl, Settings.readAliases_ok_iff.mpr ?_⟩, ?_⟩
    · decide +kernel
    · simp only [shadowing, Settings.readLevel, hlevel, shadowingSettings]
  have hg : Language.grammar? "py" = none := by decide +kernel
  have hnone : shadowing.target? (Letter.lower "py") = none := by decide +kernel
  have hts : shadowing.target? (Letter.lower "tS") = some "Jsx" := by decide +kernel
  have hes : shadowing.target? (Letter.lower "Es6") = some "Js" := by decide +kernel
  have hjs : Letter.lower "Js" = "js" := by decide +kernel
  obtain ⟨-, -, hplain, -⟩ :=
    compare_dispatch h "py" none (Text.ofString "a\n") (Text.ofString "b\n")
  obtain ⟨-, -, -, hshadowed⟩ :=
    compare_dispatch h "tS" none (Text.ofString "<p/>") (Text.ofString "type A = <")
  obtain ⟨-, -, -, hlast⟩ :=
    compare_dispatch h "Es6" (some "f") (Text.ofString "let a") (Text.ofString "let a, b")
  have hkept := (hlast _ hes .default rfl).2
  rw [hjs] at hkept
  exact ⟨h, hg, hnone, hplain hg hnone, hts, (hshadowed _ hts .default rfl).1, hes, hkept⟩

end

end Engine

end Changeset
