import Changeset.Proofs.Dispatch
import Changeset.Proofs.Settings.Loading
import Changeset.Proofs.Symbol.Table
import Changeset.Proofs.Text.Letter

/-!
# Settings in normal form

An accepted request is read into a normal form: tags in lower case, each once and
where its first entry stands, and the level in upper case (`isNormalFormOf`).
Whoever asks for settings in normal form gets these settings
(`ofRequest_toRequest`), so a second reading changes nothing.
`ofRequest_idempotent` says this together with what a language is looked up as:
the target of the last entry for its tag.
-/

namespace Changeset.Settings

-- ---------------------------------------------------------------------------
-- Tags
-- ---------------------------------------------------------------------------

theorem tags_put (key value : String) (es : List (String × String)) :
    (put key value es).map Prod.fst =
      if key ∈ es.map Prod.fst then es.map Prod.fst else es.map Prod.fst ++ [key] := by
  induction es with
  | nil => rfl
  | cons e es ih =>
    by_cases he : e.1 = key
    · simp [put, he]
    · simp only [put, if_neg he, List.map_cons, ih, List.mem_cons, Ne.symm he, false_or]
      split <;> rfl

theorem put_of_not_mem {key value : String} {es : List (String × String)}
    (h : key ∉ es.map Prod.fst) : put key value es = es ++ [(key, value)] := by
  induction es with
  | nil => rfl
  | cons e es ih =>
    rw [List.map_cons, List.mem_cons, not_or] at h
    rw [put, if_neg (Ne.symm h.1), ih h.2, List.cons_append]

theorem tags_putAll (entries : List (Value × Value)) :
    (putAll [] entries).map Prod.fst = (entries.map tagOf).eraseDups := by
  induction entries using List.reverseRecOn with
  | nil => rfl
  | append_singleton entries e ih =>
    rw [putAll, List.foldl_append, List.foldl_cons, List.foldl_nil, ← putAll, tags_put, ih,
      List.map_append, List.map_singleton, eraseDups_concat]
    simp only [List.mem_eraseDups]

-- ---------------------------------------------------------------------------
-- The normal form
-- ---------------------------------------------------------------------------

structure IsNormalFormOf (s : Settings) (r : Request) : Prop where
  strategy : r.strategy = .text s.strategy.name
  tags : ∃ entries, r.aliases = some entries ∧
    s.aliases.map Prod.fst = (entries.map tagOf).eraseDups
  targets : ∀ tag, s.aliases.lookup tag = (r.target? tag).map Letter.lower
  level : ∃ given, r.level = .text given ∧ s.level.name = Letter.upper given

structure IsNormal (s : Settings) : Prop extends Accepted s where
  lower : ∀ e ∈ s.aliases, Letter.lower e.1 = e.1
  distinct : (s.aliases.map Prod.fst).Nodup

section
variable {r : Request} {settings : Settings}

theorem isNormalFormOf (h : ofRequest r = .ok settings) : settings.IsNormalFormOf r := by
  obtain ⟨hstrategy, ⟨entries, hentries, haliases⟩, hlevel⟩ := ofRequest_ok_iff.mp h
  obtain ⟨-, hput⟩ := readAliases_ok_iff.mp haliases
  refine ⟨readStrategy_ok_iff.mp hstrategy, ⟨entries, hentries, ?_⟩, lookup_aliases h,
    readLevel_ok_iff.mp hlevel⟩
  rw [← hput, tags_putAll]

theorem isNormal_of_ofRequest (h : ofRequest r = .ok settings) : settings.IsNormal := by
  obtain ⟨entries, -, htags⟩ := (isNormalFormOf h).tags
  refine ⟨accepted_of_ofRequest h, fun e he => ?_, ?_⟩
  · have hmem : e.1 ∈ settings.aliases.map Prod.fst := List.mem_map_of_mem he
    rw [htags, List.mem_eraseDups] at hmem
    obtain ⟨entry, -, htag⟩ := List.mem_map.mp hmem
    rw [← htag, tagOf, Letter.lower_lower]
  · rw [htags]
    exact nodup_eraseDups _

end

-- ---------------------------------------------------------------------------
-- Asking for settings in normal form
-- ---------------------------------------------------------------------------

def texts (e : String × String) : Value × Value := (.text e.1, .text e.2)

theorem putAll_texts {known es : List (String × String)}
    (hlower : ∀ e ∈ es, Letter.lower e.1 = e.1 ∧ Letter.lower e.2 = e.2)
    (hdistinct : ((known ++ es).map Prod.fst).Nodup) :
    putAll known (es.map texts) = known ++ es := by
  induction es generalizing known with
  | nil => exact (List.append_nil known).symm
  | cons e es ih =>
    obtain ⟨⟨htag, htarget⟩, hes⟩ := List.forall_mem_cons.mp hlower
    have hnew : e.1 ∉ known.map Prod.fst := by
      rw [List.map_append, List.map_cons, List.nodup_append] at hdistinct
      exact fun hmem => hdistinct.2.2 e.1 hmem e.1 List.mem_cons_self rfl
    have hput : put (tagOf (texts e)) (targetOf (texts e)) known = known ++ [e] := by
      simp only [tagOf, targetOf, texts, Value.asText, htag, htarget]
      exact put_of_not_mem hnew
    have hsame : known ++ e :: es = known ++ [e] ++ es := by simp
    rw [hsame] at hdistinct ⊢
    rw [List.map_cons, putAll, List.foldl_cons, ← putAll, hput, ih hes hdistinct]

theorem readAliases_texts {s : Settings} (h : s.IsNormal) :
    readAliases (s.aliases.map texts) = .ok s.aliases := by
  have hlower : ∀ e ∈ s.aliases, Letter.lower e.1 = e.1 ∧ Letter.lower e.2 = e.2 := by
    intro e he
    obtain ⟨g, hg⟩ := Option.isSome_iff_exists.mp (h.aliases e he)
    exact ⟨h.lower e he, Language.lower_of_grammarOf hg⟩
  refine readAliases_ok_iff.mpr ⟨?_, putAll_texts hlower h.distinct⟩
  rintro _ hmem
  obtain ⟨e, he, rfl⟩ := List.mem_map.mp hmem
  rw [targetOf, texts, Value.asText, (hlower e he).2]
  exact h.aliases e he

theorem ofRequest_toRequest {s : Settings} (h : s.IsNormal) : ofRequest s.toRequest = .ok s :=
  ofRequest_ok_iff.mpr ⟨readStrategy_ok_iff.mpr rfl, ⟨_, rfl, readAliases_texts h⟩,
    readLevel_ok_iff.mpr ⟨_, rfl, h.level.2.symm⟩⟩

/-- An accepted request is read into its normal form, and this into itself. A language with an alias
is parsed as the target, in lower case, of the last entry that gives its tag. -/
theorem ofRequest_idempotent {r : Request} {settings : Settings}
    (h : ofRequest r = .ok settings) :
    settings.IsNormalFormOf r ∧ ofRequest settings.toRequest = .ok settings ∧
    ∀ language target, r.target? (Letter.lower language) = some target →
      ∃ g, Engine.parsable? settings language = some ⟨Letter.lower target, g⟩ := by
  refine ⟨isNormalFormOf h, ofRequest_toRequest (isNormal_of_ofRequest h), ?_⟩
  intro language target htarget
  obtain ⟨g, hg⟩ := grammarOf_target h htarget
  exact ⟨g, Engine.parsable?_eq_some_iff.mpr ⟨Engine.resolve_alias h htarget, hg⟩⟩

/-- Two spellings of one tag, equal only since a sigma at the end of a word is a final one, around
a tag that lower case makes longer, and a level with a dotless i. -/
def colliding : Request :=
  ⟨.text "symbol", some [(.text "ΑΣ", .text "TS"), (.text "İX", .text "Js"),
    (.text "ας", .text "JSX")], .text "ınfo"⟩

def collidingSettings : Settings := ⟨.symbol, [("ας", "jsx"), ("i\u0307x", "js")], .info⟩

theorem ofRequest_idempotent_colliding :
    ofRequest colliding = .ok collidingSettings ∧
    ofRequest collidingSettings.toRequest = .ok collidingSettings ∧
    colliding.target? (Letter.lower "αΣ") = some "JSX" ∧
    ∃ g, Engine.parsable? collidingSettings "αΣ" = some ⟨"jsx", g⟩ := by
  have h : ofRequest colliding = .ok collidingSettings := by
    refine ofRequest_ok_iff.mpr ⟨rfl, ⟨_, rfl, readAliases_ok_iff.mpr ?_⟩,
      readLevel_ok_iff.mpr ⟨"ınfo", rfl, ?_⟩⟩
    · decide +kernel
    · decide +kernel
  have htarget : colliding.target? (Letter.lower "αΣ") = some "JSX" := by decide +kernel
  have hlower : Letter.lower "JSX" = "jsx" := by decide +kernel
  obtain ⟨-, hagain, hlookup⟩ := ofRequest_idempotent h
  exact ⟨h, hagain, htarget, hlower ▸ hlookup "αΣ" "JSX" htarget⟩

end Changeset.Settings
