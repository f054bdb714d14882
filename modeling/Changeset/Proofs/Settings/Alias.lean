import Changeset.Proofs.Outcome
import Changeset.Settings.Basic
import Mathlib.Data.List.Basic

/-!
# The aliases of accepted settings

A request is accepted only if it names a strategy and, in upper case, a level
(`readStrategy_ok_iff`, `readLevel_ok_iff`) and all its aliases have targets with
a grammar. Then its entries are put under their tags one by one
(`readAliases_ok_iff`). So a tag stands for the target of the last entry that
gives it, in lower case (`lookup_aliases`), and this target has a grammar
(`grammarOf_target`).
-/

namespace Changeset

-- ---------------------------------------------------------------------------
-- Tags with a grammar
-- ---------------------------------------------------------------------------

namespace Language

theorem lower_of_mem_grammars : ∀ e ∈ grammars, Letter.lower e.1 = e.1 := by decide +kernel

theorem lower_of_grammarOf {tag : String} {g : Grammar} (h : grammarOf tag = some g) :
    Letter.lower tag = tag := by
  obtain ⟨pre, post, hgrammars, -⟩ := List.lookup_eq_some_iff.mp h
  exact lower_of_mem_grammars (tag, g) (by simp [hgrammars])

theorem grammar?_of_grammarOf {tag : String} {g : Grammar} (h : grammarOf tag = some g) :
    grammar? tag = some g := by
  rw [grammar?, lower_of_grammarOf h, h]

end Language

-- ---------------------------------------------------------------------------
-- Strategies and levels by name
-- ---------------------------------------------------------------------------

theorem Strategy.ofName?_eq_some_iff {s : String} {strategy : Strategy} :
    ofName? s = some strategy ↔ strategy.name = s := by
  constructor
  · intro h
    simpa using List.find?_some h
  · rintro rfl
    cases strategy <;> rfl

theorem Level.ofName?_eq_some_iff {s : String} {level : Level} :
    ofName? s = some level ↔ level.name = s := by
  constructor
  · intro h
    simpa using List.find?_some h
  · rintro rfl
    cases level <;> rfl

namespace Settings

-- ---------------------------------------------------------------------------
-- Entries put under their tags
-- ---------------------------------------------------------------------------

theorem lookup_cons_eq_ite (key value tag : String) (es : List (String × String)) :
    ((key, value) :: es).lookup tag = if tag = key then some value else es.lookup tag := by
  rw [List.lookup_cons]
  split
  · rename_i h
    rw [if_pos (beq_iff_eq.mp h)]
  · rename_i h
    rw [if_neg (beq_eq_false_iff_ne.mp h)]

theorem lookup_put (key value tag : String) (es : List (String × String)) :
    (put key value es).lookup tag = if tag = key then some value else es.lookup tag := by
  induction es with
  | nil => exact lookup_cons_eq_ite key value tag []
  | cons e es ih =>
    obtain ⟨k, v⟩ := e
    by_cases hk : k = key
    · subst hk
      rw [put, if_pos rfl, lookup_cons_eq_ite, lookup_cons_eq_ite]
      split <;> rfl
    · rw [put, if_neg hk, lookup_cons_eq_ite, lookup_cons_eq_ite, ih]
      -- No tag is both keys, so it does not matter which of them is looked at first.
      by_cases ht : tag = k
      · have hne : tag ≠ key := ht ▸ hk
        rw [if_pos ht, if_neg hne, if_pos ht]
      · rw [if_neg ht, if_neg ht]

def tagOf (entry : Value × Value) : String := Letter.lower entry.1.asText

def targetOf (entry : Value × Value) : String := Letter.lower entry.2.asText

def putEntry (known : List (String × String)) (entry : Value × Value) :
    Except Fault (List (String × String)) :=
  if (Language.grammarOf (targetOf entry)).isSome then
    .ok (put (tagOf entry) (targetOf entry) known)
  else .error (.unsupportedAlias entry.1 entry.2)

def putAll (known : List (String × String)) (entries : List (Value × Value)) :
    List (String × String) :=
  entries.foldl (fun known e => put (tagOf e) (targetOf e) known) known

theorem putEntry_ok {known aliases : List (String × String)} {entry : Value × Value} :
    putEntry known entry = .ok aliases ↔
      (Language.grammarOf (targetOf entry)).isSome ∧
        put (tagOf entry) (targetOf entry) known = aliases := by
  rw [putEntry]
  split <;> simp [*]

theorem foldlM_putEntry_ok {known aliases : List (String × String)}
    {entries : List (Value × Value)} :
    entries.foldlM putEntry known = .ok aliases ↔
      (∀ e ∈ entries, (Language.grammarOf (targetOf e)).isSome) ∧
        putAll known entries = aliases := by
  induction entries generalizing known with
  | nil => simp [putAll, pure, Except.pure]
  | cons e es ih =>
    simp only [List.foldlM_cons, bind_ok, putEntry_ok, ih, List.forall_mem_cons]
    constructor
    · rintro ⟨-, ⟨he, rfl⟩, hes, h⟩
      exact ⟨⟨he, hes⟩, h⟩
    · rintro ⟨⟨he, hes⟩, h⟩
      exact ⟨_, ⟨he, rfl⟩, hes, h⟩

theorem readAliases_ok_iff {entries : List (Value × Value)} {aliases : List (String × String)} :
    readAliases entries = .ok aliases ↔
      (∀ e ∈ entries, (Language.grammarOf (targetOf e)).isSome) ∧ putAll [] entries = aliases :=
  foldlM_putEntry_ok

/-- The last entry of a tag is the one that counts. -/
theorem lookup_putAll (known : List (String × String)) (entries : List (Value × Value))
    (tag : String) :
    (putAll known entries).lookup tag =
      ((entries.reverse.find? (tagOf · = tag)).map targetOf).or (known.lookup tag) := by
  induction entries generalizing known with
  | nil => simp [putAll]
  | cons e es ih =>
    rw [putAll, List.foldl_cons, ← putAll, ih, lookup_put, List.reverse_cons, List.find?_append,
      Option.map_or, Option.or_assoc]
    congr 1
    by_cases h : tagOf e = tag
    · simp [h]
    · simp [h, Ne.symm h]

-- ---------------------------------------------------------------------------
-- Accepted requests
-- ---------------------------------------------------------------------------

theorem readStrategy_ok_iff {v : Value} {strategy : Strategy} :
    readStrategy v = .ok strategy ↔ v = .text strategy.name := by
  cases v with
  | text s =>
    rw [Value.text.injEq, eq_comm (a := s), ← Strategy.ofName?_eq_some_iff, readStrategy]
    cases Strategy.ofName? s <;> simp
  | _ => simp [readStrategy]

theorem readLevel_ok_iff {v : Value} {level : Level} :
    readLevel v = .ok level ↔ ∃ given, v = .text given ∧ level.name = Letter.upper given := by
  cases v with
  | text s =>
    simp only [readLevel, Value.text.injEq, exists_eq_left', ← Level.ofName?_eq_some_iff]
    cases Level.ofName? (Letter.upper s) <;> simp
  | _ => simp [readLevel]

/-- The target that a request gives to a tag, as it is written: the one of the last entry whose
alias is, in lower case, this tag. -/
def Request.target? (r : Request) (tag : String) : Option String :=
  ((r.aliases.getD []).reverse.find? (tagOf · = tag)).map fun e => e.2.asText

section
variable {r : Request} {settings : Settings}

theorem ofRequest_ok_iff :
    ofRequest r = .ok settings ↔ readStrategy r.strategy = .ok settings.strategy ∧
      (∃ entries, r.aliases = some entries ∧ readAliases entries = .ok settings.aliases) ∧
        readLevel r.level = .ok settings.level := by
  obtain ⟨strategy, aliases, level⟩ := r
  unfold ofRequest
  cases aliases with
  | none => simp [bind_ok]
  | some entries =>
    simp only [bind_ok]
    constructor
    · rintro ⟨_, hstrategy, _, hsame, _, haliases, _, hlevel, h⟩
      cases hsame
      cases h
      exact ⟨hstrategy, ⟨entries, rfl, haliases⟩, hlevel⟩
    · rintro ⟨hstrategy, ⟨_, hsame, haliases⟩, hlevel⟩
      cases hsame
      exact ⟨_, hstrategy, entries, rfl, _, haliases, _, hlevel, rfl⟩

theorem lookup_aliases (h : ofRequest r = .ok settings) (tag : String) :
    settings.aliases.lookup tag = (r.target? tag).map Letter.lower := by
  obtain ⟨-, ⟨entries, hentries, haliases⟩, -⟩ := ofRequest_ok_iff.mp h
  obtain ⟨-, hput⟩ := readAliases_ok_iff.mp haliases
  rw [← hput, lookup_putAll, Request.target?, hentries, List.lookup_nil, Option.or_none,
    Option.map_map]
  rfl

theorem grammarOf_target (h : ofRequest r = .ok settings) {tag target : String}
    (ht : r.target? tag = some target) :
    ∃ g, Language.grammarOf (Letter.lower target) = some g := by
  obtain ⟨-, ⟨entries, hentries, haliases⟩, -⟩ := ofRequest_ok_iff.mp h
  obtain ⟨hsupported, -⟩ := readAliases_ok_iff.mp haliases
  rw [Request.target?, hentries, Option.map_eq_some_iff] at ht
  obtain ⟨e, he, rfl⟩ := ht
  have hmem : e ∈ entries := List.mem_reverse.mp (List.mem_of_find?_eq_some he)
  exact Option.isSome_iff_exists.mp (hsupported e hmem)

end

end Settings

end Changeset
