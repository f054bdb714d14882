import Changeset.Proofs.Script.Program

/-!
# How a declaration begins

A declaration begins with one of a few words or with the sign of a decorator,
and so it reads something (`opens_declaration`). A statement that declares
something is therefore never empty (`length_lt_of_reads_topStatement`).
-/

namespace Changeset.Script

open Changeset.Script.Parser

-- ---------------------------------------------------------------------------
-- Tokens
-- ---------------------------------------------------------------------------

section
variable {s rest : List Char} {u : Unit}

theorem reads_keyword {w : String} :
    Reads (keyword w) s rest u ↔ ∃ mid, Reads gap s mid () ∧ Reads word mid rest w.toList := by
  simp only [keyword, token, wordOf, reads_bind, reads_check]
  constructor
  · rintro ⟨_, mid, hgap, cs, _, hword, hcs, rfl⟩
    exact ⟨mid, hgap, eq_of_beq hcs ▸ hword⟩
  · rintro ⟨mid, hgap, hword⟩
    exact ⟨(), mid, hgap, _, rest, hword, BEq.rfl, rfl⟩

theorem reads_punct {c : Char} (h : Reads (punct c) s rest u) : Reads gap s (c :: rest) () := by
  simp only [punct, token, reads_bind, reads_pure] at h
  obtain ⟨_, mid, hgap, _, _, hc, -, rfl⟩ := h
  exact reads_char hc ▸ hgap

end

theorem reads_word_space {c : Char} {cs : List Char} (hc : isWordStart c = true)
    (hcs : cs.all isWordPart = true) (s : List Char) :
    Reads word (c :: cs ++ ' ' :: s) (' ' :: s) (c :: cs) := by
  have hcs : ∀ d ∈ cs, isWordPart d = true := List.all_eq_true.mp hcs
  have hspace : ¬ isWordPart ' ' = true := by decide
  have hrun : Reads (takeWhile isWordPart) (cs ++ ' ' :: s) (' ' :: s) cs := by
    rw [reads_takeWhile_iff, List.takeWhile_append_of_pos hcs, List.dropWhile_append_of_pos hcs,
      List.takeWhile_cons_of_neg hspace, List.dropWhile_cons_of_neg hspace, List.append_nil]
    exact ⟨rfl, rfl⟩
  have hmore : Reads (many wordPiece) (' ' :: s) (' ' :: s) [] := by
    simp only [many, reads_bind, reads_pure]
    exact ⟨[], _, (reads_loop_of_eq_none rfl).mpr ⟨rfl, rfl⟩, rfl, rfl⟩
  simp only [word, reads_bind, reads_pure]
  refine ⟨c :: cs, _, reads_orElse_left ?_, [], _, hmore, by simp, rfl⟩
  simp only [reads_bind, reads_pure]
  exact ⟨c, _, reads_satisfy_cons hc, cs, _, hrun, rfl, rfl⟩

-- ---------------------------------------------------------------------------
-- Beginnings
-- ---------------------------------------------------------------------------

/-- A parser that never succeeds without reading something. -/
def Advances {α : Type} (p : Parser α) : Prop :=
  ∀ ⦃s rest a⦄, Reads p s rest a → rest.length < s.length

def openingWords : List String := [
  "async", "function", "abstract", "class", "var", "const", "let", "await", "using", "interface",
  "type", "enum", "namespace", "module", "import", "declare"]

/-- A text that begins with one of these words, or with a decorator. -/
inductive Opening : List Char → Prop
  | ofWord {s rest : List Char} {w : String} :
      w ∈ openingWords → Reads word s rest w.toList → Opening s
  | ofSign (rest : List Char) : Opening ('@' :: rest)

/-- A parser that reads such a beginning, and nothing else. -/
def Opens {α : Type} (p : Parser α) : Prop :=
  ∀ ⦃s rest a⦄, Reads p s rest a →
    ∃ mid, Reads gap s mid () ∧ Opening mid ∧ rest.length < mid.length

section
variable {α β : Type} {p q : Parser α}

theorem Advances.bind (h : Advances p) (f : α → Parser β) : Advances (p >>= f) := by
  intro s rest b hb
  obtain ⟨a, mid, ha, hb⟩ := reads_bind.mp hb
  exact Nat.lt_of_le_of_lt hb.suffix.length_le (h ha)

theorem Advances.behind (p : Parser α) {f : α → Parser β} (h : ∀ a, Advances (f a)) :
    Advances (p >>= f) := by
  intro s rest b hb
  obtain ⟨a, mid, ha, hb⟩ := reads_bind.mp hb
  exact Nat.lt_of_lt_of_le (h a hb) ha.suffix.length_le

theorem Opens.advances (h : Opens p) : Advances p := by
  intro s rest a ha
  obtain ⟨mid, hgap, -, hlt⟩ := h ha
  exact Nat.lt_of_lt_of_le hlt hgap.suffix.length_le

theorem Opens.bind (h : Opens p) (f : α → Parser β) : Opens (p >>= f) := by
  intro s rest b hb
  obtain ⟨a, mid, ha, hb⟩ := reads_bind.mp hb
  obtain ⟨start, hgap, hopening, hlt⟩ := h ha
  exact ⟨start, hgap, hopening, Nat.lt_of_le_of_lt hb.suffix.length_le hlt⟩

theorem Opens.orElse (hp : Opens p) (hq : Opens q) : Opens (p <|> q) := by
  intro s rest a h
  rcases reads_orElse h with h | h
  · exact hp h
  · exact hq h

theorem Opens.skip_bind (hp : Opens p) {f : Unit → Parser β} (hf : Opens (f ())) :
    Opens (skip p >>= f) := by
  intro s rest b hb
  simp only [reads_bind, reads_skip] at hb
  obtain ⟨_, mid, ⟨a, ha⟩ | ⟨-, rfl⟩, hb⟩ := hb
  · exact hp.bind (fun _ => f ()) (reads_bind.mpr ⟨a, mid, ha, hb⟩)
  · exact hf hb

theorem Opens.found_bind (hp : Opens p) {f : Bool → Parser β} (hf : ∀ b, Opens (f b)) :
    Opens (found p >>= f) := by
  intro s rest b hb
  simp only [reads_bind, reads_found] at hb
  obtain ⟨found, mid, ⟨⟨a, ha⟩, -⟩ | ⟨⟨-, rfl⟩, -⟩, hb⟩ := hb
  · exact hp.bind (fun _ => f found) (reads_bind.mpr ⟨a, mid, ha, hb⟩)
  · exact hf found hb

theorem Opens.skipMany_bind (hp : Opens p) {f : Unit → Parser β} (hf : Opens (f ())) :
    Opens (skipMany p >>= f) := by
  intro s rest b hb
  cases hps : p s with
  | none =>
    simp only [reads_bind, reads_skipMany_of_eq_none hps] at hb
    obtain ⟨_, _, rfl, hb⟩ := hb
    exact hf hb
  | some r =>
    -- Whatever is repeated, one of it was read.
    obtain ⟨_, mid, hmany, hb⟩ := reads_bind.mp hb
    have hone := reads_of_eq_some hps
    have hmany := (reads_skipMany_next hone (hp.advances hone)).mp hmany
    exact hp.bind (fun _ => skipMany p >>= f)
      (reads_bind.mpr ⟨_, _, hone, reads_bind.mpr ⟨_, mid, hmany, hb⟩⟩)

theorem Opens.check_bind (b : Bool) {f : Unit → Parser β} (hf : Opens (f ())) :
    Opens (check b >>= f) := by
  intro s rest a ha
  simp only [reads_bind, reads_check] at ha
  obtain ⟨_, _, ⟨-, rfl⟩, ha⟩ := ha
  exact hf ha

end

theorem Echoes.advances {p : Parser (List Char)} (h : Echoes p) : Advances p := by
  intro s rest cs hcs
  obtain ⟨rfl, hne⟩ := h hcs
  have := List.length_pos_iff.mpr hne
  rw [List.length_append]
  omega

theorem advances_keyword (w : String) : Advances (keyword w) :=
  .behind _ fun _ => echoes_word.advances.bind _

theorem opens_keyword {w : String} (h : w ∈ openingWords) : Opens (keyword w) := by
  intro s rest u hw
  obtain ⟨mid, hgap, hword⟩ := reads_keyword.mp hw
  exact ⟨mid, hgap, .ofWord h hword, echoes_word.advances hword⟩

-- ---------------------------------------------------------------------------
-- Declarations
-- ---------------------------------------------------------------------------

variable (e : Env)

theorem opens_opening {w : String} (h : w ∈ openingWords) : Opens (e.opening w) :=
  (opens_keyword h).bind _

theorem opens_decorator : Opens e.decorator := by
  intro s rest u h
  obtain ⟨_, mid, hsign, hpath⟩ := reads_bind.mp h
  exact ⟨_, reads_punct hsign, .ofSign mid, Nat.lt_succ_of_le hpath.suffix.length_le⟩

theorem opens_functionDeclaration (ending : Ending) : Opens (e.functionDeclaration ending) :=
  .skip_bind ((opens_keyword (by decide)).bind _) ((opens_keyword (by decide)).bind _)

theorem opens_classDeclaration (ending : Ending) : Opens (e.classDeclaration ending) :=
  .skipMany_bind (opens_decorator e)
    (.found_bind (.check_bind _ (opens_keyword (by decide)))
      fun _ => (opens_keyword (by decide)).bind _)

theorem opens_variableKind : Opens e.variableKind := by
  refine .orElse ?_ (.orElse ?_ ?_)
  · exact (opens_keyword (by decide)).bind _
  · exact (opens_keyword (by decide)).bind _
  · exact (opens_opening e (by decide)).bind _

theorem opens_usingStatement : Opens e.usingStatement :=
  .check_bind _ (.skip_bind (opens_keyword (by decide)) ((opens_keyword (by decide)).bind _))

theorem opens_spaceDeclaration : Opens e.spaceDeclaration := by
  refine .orElse ?_ ?_
  · exact (opens_opening e (by decide)).bind _
  · exact (opens_opening e (by decide)).bind _

theorem opens_typedDeclaration : Opens e.typedDeclaration := by
  refine .orElse ?_ (.orElse ?_ (.orElse ?_ (.orElse ?_ ?_)))
  · exact ((opens_keyword (by decide)).bind _).bind _
  · exact ((opens_opening e (by decide)).bind _).bind _
  · exact (Opens.skip_bind (opens_keyword (by decide)) ((opens_keyword (by decide)).bind _)).bind _
  · exact (opens_spaceDeclaration e).bind _
  · exact ((opens_keyword (by decide)).bind _).bind _

theorem opens_plainDeclaration (ending : Ending) : Opens (e.plainDeclaration ending) := by
  refine .orElse (opens_functionDeclaration e ending) (.orElse ?_ (.orElse ?_ (.orElse ?_ ?_)))
  · exact (opens_classDeclaration e ending).bind _
  · exact ((opens_variableKind e).bind _).bind _
  · exact (opens_usingStatement e).bind _
  · exact .check_bind _ (opens_typedDeclaration e)

theorem opens_ambientDeclaration : Opens e.ambientDeclaration :=
  .check_bind _ ((opens_opening e (by decide)).bind _)

theorem opens_declaration (ending : Ending) : Opens (e.declaration ending) :=
  (opens_plainDeclaration e ending).orElse ((opens_ambientDeclaration e).bind _)

theorem opens_topDeclaration (g : Grammar) (ending : Ending) : Opens (topDeclaration g ending) := by
  intro s rest o h
  obtain ⟨d, hd, -⟩ := reads_placed.mp h
  exact opens_declaration _ ending (reads_withRules.mp hd)

theorem advances_exportMark : Advances e.exportMark :=
  .behind _ fun _ => ((advances_keyword "export").bind _).bind _

theorem length_lt_of_reads_topStatement {g : Grammar} {s rest : List Char} {p : Placed}
    (h : Reads (topStatement g) s rest (some p)) : rest.length < s.length := by
  obtain ⟨ending, s', hs', hdeclared⟩ := exists_topDeclaration_of_topStatement h
  exact Nat.lt_of_lt_of_le ((opens_topDeclaration g ending).advances hdeclared) hs'.length_le

end Changeset.Script
