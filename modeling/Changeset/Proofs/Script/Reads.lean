import Changeset.Script.Lexeme

/-!
# What a parser reads

`Reads p s rest a` says that `p` reads `s` up to `rest` and gives `a`. Each
combinator has a lemma that takes such a fact apart, so what a rule of the
grammar reads is known from what its parts read. A loop goes on from where its
first round ends (`reads_loop_next`), so it is a row of rounds (`Rounds`), and
repetition is a row of what is repeated (`Row`).
-/

namespace Changeset.Script.Parser

variable {α β σ : Type} {p q : Parser α} {s mid rest : List Char} {a : α}

def Reads (p : Parser α) (s rest : List Char) (a : α) : Prop := ∃ h, p s = some ⟨a, rest, h⟩

theorem Reads.suffix (h : Reads p s rest a) : rest <:+ s := h.1

theorem reads_of_eq_some {r : Parsed s α} (h : p s = some r) : Reads p s r.rest r.value :=
  ⟨r.suffix, h⟩

theorem Reads.unique {rest' : List Char} {a' : α} (h : Reads p s rest a)
    (h' : Reads p s rest' a') : rest = rest' ∧ a = a' := by
  obtain ⟨hs, h⟩ := h
  obtain ⟨hs', h'⟩ := h'
  cases h.symm.trans h'
  exact ⟨rfl, rfl⟩

theorem eq_none_iff_not_reads : p s = none ↔ ∀ rest a, ¬ Reads p s rest a := by
  constructor
  · rintro h rest a ⟨hs, ha⟩
    rw [h] at ha
    cases ha
  · intro h
    cases hp : p s with
    | none => rfl
    | some r => exact absurd (reads_of_eq_some hp) (h r.rest r.value)

-- ---------------------------------------------------------------------------
-- Sequences and choices
-- ---------------------------------------------------------------------------

theorem reads_pure {b : α} : Reads (pure a) s rest b ↔ b = a ∧ rest = s := by
  constructor
  · rintro ⟨hs, h⟩
    cases h
    exact ⟨rfl, rfl⟩
  · rintro ⟨rfl, rfl⟩
    exact ⟨List.suffix_rfl, rfl⟩

theorem reads_bind {f : α → Parser β} {b : β} :
    Reads (p >>= f) s rest b ↔ ∃ a mid, Reads p s mid a ∧ Reads (f a) mid rest b := by
  have hbind : (p >>= f) s = Parser.bind p f s := rfl
  constructor
  · rintro ⟨hs, h⟩
    rw [hbind, Parser.bind] at h
    split at h
    · cases h
    · rename_i r hr
      split at h
      · cases h
      · rename_i t ht
        cases h
        exact ⟨r.value, r.rest, reads_of_eq_some hr, reads_of_eq_some ht⟩
  · rintro ⟨a, mid, ⟨hs, h⟩, hs', h'⟩
    refine ⟨hs'.trans hs, ?_⟩
    rw [hbind, Parser.bind, h]
    simp only [h']

theorem reads_orElse_iff :
    Reads (p <|> q) s rest a ↔ Reads p s rest a ∨ p s = none ∧ Reads q s rest a := by
  have horElse : (p <|> q) s = Parser.orElse p (fun _ => q) s := rfl
  simp only [Reads, horElse, Parser.orElse]
  cases p s <;> simp

theorem reads_orElse (h : Reads (p <|> q) s rest a) : Reads p s rest a ∨ Reads q s rest a :=
  (reads_orElse_iff.mp h).imp_right And.right

theorem reads_orElse_left (h : Reads p s rest a) : Reads (p <|> q) s rest a :=
  reads_orElse_iff.mpr (.inl h)

theorem reads_orElse_right (hp : p s = none) (h : Reads q s rest a) : Reads (p <|> q) s rest a :=
  reads_orElse_iff.mpr (.inr ⟨hp, h⟩)

theorem reads_option {o : Option α} :
    Reads (option p) s rest o ↔
      (∃ a, Reads p s rest a ∧ o = some a) ∨ p s = none ∧ o = none ∧ rest = s := by
  constructor
  · rintro ⟨hs, h⟩
    unfold option at h
    split at h
    · rename_i r hr
      cases h
      exact .inl ⟨r.value, reads_of_eq_some hr, rfl⟩
    · rename_i hp
      cases h
      exact .inr ⟨hp, rfl, rfl⟩
  · rintro (⟨a, ⟨hs, h⟩, rfl⟩ | ⟨h, rfl, rfl⟩)
    · exact ⟨hs, by rw [option, h]⟩
    · exact ⟨List.suffix_rfl, by rw [option, h]⟩

theorem reads_skip {u : Unit} :
    Reads (skip p) s rest u ↔ (∃ a, Reads p s rest a) ∨ (p s = none ∧ rest = s) := by
  simp only [skip, reads_bind, reads_pure, reads_option]
  constructor
  · rintro ⟨o, mid, ⟨a, h, -⟩ | ⟨hp, -, rfl⟩, -, rfl⟩
    · exact .inl ⟨a, h⟩
    · exact .inr ⟨hp, rfl⟩
  · rintro (⟨a, h⟩ | ⟨hp, rfl⟩)
    · exact ⟨some a, rest, .inl ⟨a, h, rfl⟩, trivial, rfl⟩
    · exact ⟨none, rest, .inr ⟨hp, rfl, rfl⟩, trivial, rfl⟩

theorem reads_found {b : Bool} :
    Reads (found p) s rest b ↔
      (∃ a, Reads p s rest a) ∧ b = true ∨ (p s = none ∧ rest = s) ∧ b = false := by
  simp only [found, reads_bind, reads_pure, reads_option]
  constructor
  · rintro ⟨o, mid, ⟨a, h, rfl⟩ | ⟨hp, rfl, rfl⟩, rfl, rfl⟩
    · exact .inl ⟨⟨a, h⟩, rfl⟩
    · exact .inr ⟨⟨hp, rfl⟩, rfl⟩
  · rintro (⟨⟨a, h⟩, rfl⟩ | ⟨⟨hp, rfl⟩, rfl⟩)
    · exact ⟨some a, rest, .inl ⟨a, h, rfl⟩, rfl, rfl⟩
    · exact ⟨none, rest, .inr ⟨hp, rfl, rfl⟩, rfl, rfl⟩

theorem reads_check {b : Bool} {u : Unit} : Reads (check b) s rest u ↔ b = true ∧ rest = s := by
  cases b with
  | true => exact reads_pure.trans ⟨fun h => ⟨rfl, h.2⟩, fun h => ⟨rfl, h.2⟩⟩
  | false =>
    constructor
    · rintro ⟨hs, h⟩
      cases h
    · rintro ⟨h, -⟩
      cases h

theorem reads_slice {q : Parser (List Char)} {name : Slice} :
    Reads (slice q) s rest name ↔ name.ahead = s ∧ Reads q s rest name.text := by
  simp only [slice, reads_bind, reads_pure]
  constructor
  · rintro ⟨_, _, ⟨_, hahead⟩, text, mid, htext, rfl, rfl⟩
    cases hahead
    exact ⟨rfl, htext⟩
  · rintro ⟨rfl, htext⟩
    exact ⟨_, _, ⟨List.suffix_rfl, rfl⟩, _, _, htext, rfl, rfl⟩

-- ---------------------------------------------------------------------------
-- Characters
-- ---------------------------------------------------------------------------

theorem reads_satisfy {f : Char → Bool} {c : Char} (h : Reads (satisfy f) s rest c) :
    s = c :: rest ∧ f c = true := by
  obtain ⟨hs, h⟩ := h
  unfold satisfy at h
  split at h
  · cases h
  · split at h <;> cases h
    exact ⟨rfl, by assumption⟩

theorem reads_satisfy_cons {f : Char → Bool} {c : Char} (h : f c = true) :
    Reads (satisfy f) (c :: s) s c :=
  ⟨List.suffix_cons c s, by rw [satisfy, if_pos h]⟩

theorem reads_char {c d : Char} (h : Reads (char c) s rest d) : s = c :: rest := by
  obtain ⟨rfl, hd⟩ := reads_satisfy h
  rw [eq_of_beq hd]

theorem reads_takeWhile_iff {f : Char → Bool} {cs : List Char} :
    Reads (takeWhile f) s rest cs ↔ cs = s.takeWhile f ∧ rest = s.dropWhile f := by
  constructor
  · rintro ⟨hs, h⟩
    cases h
    exact ⟨rfl, rfl⟩
  · rintro ⟨rfl, rfl⟩
    exact ⟨dropWhile_suffix f s, rfl⟩

theorem reads_takeWhile {f : Char → Bool} {cs : List Char} (h : Reads (takeWhile f) s rest cs) :
    s = cs ++ rest := by
  obtain ⟨rfl, rfl⟩ := reads_takeWhile_iff.mp h
  exact List.takeWhile_append_dropWhile.symm

theorem mem_of_reads_takeWhile {f : Char → Bool} {cs : List Char}
    (h : Reads (takeWhile f) s rest cs) : ∀ c ∈ cs, f c = true := by
  obtain ⟨rfl, -⟩ := reads_takeWhile_iff.mp h
  exact List.all_eq_true.mp List.all_takeWhile

theorem reads_literal {cs : List Char} {u : Unit} (h : Reads (literal cs) s rest u) :
    s = cs ++ rest := by
  induction cs generalizing s with
  | nil => exact (reads_pure.mp h).2.symm
  | cons c cs ih =>
    obtain ⟨d, mid, hc, hcs⟩ := reads_bind.mp h
    rw [reads_char hc, ih hcs]
    rfl

-- ---------------------------------------------------------------------------
-- Loops
-- ---------------------------------------------------------------------------

section
variable {step : σ → Parser (Option σ)}

theorem reads_loop_iff {a b : σ} :
    Reads (loop step a) s rest b ↔
      (iterate step a s).rest = rest ∧ (iterate step a s).value = b := by
  constructor
  · rintro ⟨hs, h⟩
    rw [Option.some.inj h]
    exact ⟨rfl, rfl⟩
  · rintro ⟨rfl, rfl⟩
    exact ⟨(iterate step a s).suffix, rfl⟩

theorem reads_loop_of_eq_none {a b : σ} (h : step a s = none) :
    Reads (loop step a) s rest b ↔ rest = s ∧ b = a := by
  rw [reads_loop_iff, iterate, h]
  exact ⟨fun h => ⟨h.1.symm, h.2.symm⟩, fun h => ⟨h.1.symm, h.2.symm⟩⟩

theorem reads_loop_next {a b c : σ}
    (h : Reads (step a) s mid (some b)) (hlt : mid.length < s.length) :
    Reads (loop step a) s rest c ↔ Reads (loop step b) mid rest c := by
  obtain ⟨hs, h⟩ := h
  rw [reads_loop_iff, reads_loop_iff, iterate]
  simp [h, hlt]

theorem reads_loop_stuck {a b c : σ}
    (h : Reads (step a) s s (some b)) :
    Reads (loop step a) s rest c ↔ rest = s ∧ c = b := by
  obtain ⟨hs, h⟩ := h
  rw [reads_loop_iff, iterate]
  simp [h, eq_comm]

end

/-- A loop from `a` that ends with `b`, round by round. -/
inductive Rounds (step : σ → Parser (Option σ)) : List Char → List Char → σ → σ → Prop
  | done (s : List Char) (a : σ) : Rounds step s s a a
  | stop {s rest : List Char} {a : σ} : Reads (step a) s rest none → Rounds step s rest a a
  | next {s mid rest : List Char} {a b c : σ} :
      Reads (step a) s mid (some b) → Rounds step mid rest b c → Rounds step s rest a c

theorem rounds_iterate (step : σ → Parser (Option σ)) (a : σ) (s : List Char) :
    Rounds step s (iterate step a s).rest a (iterate step a s).value := by
  fun_induction iterate step a s with
  | case1 a s h => exact .done s a
  | case2 a s r h hnone => exact .stop (hnone ▸ reads_of_eq_some h)
  | case3 a s r h b hb hlt t ih => exact .next (hb ▸ reads_of_eq_some h) ih
  | case4 a s r h b hb hlt => exact .next (hb ▸ reads_of_eq_some h) (.done _ _)

theorem rounds_of_reads_loop {step : σ → Parser (Option σ)} {a b : σ}
    (h : Reads (loop step a) s rest b) : Rounds step s rest a b := by
  obtain ⟨hs, h⟩ := h
  have hrounds := rounds_iterate step a s
  rwa [Option.some.inj h] at hrounds

/-- Values of `p`, read one behind the other. -/
inductive Row (p : Parser α) : List Char → List Char → List α → Prop
  | nil (s : List Char) : Row p s s []
  | cons {s mid rest : List Char} {a : α} {as : List α} :
      Reads p s mid a → Row p mid rest as → Row p s rest (a :: as)

theorem row_of_rounds {start items : List α}
    (h : Rounds (fun items => do let a ← p; pure (some (a :: items))) s rest start items) :
    ∃ as, Row p s rest as ∧ items = as.reverse ++ start := by
  induction h with
  | done s start => exact ⟨[], .nil s, rfl⟩
  | stop h =>
    simp only [reads_bind, reads_pure] at h
    obtain ⟨a, mid, -, h, -⟩ := h
    cases h
  | next h _ ih =>
    simp only [reads_bind, reads_pure] at h
    obtain ⟨a, mid, ha, h, rfl⟩ := h
    cases h
    obtain ⟨as, has, rfl⟩ := ih
    exact ⟨a :: as, .cons ha has, by simp⟩

theorem row_of_reads_many {as : List α} (h : Reads (many p) s rest as) : Row p s rest as := by
  simp only [many, reads_bind, reads_pure] at h
  obtain ⟨items, mid, h, rfl, rfl⟩ := h
  obtain ⟨as, hrow, rfl⟩ := row_of_rounds (rounds_of_reads_loop h)
  simpa using hrow

theorem row_of_rounds_skip {u v : Unit}
    (h : Rounds (fun _ => do let _ ← p; pure (some ())) s rest u v) : ∃ as, Row p s rest as := by
  induction h with
  | done s u => exact ⟨[], .nil s⟩
  | stop h =>
    simp only [reads_bind, reads_pure] at h
    obtain ⟨_, _, _, h, -⟩ := h
    cases h
  | next h _ ih =>
    simp only [reads_bind, reads_pure] at h
    obtain ⟨a, mid, ha, -, rfl⟩ := h
    obtain ⟨as, has⟩ := ih
    exact ⟨a :: as, .cons ha has⟩

theorem row_of_reads_skipMany {u : Unit} (h : Reads (skipMany p) s rest u) :
    ∃ as, Row p s rest as := row_of_rounds_skip (rounds_of_reads_loop h)

theorem reads_skipMany_of_eq_none {u : Unit} (h : p s = none) :
    Reads (skipMany p) s rest u ↔ rest = s := by
  have hround : (do let _ ← p; pure (some ()) : Parser (Option Unit)) s = none := by
    rw [eq_none_iff_not_reads] at h ⊢
    intro rest a hr
    obtain ⟨a, mid, ha, -⟩ := reads_bind.mp hr
    exact h mid a ha
  exact (reads_loop_of_eq_none hround).trans (and_iff_left rfl)

theorem reads_skipMany_next {u : Unit} (h : Reads p s mid a) (hlt : mid.length < s.length) :
    Reads (skipMany p) s rest u ↔ Reads (skipMany p) mid rest u := by
  refine reads_loop_next ?_ hlt
  simp only [reads_bind, reads_pure]
  exact ⟨a, mid, h, trivial, rfl⟩

theorem Row.suffix {as : List α} (h : Row p s rest as) : rest <:+ s := by
  induction h with
  | nil s => exact List.suffix_rfl
  | cons ha _ ih => exact ih.trans ha.suffix

theorem Row.of_mem {as : List α} (h : Row p s rest as) (ha : a ∈ as) :
    ∃ t t', t <:+ s ∧ Reads p t t' a := by
  induction h with
  | nil => cases ha
  | @cons s mid _ b bs hb _ ih =>
    rcases List.mem_cons.mp ha with rfl | ha
    · exact ⟨s, mid, List.suffix_rfl, hb⟩
    · obtain ⟨t, t', ht, hread⟩ := ih ha
      exact ⟨t, t', ht.trans hb.suffix, hread⟩

theorem Row.comparable {rest' : List Char} {as bs : List α} (h : Row p s rest as)
    (h' : Row p s rest' bs) : (∃ cs, Row p rest rest' cs) ∨ ∃ cs, Row p rest' rest cs := by
  induction h generalizing bs with
  | nil s => exact .inl ⟨bs, h'⟩
  | cons ha has ih =>
    cases h' with
    | nil => exact .inr ⟨_, .cons ha has⟩
    | cons hb hbs =>
      obtain ⟨rfl, -⟩ := ha.unique hb
      exact ih hbs

end Changeset.Script.Parser
