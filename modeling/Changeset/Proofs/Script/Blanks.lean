import Changeset.Proofs.Script.Opening

/-!
# White space before a program

A parser is given what is left of a text and nothing of what was read, so it
reads the same from two texts once it has read both up to the same place
(`ReadsSame`). White space is skipped before each token, hence a program is read
the same with and without white space in front of it: `readsSame_program`, and
`readsSame_program_append` for any white space that is put there.
-/

namespace Changeset.Script

open Changeset.Script.Parser

namespace Parser

variable {α β : Type} {p : Parser α} {s t mid rest : List Char} {a : α}

def ReadsSame (p : Parser α) (s t : List Char) : Prop :=
  ∀ rest a, Reads p s rest a ↔ Reads p t rest a

theorem ReadsSame.bind (h : ReadsSame p s t) (f : α → Parser β) : ReadsSame (p >>= f) s t := by
  intro rest b
  simp only [reads_bind, h _ _]

theorem ReadsSame.eq_none_iff (h : ReadsSame p s t) : p s = none ↔ p t = none := by
  simp only [eq_none_iff_not_reads, h _ _]

theorem ReadsSame.skip_bind (h : ReadsSame p s t) {k : Unit → Parser β}
    (hk : ReadsSame (k ()) s t) : ReadsSame (skip p >>= k) s t := by
  intro rest b
  simp only [reads_bind, reads_skip, h.eq_none_iff, h _ _]
  constructor
  · rintro ⟨_, mid, hmid | ⟨hnone, rfl⟩, hb⟩
    · exact ⟨(), mid, .inl hmid, hb⟩
    · exact ⟨(), t, .inr ⟨hnone, rfl⟩, (hk rest b).mp hb⟩
  · rintro ⟨_, mid, hmid | ⟨hnone, rfl⟩, hb⟩
    · exact ⟨(), mid, .inl hmid, hb⟩
    · exact ⟨(), s, .inr ⟨hnone, rfl⟩, (hk rest b).mpr hb⟩

def collect (p : Parser α) (items : List α) : Parser (Option (List α)) := do
  let a ← p
  pure (some (a :: items))

theorem reads_collect (h : Reads p s mid a) (items : List α) :
    Reads (collect p items) s mid (some (a :: items)) := by
  simp only [collect, reads_bind, reads_pure]
  exact ⟨a, mid, h, rfl, rfl⟩

theorem collect_eq_none (h : p s = none) (items : List α) : collect p items s = none := by
  rw [eq_none_iff_not_reads] at h ⊢
  intro rest r hr
  obtain ⟨a, rest', ha, -⟩ := reads_bind.mp hr
  exact h rest' a ha

theorem reads_many_bind {k : List α → Parser β} {b : β} :
    Reads (many p >>= k) s rest b ↔
      ∃ mid items, Reads (loop (collect p) []) s mid items ∧
        Reads (k items.reverse) mid rest b := by
  simp only [many, reads_bind, reads_pure]
  constructor
  · rintro ⟨_, _, ⟨items, mid, hloop, rfl, rfl⟩, hb⟩
    exact ⟨_, items, hloop, hb⟩
  · rintro ⟨mid, items, hloop, hb⟩
    exact ⟨_, mid, ⟨items, mid, hloop, rfl, rfl⟩, hb⟩

/-- The first round begins in either text and the others behind it. A round that reads nothing may be
one more from the longer text, but it gives no value. -/
theorem ReadsSame.many_bind {p : Parser (Option α)} (h : ReadsSame p s t) (hts : t <:+ s)
    (hp : ∀ rest a, Reads p t rest (some a) → rest.length < t.length) {k : List α → Parser β}
    (hk : ∀ as, ReadsSame (k as) s t) :
    ReadsSame (many p >>= fun items => k (items.filterMap id)) s t := by
  intro rest b
  by_cases hst : t = s
  · rw [hst]
  have hlt : t.length < s.length := by
    refine Nat.lt_of_le_of_ne hts.length_le fun hlen => hst ?_
    exact hts.eq_of_length hlen
  rw [reads_many_bind, reads_many_bind]
  cases hpt : p t with
  | none =>
    have hps := h.eq_none_iff.mpr hpt
    simp only [reads_loop_of_eq_none (collect_eq_none hps _),
      reads_loop_of_eq_none (collect_eq_none hpt _)]
    constructor
    · rintro ⟨_, _, ⟨rfl, rfl⟩, hb⟩
      exact ⟨t, [], ⟨rfl, rfl⟩, (hk _ rest b).mp hb⟩
    · rintro ⟨_, _, ⟨rfl, rfl⟩, hb⟩
      exact ⟨s, [], ⟨rfl, rfl⟩, (hk _ rest b).mpr hb⟩
  | some r =>
    obtain ⟨a, mid, hrt⟩ : ∃ a mid, Reads p t mid a := ⟨_, _, reads_of_eq_some hpt⟩
    have hrs := (h _ _).mpr hrt
    have hmid : mid.length < s.length := Nat.lt_of_le_of_lt hrt.suffix.length_le hlt
    simp only [reads_loop_next (reads_collect hrs []) hmid]
    by_cases hread : mid.length < t.length
    · simp only [reads_loop_next (reads_collect hrt []) hread]
    · -- A round that reads nothing ends the loop from `t`; the loop from `s` has one round more.
      have hmt : mid = t := hrt.suffix.eq_of_length_le (Nat.not_lt.mp hread)
      subst hmt
      cases a with
      | some a => exact absurd (hp mid a hrt) (Nat.lt_irrefl _)
      | none =>
        simp only [reads_loop_stuck (reads_collect hrt _)]
        constructor
        · rintro ⟨_, _, ⟨rfl, rfl⟩, hb⟩
          exact ⟨_, _, ⟨rfl, rfl⟩, hb⟩
        · rintro ⟨_, _, ⟨rfl, rfl⟩, hb⟩
          exact ⟨_, _, ⟨rfl, rfl⟩, hb⟩

end Parser

theorem reads_blank1 {c : Char} (h : isBlank c = true) (s : List Char) :
    Reads blank1 (c :: s) (s.dropWhile isBlank) () := by
  simp only [blank1, blanks, reads_bind, reads_pure]
  exact ⟨c, s, reads_satisfy_cons h, _, _, ⟨Parser.dropWhile_suffix _ _, rfl⟩, trivial, rfl⟩

theorem readsSame_gap (s : List Char) : ReadsSame gap s (s.dropWhile isBlank) := by
  intro rest u
  cases s with
  | nil => rfl
  | cons c s =>
    by_cases h : isBlank c = true
    · rw [List.dropWhile_cons_of_pos h]
      refine reads_skipMany_next (reads_orElse_left (reads_blank1 h s)) ?_
      exact Nat.lt_succ_of_le (Parser.dropWhile_suffix isBlank s).length_le
    · rw [List.dropWhile_cons_of_neg h]

theorem readsSame_statements (g : Grammar) {s t : List Char} (hgap : ReadsSame gap s t)
    (hts : t <:+ s) : ReadsSame (statements g) s t := by
  refine ReadsSame.many_bind (k := fun ps => do
    gap
    let s ← ahead
    check s.isEmpty
    pure ps) (hgap.bind _) hts ?_ fun ps => hgap.bind _
  intro _ _ h
  exact length_lt_of_reads_topStatement h

theorem readsSame_program (g : Grammar) (s : List Char) :
    ReadsSame (program g) s (s.dropWhile isBlank) := by
  have hgap := readsSame_gap s
  exact ReadsSame.skip_bind (hgap.bind _)
    (readsSame_statements g hgap (Parser.dropWhile_suffix isBlank s))

theorem readsSame_program_append (g : Grammar) {bs : List Char}
    (h : ∀ c ∈ bs, isBlank c = true) (s : List Char) : ReadsSame (program g) (bs ++ s) s := by
  intro rest ps
  rw [readsSame_program g (bs ++ s), readsSame_program g s, List.dropWhile_append_of_pos h]

end Changeset.Script
