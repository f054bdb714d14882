import Changeset.Proofs.Script.Comments

/-!
# One declaration under different endings

What could follow a declaration decides where the end of a function or a class
is implied. `endsAlike_declaration`: whatever that is, the same declaration is
read from a text, and two readings end at one place or have only comments
between their ends.
-/

namespace Changeset.Script

open Changeset.Script.Parser

-- ---------------------------------------------------------------------------
-- Rules that depend on what could follow
-- ---------------------------------------------------------------------------

/-- `p` reads the same for any ending, up to one place or, where the value allows it, up to places
with comments in between. -/
def EndsAlike {α : Type} (apart : α → Prop) (p : Ending → Parser α) : Prop :=
  ∀ ⦃ending ending' s rest a⦄, Reads (p ending) s rest a →
    ∃ rest', Reads (p ending') s rest' a ∧ (rest' = rest ∨ apart a ∧ CommentsApart rest rest')

section
variable {α β : Type} {apart : α → Prop} {p q : Ending → Parser α}

theorem EndsAlike.eq_none {ending ending' : Ending} {s : List Char} (h : EndsAlike apart p)
    (hnone : p ending s = none) : p ending' s = none := by
  rw [eq_none_iff_not_reads] at hnone ⊢
  intro rest a ha
  obtain ⟨rest', ha', -⟩ := h ha
  exact hnone rest' a ha'

theorem endsAlike_const (apart : α → Prop) (p : Parser α) : EndsAlike apart fun _ => p :=
  fun _ _ _ rest _ h => ⟨rest, h, .inl rfl⟩

theorem EndsAlike.behind (p : Parser β) {f : β → Ending → Parser α}
    (h : ∀ b, EndsAlike apart (f b)) : EndsAlike apart fun ending => p >>= fun b => f b ending := by
  intro ending ending' s rest a ha
  obtain ⟨b, mid, hb, ha⟩ := reads_bind.mp ha
  obtain ⟨rest', ha', hends⟩ := h b ha
  exact ⟨rest', reads_bind.mpr ⟨b, mid, hb, ha'⟩, hends⟩

/-- A choice falls on the same alternative, since one that fails does so for any ending. -/
theorem EndsAlike.orElse (hp : EndsAlike apart p) (hq : EndsAlike apart q) :
    EndsAlike apart fun ending => p ending <|> q ending := by
  intro ending ending' s rest a h
  rcases reads_orElse_iff.mp h with h | ⟨hnone, h⟩
  · obtain ⟨rest', h', hends⟩ := hp h
    exact ⟨rest', reads_orElse_left h', hends⟩
  · obtain ⟨rest', h', hends⟩ := hq h
    exact ⟨rest', reads_orElse_right (hp.eq_none hnone) h', hends⟩

theorem endsAlike_impliedEnd (g : Grammar) {a : α} (h : apart a) :
    EndsAlike apart fun ending => impliedEnd g ending >>= fun _ => pure a := by
  intro ending ending' s rest b hb
  simp only [reads_bind, reads_pure] at hb ⊢
  obtain ⟨_, mid, hend, rfl, rfl⟩ := hb
  obtain ⟨rest', hend'⟩ := exists_reads_impliedEnd g ending' s
  exact ⟨rest', ⟨(), rest', hend', rfl, rfl⟩, .inr ⟨h, commentsApart_of_reads hend hend'⟩⟩

end

-- ---------------------------------------------------------------------------
-- Declarations
-- ---------------------------------------------------------------------------

/-- Functions and classes: comments up to their implied end are read with them. -/
def DeclarationKind.TakesComments (k : DeclarationKind) : Prop := k = .function ∨ k = .class

variable (e : Env)

theorem endsAlike_functionDeclaration :
    EndsAlike (fun o => ∃ d ∈ o, d.kind.TakesComments) e.functionDeclaration := by
  refine .behind _ fun _ => .behind _ fun _ => .behind _ fun _ => .behind _ fun name =>
    .behind _ fun _ => .orElse (.behind _ fun _ => .behind _ fun _ => ?_) (endsAlike_const _ _)
  exact endsAlike_impliedEnd _ ⟨_, rfl, .inl rfl⟩

theorem endsAlike_classDeclaration :
    EndsAlike (fun d => d.kind.TakesComments) e.classDeclaration := by
  refine .behind _ fun _ => .behind _ fun abstracted => .behind _ fun _ => .behind _ fun name =>
    .behind _ fun _ => ?_
  cases abstracted with
  | true => exact endsAlike_const _ _
  | false => exact .behind _ fun _ => endsAlike_impliedEnd _ (.inr rfl)

theorem EndsAlike.reported {apart : Declaration → Prop} {p : Ending → Parser Declaration}
    (h : EndsAlike apart p) :
    EndsAlike (fun o => ∃ d ∈ o, apart d) fun ending => Env.reported (p ending) := by
  intro ending ending' s rest o ho
  simp only [Env.reported, reads_bind, reads_pure] at ho ⊢
  obtain ⟨d, mid, hd, rfl, rfl⟩ := ho
  obtain ⟨rest', hd', hends⟩ := h hd
  refine ⟨rest', ⟨d, rest', hd', rfl, rfl⟩, hends.imp_right ?_⟩
  rintro ⟨hapart, hcomments⟩
  exact ⟨⟨d, rfl, hapart⟩, hcomments⟩

theorem endsAlike_declaration :
    EndsAlike (fun o => ∃ d ∈ o, d.kind.TakesComments) e.declaration := by
  refine .orElse (.orElse (endsAlike_functionDeclaration e) ?_) (endsAlike_const _ _)
  exact .orElse (endsAlike_classDeclaration e).reported (endsAlike_const _ _)

end Changeset.Script
