import Changeset.Proofs.Script.Name
import Changeset.Script.Declaration

/-!
# What a declaration declares

`isIn_declaration`: the names of a declaration stand in the text that it is
read from, and only a statement that declares variables can have other than one
of them. There is one lemma for each rule that reports names; all other rules
matter only in so far as they read on.
-/

namespace Changeset.Script

open Changeset.Script.Parser

def DeclarationKind.IsVariable (k : DeclarationKind) : Prop := k = .const ∨ k = .let ∨ k = .var

/-- A declaration that is read from `s` up to `rest`. -/
structure Declaration.IsIn (d : Declaration) (s rest : List Char) : Prop where
  names : ∀ name ∈ d.names, IsNameIn name s rest
  single : d.kind.IsVariable ∨ ∃ name, d.names = [name]

theorem Declaration.isIn_single {kind : DeclarationKind} {name : Slice} {s rest : List Char}
    (h : IsNameIn name s rest) : Declaration.IsIn ⟨kind, [name]⟩ s rest :=
  ⟨List.forall_mem_singleton.mpr h, .inr ⟨name, rfl⟩⟩

variable (e : Env) {s rest : List Char}

-- ---------------------------------------------------------------------------
-- Variables
-- ---------------------------------------------------------------------------

theorem isVariable_of_reads_variableKind {k : DeclarationKind} (h : Reads e.variableKind s rest k) :
    k.IsVariable := by
  unfold Env.variableKind at h
  rcases reads_orElse h with h | h
  · simp only [reads_bind, reads_pure] at h
    obtain ⟨_, _, _, rfl, _⟩ := h
    exact .inr (.inr rfl)
  rcases reads_orElse h with h | h
  · simp only [reads_bind, reads_pure] at h
    obtain ⟨_, _, _, _, _, _, _, _, _, _, _, _, rfl, _⟩ := h
    exact .inl rfl
  · simp only [reads_bind, reads_pure] at h
    obtain ⟨_, _, _, rfl, _⟩ := h
    exact .inr (.inl rfl)

theorem isNameIn_of_reads_declarator {r : Option Slice × Ending}
    (h : Reads e.declarator s rest r) : ∀ name ∈ r.1, IsNameIn name s rest := by
  simp only [Env.declarator, reads_bind, reads_pure] at h
  obtain ⟨found, mid, hfound, ending, s', hending, rfl, rfl⟩ := h
  intro name hname
  rcases reads_orElse hfound with h | h
  · simp only [reads_bind, reads_pure] at h
    obtain ⟨_, _, _, rfl, _⟩ := h
    cases hname
  · simp only [reads_bind, reads_pure] at h
    obtain ⟨w, s₁, hw, rfl, rfl⟩ := h
    cases hname
    exact ((echoes_nameIf _).isNameIn_token hw).mono List.suffix_rfl hending.suffix

theorem isNameIn_of_rounds {all found : List (Option Slice) × Ending} {s₀ : List Char}
    (h : Rounds (fun (found : List (Option Slice) × Ending) => do
      e.goPunct (some found.2) ','
      let next ← e.declarator
      pure (some (next.1 :: found.1, next.2))) s rest found all)
    (hs : s <:+ s₀) (hfound : ∀ name, some name ∈ found.1 → IsNameIn name s₀ s) :
    ∀ name, some name ∈ all.1 → IsNameIn name s₀ rest := by
  -- The names that were found stand before what is left, so they stay where they are as it shrinks.
  induction h with
  | done s found => exact hfound
  | stop h => exact fun name hname => (hfound name hname).mono List.suffix_rfl h.suffix
  | next h _ ih =>
    simp only [reads_bind, reads_pure] at h
    obtain ⟨_, s₁, hcomma, r, s₂, hr, h, rfl⟩ := h
    cases h
    have hread := hr.suffix.trans hcomma.suffix
    refine ih (hread.trans hs) fun name hname => ?_
    rcases List.mem_cons.mp hname with hname | hname
    · exact (isNameIn_of_reads_declarator e hr name hname.symm).mono (hcomma.suffix.trans hs)
        List.suffix_rfl
    · exact (hfound name hname).mono List.suffix_rfl hread

theorem isNameIn_of_reads_variableNames {names : List Slice}
    (h : Reads e.variableNames s rest names) : ∀ name ∈ names, IsNameIn name s rest := by
  simp only [Env.variableNames, reads_bind, reads_pure] at h
  obtain ⟨first, s₁, hfirst, all, s₂, hall, _, s₃, hend, rfl, rfl⟩ := h
  intro name hname
  have hname : some name ∈ all.1 := by simpa using hname
  have hstart : ∀ name, some name ∈ [first.1] → IsNameIn name s s₁ := by
    intro name hname
    exact isNameIn_of_reads_declarator e hfirst name (List.mem_singleton.mp hname).symm
  have hrounds := isNameIn_of_rounds e (rounds_of_reads_loop hall) hfirst.suffix hstart
  exact (hrounds name hname).mono List.suffix_rfl hend.suffix

theorem isIn_variableStatement {d : Declaration} (h : Reads e.variableStatement s rest d) :
    d.IsIn s rest := by
  simp only [Env.variableStatement, reads_bind, reads_pure] at h
  obtain ⟨kind, s₁, hkind, names, s₂, hnames, rfl, rfl⟩ := h
  refine ⟨fun name hname => ?_, .inl (isVariable_of_reads_variableKind e hkind)⟩
  exact (isNameIn_of_reads_variableNames e hnames name hname).mono hkind.suffix List.suffix_rfl

-- ---------------------------------------------------------------------------
-- Functions, classes and types
-- ---------------------------------------------------------------------------

theorem isIn_functionDeclaration {ending : Ending} {d : Declaration}
    (h : Reads (e.functionDeclaration ending) s rest (some d)) : d.IsIn s rest := by
  simp only [Env.functionDeclaration, reads_bind] at h
  obtain ⟨_, s₁, hasync, _, s₂, hword, _, s₃, hstar, name, s₄, hname, _, s₅, hhead, h⟩ := h
  have hbefore := hstar.suffix.trans (hword.suffix.trans hasync.suffix)
  have hin := ((echoes_nameIf _).isNameIn_token hname).mono hbefore (h.suffix.trans hhead.suffix)
  rcases reads_orElse h with h | h
  · simp only [reads_bind, reads_pure] at h
    obtain ⟨_, _, _, _, _, _, _, _, _, h, _⟩ := h
    cases h
    exact Declaration.isIn_single hin
  · simp only [reads_bind, reads_pure] at h
    obtain ⟨_, _, _, _, _, _, h, _⟩ := h
    cases h

theorem isIn_classDeclaration {ending : Ending} {d : Declaration}
    (h : Reads (e.classDeclaration ending) s rest d) : d.IsIn s rest := by
  simp only [Env.classDeclaration, reads_bind] at h
  obtain ⟨_, s₁, hdecorators, _, s₂, habstract, _, s₃, hword, name, s₄, hname, _, s₅, htail, h⟩ := h
  have hbefore := hword.suffix.trans (habstract.suffix.trans hdecorators.suffix)
  have hin := ((echoes_nameIf _).isNameIn_token hname).mono hbefore (h.suffix.trans htail.suffix)
  have hd : d = ⟨.class, [name]⟩ := by
    split at h
    · exact (reads_pure.mp h).1
    · simp only [reads_bind, reads_pure] at h
      obtain ⟨_, _, _, _, _, _, rfl, _⟩ := h
      rfl
  rw [hd]
  exact Declaration.isIn_single hin

theorem isIn_interfaceDeclaration {d : Declaration} (h : Reads e.interfaceDeclaration s rest d) :
    d.IsIn s rest := by
  simp only [Env.interfaceDeclaration, reads_bind, reads_pure] at h
  obtain ⟨_, s₁, hword, name, s₂, hname, _, s₃, hparams, _, s₄, hextends, _, s₅, hbody,
    rfl, rfl⟩ := h
  exact Declaration.isIn_single ((echoes_word.isNameIn_token hname).mono hword.suffix
    (hbody.suffix.trans (hextends.suffix.trans hparams.suffix)))

theorem isIn_typeDeclaration {d : Declaration} (h : Reads e.typeDeclaration s rest d) :
    d.IsIn s rest := by
  simp only [Env.typeDeclaration, reads_bind, reads_pure] at h
  obtain ⟨_, s₁, hword, name, s₂, hname, _, s₃, hparams, _, s₄, hsign, _, s₅, htype, _, s₆, hend,
    rfl, rfl⟩ := h
  exact Declaration.isIn_single ((echoes_word.isNameIn hname).mono hword.suffix
    (hend.suffix.trans (htype.suffix.trans (hsign.suffix.trans hparams.suffix))))

-- ---------------------------------------------------------------------------
-- Any declaration
-- ---------------------------------------------------------------------------

theorem not_reads_unreported {p : Parser Unit} {d : Declaration} :
    ¬ Reads (Env.unreported p) s rest (some d) := by
  simp [Env.unreported, reads_bind, reads_pure]

theorem reads_reported {p : Parser Declaration} {d : Declaration}
    (h : Reads (Env.reported p) s rest (some d)) : Reads p s rest d := by
  simp only [Env.reported, reads_bind, reads_pure] at h
  obtain ⟨d', s', hd, h, rfl⟩ := h
  cases h
  exact hd

theorem isIn_typedDeclaration {d : Declaration} (h : Reads e.typedDeclaration s rest (some d)) :
    d.IsIn s rest := by
  unfold Env.typedDeclaration at h
  rcases reads_orElse h with h | h
  · exact isIn_interfaceDeclaration e (reads_reported h)
  rcases reads_orElse h with h | h
  · exact isIn_typeDeclaration e (reads_reported h)
  rcases reads_orElse h with h | h
  · exact absurd h not_reads_unreported
  rcases reads_orElse h with h | h
  · exact absurd h not_reads_unreported
  · exact absurd h not_reads_unreported

theorem isIn_plainDeclaration {ending : Ending} {d : Declaration}
    (h : Reads (e.plainDeclaration ending) s rest (some d)) : d.IsIn s rest := by
  unfold Env.plainDeclaration at h
  rcases reads_orElse h with h | h
  · exact isIn_functionDeclaration e h
  rcases reads_orElse h with h | h
  · exact isIn_classDeclaration e (reads_reported h)
  rcases reads_orElse h with h | h
  · exact isIn_variableStatement e (reads_reported h)
  rcases reads_orElse h with h | h
  · exact absurd h not_reads_unreported
  · simp only [reads_bind, reads_check] at h
    obtain ⟨_, _, ⟨-, rfl⟩, hdeclared⟩ := h
    exact isIn_typedDeclaration e hdeclared

theorem isIn_declaration {ending : Ending} {d : Declaration}
    (h : Reads (e.declaration ending) s rest (some d)) : d.IsIn s rest := by
  unfold Env.declaration at h
  rcases reads_orElse h with h | h
  · exact isIn_plainDeclaration e h
  · exact absurd h not_reads_unreported

end Changeset.Script
