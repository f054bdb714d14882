import Changeset.Proofs.Symbol.Table
import Changeset.Proofs.Source.Declarations

/-!
# The table of a source

The notes that are taken while a table is made do not decide what it holds, so
the table of a source is the plain one of its symbols (`value_table`). Each of
them has a key from which its kind and its name can be told
(`isKeyed_of_mem_declarations`). A name that is declared again keeps its place
and stands for its last declaration (`tableIn_keepsLast`).
-/

namespace Changeset.Source

open Script (Placed Slice)

-- ---------------------------------------------------------------------------
-- Making a table
-- ---------------------------------------------------------------------------

theorem value_insertNoted (t : Noted Table) (s : Symbol) :
    (insertNoted t s).value = t.value.insert s := by
  simp only [insertNoted, Noted.value_bind]
  split <;> rfl

theorem value_tableOf (ss : List Symbol) : (tableOf ss).value = Table.ofList ss := by
  suffices h : ∀ t : Noted Table,
      (ss.foldl insertNoted t).value = ss.foldl Table.insert t.value from h (pure Table.empty)
  induction ss with
  | nil =>
    intro t
    rfl
  | cons s ss ih =>
    intro t
    rw [List.foldl_cons, ih, value_insertNoted, List.foldl_cons]

section
variable {g : Grammar} {tag : String} {file : Option String} {source : Text} {ss : List Symbol}

theorem value_table (h : declarations g tag file source = .ok ss) :
    (table g tag file source).value = .ok (Table.ofList ss) := by
  rw [table, h]
  exact congrArg Except.ok (value_tableOf ss)

-- ---------------------------------------------------------------------------
-- The symbols that go into it
-- ---------------------------------------------------------------------------

theorem isKeyed_symbol (source : List Char) (p : Placed) (name : Slice) :
    (symbolAt source p name).IsKeyed where
  key := rfl
  kind := by
    cases h : p.declaration.kind <;> simp [symbolAt, h, Script.DeclarationKind.label]

theorem isKeyed_of_mem_declarations (h : declarations g tag file source = .ok ss) :
    ∀ s ∈ ss, s.IsKeyed := by
  obtain ⟨cs, ps, rest, -, -, rfl⟩ := declarations_ok_iff.mp h
  intro s hs
  obtain ⟨p, -, hs⟩ := List.mem_flatMap.mp hs
  obtain ⟨name, -, rfl⟩ := List.mem_map.mp hs
  exact isKeyed_symbol cs p name

-- ---------------------------------------------------------------------------
-- Tables by the name of the language
-- ---------------------------------------------------------------------------

variable {language : String}

theorem tableIn_ok (h : declarationsIn language file source = .ok ss) :
    tableIn language file source = .ok (Table.ofList ss) := by
  rw [tableIn, h]
  exact congrArg Except.ok (value_tableOf ss)

theorem tableIn_error_iff {f : Fault} :
    tableIn language file source = .error f ↔ declarationsIn language file source = .error f := by
  rw [tableIn, map_error]

end

/-- A source has a table unless its declarations cannot be read, which is then the fault of both. The
table keeps the last declaration of each key where the key is first declared. -/
theorem tableIn_keepsLast (language : String) (file : Option String) (source : Text) :
    (∀ f, tableIn language file source = .error f ↔
      declarationsIn language file source = .error f) ∧
    ∀ ss, declarationsIn language file source = .ok ss →
      ∃ t, tableIn language file source = .ok t ∧ t.KeepsLast ss :=
  ⟨fun _ => tableIn_error_iff, fun ss h => ⟨Table.ofList ss, tableIn_ok h, Table.keepsLast_ofList ss⟩⟩

def redeclared : Text := Text.ofString "var a = 1, b;\nlet c;\nvar b, a"

def redeclaredSymbols : List Symbol := [
  ⟨"var:a", "a", "var", "var a = 1, b;", 1, 0, 1⟩, ⟨"var:b", "b", "var", "var a = 1, b;", 1, 0, 1⟩,
  ⟨"let:c", "c", "let", "let c;", 2, 0, 2⟩,
  ⟨"var:b", "b", "var", "var b, a", 3, 0, 3⟩, ⟨"var:a", "a", "var", "var b, a", 3, 0, 3⟩]

theorem tableIn_keepsLast_redeclared :
    declarationsIn "mjs" none redeclared = .ok redeclaredSymbols ∧
    ∃ t, tableIn "mjs" none redeclared = .ok t ∧ t.KeepsLast redeclaredSymbols := by
  have h : declarationsIn "mjs" none redeclared = .ok redeclaredSymbols := by decide +kernel
  exact ⟨h, (tableIn_keepsLast "mjs" none redeclared).2 _ h⟩

end Changeset.Source
