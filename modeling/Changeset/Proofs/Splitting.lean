import Changeset.Engine
import Changeset.Proofs.Patch.Overlong

/-!
# What can be split

A split is meant to give fragments for any text, and the text itself where
there is nothing to split (`SplitsTo`). `splits_iff_not_meetsOverlong`: it does
so exactly if the reader does not meet a number of a hunk header that is too
long to read. Such a number is no breach of the format, so it is not taken for
one, and it escapes instead of leaving the text whole.
-/

namespace Changeset.Patch

-- ---------------------------------------------------------------------------
-- Splitting a text
-- ---------------------------------------------------------------------------

def HasHunks (patch : String) : Prop := ∃ d, Document.read patch = .ok d ∧ d.hunks ≠ []

/-- A split that ends well: in at least one fragment, and in the text itself if it has no hunks. -/
def SplitsTo {ε : Type} (patch : String) (result : Except ε (List String)) : Prop :=
  ∃ chunks, result = .ok chunks ∧ chunks ≠ [] ∧ (¬ HasHunks patch → chunks = [patch])

section
variable {ε δ : Type} {patch : String}

theorem splitsTo_whole : SplitsTo patch (.ok [patch] : Except ε (List String)) :=
  ⟨[patch], rfl, List.cons_ne_nil _ _, fun _ => rfl⟩

theorem not_splitsTo_error {e : ε} : ¬ SplitsTo patch (.error e) := by
  rintro ⟨chunks, h, -⟩
  cases h

theorem splitsTo_mapError {f : ε → δ} {result : Except ε (List String)} :
    SplitsTo patch (result.mapError f) ↔ SplitsTo patch result := by
  cases result with
  | error e => exact ⟨fun h => absurd h not_splitsTo_error, fun h => absurd h not_splitsTo_error⟩
  | ok chunks => simp [SplitsTo, Except.mapError]

/-- Whatever is cut from hunks, the text is split unless an overlong number stops the reader. -/
theorem splitsTo_splitWith {cut : Document → Noted (List String)}
    (hcut : ∀ d, d.hunks ≠ [] → (cut d).value ≠ []) :
    SplitsTo patch (splitWith cut patch).value ↔ ¬ MeetsOverlong patch := by
  rw [← read_numberTooLong_iff, value_splitWith]
  cases hr : Document.read patch with
  | ok d =>
    refine iff_of_true ?_ (by simp)
    by_cases hd : d.hunks = []
    · simpa [hd] using splitsTo_whole
    · refine ⟨(cut d).value, by simp [hd], hcut d hd, ?_⟩
      exact fun hnone => absurd ⟨d, hr, hd⟩ hnone
  | error f =>
    cases hf : f.isFormat with
    | true =>
      refine iff_of_true (by simpa [hf] using splitsTo_whole) ?_
      rintro ⟨n, hn⟩
      cases hn
      simp [Fault.isFormat] at hf
    | false =>
      obtain ⟨n, rfl⟩ := Fault.isFormat_eq_false_iff.mp hf
      refine iff_of_false ?_ (not_not.mpr ⟨n, rfl⟩)
      simpa [hf] using not_splitsTo_error

end

-- ---------------------------------------------------------------------------
-- Fragments of hunks
-- ---------------------------------------------------------------------------

theorem splitByHunk_ne_nil {d : Document} (hd : d.hunks ≠ []) : splitByHunk d ≠ [] := by
  simpa [splitByHunk] using hd

theorem place_ne_nil {α : Type} (key : Option String) (x : α) (gs : List (Group α)) :
    place key x gs ≠ [] := by
  cases gs with
  | nil => exact List.cons_ne_nil _ _
  | cons g gs =>
    unfold place
    split <;> exact List.cons_ne_nil _ _

theorem groups_ne_nil {α : Type} (key : α → Option String) {xs : List α} (h : xs ≠ []) :
    groups key xs ≠ [] := by
  obtain ⟨init, x, rfl⟩ := (List.eq_nil_or_concat' xs).resolve_left h
  rw [groups, List.foldl_append]
  exact place_ne_nil (key x) x _

theorem cutBySymbol_ne_nil (before after : Table) {d : Document} (hd : d.hunks ≠ []) :
    (cutBySymbol before after d).value ≠ [] := by
  rw [value_cutBySymbol]
  split
  · exact splitByHunk_ne_nil hd
  · simpa [splitBySymbol] using groups_ne_nil _ hd

theorem splitsTo_byHunk {patch : String} :
    SplitsTo patch (byHunk patch).value ↔ ¬ MeetsOverlong patch :=
  splitsTo_splitWith fun _ => splitByHunk_ne_nil

theorem splitsTo_bySymbol {before after : Table} {patch : String} :
    SplitsTo patch (bySymbol before after patch).value ↔ ¬ MeetsOverlong patch :=
  splitsTo_splitWith fun _ => cutBySymbol_ne_nil before after

end Changeset.Patch

namespace Changeset.Engine

open Patch (HasHunks SplitsTo MeetsOverlong)

-- ---------------------------------------------------------------------------
-- Splitting under settings
-- ---------------------------------------------------------------------------

theorem ofName?_strategyName (settings : Settings) {strategy : Option String}
    (h : strategy ∈ [none, some "hunk", some "symbol"]) :
    ∃ s, Strategy.ofName? (strategyName settings strategy) = some s := by
  have hhunk : Letter.lower "hunk" = "hunk" := by decide +kernel
  have hsymbol : Letter.lower "symbol" = "symbol" := by decide +kernel
  have hdefault : strategyName settings none = settings.strategy.name := by
    cases hs : settings.strategy <;> simp [strategyName, hs, Strategy.name, hhunk, hsymbol]
  simp only [List.mem_cons, List.not_mem_nil, or_false] at h
  rcases h with rfl | rfl | rfl
  · rw [hdefault]
    exact ⟨settings.strategy, by cases settings.strategy <;> decide⟩
  · exact ⟨.hunk, by simp [strategyName, hhunk, Strategy.ofName?, Strategy.all, Strategy.name]⟩
  · exact ⟨.symbol, by simp [strategyName, hsymbol, Strategy.ofName?, Strategy.all, Strategy.name]⟩

theorem value_split (settings : Settings) (patch language : String) {strategy : Option String}
    (h : strategy ∈ [none, some "hunk", some "symbol"]) :
    (split settings patch language strategy).value =
      (Patch.byHunk patch).value.mapError .patch := by
  obtain ⟨s, hs⟩ := ofName?_strategyName settings h
  simp only [split, hs]
  cases s <;> rfl

/-- Each way to split a text ends well exactly if no overlong number of a hunk header is met. -/
theorem splits_iff_not_meetsOverlong (patch : String) (before after : Table) (settings : Settings)
    (language : String) {strategy : Option String}
    (h : strategy ∈ [none, some "hunk", some "symbol"]) :
    (SplitsTo patch (Patch.byHunk patch).value ↔ ¬ MeetsOverlong patch) ∧
    (SplitsTo patch (Patch.bySymbol before after patch).value ↔ ¬ MeetsOverlong patch) ∧
    (SplitsTo patch (split settings patch language strategy).value ↔ ¬ MeetsOverlong patch) := by
  refine ⟨Patch.splitsTo_byHunk, Patch.splitsTo_bySymbol, ?_⟩
  rw [value_split settings patch language h, Patch.splitsTo_mapError]
  exact Patch.splitsTo_byHunk

def overlong : String :=
  String.ofList (Patch.unlines (Patch.headed (List.replicate (Patch.maxDigits + 1) '1') ++
    ["-x".toList, "+y".toList]))

/-- Hunk mode fails at an overlong number where the text should have stayed whole. -/
theorem not_splitsTo_overlong :
    ¬ HasHunks overlong ∧ ¬ SplitsTo overlong (Patch.byHunk overlong).value := by
  have hmeets : MeetsOverlong overlong := by
    refine Patch.meetsOverlong_headed ?_ ?_ (by decide)
    · intro c hc
      rw [List.eq_of_mem_replicate hc]
      decide
    · rw [List.length_replicate]
      exact Nat.lt_succ_self _
  refine ⟨?_, fun h => Patch.splitsTo_byHunk.mp h hmeets⟩
  rintro ⟨d, hd, -⟩
  obtain ⟨n, hn⟩ := Patch.read_numberTooLong_iff.mpr hmeets
  rw [hd] at hn
  cases hn

def unfinished : String := "--- a\n+++ b\n@@ -1 +1 @@\n"

theorem splits_iff_not_meetsOverlong_unfinished :
    some "symbol" ∈ [none, some "hunk", some "symbol"] ∧
    ¬ MeetsOverlong unfinished ∧
    SplitsTo unfinished (split .default unfinished "ts" (some "symbol")).value := by
  have hs : some "symbol" ∈ [none, some "hunk", some "symbol"] := by decide
  have hr : Patch.Document.read unfinished = .error .hunkTooShort := by decide +kernel
  have hmeets : ¬ MeetsOverlong unfinished := by
    rw [← Patch.read_numberTooLong_iff, hr]
    simp
  have h := splits_iff_not_meetsOverlong unfinished .empty .empty .default "ts" hs
  exact ⟨hs, hmeets, h.2.2.mpr hmeets⟩

end Changeset.Engine
