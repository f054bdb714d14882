import Changeset.Text.Letter
import Mathlib.Data.List.Basic

/-!
# Lower case

Text in lower case is its own lower case (`lower_lower`). For single letters this
is a property of the tables: no image of a letter is mapped further
(`settled_of_mem_images`). A capital sigma, whose image depends on the letters
around it, is never an image, so nothing is left that its place could change
(`lowerFrom_of_settled`).
-/

namespace Changeset.Letter

-- ---------------------------------------------------------------------------
-- Sets of numbers
-- ---------------------------------------------------------------------------

def bitSet (ns : List Nat) : Nat := ns.foldr (fun n bits => 1 <<< n ||| bits) 0

theorem testBit_bitSet {ns : List Nat} {n : Nat} : (bitSet ns).testBit n = true ↔ n ∈ ns := by
  induction ns with
  | nil => simp [bitSet]
  | cons m ns ih =>
    rw [bitSet, List.foldr_cons, ← bitSet, Nat.testBit_or, Bool.or_eq_true, ih, List.mem_cons,
      Nat.one_shiftLeft, Nat.testBit_two_pow, decide_eq_true_eq, eq_comm]

/-- The members of several lists together. One number for each keeps the evaluation flat. -/
def bitUnion (rows : List (List Nat)) : Nat := rows.foldr (fun ns bits => bitSet ns ||| bits) 0

theorem testBit_bitUnion {rows : List (List Nat)} {n : Nat} :
    (bitUnion rows).testBit n = true ↔ n ∈ rows.flatten := by
  induction rows with
  | nil => simp [bitUnion]
  | cons ns rows ih =>
    rw [bitUnion, List.foldr_cons, ← bitUnion, Nat.testBit_or, Bool.or_eq_true, testBit_bitSet, ih,
      List.flatten_cons, List.mem_append]

theorem not_mem_of_bitUnion {rows others : List (List Nat)}
    (h : bitUnion rows &&& bitUnion others = 0) {n : Nat} (hn : n ∈ others.flatten) :
    n ∉ rows.flatten := by
  intro hm
  have hboth : (bitUnion rows &&& bitUnion others).testBit n = true := by
    rw [Nat.testBit_and, testBit_bitUnion.mpr hm, testBit_bitUnion.mpr hn, Bool.and_self]
  rw [h, Nat.zero_testBit] at hboth
  cases hboth

-- ---------------------------------------------------------------------------
-- The table
-- ---------------------------------------------------------------------------

def Run.letters (r : Run) : List Nat :=
  List.range' r.first ((r.last - r.first) / r.step + 1) r.step

theorem Run.mem_letters {r : Run} {n : Nat} (h : r.covers n = true) : n ∈ r.letters := by
  simp only [covers, Bool.and_eq_true, decide_eq_true_eq, beq_iff_eq] at h
  obtain ⟨⟨hfirst, hlast⟩, hstep⟩ := h
  refine List.mem_range'.mpr ⟨(n - r.first) / r.step, ?_, ?_⟩
  · exact Nat.lt_succ_of_le (Nat.div_le_div_right (Nat.sub_le_sub_right hlast _))
  · rw [Nat.mul_div_cancel' (Nat.dvd_of_mod_eq_zero hstep), Nat.add_sub_cancel' hfirst]

theorem mapRuns_cases (runs : List Run) (n : Nat) :
    (mapRuns runs n = n ∧ ∀ r ∈ runs, r.covers n = false) ∨
      ∃ r ∈ runs, r.covers n = true ∧ mapRuns runs n = r.image n := by
  rw [mapRuns]
  cases h : runs.find? (·.covers n) with
  | none => exact .inl ⟨rfl, by simpa using h⟩
  | some r =>
    have hcovers : r.covers n = true := by simpa using List.find?_some h
    exact .inr ⟨r, List.mem_of_find?_eq_some h, hcovers, rfl⟩

def capitals : List (List Nat) := ['İ'.toNat] :: lowerRuns.map Run.letters

def images : List (List Nat) := lowerRuns.map fun r => r.letters.map r.image

theorem all_isValidChar_images : images.all (·.all fun n => n.isValidChar) = true := by
  decide +kernel

-- To look each image up in the table would take a minute, so both are compared as numbers.
theorem bitUnion_capitals_images : bitUnion capitals &&& bitUnion images = 0 := by decide +kernel

-- ---------------------------------------------------------------------------
-- Characters without a lower case
-- ---------------------------------------------------------------------------

/-- A character that lower case leaves as it is, wherever it stands. -/
structure Settled (c : Char) : Prop where
  not_dotted : c ≠ 'İ'
  not_covered : ∀ r ∈ lowerRuns, r.covers c.toNat = false

theorem settled_iff {c : Char} :
    Settled c ↔ c ≠ 'İ' ∧ ∀ r ∈ lowerRuns, r.covers c.toNat = false :=
  ⟨fun h => ⟨h.not_dotted, h.not_covered⟩, fun h => ⟨h.1, h.2⟩⟩

instance (c : Char) : Decidable (Settled c) :=
  decidable_of_iff' (c ≠ 'İ' ∧ lowerRuns.all (fun r => !r.covers c.toNat) = true)
    (by simp [settled_iff])

theorem Settled.ne_sigma {c : Char} (h : Settled c) : c ≠ 'Σ' := by
  have hsigma : ¬ Settled 'Σ' := by decide +kernel
  rintro rfl
  exact hsigma h

theorem Settled.lowerChar_eq {c : Char} (h : Settled c) : lowerChar c = [c] := by
  rw [lowerChar, if_neg h.not_dotted]
  obtain ⟨hsame, -⟩ | ⟨r, hr, hcovers, -⟩ := mapRuns_cases lowerRuns c.toNat
  · rw [hsame, Char.ofNat_toNat]
  · rw [h.not_covered r hr] at hcovers
    cases hcovers

theorem toNat_ofNat_of_isValidChar {n : Nat} (h : n.isValidChar) : (Char.ofNat n).toNat = n := by
  rw [Char.ofNat, dif_pos h]
  rfl

theorem settled_of_mem_images {n : Nat} (hn : n ∈ images.flatten) : Settled (Char.ofNat n) := by
  have hnot : n ∉ capitals.flatten := not_mem_of_bitUnion bitUnion_capitals_images hn
  obtain ⟨ns, hns, hmem⟩ := List.mem_flatten.mp hn
  have hvalid := List.all_eq_true.mp (List.all_eq_true.mp all_isValidChar_images ns hns) n hmem
  have hnat := toNat_ofNat_of_isValidChar (of_decide_eq_true hvalid)
  rw [capitals, List.flatten_cons, List.mem_append, not_or] at hnot
  constructor
  · intro hdotted
    rw [← hnat, hdotted] at hnot
    exact hnot.1 List.mem_cons_self
  · intro r hr
    rw [hnat, ← Bool.not_eq_true]
    intro hcovers
    exact hnot.2 (List.mem_flatten.mpr ⟨_, List.mem_map_of_mem hr, Run.mem_letters hcovers⟩)

-- ---------------------------------------------------------------------------
-- Lower case of texts
-- ---------------------------------------------------------------------------

theorem settled_of_mem_lowerChar {c d : Char} (hd : d ∈ lowerChar c) : Settled d := by
  rw [lowerChar] at hd
  split at hd
  · have hdotted : Settled 'i' ∧ Settled '\u0307' := by decide +kernel
    rcases List.mem_pair.mp hd with rfl | rfl
    · exact hdotted.1
    · exact hdotted.2
  · rename_i hc
    rw [List.mem_singleton.mp hd]
    obtain ⟨hsame, hnone⟩ | ⟨r, hr, hcovers, himage⟩ := mapRuns_cases lowerRuns c.toNat
    · rw [hsame, Char.ofNat_toNat]
      exact ⟨hc, hnone⟩
    · rw [himage]
      exact settled_of_mem_images (List.mem_flatten.mpr
        ⟨_, List.mem_map_of_mem hr, List.mem_map_of_mem (Run.mem_letters hcovers)⟩)

theorem settled_of_mem_lowerFrom {before cs : List Char} :
    ∀ d ∈ lowerFrom before cs, Settled d := by
  induction cs generalizing before with
  | nil => exact fun _ hd => nomatch hd
  | cons c cs ih =>
    intro d hd
    rw [lowerFrom] at hd
    rcases List.mem_append.mp hd with hd | hd
    · split at hd
      · have hsigmas : Settled 'ς' ∧ Settled 'σ' := by decide +kernel
        rw [List.mem_singleton.mp hd]
        split
        · exact hsigmas.1
        · exact hsigmas.2
      · exact settled_of_mem_lowerChar hd
    · exact ih d hd

theorem lowerFrom_of_settled {before cs : List Char} (h : ∀ c ∈ cs, Settled c) :
    lowerFrom before cs = cs := by
  induction cs generalizing before with
  | nil => rfl
  | cons c cs ih =>
    obtain ⟨hc, hcs⟩ := List.forall_mem_cons.mp h
    rw [lowerFrom, ih hcs, if_neg hc.ne_sigma, hc.lowerChar_eq, List.singleton_append]

@[simp] theorem lower_lower (s : String) : lower (lower s) = lower s := by
  rw [lower, lower, String.toList_ofList, lowerFrom_of_settled settled_of_mem_lowerFrom]

end Changeset.Letter
