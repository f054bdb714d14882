import Changeset.Text.Decimal
import Changeset.Text.Digit
import Mathlib.Data.List.Induction
import Mathlib.Tactic.IntervalCases

/-!
# Numerals read back

`toNat_ofNat`: the digits that are written for a number have its value. The
numeral of a number is also the shortest row of digits with that value, which
is what bounds its length (`length_ofNat_le`) by the length of any row that
was read (`toNat_lt`).
-/

namespace Changeset

-- ---------------------------------------------------------------------------
-- Digits
-- ---------------------------------------------------------------------------

namespace Digit

theorem value?_digitChar {d : Nat} (h : d < 10) : value? (Nat.digitChar d) = some d := by
  interval_cases d <;> decide

theorem isDigit_digitChar {d : Nat} (h : d < 10) : isDigit (Nat.digitChar d) = true := by
  rw [isDigit, value?_digitChar h]
  rfl

theorem toNat_lt (cs : List Char) : toNat cs < 10 ^ cs.length := by
  induction cs using List.reverseRecOn with
  | nil => simp
  | append_singleton cs c ih =>
    have hc : (value? c).getD 0 < 10 := by
      cases hv : value? c with
      | none => simp
      | some n => exact value?_lt hv
    rw [toNat_append_singleton, List.length_append, List.length_singleton, Nat.pow_succ]
    omega

end Digit

-- ---------------------------------------------------------------------------
-- Numerals
-- ---------------------------------------------------------------------------

namespace Decimal

theorem ofNat_eq_toDigits (n : Nat) : ofNat n = Nat.toDigits 10 n := by
  induction n using Nat.strong_induction_on with
  | _ n ih =>
    by_cases h : n < 10
    · rw [ofNat_of_lt h, Nat.toDigits_of_lt_base h]
    · have h10 : 10 ≤ n := by omega
      rw [ofNat_of_le h10, ih (n / 10) (by omega), ← Nat.toDigits_of_base_le (by omega) h10]

theorem toList_toString (n : Nat) : (toString n).toList = ofNat n := by
  rw [ofNat_eq_toDigits]
  exact Nat.toList_repr

theorem ofNat_ne_nil (n : Nat) : ofNat n ≠ [] := by
  rw [ofNat_eq_toDigits]
  exact Nat.toDigits_ne_nil

theorem isDigit_of_mem_ofNat {n : Nat} : ∀ c ∈ ofNat n, Digit.isDigit c = true := by
  induction n using Nat.strong_induction_on with
  | _ n ih =>
    intro c hc
    by_cases h : n < 10
    · rw [ofNat_of_lt h, List.mem_singleton] at hc
      exact hc ▸ Digit.isDigit_digitChar h
    · rw [ofNat_of_le (by omega), List.mem_append, List.mem_singleton] at hc
      rcases hc with hc | rfl
      · exact ih (n / 10) (by omega) c hc
      · exact Digit.isDigit_digitChar (by omega)

theorem toNat_ofNat (n : Nat) : Digit.toNat (ofNat n) = n := by
  induction n using Nat.strong_induction_on with
  | _ n ih =>
    by_cases h : n < 10
    · rw [ofNat_of_lt h, ← List.nil_append [n.digitChar], Digit.toNat_append_singleton,
        Digit.value?_digitChar h]
      simp
    · rw [ofNat_of_le (by omega), Digit.toNat_append_singleton, ih (n / 10) (by omega),
        Digit.value?_digitChar (by omega), Option.getD_some]
      omega

theorem length_ofNat_le {n k : Nat} (hk : 0 < k) (h : n < 10 ^ k) : (ofNat n).length ≤ k := by
  rw [ofNat_eq_toDigits]
  exact (Nat.length_toDigits_le_iff (by omega) hk).mpr h

theorem takeWhile_ofNat_append (n : Nat) {c : Char} (hc : Digit.isDigit c = false)
    (cs : List Char) :
    (ofNat n ++ c :: cs).takeWhile Digit.isDigit = ofNat n := by
  rw [List.takeWhile_append_of_pos isDigit_of_mem_ofNat, List.takeWhile_cons_of_neg (by simp [hc]),
    List.append_nil]

theorem dropWhile_ofNat_append (n : Nat) {c : Char} (hc : Digit.isDigit c = false)
    (cs : List Char) :
    (ofNat n ++ c :: cs).dropWhile Digit.isDigit = c :: cs := by
  rw [List.dropWhile_append_of_pos isDigit_of_mem_ofNat, List.dropWhile_cons_of_neg (by simp [hc])]

end Decimal

end Changeset
