/-!
# Decimal numerals

Numbers are written in base ten without leading zeros, with a minus sign in
front if they are negative.
-/

namespace Changeset.Decimal

def ofNat (n : Nat) : List Char :=
  if n < 10 then [Nat.digitChar n] else ofNat (n / 10) ++ [Nat.digitChar (n % 10)]
termination_by n

def ofInt : Int → List Char
  | .ofNat n => ofNat n
  | .negSucc n => '-' :: ofNat (n + 1)

theorem ofNat_of_lt {n : Nat} (h : n < 10) : ofNat n = [Nat.digitChar n] := by
  rw [ofNat, if_pos h]

theorem ofNat_of_le {n : Nat} (h : 10 ≤ n) :
    ofNat n = ofNat (n / 10) ++ [Nat.digitChar (n % 10)] := by
  rw [ofNat, if_neg (by omega)]

end Changeset.Decimal
