import Changeset.Text.Decimal

/-!
# Binary floating point numbers

A finite number is a mantissa below `2 ^ 53` times a power of two. Reading a
ratio rounds it to the nearest such number, to an even mantissa if two are
nearest; writing takes the fewest decimal digits that read back.
-/

namespace Changeset

inductive Binary64 where
  /-- The number `mantissa * 2 ^ exponent`, negated if `negative`. -/
  | finite (negative : Bool) (mantissa : Nat) (exponent : Int)
  | infinite (negative : Bool)
  | nan
  deriving DecidableEq, Repr

namespace Binary64

/-- The quotient rounded to the nearest number, a half to the even one. -/
def roundDiv (num den : Nat) : Nat :=
  let q := num / den
  let r := num % den
  if 2 * r < den then q
  else if den < 2 * r then q + 1
  else if q % 2 = 0 then q else q + 1

def scale (num den : Nat) (exponent : Int) : Nat × Nat :=
  match exponent with
  | .ofNat e => (num, den * Nat.pow 2 e)
  | .negSucc e => (num * Nat.pow 2 (e + 1), den)

/-- The exponent that gives a ratio a mantissa of 53 bits, but not one below the least. -/
def exponentOf (num den : Nat) : Int :=
  let guess : Int := (Nat.log2 num : Int) - Nat.log2 den - 52
  let (n, d) := scale num den guess
  let e := if n / d < Nat.pow 2 52 then guess - 1 else guess
  max e (-1074)

/-- The number nearest to `num / den`, where `den` is positive. -/
def ofRatio (negative : Bool) (num den : Nat) : Binary64 :=
  if num = 0 then .finite negative 0 (-1074)
  else
    let e := exponentOf num den
    let (n, d) := scale num den e
    let m := roundDiv n d
    let (m, e) := if m = Nat.pow 2 53 then (Nat.pow 2 52, e + 1) else (m, e)
    if 971 < e then .infinite negative else .finite negative m e

/--
The number nearest to `digits * 10 ^ exponent`. Exponents so large that the number
can only be zero or infinite are not computed with.
-/
def ofDecimal (negative : Bool) (digits : Nat) (exponent : Int) : Binary64 :=
  match exponent with
  | .ofNat e =>
    if digits = 0 then ofRatio negative 0 1
    else if 400 < e then .infinite negative
    else ofRatio negative (digits * Nat.pow 10 e) 1
  | .negSucc e =>
    if Nat.log2 digits + 1200 < 3 * e then ofRatio negative 0 1
    else ofRatio negative digits (Nat.pow 10 (e + 1))

/-! ## Arithmetic -/

def ofScaled (negative : Bool) (mantissa : Nat) : Int → Binary64
  | .ofNat e => ofRatio negative (mantissa * Nat.pow 2 e) 1
  | .negSucc e => ofRatio negative mantissa (Nat.pow 2 (e + 1))

def neg : Binary64 → Binary64
  | .finite negative m e => .finite (!negative) m e
  | .infinite negative => .infinite (!negative)
  | .nan => .nan

def timesPositive (x : Binary64) (mantissa : Nat) (exponent : Int) : Binary64 :=
  match x with
  | .finite negative m e => ofScaled negative (m * mantissa) (e + exponent)
  | x => x

/-- Opposite numbers add to zero without a sign. -/
def add : Binary64 → Binary64 → Binary64
  | .nan, _ | _, .nan => .nan
  | .infinite a, .infinite b => if a == b then .infinite a else .nan
  | .infinite a, _ | _, .infinite a => .infinite a
  | .finite a m e, .finite b n f =>
    let least := min e f
    let x := m * Nat.pow 2 (e - least).toNat
    let y := n * Nat.pow 2 (f - least).toNat
    if a == b then ofScaled a (x + y) least
    else if x < y then ofScaled b (y - x) least
    else ofScaled (x != y && a) (x - y) least

/-! ## Writing -/

def isZero : Binary64 → Bool
  | .finite _ m _ => m == 0
  | _ => false

def inUnits (num den : Nat) : Int → Nat × Nat
  | .ofNat e => (num, den * Nat.pow 10 e)
  | .negSucc e => (num * Nat.pow 10 (e + 1), den)

/-- The least `k` with `num / den < 10 ^ k`, found downwards. -/
def pointOf (num den : Nat) : Nat → Int → Int
  | 0, k => k
  | fuel + 1, k =>
    let (n, d) := inUnits num den (k - 1)
    if n < d then pointOf num den fuel (k - 1) else k

/-- The ratios over one denominator that round to a number: the number, and both halfway points. -/
structure Interval where
  value : Nat
  low : Nat
  high : Nat
  den : Nat
  /-- Whether the halfway points themselves round to the number. -/
  closed : Bool
  deriving Repr

def interval (mantissa : Nat) (exponent : Int) : Interval :=
  let (unit, den) := match exponent with
    | .ofNat e => (Nat.pow 2 e, 4)
    | .negSucc e => (1, 4 * Nat.pow 2 (e + 1))
  let value := 4 * mantissa * unit
  -- the numbers below a power of two lie twice as close
  let below := if mantissa = Nat.pow 2 52 ∧ exponent ≠ -1074 then unit else 2 * unit
  ⟨value, value - below, value + 2 * unit, den, mantissa % 2 == 0⟩

def Interval.holds (i : Interval) (exponent : Int) (k : Nat) : Bool :=
  let (low, d) := inUnits i.low i.den exponent
  let (high, _) := inUnits i.high i.den exponent
  let x := k * d
  if i.closed then low ≤ x && x ≤ high else low < x && x < high

/-- The neighbour of the value on the grid of `10 ^ exponent` that rounds back, if one does. -/
def Interval.onGrid? (i : Interval) (exponent : Int) : Option Nat :=
  let (n, d) := inUnits i.value i.den exponent
  let lower := n / d
  let nearer := 2 * (n % d) < d || (2 * (n % d) == d && lower % 2 == 0)
  let lowerFits := lower != 0 && i.holds exponent lower
  let upperFits := i.holds exponent (lower + 1)
  if lowerFits && (nearer || !upperFits) then some lower
  else if upperFits then some (lower + 1)
  else none

/--
Digits and decimal point: the value reads `0.digits * 10 ^ point`. The grids of
one digit, of two digits and so on are tried in turn.
-/
def shortest (mantissa : Nat) (exponent : Int) : List Char × Int :=
  let i := interval mantissa exponent
  let point := pointOf i.value i.den 700 310
  let found := (List.range 17).findSome? fun (count : Nat) =>
    let grid : Int := point - (count + 1)
    (i.onGrid? grid).map fun k => (Decimal.ofNat k, grid)
  match found with
  | some (digits, grid) => (digits, grid + digits.length)
  | none => (['0'], 1)

def dropTrailingZeros (cs : List Char) : List Char :=
  (cs.reverse.dropWhile (· == '0')).reverse

def exponentText (e : Int) : List Char :=
  let digits := Decimal.ofNat e.natAbs
  (if e < 0 then '-' else '+') :: (if digits.length < 2 then '0' :: digits else digits)

/-- The magnitude in positional notation from `0.0001` to below `10 ^ 16`, else with an exponent. -/
def magnitude (mantissa : Nat) (exponent : Int) : List Char :=
  if mantissa = 0 then ['0', '.', '0']
  else
    let (digits, point) := shortest mantissa exponent
    let digits := dropTrailingZeros digits
    if 16 < point ∨ point < -3 then
      let e := point - 1
      match digits with
      | [] => []
      | [d] => d :: 'e' :: exponentText e
      | d :: ds => d :: '.' :: ds ++ 'e' :: exponentText e
    else if point ≤ 0 then
      '0' :: '.' :: List.replicate (-point).toNat '0' ++ digits
    else
      let n := point.toNat
      if digits.length ≤ n then
        digits ++ List.replicate (n - digits.length) '0' ++ ['.', '0']
      else digits.take n ++ '.' :: digits.drop n

def render : Binary64 → List Char
  | .finite negative m e => (if negative then ['-'] else []) ++ magnitude m e
  | .infinite negative => (if negative then ['-'] else []) ++ ['i', 'n', 'f']
  | .nan => ['n', 'a', 'n']

end Binary64

end Changeset
