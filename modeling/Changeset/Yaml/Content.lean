import Changeset.Text.Digit
import Changeset.Text.Span
import Changeset.Yaml.Node

/-!
# Contents

What the nodes of a text stand for. Scalars are read as their tags say, mappings
take in those that they merge, and a repeated key keeps its place and takes the
later value.
-/

namespace Changeset.Yaml

open Changeset (Value)

/-! ## Scalars -/

namespace Content

def withoutUnderscores (cs : List Char) : List Char := cs.filter (· != '_')

def signed (cs : List Char) : Bool × List Char :=
  match cs with
  | '-' :: rest => (true, rest)
  | '+' :: rest => (false, rest)
  | _ => (false, cs)

def negateIf (b : Bool) (n : Nat) : Int := if b then -(n : Int) else n

def margins : List (Nat × Nat) := [
  (0x9, 0xd), (0x20, 0x20), (0x85, 0x85), (0xa0, 0xa0), (0x1680, 0x1680), (0x2000, 0x200a),
  (0x2028, 0x2029), (0x202f, 0x202f), (0x205f, 0x205f), (0x3000, 0x3000)]

def isMargin (c : Char) : Bool := Span.contains margins c.toNat

def trimmed (cs : List Char) : List Char :=
  ((cs.dropWhile isMargin).reverse.dropWhile isMargin).reverse

/-- A digit of any script, or a letter for a digit above nine. -/
def digitValue? (base : Nat) (c : Char) : Option Nat :=
  ((Digit.value? c).or (Scalar.hexValue? c)).filter (· < base)

def inBase? (base : Nat) (cs : List Char) : Option Nat :=
  if cs.isEmpty then none
  else cs.foldlM (fun n c => (digitValue? base c).map (n * base + ·)) 0

/-- The digits without the mark of their base. -/
def unmarked (base : Nat) (cs : List Char) : List Char :=
  match cs with
  | '0' :: c :: ds =>
    if [(2, 'b'), (8, 'o'), (16, 'x')].contains (base, c.toLower) then ds else cs
  | _ => cs

def maxDigits : Nat := 4300

def tooLong (count : Nat) : Fault :=
  .invalid ("Exceeds the limit (" ++ toString maxDigits ++
    " digits) for integer string conversion: value has " ++ toString count ++
    " digits; use sys.set_int_max_str_digits() to increase the limit")

def badNumeral (base : Nat) (cs : List Char) : Fault :=
  .invalid ("invalid literal for int() with base " ++ toString base ++ ": " ++
    String.ofList (Quoted.encode cs))

/-- A numeral with a sign of its own; only those in base ten have a limit. -/
def numeral (base : Nat) (cs : List Char) : Except Fault Int :=
  let (negative, ds) := signed (trimmed cs)
  match inBase? base (unmarked base ds) with
  | none => .error (badNumeral base cs)
  | some n =>
    if base = 10 && maxDigits < ds.length then .error (tooLong ds.length)
    else .ok (negateIf negative n)

def splitAtColons (cs : List Char) : List (List Char) :=
  match cs with
  | [] => [[]]
  | c :: rest =>
    match splitAtColons rest with
    | [] => [[c]]
    | p :: ps => if c == ':' then [] :: p :: ps else (c :: p) :: ps

/-- Numerals in base sixty, the digits in base ten. -/
def sixtyNumeral (cs : List Char) : Except Fault Int := do
  let digits ← (splitAtColons cs).mapM (numeral 10)
  .ok (digits.foldl (fun n d => n * 60 + d) 0)

def int (text : List Char) : Except Fault Value := do
  let (negative, cs) := signed (withoutUnderscores text)
  let n ← match cs with
    | [] => .error .bare
    | ['0'] => Except.ok 0
    | '0' :: 'b' :: ds => numeral 2 ds
    | '0' :: 'x' :: ds => numeral 16 ds
    | '0' :: _ => numeral 8 cs
    | _ => if cs.contains ':' then sixtyNumeral cs else numeral 10 cs
  .ok (.int (if negative then -n else n))

def natOf (cs : List Char) : Nat := (inBase? 10 cs).getD 0

/-- A number with a point and a power, as its digits and the power of ten they are times. -/
def pointed? (cs : List Char) : Option (Nat × Int) :=
  let whole := cs.takeWhile Form.isDigit
  let rest := cs.drop whole.length
  let (fraction, rest) := match rest with
    | '.' :: more => (more.takeWhile Form.isDigit, more.dropWhile Form.isDigit)
    | _ => ([], rest)
  let digits := whole ++ fraction
  if digits.isEmpty then none
  else
    match rest with
    | [] => some (natOf digits, -(fraction.length : Int))
    | e :: more =>
      if e != 'e' then none
      else
        let (negative, ds) := signed more
        (inBase? 10 ds).map fun n => (natOf digits, negateIf negative n - fraction.length)

def badFloat (text : List Char) : Fault :=
  .invalid ("could not convert string to float: " ++ String.ofList (Quoted.encode text))

/-- A number in base ten with a sign of its own, or the name of one that has no digits. -/
def plainFloat? (negative : Bool) (cs : List Char) : Option Binary64 :=
  let (inner, ds) := signed (trimmed cs)
  if ds == "inf".toList || ds == "infinity".toList then some (.infinite (negative != inner))
  else if ds == "nan".toList then some .nan
  else
    (pointed? (ds.map fun c => ((Digit.value? c).map Nat.digitChar).getD c)).map
      fun (digits, power) => .ofDecimal (negative != inner) digits power

def readFloat (negative : Bool) (cs : List Char) : Except Fault Binary64 :=
  match plainFloat? negative cs with
  | some x => .ok x
  | none => .error (badFloat cs)

/-- A number in base sixty, whose digits are numbers in base ten; the last one is added first. -/
def sixtyFloat (cs : List Char) : Except Fault Binary64 := do
  let digits ← (splitAtColons cs).mapM (readFloat false)
  digits.reverse.zipIdx.foldlM (fun sum (digit, i) =>
    match Binary64.ofRatio false (Nat.pow 60 i) 1 with
    | .finite _ m e => .ok (sum.add (digit.timesPositive m e))
    | _ => .error .overflow) (.finite false 0 (-1074))

def float (text : List Char) : Except Fault Value := do
  let cs := (withoutUnderscores text).map Char.toLower
  if cs.isEmpty then .error .bare
  let (negative, cs) := signed cs
  if cs == ".inf".toList then .ok (.float (.infinite negative))
  else if cs == ".nan".toList then .ok (.float .nan)
  else if cs.contains ':' then do
    let x ← sixtyFloat cs
    .ok (.float (if negative then x.neg else x))
  else do .ok (.float (← readFloat negative cs))

def bool (text : List Char) : Except Fault Value :=
  match Tag.truths.lookup (String.ofList (text.map Char.toLower)) with
  | some b => .ok (.bool b)
  | none => .error .unknownTruth

/-! ### Bytes -/

def sextet? (c : Char) : Option Nat :=
  if 'A' ≤ c && c ≤ 'Z' then some (c.toNat - 'A'.toNat)
  else if 'a' ≤ c && c ≤ 'z' then some (c.toNat - 'a'.toNat + 26)
  else if '0' ≤ c && c ≤ '9' then some (c.toNat - '0'.toNat + 52)
  else if c == '+' then some 62
  else if c == '/' then some 63
  else none

/-- Four sextets are three bytes; padding leaves the last ones out. -/
def fromSextets : List Nat → Option (List UInt8)
  | [] => some []
  | [_] => none
  | [a, b] => some [(a * 4 + b / 16).toUInt8]
  | [a, b, c] => some [(a * 4 + b / 16).toUInt8, (b % 16 * 16 + c / 4).toUInt8]
  | a :: b :: c :: d :: rest => (fromSextets rest).map fun bs =>
    (a * 4 + b / 16).toUInt8 :: (b % 16 * 16 + c / 4).toUInt8 :: (c % 4 * 64 + d).toUInt8 :: bs

/-- Characters that are no digits are passed over; what is missing has to be padded. -/
def binary (text : List Char) : Except Fault Value :=
  let sextets := (text.takeWhile (· != '=')).filterMap sextet?
  let padding := (text.filter (· == '=')).length
  if text.any fun c => 0x80 ≤ c.toNat then .error .malformed
  else if sextets.length % 4 != 0 && padding < 4 - sextets.length % 4 then .error .malformed
  else
    match fromSextets sextets with
    | some bs => .ok (.bytes bs)
    | none => .error .malformed

/-! ### Dates -/

def isLeap (year : Nat) : Bool := year % 4 = 0 && (year % 100 != 0 || year % 400 = 0)

def daysIn (year month : Nat) : Nat :=
  if month = 2 then if isLeap year then 29 else 28
  else if [4, 6, 9, 11].contains month then 30
  else 31

def checkDate (year month day : Nat) : Except Fault Unit :=
  if year = 0 then .error (.invalid ("year " ++ toString year ++ " is out of range"))
  else if month = 0 || 12 < month then .error (.invalid "month must be in 1..12")
  else if day = 0 || daysIn year month < day then .error (.invalid "day is out of range for month")
  else .ok ()

def checkTime (hour minute second : Nat) : Except Fault Unit :=
  if 23 < hour then .error (.invalid "hour must be in 0..23")
  else if 59 < minute then .error (.invalid "minute must be in 0..59")
  else if 59 < second then .error (.invalid "second must be in 0..59")
  else .ok ()

/-- The offset of a zone in minutes; a day or more is none. -/
def offset (sign : Char) (hours minutes : List Char) : Except Fault Int :=
  let n := natOf hours * 60 + natOf minutes
  let m := negateIf (sign == '-') n
  if 1440 ≤ n then
    .error (.invalid ("offset must be a timedelta strictly between -timedelta(hours=24) and " ++
      "timedelta(hours=24), not " ++ String.ofList (DateTime.durationLiteral m) ++ "."))
  else .ok m

def microseconds (fraction : List Char) : Nat :=
  let ds := fraction.take 6
  natOf (ds ++ List.replicate (6 - ds.length) '0')

def timestamp (text : List Char) : Except Fault Value :=
  match Tag.stamp? (Form.withoutNewline text) with
  | none => .error .formless
  | some s => do
    let (year, month, day) := (natOf s.year, natOf s.month, natOf s.day)
    match s.time with
    | none => do
      checkDate year month day
      .ok (.date year month day)
    | some (h, m, sec) => do
      let zone ← match s.zone with
        | none => Except.ok none
        | some none => .ok (some 0)
        | some (some (sign, hours, minutes)) => (offset sign hours minutes).map some
      checkDate year month day
      checkTime (natOf h) (natOf m) (natOf sec)
      .ok (.dateTime ⟨year, month, day, natOf h, natOf m, natOf sec, microseconds s.fraction, zone⟩)

def scalar (tag : Tag) (text : List Char) : Except Fault Value :=
  match tag with
  | .null => .ok .null
  | .bool => bool text
  | .int => int text
  | .float => float text
  | .binary => binary text
  | .timestamp => timestamp text
  | .text => .ok (.text (String.ofList text))
  | _ => .error .mistyped

/-! ## Keys -/

/-- A number as a ratio by a power of two, to compare numbers of all types. -/
def asNumber? : Value → Option (Int × Int)
  | .bool b => some (if b then 1 else 0, 0)
  | .int n => some (n, 0)
  | .float (.finite negative m e) => some (negateIf negative m, e)
  | _ => none

def sameNumber (a b : Int × Int) : Bool :=
  let e := min a.2 b.2
  a.1 * Nat.pow 2 (a.2 - e).toNat == b.1 * Nat.pow 2 (b.2 - e).toNat

/-- Whether two keys are one: numbers by value, all else by form. -/
def sameKey (a b : Value) : Bool :=
  match asNumber? a, asNumber? b with
  | some x, some y => sameNumber x y
  | none, none => a.literal == b.literal
  | _, _ => false

def isKey : Value → Bool
  | .list _ | .set _ | .map _ | .again _ => false
  | _ => true

def put (key value : Value) : List (Value × Value) → List (Value × Value)
  | [] => [(key, value)]
  | e :: es => if sameKey e.1 key then (e.1, value) :: es else e :: put key value es

def entries (pairs : List (Value × Value)) : Except Fault (List (Value × Value)) :=
  pairs.foldlM (fun es (k, v) => if isKey k then .ok (put k v es) else .error .mistyped) []

/-! ## Merging -/

def isMerge (e : Node × Node) : Bool := e.1.tag? == some .merge

def isDefault (e : Node × Node) : Bool := e.1.tag? == some .default

/-- The key of the default value is a text where it is a key. -/
def asKey (n : Node) : Node := if n.tag? == some .default then n.withTag .text else n

mutual

/-- The entries of a mapping behind those that it merges, later sources first. -/
def merged : Nat → List (Node × Node) → Except Fault (List (Node × Node))
  | 0, _ => .error .malformed
  | fuel + 1, es => do
    let own := (es.filter fun e => !isMerge e).map fun e => (asKey e.1, e.2)
    let sources ← (es.filter isMerge).mapM fun e => mergeSource fuel e.2
    .ok (sources.flatten ++ own)

def mergeSource : Nat → Node → Except Fault (List (Node × Node))
  | 0, _ => .error .malformed
  | fuel + 1, n =>
    match n with
    | .mapping _ es => merged fuel es
    | .sequence _ ns => do
      let sources ← ns.mapM fun n =>
        match n with
        | .mapping _ es => merged fuel es
        | _ => .error .mistyped
      .ok sources.reverse.flatten
    | _ => .error .mistyped

end

/-! ## Nodes -/

/-- The text of a node: for a mapping, that of its default value. -/
def textOf : Nat → Node → Except Fault (List Char)
  | 0, _ => .error .malformed
  | fuel + 1, n =>
    match n with
    | .scalar _ text => .ok text
    | .mapping _ es =>
      match es.find? isDefault with
      | some e => textOf fuel e.2
      | none => .error .mistyped
    | _ => .error .mistyped

mutual

def value : Nat → Node → Except Fault Value
  | 0, _ => .error .malformed
  | fuel + 1, n =>
    match n with
    | .scalar tag text => scalar tag text
    | .again isMap => .ok (.again isMap)
    | .sequence tag ns =>
      match tag with
      | .sequence => do .ok (.list (← ns.mapM (value fuel)))
      | .orderedMap | .pairs => do .ok (.list (← ns.mapM (single fuel)))
      | _ => .error .mistyped
    | .mapping tag es =>
      match tag with
      | .mapping => do .ok (.map (← mapping fuel es))
      | .set => do .ok (.set ((← mapping fuel es).map (·.1)))
      | .sequence | .orderedMap | .pairs | .unknown | .merge | .default => .error .mistyped
      -- a date is looked for in the mapping itself
      | .timestamp => do
        let _ ← textOf fuel n
        .error .textless
      | _ => do scalar tag (← textOf fuel n)

def mapping : Nat → List (Node × Node) → Except Fault (List (Value × Value))
  | 0, _ => .error .malformed
  | fuel + 1, es => do
    let es ← merged (fuel + 1) es
    entries (← es.mapM fun e => do .ok (← value fuel e.1, ← value fuel e.2))

def single : Nat → Node → Except Fault Value
  | 0, _ => .error .malformed
  | fuel + 1, n =>
    match n with
    | .mapping _ [(k, v)] => do .ok (.tuple [← value fuel k, ← value fuel v])
    | _ => .error .mistyped

end

end Content

/-! ## Texts -/

def isForbidden (c : Char) : Bool :=
  let n := c.toNat
  !(n == 0x9 || n == 0xa || n == 0xd || (0x20 ≤ n && n ≤ 0x7e) || n == 0x85 ||
    (0xa0 ≤ n && n ≤ 0xfffd) || 0x10000 ≤ n)

def read (text : List Char) : Except Fault Value := do
  if text.any isForbidden then .error .malformed
  else
    match ← Node.ofTokens (← Token.ofText text) with
    | none => .ok .null
    | some n => Content.value (8 * text.length + 16) n

end Changeset.Yaml
