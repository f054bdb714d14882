import Changeset.Number.Binary64
import Changeset.Text.Quoted

/-!
# Values

What a configuration file can hold. A value has two spellings: the text that it
stands for where a text is wanted, and the literal that shows its type, which
messages and the texts of collections use.
-/

namespace Changeset

/-- A calendar date with the time of day; the offset from universal time in minutes. -/
structure DateTime where
  year : Nat
  month : Nat
  day : Nat
  hour : Nat
  minute : Nat
  second : Nat
  microsecond : Nat
  offset : Option Int
  deriving DecidableEq, Repr

inductive Value where
  | null
  | bool (b : Bool)
  | int (n : Int)
  | float (x : Binary64)
  | text (s : String)
  | bytes (bs : List UInt8)
  | date (year month day : Nat)
  | dateTime (t : DateTime)
  | list (items : List Value)
  | tuple (items : List Value)
  | set (items : List Value)
  | map (entries : List (Value × Value))
  /-- A collection that is being written already. -/
  | again (isMap : Bool)
  deriving Repr, Inhabited

namespace Value

def padded (width n : Nat) : List Char :=
  let digits := Decimal.ofNat n
  List.replicate (width - digits.length) '0' ++ digits

def dateText (year month day : Nat) : List Char :=
  padded 4 year ++ '-' :: padded 2 month ++ '-' :: padded 2 day

def offsetText (minutes : Int) : List Char :=
  let m := minutes.natAbs
  (if minutes < 0 then '-' else '+') :: padded 2 (m / 60) ++ ':' :: padded 2 (m % 60)

def separated (separator : List Char) : List (List Char) → List Char
  | [] => []
  | [x] => x
  | x :: xs => x ++ separator ++ separated separator xs

def commaSeparated : List (List Char) → List Char := separated [',', ' ']

end Value

namespace DateTime

def text (t : DateTime) : List Char :=
  Value.dateText t.year t.month t.day ++ ' ' :: Value.padded 2 t.hour ++ ':' ::
    Value.padded 2 t.minute ++ ':' :: Value.padded 2 t.second ++
    (if t.microsecond = 0 then [] else '.' :: Value.padded 6 t.microsecond) ++
    match t.offset with
    | none => []
    | some m => Value.offsetText m

/-- A duration of whole days and seconds, which are not negative. -/
def durationLiteral (minutes : Int) : List Char :=
  let days := minutes.fdiv 1440
  let seconds := (minutes.fmod 1440) * 60
  let parts :=
    (if days = 0 then [] else ["days=".toList ++ Decimal.ofInt days]) ++
      if seconds = 0 then [] else ["seconds=".toList ++ Decimal.ofInt seconds]
  "datetime.timedelta(".toList ++ (if parts = [] then ['0'] else Value.commaSeparated parts) ++ [')']

def zoneLiteral (minutes : Int) : List Char :=
  if minutes = 0 then "datetime.timezone.utc".toList
  else "datetime.timezone(".toList ++ durationLiteral minutes ++ [')']

def literal (t : DateTime) : List Char :=
  let seconds :=
    if t.microsecond ≠ 0 then [t.second, t.microsecond] else if t.second ≠ 0 then [t.second] else []
  let numbers := [t.year, t.month, t.day, t.hour, t.minute] ++ seconds
  "datetime.datetime(".toList ++ Value.commaSeparated (numbers.map Decimal.ofNat ++
    match t.offset with
    | none => []
    | some m => ["tzinfo=".toList ++ zoneLiteral m]) ++ [')']

end DateTime

namespace Value

def byteLiteral (quote : Char) (b : UInt8) : List Char :=
  let c := Char.ofNat b.toNat
  if c = quote || c = '\\' then ['\\', c]
  else if c = '\n' then ['\\', 'n']
  else if c = '\r' then ['\\', 'r']
  else if c = '\t' then ['\\', 't']
  else if ' ' ≤ c && c ≤ '~' then [c]
  else '\\' :: 'x' :: Quoted.hex 2 b.toNat

def bytesLiteral (bs : List UInt8) : List Char :=
  let quote := Quoted.quoteFor (bs.map fun b => Char.ofNat b.toNat)
  'b' :: quote :: bs.flatMap (byteLiteral quote) ++ [quote]

mutual

def literalChars : Value → List Char
  | null => ['N', 'o', 'n', 'e']
  | bool true => ['T', 'r', 'u', 'e']
  | bool false => ['F', 'a', 'l', 's', 'e']
  | int n => Decimal.ofInt n
  | float x => x.render
  | text s => Quoted.encode s.toList
  | bytes bs => bytesLiteral bs
  | date y m d =>
    "datetime.date(".toList ++ commaSeparated ([y, m, d].map Decimal.ofNat) ++ [')']
  | dateTime t => t.literal
  | list xs => '[' :: commaSeparated (literals xs) ++ [']']
  | tuple [x] => '(' :: literalChars x ++ [',', ')']
  | tuple xs => '(' :: commaSeparated (literals xs) ++ [')']
  | set [] => "set()".toList
  | set xs => '\x7b' :: commaSeparated (literals xs) ++ ['\x7d']
  | map es => '\x7b' :: commaSeparated (entryLiterals es) ++ ['\x7d']
  | again true => ['\x7b', '.', '.', '.', '\x7d']
  | again false => ['[', '.', '.', '.', ']']

def literals : List Value → List (List Char)
  | [] => []
  | v :: vs => literalChars v :: literals vs

def entryLiterals : List (Value × Value) → List (List Char)
  | [] => []
  | (k, v) :: es => (literalChars k ++ ':' :: ' ' :: literalChars v) :: entryLiterals es

end

def literal (v : Value) : String := String.ofList v.literalChars

def asText : Value → String
  | text s => s
  | date y m d => String.ofList (dateText y m d)
  | dateTime t => String.ofList t.text
  | v => v.literal

/-- Whether a value counts as nothing: null, false, zero, or empty. -/
def isEmpty : Value → Bool
  | null => true
  | bool b => !b
  | int n => n == 0
  | float x => x.isZero
  | text s => s.isEmpty
  | bytes bs => bs.isEmpty
  | list xs | tuple xs | set xs => xs.isEmpty
  | map es => es.isEmpty
  | _ => false

end Value

end Changeset
