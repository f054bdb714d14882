import Changeset.Text.LetterTable

/-!
# Letter case

Lower and upper case of whole texts. Two letters need more than the tables: a
capital sigma becomes a final sigma where a word ends, and the dotted capital I
becomes two characters.
-/

namespace Changeset.Letter

def mapRuns (runs : List Run) (n : Nat) : Nat :=
  match runs.find? (·.covers n) with
  | some r => r.image n
  | none => n

/-- Whether a cased letter is next, marks and apostrophes looked through. -/
def meetsCased (cs : List Char) : Bool :=
  match cs.dropWhile fun c => Span.contains ignorable c.toNat with
  | [] => false
  | c :: _ => Span.contains cased c.toNat

def lowerChar (c : Char) : List Char :=
  if c = 'İ' then ['i', '\u0307'] else [Char.ofNat (mapRuns lowerRuns c.toNat)]

/-- Lower case of `cs`, where `before` holds what precedes it, nearest first. -/
def lowerFrom (before : List Char) : List Char → List Char
  | [] => []
  | c :: cs =>
    let image :=
      if c = 'Σ' then
        [if meetsCased before && !meetsCased cs then 'ς' else 'σ']
      else lowerChar c
    image ++ lowerFrom (c :: before) cs

def lower (s : String) : String := String.ofList (lowerFrom [] s.toList)

def upperChar (c : Char) : List Char :=
  match upperSpecial.lookup c.toNat with
  | some image => image.map Char.ofNat
  | none => [Char.ofNat (mapRuns upperRuns c.toNat)]

def upper (s : String) : String := String.ofList (s.toList.flatMap upperChar)

end Changeset.Letter
