/-!
# Code points

A text is a list of code points. Most of them are characters; the 2048
surrogates are not, but a text that was decoded leniently can hold them alone.
-/

namespace Changeset

inductive CodePoint where
  | char (c : Char)
  /-- The code point `0xD800 + offset`. -/
  | surrogate (offset : Fin 2048)
  deriving DecidableEq, Repr

abbrev Text := List CodePoint

namespace CodePoint

/-- Numbers above the last code point have none. -/
def ofNat? (n : Nat) : Option CodePoint :=
  if h : n.isValidChar then some (.char (Char.ofNatAux n h))
  else if h : n - 0xD800 < 2048 then some (.surrogate ⟨n - 0xD800, h⟩)
  else none

def toChar? : CodePoint → Option Char
  | .char c => some c
  | .surrogate _ => none

def isSurrogate : CodePoint → Bool
  | .char _ => false
  | .surrogate _ => true

def isNewline : CodePoint → Bool
  | .char c => c = '\n'
  | .surrogate _ => false

@[simp] theorem toChar?_char (c : Char) : (char c).toChar? = some c := rfl

@[simp] theorem isNewline_char (c : Char) : (char c).isNewline = decide (c = '\n') := rfl

end CodePoint

namespace Text

def ofChars (cs : List Char) : Text := cs.map .char

def ofString (s : String) : Text := ofChars s.toList

def chars? (t : Text) : Option (List Char) := t.mapM CodePoint.toChar?

@[simp] theorem ofChars_nil : ofChars [] = [] := rfl

@[simp] theorem ofChars_cons (c : Char) (cs : List Char) :
    ofChars (c :: cs) = .char c :: ofChars cs := rfl

@[simp] theorem chars?_nil : chars? [] = some [] := rfl

theorem chars?_cons (p : CodePoint) (t : Text) :
    chars? (p :: t) = p.toChar?.bind fun c => (chars? t).map (c :: ·) := by
  rw [chars?, List.mapM_cons, Option.bind_eq_bind]
  congr 1
  funext c
  rw [Option.map_eq_bind, chars?]
  rfl

theorem chars?_ofChars (cs : List Char) : chars? (ofChars cs) = some cs := by
  induction cs with
  | nil => rfl
  | cons c cs ih => simp [chars?_cons, ih]

theorem eq_ofChars_of_chars? {t : Text} {cs : List Char} (h : chars? t = some cs) :
    t = ofChars cs := by
  induction t generalizing cs with
  | nil => simp_all
  | cons p t ih =>
    rw [chars?_cons] at h
    cases p with
    | surrogate _ => simp [CodePoint.toChar?] at h
    | char c =>
      obtain ⟨ds, hds, rfl⟩ := Option.map_eq_some_iff.1 h
      simp [ih hds]

end Text

end Changeset
