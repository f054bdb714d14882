/-!
# Parsers

A parser reads a beginning of a text and hands back what is left, with the
proof that it is an end of the text. So whatever is parsed is a slice of the
source, and repetition ends because each round leaves less.
-/

namespace Changeset.Script

/-- A value read from the front of `s`, and the text behind it. -/
structure Parsed (s : List Char) (α : Type) where
  value : α
  rest : List Char
  suffix : rest <:+ s

def Parser (α : Type) : Type := (s : List Char) → Option (Parsed s α)

/-- A part of the source, and what is left of the source from its beginning on. -/
structure Slice where
  text : List Char
  ahead : List Char
  deriving DecidableEq, Repr

namespace Parser

variable {α β σ : Type}

protected def pure (a : α) : Parser α := fun s => some ⟨a, s, List.suffix_rfl⟩

protected def bind (p : Parser α) (f : α → Parser β) : Parser β := fun s =>
  match p s with
  | none => none
  | some r =>
    match f r.value r.rest with
    | none => none
    | some t => some ⟨t.value, t.rest, t.suffix.trans r.suffix⟩

instance : Monad Parser where
  pure := Parser.pure
  bind := Parser.bind

def fail : Parser α := fun _ => none

protected def orElse (p : Parser α) (q : Unit → Parser α) : Parser α := fun s =>
  match p s with
  | some r => some r
  | none => q () s

instance : OrElse (Parser α) where
  orElse := Parser.orElse

def check (b : Bool) : Parser Unit := if b then Parser.pure () else fail

def ahead : Parser (List Char) := fun s => some ⟨s, s, List.suffix_rfl⟩

def slice (p : Parser (List Char)) : Parser Slice := do
  let s ← ahead
  let text ← p
  pure ⟨text, s⟩

/-- Succeeds where `p` does, and reads nothing. -/
def look (p : Parser α) : Parser α := fun s =>
  match p s with
  | none => none
  | some r => some ⟨r.value, s, List.suffix_rfl⟩

/-- Whether `p` succeeds here; reads nothing. -/
def can (p : Parser α) : Parser Bool := fun s =>
  some ⟨(p s).isSome, s, List.suffix_rfl⟩

def option (p : Parser α) : Parser (Option α) := fun s =>
  match p s with
  | some r => some ⟨some r.value, r.rest, r.suffix⟩
  | none => some ⟨none, s, List.suffix_rfl⟩

def skip (p : Parser α) : Parser Unit := do
  let _ ← option p
  pure ()

def found (p : Parser α) : Parser Bool := do
  let r ← option p
  pure r.isSome

def satisfy (f : Char → Bool) : Parser Char
  | [] => none
  | c :: cs => if f c then some ⟨c, cs, List.suffix_cons c cs⟩ else none

def char (c : Char) : Parser Char := satisfy (· == c)

def literal : List Char → Parser Unit
  | [] => pure ()
  | c :: cs => do
    let _ ← char c
    literal cs

theorem dropWhile_suffix (f : Char → Bool) (s : List Char) : s.dropWhile f <:+ s :=
  ⟨s.takeWhile f, List.takeWhile_append_dropWhile⟩

def takeWhile (f : Char → Bool) : Parser (List Char) := fun s =>
  some ⟨s.takeWhile f, s.dropWhile f, dropWhile_suffix f s⟩

/-- Repeats `step` from `a`, until it fails, says `none`, or reads nothing. -/
def iterate (step : σ → Parser (Option σ)) (a : σ) (s : List Char) : Parsed s σ :=
  match step a s with
  | none => ⟨a, s, List.suffix_rfl⟩
  | some r =>
    match r.value with
    | none => ⟨a, r.rest, r.suffix⟩
    | some b =>
      if r.rest.length < s.length then
        let t := iterate step b r.rest
        ⟨t.value, t.rest, t.suffix.trans r.suffix⟩
      else ⟨b, r.rest, r.suffix⟩
termination_by s.length

def loop (step : σ → Parser (Option σ)) (a : σ) : Parser σ := fun s => some (iterate step a s)

def many (p : Parser α) : Parser (List α) := do
  let items ← loop (fun items => do
    let a ← p
    pure (some (a :: items))) []
  pure items.reverse

def skipMany (p : Parser α) : Parser Unit :=
  loop (fun _ => do
    let _ ← p
    pure (some ())) ()

def many1 (p : Parser α) : Parser (List α) := do
  let a ← p
  let rest ← many p
  pure (a :: rest)

end Parser

end Changeset.Script
