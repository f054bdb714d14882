import Changeset.Text.Decimal
import Changeset.Text.Quoted

/-!
# UTF-8

Bytes become characters, or the first bytes that are none are reported with
their place. A character that the bytes break off is told from one that they
contradict.
-/

namespace Changeset.Utf8

inductive Cause where
  | start
  | continuation
  | brokenOff
  deriving DecidableEq, Repr

/-- So many bytes from `position` on are no character. -/
structure Fault where
  cause : Cause
  position : Nat
  bytes : List UInt8
  deriving DecidableEq, Repr

def Cause.message : Cause → String
  | start => "invalid start byte"
  | continuation => "invalid continuation byte"
  | brokenOff => "unexpected end of data"

def Fault.message (f : Fault) : String :=
  let place := match f.bytes with
    | [b] =>
      "byte 0x" ++ String.ofList (Quoted.hex 2 b.toNat) ++ " in position " ++ toString f.position
    | bs =>
      "bytes in position " ++ toString f.position ++ "-" ++ toString (f.position + bs.length - 1)
  "'utf-8' codec can't decode " ++ place ++ ": " ++ f.cause.message

/-- How many bytes follow a first byte, what it is worth, and the range of the next one. -/
structure Lead where
  count : Nat
  worth : Nat
  least : Nat
  greatest : Nat

def lead? (b : Nat) : Option Lead :=
  if b < 0xc2 then none
  else if b < 0xe0 then some ⟨1, b - 0xc0, 0x80, 0xbf⟩
  else if b < 0xf0 then
    some ⟨2, b - 0xe0, if b = 0xe0 then 0xa0 else 0x80, if b = 0xed then 0x9f else 0xbf⟩
  else if b < 0xf5 then
    some ⟨3, b - 0xf0, if b = 0xf0 then 0x90 else 0x80, if b = 0xf4 then 0x8f else 0xbf⟩
  else none

def complete : Nat → Nat → Nat → Nat → List UInt8 → Except (Cause × Nat) (Nat × List UInt8)
  | 0, worth, _, _, bs => .ok (worth, bs)
  | n + 1, _, _, _, [] => .error (.brokenOff, n + 1)
  | n + 1, worth, least, greatest, b :: bs =>
    if least ≤ b.toNat && b.toNat ≤ greatest then
      complete n (worth * 64 + (b.toNat - 0x80)) 0x80 0xbf bs
    else .error (.continuation, n + 1)

theorem length_complete {n worth least greatest : Nat} {bs rest : List UInt8} {m : Nat}
    (h : complete n worth least greatest bs = .ok (m, rest)) : rest.length ≤ bs.length := by
  induction n generalizing worth least greatest bs with
  | zero =>
    simp only [complete, Except.ok.injEq, Prod.mk.injEq] at h
    simp [h.2]
  | succ n ih =>
    cases bs with
    | nil => simp [complete] at h
    | cons b bs =>
      simp only [complete] at h
      split at h
      · have := ih h
        simp only [List.length_cons]
        omega
      · simp at h

def decodeFrom (position : Nat) (bs : List UInt8) : Except Fault (List Char) :=
  match bs with
  | [] => .ok []
  | b :: rest =>
    if b.toNat < 0x80 then
      (decodeFrom (position + 1) rest).map (Char.ofNat b.toNat :: ·)
    else
      match lead? b.toNat with
      | none => .error ⟨.start, position, [b]⟩
      | some l =>
        match h : complete l.count l.worth l.least l.greatest rest with
        | .error (cause, left) => .error ⟨cause, position, b :: rest.take (l.count - left)⟩
        | .ok (n, more) =>
          have := length_complete h
          (decodeFrom (position + l.count + 1) more).map (Char.ofNat n :: ·)
termination_by bs.length
decreasing_by
  · simp
  · simp only [List.length_cons]
    omega

def decode (bs : List UInt8) : Except Fault (List Char) := decodeFrom 0 bs

def encode (cs : List Char) : List UInt8 := cs.flatMap String.utf8EncodeChar

end Changeset.Utf8
