import Changeset.Text.Utf8

/-!
# Encoded text decodes

`decode_encode`: what the characters of a text are encoded as decodes to these
characters. The decoder is followed through one character, in front of whatever
octets (`decodeFrom_encodeChar`), with one case for each length of a character.
-/

namespace Changeset.Utf8

-- ---------------------------------------------------------------------------
-- One character
-- ---------------------------------------------------------------------------

section
variable {b : UInt8} {bs rest : List UInt8} {n worth least greatest position : Nat}

theorem complete_cons (h : least ≤ b.toNat ∧ b.toNat ≤ greatest) :
    complete (n + 1) worth least greatest (b :: bs) =
      complete n (worth * 64 + (b.toNat - 0x80)) 0x80 0xbf bs := by
  simp [complete, h]

theorem decodeFrom_of_lt (h : b.toNat < 0x80) :
    decodeFrom position (b :: bs) =
      (decodeFrom (position + 1) bs).map (Char.ofNat b.toNat :: ·) := by
  rw [decodeFrom, if_pos h]

theorem decodeFrom_of_lead {l : Lead} (hb : ¬ b.toNat < 0x80) (hl : lead? b.toNat = some l)
    (hc : complete l.count l.worth l.least l.greatest bs = .ok (n, rest)) :
    decodeFrom position (b :: bs) =
      (decodeFrom (position + l.count + 1) rest).map (Char.ofNat n :: ·) := by
  rw [decodeFrom, if_neg hb, hl]
  simp only
  split
  · rename_i h
    rw [hc] at h
    cases h
  · rename_i h
    rw [hc] at h
    cases h
    rfl

end

theorem toNat_ofNat {a : Nat} (ha : a < 256) : (UInt8.ofNat a).toNat = a :=
  UInt8.toNat_ofNat_of_lt' ha

theorem complete_ofNat {a n worth least greatest : Nat} {bs : List UInt8} (ha : a < 256)
    (h : least ≤ a ∧ a ≤ greatest) :
    complete (n + 1) worth least greatest (UInt8.ofNat a :: bs) =
      complete n (worth * 64 + (a - 0x80)) 0x80 0xbf bs := by
  have hnat := toNat_ofNat ha
  rw [complete_cons (hnat.symm ▸ h), hnat]

theorem decodeFrom_ofNat {a n position : Nat} {bs rest : List UInt8} {l : Lead}
    (ha : 0x80 ≤ a ∧ a < 256) (hl : lead? a = some l)
    (hc : complete l.count l.worth l.least l.greatest bs = .ok (n, rest)) :
    decodeFrom position (UInt8.ofNat a :: bs) =
      (decodeFrom (position + l.count + 1) rest).map (Char.ofNat n :: ·) := by
  have hnat := toNat_ofNat ha.2
  exact decodeFrom_of_lead (by omega) (hnat.symm ▸ hl) hc

theorem lead?_two {a : Nat} (h : 0xc2 ≤ a ∧ a < 0xe0) :
    lead? a = some ⟨1, a - 0xc0, 0x80, 0xbf⟩ := by
  rw [lead?, if_neg (by omega), if_pos h.2]

theorem lead?_three {a : Nat} (h : 0xe0 ≤ a ∧ a < 0xf0) :
    lead? a = some ⟨2, a - 0xe0, if a = 0xe0 then 0xa0 else 0x80,
      if a = 0xed then 0x9f else 0xbf⟩ := by
  rw [lead?, if_neg (by omega), if_neg (by omega), if_pos h.2]

theorem lead?_four {a : Nat} (h : 0xf0 ≤ a ∧ a < 0xf5) :
    lead? a = some ⟨3, a - 0xf0, if a = 0xf0 then 0x90 else 0x80,
      if a = 0xf4 then 0x8f else 0xbf⟩ := by
  rw [lead?, if_neg (by omega), if_neg (by omega), if_neg (by omega), if_pos h.2]

/-- A further octet holds the six lowest bits of what is left of the number. -/
theorem complete_tail {m n worth : Nat} {bs : List UInt8} :
    complete (n + 1) worth 0x80 0xbf (UInt8.ofNat (m % 64 + 128) :: bs) =
      complete n (worth * 64 + m % 64) 0x80 0xbf bs := by
  rw [complete_ofNat (by omega) (by omega), Nat.add_sub_cancel]

theorem decodeFrom_encodeChar (c : Char) (position : Nat) (bs : List UInt8) :
    decodeFrom position (String.utf8EncodeChar c ++ bs) =
      (decodeFrom (position + c.utf8Size) bs).map (c :: ·) := by
  have hc : Char.ofNat c.val.toNat = c := Char.ofNat_toNat c
  have hvalid : c.val.toNat < 0xd800 ∨ 0xdfff < c.val.toNat ∧ c.val.toNat < 0x110000 := c.valid
  rw [← String.length_utf8EncodeChar]
  simp only [String.utf8EncodeChar]
  generalize c.val.toNat = v at hc hvalid
  subst hc
  -- One case for each length.
  split
  · have hnat : (UInt8.ofNat v).toNat = v := toNat_ofNat (by omega)
    rw [List.singleton_append, decodeFrom_of_lt (by omega), hnat]
    rfl
  split
  · simp only [List.cons_append, List.nil_append]
    refine decodeFrom_ofNat (by omega) (lead?_two (by omega)) (complete_tail.trans ?_)
    rw [complete]
    congr 2
    simp only
    omega
  split
  · simp only [List.cons_append, List.nil_append]
    refine decodeFrom_ofNat (by omega) (lead?_three (by omega)) ?_
    simp only
    rw [complete_ofNat (by omega) (by split <;> split <;> omega), complete_tail, complete]
    congr 2
    omega
  · simp only [List.cons_append, List.nil_append]
    refine decodeFrom_ofNat (by omega) (lead?_four (by omega)) ?_
    simp only
    rw [complete_ofNat (by omega) (by split <;> split <;> omega), complete_tail, complete_tail,
      complete]
    congr 2
    omega

-- ---------------------------------------------------------------------------
-- Texts
-- ---------------------------------------------------------------------------

theorem encode_nil : encode [] = [] := rfl

theorem encode_cons (c : Char) (cs : List Char) :
    encode (c :: cs) = String.utf8EncodeChar c ++ encode cs := List.flatMap_cons

theorem encode_append (cs ds : List Char) : encode (cs ++ ds) = encode cs ++ encode ds :=
  List.flatMap_append

theorem decodeFrom_encode (position : Nat) (cs : List Char) :
    decodeFrom position (encode cs) = .ok cs := by
  induction cs generalizing position with
  | nil => rw [encode_nil, decodeFrom]
  | cons c cs ih =>
    rw [encode_cons, decodeFrom_encodeChar, ih]
    rfl

theorem decode_encode (cs : List Char) : decode (encode cs) = .ok cs := decodeFrom_encode 0 cs

end Changeset.Utf8
