import Changeset.Proofs.Text.Utf8
import Changeset.Text.Extent
import Mathlib.Data.List.Induction

/-!
# Marks are positions

A mark counts the octets of what stands before it, and a position the
characters. Both are counted along the text, so the line of a mark is cut out of
the UTF-8 exactly where it is cut out of the text, and what the octets say is
what the characters say: `position_behind`, and `text_ofAhead` for extents.

Whatever is done to a place of a text gives a place of the text
(`Place.IsIn`), or the empty place, which is one of every text.
-/

namespace Changeset

namespace Utf8

/-- What stands between two texts decodes as if it stood alone. -/
theorem slice_encode (a b c : List Char) :
    slice (encode (a ++ b ++ c)) (encode a).length (encode (a ++ b)).length = .ok b := by
  rw [slice, encode_append (a ++ b) c, List.take_left, encode_append, List.drop_left, decode_encode]

end Utf8

-- ---------------------------------------------------------------------------
-- Marks
-- ---------------------------------------------------------------------------

namespace Mark

def behind (cs : List Char) : Mark := cs.foldl next start

theorem behind_concat (cs : List Char) (c : Char) : behind (cs ++ [c]) = (behind cs).next c := by
  rw [behind, behind, List.foldl_append]
  rfl

theorem octets_next (m : Mark) (c : Char) : (m.next c).octets = m.octets + c.utf8Size := by
  rw [next]
  split <;> rfl

theorem octets_behind (cs : List Char) : (behind cs).octets = (Utf8.encode cs).length := by
  induction cs using List.reverseRecOn with
  | nil => rfl
  | append_singleton cs c ih =>
    rw [behind_concat, octets_next, ih, Utf8.encode_append, List.length_append, Utf8.encode_cons,
      Utf8.encode_nil, List.append_nil, String.length_utf8EncodeChar]

/-- What a mark and a position count: whole lines, and the beginning of one. -/
theorem exists_line (cs : List Char) :
    ∃ lines line, cs = lines ++ line ∧ (behind cs).column = (Utf8.encode line).length ∧
      Position.start.advance cs = ⟨(behind cs).row + 1, line.length⟩ := by
  induction cs using List.reverseRecOn with
  | nil => exact ⟨[], [], rfl, rfl, rfl⟩
  | append_singleton cs c ih =>
    obtain ⟨lines, line, rfl, hcolumn, hposition⟩ := ih
    rw [behind_concat, Position.advance_append, hposition]
    by_cases hc : c = '\n'
    · exact ⟨lines ++ line ++ [c], [], by simp, by simp [next, hc, Utf8.encode_nil],
        by simp [next, Position.next, hc]⟩
    · refine ⟨lines, line ++ [c], by simp, ?_, by simp [next, Position.next, hc]⟩
      rw [next, if_neg hc, Utf8.encode_append, List.length_append, ← hcolumn, Utf8.encode_cons,
        Utf8.encode_nil, List.append_nil, String.length_utf8EncodeChar]

/-- The position that is decoded from the octets of a line is the one that its characters have. -/
theorem position_behind (cs rest : List Char) :
    (behind cs).position (Utf8.encode (cs ++ rest)) = .ok (Position.start.advance cs) := by
  obtain ⟨lines, line, rfl, hcolumn, hposition⟩ := exists_line cs
  have hline : (behind (lines ++ line)).octets - (behind (lines ++ line)).column =
      (Utf8.encode lines).length := by
    rw [octets_behind, hcolumn, Utf8.encode_append, List.length_append, Nat.add_sub_cancel]
  rw [position, hline, octets_behind, Utf8.slice_encode, hposition]
  rfl

theorem row_behind (cs : List Char) : (behind cs).row = cs.count '\n' := by
  obtain ⟨_, _, -, -, hposition⟩ := exists_line cs
  have hline := Position.line_advance .start cs
  rw [hposition, Position.start] at hline
  simp only at hline
  omega

end Mark

-- ---------------------------------------------------------------------------
-- Places
-- ---------------------------------------------------------------------------

namespace Place

theorem advance_append (m : Mark) (cs rest : List Char) :
    (⟨m, cs ++ rest⟩ : Place).advance cs.length = ⟨cs.foldl Mark.next m, rest⟩ := by
  induction cs generalizing m with
  | nil => rfl
  | cons c cs ih => exact ih (m.next c)

/-- A place of the text `s`, or of a text that `s` begins with. -/
def IsIn (p : Place) (s : List Char) : Prop :=
  ∃ before, p.toMark = Mark.behind before ∧ before ++ p.ahead <+: s

variable {p : Place} {s : List Char}

theorem isIn_ofText (s : List Char) : (ofText s).IsIn s := ⟨[], rfl, List.prefix_rfl⟩

theorem isIn_ofText_nil (s : List Char) : (ofText []).IsIn s := ⟨[], rfl, List.nil_prefix⟩

theorem IsIn.step (h : p.IsIn s) : p.step.IsIn s := by
  obtain ⟨before, hmark, hs⟩ := h
  rw [Place.step]
  split
  · exact ⟨before, hmark, hs⟩
  · rename_i c cs hahead
    refine ⟨before ++ [c], ?_, ?_⟩
    · rw [Mark.behind_concat, ← hmark]
    · rw [hahead] at hs
      simpa using hs

theorem IsIn.advance (h : p.IsIn s) (n : Nat) : (p.advance n).IsIn s := by
  induction n generalizing p with
  | zero => exact h
  | succ n ih => exact ih h.step

theorem IsIn.skip (h : p.IsIn s) (f : Char → Bool) : (p.skip f).IsIn s := h.advance _

theorem IsIn.exists_prefix (h : p.IsIn s) :
    ∃ before, before <+: s ∧ p.octets = (Utf8.encode before).length ∧
      p.position (Utf8.encode s) = .ok (Position.start.advance before) := by
  obtain ⟨before, hmark, hs⟩ := h
  obtain ⟨rest, rfl⟩ := (List.prefix_append before p.ahead).trans hs
  rw [hmark]
  exact ⟨before, List.prefix_append _ _, Mark.octets_behind before, Mark.position_behind before rest⟩

end Place

-- ---------------------------------------------------------------------------
-- Extents
-- ---------------------------------------------------------------------------

namespace Extent

theorem ofAhead_append (before text rest : List Char) :
    ofAhead (before ++ (text ++ rest)) (text ++ rest) text.length =
      ⟨.behind before, .behind (before ++ text)⟩ := by
  have hlength : (before ++ (text ++ rest)).length - (text ++ rest).length = before.length := by
    simp
  rw [ofAhead, hlength, Place.ofText, Place.advance_append, Place.advance_append, Mark.behind,
    Mark.behind, List.foldl_append]

theorem text_behind (before text rest : List Char) :
    (⟨.behind before, .behind (before ++ text)⟩ : Extent).text
      (Utf8.encode (before ++ (text ++ rest))) = .ok text := by
  rw [Extent.text, Mark.octets_behind, Mark.octets_behind, ← List.append_assoc, Utf8.slice_encode]

theorem endLine_behind (before text : List Char) :
    (⟨.behind before, .behind (before ++ text)⟩ : Extent).endLine =
      (Position.start.advance before).line + text.count '\n' := by
  rw [endLine, Mark.row_behind, Position.line_advance, List.count_append]
  show before.count '\n' + text.count '\n' + 1 = 1 + before.count '\n' + text.count '\n'
  omega

end Extent

end Changeset
