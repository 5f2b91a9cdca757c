import DelimiterScan.Cursor
import Mathlib.Data.List.Infix
import Mathlib.Order.Bounds.Defs

/-!
# Widths and character boundaries

A step is given a width in bytes, which may be nothing, fall inside a character or go beyond the
end of the text. The cursor moves to the first character boundary that is far enough
(`isLeast_offset_advance`), and a width that is that of a text ahead passes this text
(`passed_of_begins`).
-/

namespace DelimiterScan

namespace Text

/-- A character of the text begins at the offset, or the text ends there. -/
def IsBoundary (text : String) (offset : Nat) : Prop := String.Pos.Raw.IsValid text ⟨offset⟩

theorem isBoundary_iff {text : String} {offset : Nat} :
    IsBoundary text offset ↔
      ∃ before after, text = before ++ after ∧ before.utf8ByteSize = offset := by
  unfold IsBoundary
  rw [String.Pos.Raw.isValid_iff_exists_append]
  constructor
  · rintro ⟨before, after, htext, hoffset⟩
    exact ⟨before, after, htext, (congrArg String.Pos.Raw.byteIdx hoffset).symm⟩
  · rintro ⟨before, after, htext, rfl⟩
    exact ⟨before, after, htext, rfl⟩

theorem IsBoundary.le {text : String} {offset : Nat} (h : IsBoundary text offset) :
    offset ≤ text.utf8ByteSize := by
  obtain ⟨before, after, rfl, rfl⟩ := isBoundary_iff.mp h
  rw [String.utf8ByteSize_append]
  exact Nat.le_add_right _ _

theorem byteSize_pos {cs : List Char} (h : cs ≠ []) : 0 < byteSize cs := by
  cases cs with
  | nil => exact absurd rfl h
  | cons c cs =>
    have hc := c.utf8Size_pos
    rw [byteSize_cons]
    omega

/-- Of two beginnings of a text, the one with fewer bytes is a beginning of the other. -/
theorem prefix_of_byteSize_le {xs ys cs : List Char} (hxs : xs <+: cs) (hys : ys <+: cs)
    (h : byteSize xs ≤ byteSize ys) : xs <+: ys := by
  rcases List.prefix_or_prefix_of_prefix hxs hys with hbegins | ⟨more, rfl⟩
  · exact hbegins
  · have hmore : more = [] := by
      by_contra hne
      have hpos := byteSize_pos hne
      rw [byteSize_append] at h
      omega
    rw [hmore, List.append_nil]

/-- A cut passes the bytes that are asked for, as far as there are any. -/
theorem min_le_byteSize_splitBytes (n : Nat) (cs : List Char) :
    min n (byteSize cs) ≤ byteSize (splitBytes n cs).1 := by
  induction cs generalizing n with
  | nil => simp
  | cons c cs ih =>
    cases n with
    | zero => simp
    | succ n =>
      have hrest := ih (n + 1 - c.utf8Size)
      simp only [splitBytes, byteSize_cons]
      omega

/-- No beginning of the text that is long enough is shorter than that of the cut. -/
theorem byteSize_splitBytes_le {n : Nat} {cs xs : List Char} (hxs : xs <+: cs)
    (h : min n (byteSize cs) ≤ byteSize xs) : byteSize (splitBytes n cs).1 ≤ byteSize xs := by
  induction cs generalizing n xs with
  | nil => simp
  | cons c cs ih =>
    cases n with
    | zero => simp
    | succ n =>
      cases xs with
      | nil =>
        have hc := c.utf8Size_pos
        simp only [byteSize_cons, byteSize_nil] at h
        omega
      | cons x xs =>
        obtain ⟨rfl, htail⟩ := List.cons_prefix_cons.mp hxs
        simp only [byteSize_cons] at h
        have hrest : byteSize (splitBytes (n + 1 - x.utf8Size) cs).1 ≤ byteSize xs :=
          ih htail (by omega)
        simp only [splitBytes, byteSize_cons]
        omega

end Text

namespace Cursor

variable {cur : Cursor}

theorem isBoundary_offset (cur : Cursor) : Text.IsBoundary cur.text cur.offset :=
  Text.isBoundary_iff.mpr ⟨cur.before, String.ofList cur.rest, rfl, rfl⟩

theorem utf8ByteSize_text (cur : Cursor) :
    cur.text.utf8ByteSize = cur.offset + Text.byteSize cur.rest := by
  simp [text, offset]

/-- The place behind a step is the first boundary that is a byte and the width away, or the end. -/
theorem isLeast_offset_advance (cur : Cursor) (width : Nat) :
    IsLeast {e | Text.IsBoundary cur.text e ∧
      min (cur.offset + max width 1) cur.text.utf8ByteSize ≤ e} (cur.advance width).offset := by
  have hsize := cur.utf8ByteSize_text
  have hpassed : (cur.advance width).offset =
      cur.offset + Text.byteSize (Text.splitBytes (max width 1) cur.rest).1 := by
    simp [passed]
  constructor
  · refine ⟨?_, ?_⟩
    · rw [← advance_text cur width]
      exact isBoundary_offset _
    · have hfar := Text.min_le_byteSize_splitBytes (max width 1) cur.rest
      omega
  · rintro e ⟨hboundary, hfar⟩
    obtain ⟨before, after, htext, rfl⟩ := Text.isBoundary_iff.mp hboundary
    -- The boundary is not before the cursor, so what is between them begins the text ahead.
    have hlists : cur.before.toList ++ cur.rest = before.toList ++ after.toList := by
      simpa [text] using congrArg String.toList htext
    have hbefore : cur.before.toList <+: before.toList := by
      refine Text.prefix_of_byteSize_le (List.prefix_append _ cur.rest)
        (hlists ▸ List.prefix_append _ _) ?_
      rw [Text.byteSize_toList, Text.byteSize_toList]
      have hoffset : cur.offset = cur.before.utf8ByteSize := rfl
      omega
    obtain ⟨between, hbetween⟩ := hbefore
    rw [← hbetween, List.append_assoc] at hlists
    have hrest : cur.rest = between ++ after.toList := List.append_cancel_left hlists
    have hbytes : before.utf8ByteSize = cur.offset + Text.byteSize between := by
      rw [← Text.byteSize_toList, ← hbetween, Text.byteSize_append, Text.byteSize_toList]
      rfl
    have hleast : Text.byteSize (Text.splitBytes (max width 1) cur.rest).1 ≤
        Text.byteSize between :=
      Text.byteSize_splitBytes_le ⟨after.toList, hrest.symm⟩ (by omega)
    omega

theorem passed_of_begins {t : String} (hne : t ≠ "") (h : t.toList <+: cur.rest) :
    cur.passed t.utf8ByteSize = t := by
  obtain ⟨tail, htail⟩ := h
  have hpos : 1 ≤ t.utf8ByteSize := by
    rw [← Text.byteSize_toList]
    exact Text.byteSize_pos (by simpa using hne)
  rw [passed, Nat.max_eq_left hpos, ← htail, ← Text.byteSize_toList,
    Text.splitBytes_byteSize_append, String.ofList_toList]

theorem passed_ne_empty (width : Nat) (h : cur.rest ≠ []) : cur.passed width ≠ "" := by
  intro hpassed
  have hshorter := length_rest_advance_lt width h
  have hkept := Text.splitBytes_append (max width 1) cur.rest
  have hnil : (Text.splitBytes (max width 1) cur.rest).1 = [] := by
    simpa [passed] using hpassed
  rw [hnil, List.nil_append] at hkept
  rw [advance_rest, hkept] at hshorter
  exact Nat.lt_irrefl _ hshorter

theorem offset_lt_advance (width : Nat) (h : cur.rest ≠ []) :
    cur.offset < (cur.advance width).offset := by
  have hpassed := passed_ne_empty width h
  have hpos : 0 < (cur.passed width).utf8ByteSize := by
    rw [← Text.byteSize_toList]
    exact Text.byteSize_pos (by simpa using hpassed)
  rw [offset_advance]
  omega

end Cursor

end DelimiterScan
