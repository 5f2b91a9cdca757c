import DelimiterScan.Text.Measure

/-!
# Cursors

A cursor is a place in a text. Moving it on loses nothing (`advance_text`), and it always comes
nearer to the end (`length_rest_advance_lt`).
-/

namespace DelimiterScan

/-- Where a scan stands: the text it has passed, and the text ahead. -/
structure Cursor where
  before : String
  rest : List Char

namespace Cursor

def ofText (text : String) : Cursor := ⟨"", text.toList⟩

def offset (cur : Cursor) : Nat := cur.before.utf8ByteSize

/-- The text that a step of the given width passes: at least a character, and whole ones. -/
def passed (cur : Cursor) (width : Nat) : String :=
  String.ofList (Text.splitBytes (max width 1) cur.rest).1

/-- Moves on by a width in bytes, by at least a character and past whole ones. -/
def advance (cur : Cursor) (width : Nat) : Cursor :=
  let (passed, rest) := Text.splitBytes (max width 1) cur.rest
  ⟨cur.before ++ String.ofList passed, rest⟩

def text (cur : Cursor) : String := cur.before ++ String.ofList cur.rest

@[simp] theorem advance_before (cur : Cursor) (width : Nat) :
    (cur.advance width).before = cur.before ++ cur.passed width := rfl

@[simp] theorem advance_rest (cur : Cursor) (width : Nat) :
    (cur.advance width).rest = (Text.splitBytes (max width 1) cur.rest).2 := rfl

@[simp] theorem offset_advance (cur : Cursor) (width : Nat) :
    (cur.advance width).offset = cur.offset + (cur.passed width).utf8ByteSize :=
  String.utf8ByteSize_append

/-- A text ahead that begins with `xs` is passed exactly by a step as wide as `xs`. -/
theorem advance_byteSize {cur : Cursor} {xs ys : List Char} (h : cur.rest = xs ++ ys)
    (hxs : xs ≠ []) : cur.advance (Text.byteSize xs) = ⟨cur.before ++ String.ofList xs, ys⟩ := by
  have hpos : 1 ≤ Text.byteSize xs := by
    cases xs with
    | nil => exact absurd rfl hxs
    | cons x xs =>
      have := x.utf8Size_pos
      simp only [Text.byteSize_cons]
      omega
  simp [advance, h, Nat.max_eq_left hpos, Text.splitBytes_byteSize_append]

theorem advance_text (cur : Cursor) (width : Nat) : (cur.advance width).text = cur.text := by
  simp only [text, advance_before, advance_rest, passed, String.append_assoc,
    ← String.ofList_append, Text.splitBytes_append]

theorem length_rest_advance_lt {cur : Cursor} (width : Nat) (h : cur.rest ≠ []) :
    (cur.advance width).rest.length < cur.rest.length :=
  Text.length_splitBytes_lt (Nat.lt_of_lt_of_le Nat.zero_lt_one (Nat.le_max_right width 1)) h

end Cursor

end DelimiterScan
