import DiagnosticLens.Proofs.LineDivision
import DiagnosticLens.Proofs.Offsets
import Mathlib.Order.Nat

/-!
# Columns

A column counts UTF-16 code units from the start of a line, an offset counts characters. The column
leads to the first character bound in the content of its line that has at least so many units in
front of it, and to the end of the content if there is none. With the lines of the text, this fixes
the offset of every position.
-/

namespace DiagnosticLens

/-- How many UTF-16 code units some characters take. -/
def utf16Units : List Char → Nat
  | [] => 0
  | c :: cs => utf16Len c + utf16Units cs

@[simp] theorem utf16Units_nil : utf16Units [] = 0 := rfl

@[simp] theorem utf16Units_cons (c : Char) (cs : List Char) :
    utf16Units (c :: cs) = utf16Len c + utf16Units cs := rfl

theorem utf16Len_pos (c : Char) : 0 < utf16Len c := by
  unfold utf16Len
  split <;> decide

namespace Document

end Document

end DiagnosticLens
