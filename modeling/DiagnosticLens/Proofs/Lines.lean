import DiagnosticLens.Proofs.Cuts
import DiagnosticLens.Text.Document

/-!
# Lines and their index

A text is a list of lines, each a content and a line end, of which the last has no line end. The
index of a document is nothing but the layout of these lines: where each begins, in bytes and in
characters, and where its content ends.

## Implementation notes

`TextLine.split` goes through the text in the same way as the index does, with the content of the
open line in place of its bounds. So the index and the lines are compared step by step, and whatever
is said about the index later is said about lists of characters.
-/

namespace DiagnosticLens

open Text

/-- A line of a text: its content, and the line end behind it. -/
structure TextLine where
  content : List Char
  ending : List Char
  deriving DecidableEq, Repr

namespace TextLine

/-- All characters of a line. -/
def chars (line : TextLine) : List Char := line.content ++ line.ending

/-- The lines of a text behind the start of an open line. -/
def split : List Char → List Char → List TextLine
  | [], opened => [⟨opened, []⟩]
  | '\r' :: '\n' :: rest, opened => ⟨opened, ['\r', '\n']⟩ :: split rest []
  | '\n' :: rest, opened => ⟨opened, ['\n']⟩ :: split rest []
  | '\r' :: rest, opened => ⟨opened, ['\r']⟩ :: split rest []
  | c :: rest, opened => split rest (opened ++ [c])

/-- All characters of some lines. -/
def join (lines : List TextLine) : List Char := lines.flatMap chars

@[simp] theorem join_nil : join [] = [] := rfl

@[simp] theorem join_cons (line : TextLine) (lines : List TextLine) :
    join (line :: lines) = line.content ++ (line.ending ++ join lines) := by
  simp [join, chars]

@[simp] theorem join_append (lines more : List TextLine) :
    join (lines ++ more) = join lines ++ join more := by
  simp [join]

/-- The lines of a text put together are the text. -/
theorem join_split (cs opened : List Char) : join (split cs opened) = opened ++ cs := by
  fun_induction split cs opened with
  | case1 opened => simp
  | case2 opened rest ih => simp [ih]
  | case3 opened rest ih => simp [ih]
  | case4 opened rest _ ih => simp [ih]
  | case5 opened c rest _ _ _ ih => simp [ih]

/-- The bounds of lines that begin at a byte and a character. -/
def layout (byte char : Nat) : List TextLine → List LineBounds
  | [] => []
  | line :: lines =>
      ⟨byte, byte + byteLen line.content, char⟩ ::
        layout (byte + byteLen line.chars) (char + line.chars.length) lines

/-- Each line begins behind the lines before it, and its content ends before its line end. -/
theorem layout_getElem? (byte char : Nat) (lines : List TextLine) (i : Nat) :
    (layout byte char lines)[i]? = lines[i]?.map fun line =>
      ⟨byte + byteLen (join (lines.take i)),
        byte + byteLen (join (lines.take i)) + byteLen line.content,
        char + (join (lines.take i)).length⟩ := by
  induction lines generalizing byte char i with
  | nil => simp [layout]
  | cons line lines ih =>
      cases i with
      | zero => simp [layout]
      | succ i =>
          simp only [layout, List.getElem?_cons_succ, ih]
          simp [chars, Nat.add_assoc]

end TextLine

/-- Closing the open line at a line end lays out that line and leaves the cursor at the start of the
next one; characters are counted up to the end of the text in either case. -/
theorem close_line (ending rest : List Char) (lines : List TextLine) {opened : List Char}
    {cur : LineCursor} {n : Nat} (hbyte : cur.byte = cur.startByte + byteLen opened)
    (hchar : cur.char = cur.startChar + opened.length)
    (hsize : byteLen ending = n) (hlength : ending.length = n) :
    (cur.close :: TextLine.layout (cur.openNext n).startByte (cur.openNext n).startChar lines,
        (cur.openNext n).char + rest.length) =
      (TextLine.layout cur.startByte cur.startChar (⟨opened, ending⟩ :: lines),
        cur.char + (ending ++ rest).length) := by
  simp only [TextLine.layout, TextLine.chars, LineCursor.close, LineCursor.openNext, byteLen_append,
    List.length_append, hsize, hlength, hbyte, hchar, Nat.add_assoc]

/-- The index from a cursor on is the layout of the lines from there on, the open line included. -/
theorem indexLinesFrom_eq (cs opened : List Char) (cur : LineCursor)
    (hbyte : cur.byte = cur.startByte + byteLen opened)
    (hchar : cur.char = cur.startChar + opened.length) :
    indexLinesFrom cs cur =
      (TextLine.layout cur.startByte cur.startChar (TextLine.split cs opened),
        cur.char + cs.length) := by
  fun_induction indexLinesFrom cs cur generalizing opened with
  | case1 cur => simp [TextLine.split, TextLine.layout, LineCursor.close, hbyte]
  | case2 rest cur lines count heq ih =>
      obtain ⟨rfl, rfl⟩ := Prod.mk.inj (heq.symm.trans (ih [] rfl rfl))
      rw [TextLine.split]
      exact close_line ['\r', '\n'] rest _ hbyte hchar rfl rfl
  | case3 rest cur lines count heq ih =>
      obtain ⟨rfl, rfl⟩ := Prod.mk.inj (heq.symm.trans (ih [] rfl rfl))
      rw [TextLine.split]
      exact close_line ['\n'] rest _ hbyte hchar rfl rfl
  | case4 rest cur hlone lines count heq ih =>
      obtain ⟨rfl, rfl⟩ := Prod.mk.inj (heq.symm.trans (ih [] rfl rfl))
      rw [TextLine.split.eq_4 _ _ hlone]
      exact close_line ['\r'] rest _ hbyte hchar rfl rfl
  | case5 c rest cur hpair hfeed hreturn ih =>
      rw [ih (opened ++ [c]) (by simp [LineCursor.step, hbyte, Nat.add_assoc])
        (by simp [LineCursor.step, hchar, Nat.add_assoc]), TextLine.split.eq_5 _ _ _ hpair hfeed hreturn]
      simp only [LineCursor.step, List.length_cons, Nat.add_assoc, Nat.add_comm 1]

/-- The lines of a text. -/
def textLines (text : String) : List TextLine := TextLine.split text.toList []

theorem join_textLines (text : String) : TextLine.join (textLines text) = text.toList := by
  simpa [textLines] using TextLine.join_split text.toList []

/-- The index of a text is the layout of its lines, with the number of its characters. -/
theorem indexLines_eq (text : String) :
    indexLines text = ((TextLine.layout 0 0 (textLines text)).toArray, text.length) := by
  simp [indexLines, indexLinesFrom_eq text.toList [] {} rfl rfl, textLines, String.length_toList]

namespace Document

@[simp] theorem text_ofText (text : String) (version : UInt64) :
    (ofText text version).text = text := rfl

/-- The number of characters in a document is that of its text. -/
@[simp] theorem charLen_eq (d : Document) : d.charLen = d.text.length := by
  have h := d.indexed
  rw [indexLines_eq] at h
  exact (Prod.mk.inj h).2.symm

/-- The characters of a document before a line. -/
def before (d : Document) (i : Nat) : List Char := TextLine.join ((textLines d.text).take i)

/-- In front of the next line there is also the line itself. -/
theorem before_succ {d : Document} {i : Nat} {line : TextLine}
    (h : (textLines d.text)[i]? = some line) :
    d.before (i + 1) = d.before i ++ line.content ++ line.ending := by
  rw [before, before, List.take_add_one, h]
  simp

/-- What is before a line is also before every later line. -/
theorem exists_before_append (d : Document) {i j : Nat} (h : i ≤ j) :
    ∃ between, d.before j = d.before i ++ between := by
  refine ⟨TextLine.join (((textLines d.text).drop i).take (j - i)), ?_⟩
  rw [before, before, ← TextLine.join_append, ← List.take_add, Nat.add_sub_cancel' h]

/-- The table of a document lists its lines, each behind those before it. -/
theorem lines_getElem? (d : Document) (i : Nat) :
    d.lines[i]? = (textLines d.text)[i]?.map fun line =>
      ⟨byteLen (d.before i), byteLen (d.before i) + byteLen line.content, (d.before i).length⟩ := by
  have h := d.indexed
  rw [indexLines_eq] at h
  rw [← (Prod.mk.inj h).1, List.getElem?_toArray, TextLine.layout_getElem?]
  simp [before]

/-- A line of a document divides its text into what is before it, the line, and what is behind. -/
theorem toList_eq_of_line {d : Document} {i : Nat} {line : TextLine}
    (h : (textLines d.text)[i]? = some line) :
    d.text.toList = d.before i ++ line.content ++
      (line.ending ++ TextLine.join ((textLines d.text).drop (i + 1))) := by
  have hsplit : textLines d.text =
      (textLines d.text).take i ++ line :: (textLines d.text).drop (i + 1) := by
    obtain ⟨hi, rfl⟩ := List.getElem?_eq_some_iff.mp h
    rw [List.getElem_cons_drop hi, List.take_append_drop]
  calc
    d.text.toList = TextLine.join (textLines d.text) := (join_textLines d.text).symm
    _ = TextLine.join ((textLines d.text).take i ++ line :: (textLines d.text).drop (i + 1)) := by
        rw [← hsplit]
    _ = _ := by simp [before]

end Document

end DiagnosticLens
