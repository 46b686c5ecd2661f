import DiagnosticLens.Proofs.Lines

/-!
# Offsets and excerpts

The two maps of a document on plain text: the offset of a position is the length of the lines before
it and of as many characters of its own line as its column takes, and the text of a span consists of
the characters from its first offset up to its last. Neither evaluation stops with a fault.
-/

namespace DiagnosticLens

open Text

/-- The characters of a text that a span covers. -/
def excerpt (text : String) (span : TextSpan) : String :=
  String.ofList ((text.toList.drop span.start).take span.charLen)

theorem charsReaching_le (units : Nat) (cs : List Char) : charsReaching units cs ≤ cs.length := by
  induction cs generalizing units with
  | nil => simp [charsReaching]
  | cons c cs ih =>
      rw [charsReaching, List.length_cons]
      split
      · omega
      · exact Nat.succ_le_succ (ih _)

theorem TextLine.split_ne_nil (cs opened : List Char) : TextLine.split cs opened ≠ [] := by
  fun_induction TextLine.split cs opened <;> simp_all

namespace Document

/-- A cut between two bounds of the text gives what lies between them. -/
theorem cut_of_append {d : Document} {front middle back : List Char}
    (h : d.text.toList = front ++ middle ++ back) :
    d.cut (byteLen front) (byteLen front + byteLen middle) = .ok middle := by
  rw [cut, h, sliceBytes?_append]

/-- The offset of a position is found without a fault. -/
theorem checkedOffset_eq (d : Document) (p : Position) :
    d.checkedOffset p = .ok (match (textLines d.text)[p.line.toNat]? with
      | none => d.text.length
      | some line =>
          (d.before p.line.toNat).length + charsReaching p.character.toNat line.content) := by
  rw [checkedOffset, lines_getElem?]
  cases hline : (textLines d.text)[p.line.toNat]? with
  | none => simp
  | some line =>
      simp only [Option.map_some, cut_of_append (toList_eq_of_line hline)]
      rfl

/-- The offset of a position: the end of the text behind the last line, and otherwise a place in the
content of its line. -/
theorem offsetOf_eq (d : Document) (p : Position) :
    d.offsetOf p = match (textLines d.text)[p.line.toNat]? with
      | none => d.text.length
      | some line =>
          (d.before p.line.toNat).length + charsReaching p.character.toNat line.content := by
  rw [offsetOf, checkedOffset_eq]
  rfl

/-- No position lies behind the end of the text. -/
theorem offsetOf_le (d : Document) (p : Position) : d.offsetOf p ≤ d.text.length := by
  rw [offsetOf_eq]
  cases hline : (textLines d.text)[p.line.toNat]? with
  | none => exact Nat.le_refl _
  | some line =>
      have hreach := charsReaching_le p.character.toNat line.content
      have hlength := congrArg List.length (toList_eq_of_line hline)
      simp only [List.length_append, String.length_toList] at hlength
      simp only
      omega

/-- The search for the line of an offset ends at a line that begins at or before the offset. -/
theorem exists_line_at (d : Document) (offset : Nat) :
    ∃ i line, Text.partitionPoint (fun l => decide (l.startChar ≤ offset)) d.lines - 1 = i ∧
      (textLines d.text)[i]? = some line ∧ (d.before i).length ≤ offset := by
  have hfirst : d.lines[0]?.any (fun l => decide (l.startChar ≤ offset)) = true := by
    obtain ⟨line, lines, hlines⟩ := List.exists_cons_of_ne_nil
      (TextLine.split_ne_nil d.text.toList [])
    simp [lines_getElem?, textLines, hlines, before]
  have hpass := any_partitionPoint_sub_one _ d.lines hfirst
  rw [lines_getElem?] at hpass
  cases hline : (textLines d.text)[Text.partitionPoint
      (fun l => decide (l.startChar ≤ offset)) d.lines - 1]? with
  | none => simp [hline] at hpass
  | some line => exact ⟨_, line, rfl, hline, by simpa [hline] using hpass⟩

/-- The byte at which an offset stands is the number of bytes before it. -/
theorem checkedByte_eq (d : Document) (offset : Nat) :
    d.checkedByte offset = .ok (byteLen (d.text.toList.take offset)) := by
  obtain ⟨i, line, hi, hline, hbefore⟩ := d.exists_line_at offset
  obtain ⟨behind, htext⟩ : ∃ behind, d.text.toList = d.before i ++ behind :=
    ⟨_, (toList_eq_of_line hline).trans (List.append_assoc _ _ _)⟩
  have hcut : d.cut (byteLen (d.before i)) d.text.utf8ByteSize = .ok behind := by
    rw [utf8ByteSize_eq_byteLen, htext, byteLen_append]
    exact cut_of_append (htext.trans (List.append_nil _).symm)
  have htake : d.text.toList.take offset =
      d.before i ++ behind.take (offset - (d.before i).length) := by
    rw [htext, List.take_append, List.take_of_length_le hbefore]
  have hlength : d.text.length = (d.before i).length + behind.length := by
    rw [← String.length_toList, htext, List.length_append]
  simp only [checkedByte, hi, lines_getElem?, hline, Option.map_some, hcut, bind, Except.bind,
    if_pos hbefore, byteOfChar?_eq, htake]
  by_cases hend : offset - (d.before i).length < behind.length
  · simp [hend, pure, Except.pure]
  · -- only the end of the text has no character behind it, and all bytes stand before that
    have hall : behind.take (offset - (d.before i).length) = behind :=
      List.take_of_length_le (by omega)
    simp [hend, hall, pure, Except.pure, utf8ByteSize_eq_byteLen, htext]

/-- A text is cut at two offsets without a fault, unless the second is behind its end. -/
theorem checkedText_eq (d : Document) (span : TextSpan) :
    d.checkedText span =
      .ok (if span.stop ≤ d.text.length then some (excerpt d.text span) else none) := by
  have hlt := span.start_lt_stop
  by_cases hstop : span.stop ≤ d.text.length
  · have hmiddle : d.text.toList.take span.stop = d.text.toList.take span.start ++
        (d.text.toList.drop span.start).take span.charLen := by
      have hsum : span.start + (span.stop - span.start) = span.stop := by omega
      rw [TextSpan.charLen, ← List.take_add, hsum]
    have hcut : d.cut (byteLen (d.text.toList.take span.start))
        (byteLen (d.text.toList.take span.stop)) =
          .ok ((d.text.toList.drop span.start).take span.charLen) := by
      have htext := (List.take_append_drop span.stop d.text.toList).symm
      rw [hmiddle] at htext
      rw [hmiddle, byteLen_append]
      exact cut_of_append htext
    simp [checkedText, checkedByte_eq, hcut, hstop, excerpt, bind, Except.bind, pure, Except.pure]
  · simp [checkedText, hstop, Nat.lt_of_not_le hstop, pure, Except.pure]

/-- The text of a span is its excerpt, as long as the span ends inside the text. -/
theorem textIn_eq (d : Document) (span : TextSpan) :
    d.textIn span = if span.stop ≤ d.text.length then some (excerpt d.text span) else none := by
  rw [textIn, checkedText_eq]
  rfl

end Document

/-- An excerpt inside a text has as many characters as its span covers. -/
theorem length_excerpt {text : String} {span : TextSpan} (h : span.stop ≤ text.length) :
    (excerpt text span).length = span.charLen := by
  have hlt := span.start_lt_stop
  rw [excerpt, ← String.length_toList, String.toList_ofList, List.length_take, List.length_drop,
    String.length_toList, TextSpan.charLen]
  omega

end DiagnosticLens
