import DiagnosticLens.Proofs.LineTable

/-!
# Evaluations without faults

Positions and spans come from outside and may be anything. Still, neither the offset of a position
nor the text of a span is evaluated with a fault: every cut is made from one bound of characters to
the same or a later one, every line that is taken from the table is there, and no difference is
below zero. The text that a span covers is found whenever the span ends inside the text.

## Implementation notes

A cut gives `Fault.badCut` exactly where it is not from bound to bound, which `Document.cut_ok_iff`
says in terms of the bytes of the text. So the absence of this fault is a statement about bytes, and
does not depend on how cuts are made. Making the index itself has no faults to look for: it goes
through the characters once, and only adds.
-/

namespace DiagnosticLens

namespace Text

/-- A text can be cut from a bound of characters to the same bound or a later one. -/
def CanCut (text : String) (start stop : Nat) : Prop :=
  start ≤ stop ∧ IsBound text start ∧ IsBound text stop

/-- There is a bound wherever a text can be divided into two. -/
theorem isBound_iff {text : String} {byte : Nat} :
    IsBound text byte ↔ ∃ front back, text.toList = front ++ back ∧ byteLen front = byte := by
  constructor
  · intro h
    obtain ⟨front, back, htext, hbyte⟩ := String.Pos.Raw.isValid_iff_exists_append.mp h
    refine ⟨front.toList, back.toList, ?_, ?_⟩
    · rw [htext, String.toList_append]
    · rw [← utf8ByteSize_eq_byteLen]
      exact (congrArg String.Pos.Raw.byteIdx hbyte).symm
  · rintro ⟨front, back, htext, rfl⟩
    exact isBound_of_append htext

theorem isBound_utf8ByteSize (text : String) : IsBound text text.utf8ByteSize := by
  rw [utf8ByteSize_eq_byteLen]
  exact isBound_of_append (List.append_nil _).symm

/-- What is dropped are the bytes of a front. -/
theorem dropBytes?_eq_some_iff {n : Nat} {cs back : List Char} :
    dropBytes? n cs = some back ↔ ∃ front, cs = front ++ back ∧ byteLen front = n := by
  constructor
  · intro h
    fun_induction dropBytes? n cs with
    | case1 cs =>
        obtain rfl := Option.some.inj h
        exact ⟨[], rfl, rfl⟩
    | case2 => cases h
    | case3 n c cs hsize ih =>
        obtain ⟨front, rfl, hfront⟩ := ih h
        refine ⟨c :: front, rfl, ?_⟩
        rw [byteLen_cons, hfront]
        omega
    | case4 => cases h
  · rintro ⟨front, rfl, rfl⟩
    exact dropBytes?_append front back

/-- What is taken are the bytes of a front. -/
theorem takeBytes?_eq_some_iff {n : Nat} {cs front : List Char} :
    takeBytes? n cs = some front ↔ ∃ back, cs = front ++ back ∧ byteLen front = n := by
  constructor
  · intro h
    fun_induction takeBytes? n cs generalizing front with
    | case1 cs =>
        obtain rfl := Option.some.inj h
        exact ⟨cs, rfl, rfl⟩
    | case2 => cases h
    | case3 n c cs hsize ih =>
        obtain ⟨front, hfront, rfl⟩ := Option.map_eq_some_iff.mp h
        obtain ⟨back, rfl, hbytes⟩ := ih hfront
        refine ⟨back, rfl, ?_⟩
        rw [byteLen_cons, hbytes]
        omega
    | case4 => cases h
  · rintro ⟨back, rfl, rfl⟩
    exact takeBytes?_append front back

/-- A cut gives what lies between two bounds. -/
theorem sliceBytes?_eq_some_iff {start stop : Nat} {cs middle : List Char} :
    sliceBytes? start stop cs = some middle ↔ ∃ front back, cs = front ++ middle ++ back ∧
      byteLen front = start ∧ byteLen (front ++ middle) = stop := by
  constructor
  · intro h
    rw [sliceBytes?, Option.ite_none_right_eq_some, Option.bind_eq_some_iff] at h
    obtain ⟨hle, behind, hdrop, htake⟩ := h
    obtain ⟨front, rfl, rfl⟩ := dropBytes?_eq_some_iff.mp hdrop
    obtain ⟨back, rfl, hbytes⟩ := takeBytes?_eq_some_iff.mp htake
    refine ⟨front, back, (List.append_assoc _ _ _).symm, rfl, ?_⟩
    rw [byteLen_append, hbytes]
    omega
  · rintro ⟨front, back, rfl, rfl, rfl⟩
    rw [byteLen_append]
    exact sliceBytes?_append front middle back

/-- Of two divisions of a text, the one with fewer bytes in front comes first. -/
theorem exists_between {front back front' back' : List Char}
    (h : front ++ back = front' ++ back') (hle : byteLen front ≤ byteLen front') :
    ∃ middle, front' = front ++ middle ∧ back = middle ++ back' := by
  rcases List.append_eq_append_iff.mp h with ⟨middle, hfront, hback⟩ | ⟨middle, hfront, hback⟩
  · exact ⟨middle, hfront, hback⟩
  · -- then nothing can lie between the two
    have hnone : middle = [] := by
      by_contra hsome
      have hpos := byteLen_pos hsome
      rw [hfront, byteLen_append] at hle
      omega
    subst hnone
    exact ⟨[], by simpa using hfront.symm, by simpa using hback.symm⟩

end Text

open Text

namespace Document

/-- Cuts are made without a fault from bound to bound, and nowhere else. -/
theorem cut_ok_iff (d : Document) (start stop : Nat) :
    (∃ cs, d.cut start stop = .ok cs) ↔ CanCut d.text start stop := by
  have hcut : (∃ cs, d.cut start stop = .ok cs) ↔
      ∃ cs, sliceBytes? start stop d.text.toList = some cs := by
    rw [cut]
    cases sliceBytes? start stop d.text.toList <;> simp
  rw [hcut, CanCut, isBound_iff, isBound_iff]
  constructor
  · rintro ⟨middle, hslice⟩
    obtain ⟨front, back, htext, rfl, rfl⟩ := sliceBytes?_eq_some_iff.mp hslice
    refine ⟨?_, ⟨front, middle ++ back, ?_, rfl⟩, ⟨front ++ middle, back, htext, rfl⟩⟩
    · rw [byteLen_append]
      exact Nat.le_add_right _ _
    · rw [htext, List.append_assoc]
  · rintro ⟨hle, ⟨front, back, htext, rfl⟩, ⟨front', back', htext', rfl⟩⟩
    obtain ⟨middle, rfl, rfl⟩ := exists_between (htext.symm.trans htext') hle
    exact ⟨middle, sliceBytes?_eq_some_iff.mpr ⟨front, back', htext', rfl, rfl⟩⟩

/-- What keeps evaluations inside the text and the table of a document, and the result: they have no
faults. -/
structure FaultFree (d : Document) : Prop where
  /-- The content of every line can be cut out. -/
  content : ∀ (i : Nat) (line : LineBounds), d.lines[i]? = some line →
    CanCut d.text line.startByte line.contentEndByte
  /-- The search for an offset ends at a line of the table that does not begin behind the offset,
  and all that follows the start of this line can be cut out. -/
  search : ∀ offset : Nat, ∃ line : LineBounds,
    d.lines[partitionPoint (fun l => decide (l.startChar ≤ offset)) d.lines - 1]? = some line ∧
      line.startChar ≤ offset ∧ CanCut d.text line.startByte d.text.utf8ByteSize
  /-- A span that ends inside the text has bytes between which it can be cut out. -/
  span : ∀ span : TextSpan, span.stop ≤ d.charLen → ∃ start stop,
    d.checkedByte span.start = .ok start ∧ d.checkedByte span.stop = .ok stop ∧
      CanCut d.text start stop
  /-- A span does not end in front of its start, so its length is no difference below zero. -/
  length : ∀ span : TextSpan, span.start ≤ span.stop ∧ span.start + span.charLen = span.stop
  /-- Every position has its offset without a fault. -/
  offset : ∀ p : Position, d.checkedOffset p = .ok (d.offsetOf p)
  /-- Every span has its text, or none, without a fault. -/
  text : ∀ span : TextSpan, d.checkedText span = .ok (d.textIn span)
  /-- A span has a text unless it runs past the end. -/
  found : ∀ span : TextSpan, span.stop ≤ d.charLen → ∃ cut, d.textIn span = some cut

/-- The search for an offset ends inside the table. -/
theorem exists_line_found (d : Document) (offset : Nat) :
    ∃ line, d.lines[partitionPoint (fun l => decide (l.startChar ≤ offset)) d.lines - 1]? =
      some line ∧ line.startChar ≤ offset := by
  obtain ⟨i, line, hi, hline, hle⟩ := d.exists_line_at offset
  rw [hi, lines_getElem?, hline]
  exact ⟨_, rfl, hle⟩

/-- Offsets inside the text are found in the order of their bytes. -/
theorem canCut_of_le (d : Document) {first last : Nat} (h : first ≤ last) :
    CanCut d.text (byteLen (d.text.toList.take first)) (byteLen (d.text.toList.take last)) := by
  refine ⟨?_, isBound_of_append (List.take_append_drop _ _).symm,
    isBound_of_append (List.take_append_drop _ _).symm⟩
  obtain ⟨middle, hmiddle⟩ := List.take_prefix_take_left (l := d.text.toList) h
  rw [← hmiddle, byteLen_append]
  exact Nat.le_add_right _ _

/-- Whatever the text and whatever is asked of it, offsets and excerpts are evaluated without a
fault. A cut would have one exactly where it does not go from bound to bound. -/
theorem evaluations_have_no_faults (text : String) (version : UInt64) :
    (∀ start stop, (∃ cs, (ofText text version).cut start stop = .ok cs) ↔
      CanCut text start stop) ∧ (ofText text version).FaultFree := by
  refine ⟨(ofText text version).cut_ok_iff, ?_⟩
  generalize ofText text version = d
  exact {
    content := by
      intro i line hline
      exact d.isTable.bounded i line hline
    search := by
      intro offset
      obtain ⟨line, hline, hle⟩ := d.exists_line_found offset
      obtain ⟨-, hstart, -⟩ := d.isTable.bounded _ line hline
      exact ⟨line, hline, hle, hstart.le_rawEndPos, hstart, isBound_utf8ByteSize d.text⟩
    span := by
      intro span _
      have hlt := span.start_lt_stop
      exact ⟨_, _, d.checkedByte_eq span.start, d.checkedByte_eq span.stop,
        d.canCut_of_le (Nat.le_of_lt hlt)⟩
    length := by
      intro span
      have hlt := span.start_lt_stop
      refine ⟨Nat.le_of_lt hlt, ?_⟩
      rw [TextSpan.charLen]
      omega
    offset := by
      intro p
      rw [checkedOffset_eq, offsetOf_eq]
    text := by
      intro span
      rw [checkedText_eq, textIn_eq]
    found := by
      intro span hstop
      rw [charLen_eq] at hstop
      exact ⟨excerpt d.text span, by rw [textIn_eq, if_pos hstop]⟩ }

example : (ofText "é" 1).cut 1 2 = .error .badCut := by decide

end Document

end DiagnosticLens
