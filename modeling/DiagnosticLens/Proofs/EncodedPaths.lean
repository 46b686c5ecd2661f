import DiagnosticLens.Proofs.Ascii
import DiagnosticLens.Proofs.FileUri

/-!
# Paths that have the same URI

The URI of a path is made of its components, each written with the bytes that mean something in a
URI encoded. Nothing is lost on the way: the components can be cut out again at the slashes, and
decoding gives back their bytes. So two paths have the same URI exactly if they have the same
components.

## Implementation notes

The path of a URI is taken as a list of segments, of which the root has one, an empty one. The text
is then a slash in front of every segment whatever the path is.
-/

namespace DiagnosticLens

section Pieces

variable {α : Type} {isSeparator : α → Bool}

/-- What stands in front of the first separator belongs to the first piece. -/
theorem splitAll_append {front rest first : List α} {others : List (List α)}
    (hfront : ∀ c ∈ front, isSeparator c = false)
    (hrest : splitAll isSeparator rest = first :: others) :
    splitAll isSeparator (front ++ rest) = (front ++ first) :: others := by
  induction front with
  | nil => exact hrest
  | cons c front ih =>
      have hc : isSeparator c = false := hfront c List.mem_cons_self
      have hlater := ih fun d hd => hfront d (List.mem_cons_of_mem c hd)
      simp [splitAll, hc, hlater]

/-- Pieces without separators are found again between the separators. -/
theorem splitAll_flatMap {separator : α} (hseparator : isSeparator separator = true)
    {pieces : List (List α)} (hpieces : ∀ piece ∈ pieces, ∀ c ∈ piece, isSeparator c = false) :
    splitAll isSeparator (pieces.flatMap (separator :: ·)) = [] :: pieces := by
  induction pieces with
  | nil => rfl
  | cons piece pieces ih =>
      have hlater := ih fun later hlater => hpieces later (List.mem_cons_of_mem piece hlater)
      have hpiece := splitAll_append (hpieces piece List.mem_cons_self) hlater
      rw [List.append_nil] at hpiece
      simp [splitAll, hseparator, hpiece]

/-- There is no separator in a piece. -/
theorem isSeparator_of_mem_splitAll {xs piece : List α} (hpiece : piece ∈ splitAll isSeparator xs) :
    ∀ c ∈ piece, isSeparator c = false := by
  induction xs generalizing piece with
  | nil =>
      obtain rfl : piece = [] := by simpa [splitAll] using hpiece
      simp
  | cons x xs ih =>
      rw [splitAll] at hpiece
      split at hpiece
      · obtain rfl | hpiece := List.mem_cons.mp hpiece
        · simp
        · exact ih hpiece
      · next hx =>
          -- `x` goes to the front of the first piece; all other pieces are pieces of `xs`
          split at hpiece
          · obtain rfl : piece = [x] := by simpa using hpiece
            simpa using hx
          · next first others hpieces =>
              rw [hpieces] at ih
              obtain rfl | hpiece := List.mem_cons.mp hpiece
              · simpa [hx] using ih List.mem_cons_self
              · exact ih (List.mem_cons_of_mem first hpiece)

end Pieces

namespace Path

/-- What is known of a component that counts. -/
theorem of_mem_components {p : Path} {c : List UInt8} (h : c ∈ p.components) :
    c ≠ [] ∧ c ≠ [dot] ∧ slash ∉ c := by
  obtain ⟨hpiece, hcounts⟩ := List.mem_filter.mp h
  obtain ⟨hempty, hdot⟩ : c ≠ [] ∧ c ≠ [dot] := by simpa using hcounts
  refine ⟨hempty, hdot, fun hslash => ?_⟩
  simpa using isSeparator_of_mem_splitAll hpiece slash hslash

end Path

namespace Uri

/-- A character that can stand in an encoded component. -/
def isComponentChar (c : Char) : Bool :=
  0x20 < c.toNat && c.toNat < 0x7F && (c == '%' || !reserved.contains c)

/-- The characters that reading a URI looks for in its path. -/
def marks : List Char := ['/', '\\', '?', '#', '\t', '\n', '\r']

theorem notMem_marks {c : Char} (h : isComponentChar c = true) : c ∉ marks := by
  have hmarks : marks.all (fun d => !isComponentChar d) = true := by decide
  intro hc
  simpa [h] using List.all_eq_true.mp hmarks c hc

theorem utf8EncodeChar_of_lt {c : Char} (h : c.toNat < 0x80) :
    String.utf8EncodeChar c = [UInt8.ofNat c.toNat] := by
  have hsmall : c.toNat ≤ 0x7F := Nat.le_of_lt_succ h
  simp [String.utf8EncodeChar, hsmall]

/-- The digits of an encoded byte can stand in a component, and they have their value. -/
theorem hexDigit_spec : ∀ n < 16, isComponentChar (hexDigit n) = true ∧
    hexByte? (UInt8.ofNat (hexDigit n).toNat) = some n := by
  decide

/-- A byte that is not encoded is an ASCII character that can stand in a component. -/
theorem ofNat_of_not_mustEncode {b : UInt8} (h : mustEncode b = false) :
    (Char.ofNat b.toNat).toNat = b.toNat ∧ isComponentChar (Char.ofNat b.toNat) = true := by
  simp only [mustEncode, Bool.or_eq_false_iff, decide_eq_false_iff_not, UInt8.le_iff_toNat_le,
    List.any_eq_false, beq_iff_eq] at h
  obtain ⟨⟨hlow, hhigh⟩, hreserved⟩ := h
  have hlow : 0x20 < b.toNat := Nat.lt_of_not_le hlow
  have hhigh : b.toNat < 0x7F := Nat.lt_of_not_le hhigh
  have hnat : (Char.ofNat b.toNat).toNat = b.toNat := toNat_ofNat_of_lt (by omega)
  have hmem : Char.ofNat b.toNat ∉ reserved := fun hmem => hreserved _ hmem hnat
  refine ⟨hnat, ?_⟩
  simp [isComponentChar, hnat, hlow, hhigh, hmem]

theorem isComponentChar_encodeByte (b : UInt8) : ∀ c ∈ encodeByte b, isComponentChar c = true := by
  rw [encodeByte]
  split
  · have hhigh := (hexDigit_spec (b.toNat / 16) (by have := b.toNat_lt; omega)).1
    have hlow := (hexDigit_spec (b.toNat % 16) (by omega)).1
    have hpercent : isComponentChar '%' = true := by decide
    simp [hhigh, hlow, hpercent]
  · next hplain =>
      simpa using (ofNat_of_not_mustEncode (Bool.eq_false_iff.mpr hplain)).2

/-- No character of an encoded component has a meaning in a URI but the percent sign. -/
theorem isComponentChar_encodeComponent (bytes : List UInt8) :
    ∀ c ∈ encodeComponent bytes, isComponentChar c = true := by
  intro c hc
  obtain ⟨b, -, hc⟩ := List.mem_flatMap.mp hc
  exact isComponentChar_encodeByte b c hc

theorem decodeBytes_cons_of_ne {b : UInt8} (h : b ≠ 0x25) (rest : List UInt8) :
    decodeBytes (b :: rest) = b :: decodeBytes rest := by
  rw [decodeBytes]
  rintro _ _ _ rfl
  exact absurd rfl h

/-- Decoding takes an encoded byte back and goes on behind it. -/
theorem decodeText_encodeByte_append (b : UInt8) (rest : List Char) :
    decodeText (encodeByte b ++ rest) = b :: decodeText rest := by
  rw [encodeByte]
  split
  · have hdigit : ∀ n < 16, hexByte? (UInt8.ofNat (hexDigit n).toNat) = some n ∧
        String.utf8EncodeChar (hexDigit n) = [UInt8.ofNat (hexDigit n).toNat] := by
      intro n hn
      obtain ⟨hchar, hvalue⟩ := hexDigit_spec n hn
      exact ⟨hvalue, utf8EncodeChar_of_lt (by simp [isComponentChar] at hchar; omega)⟩
    obtain ⟨hhigh, hhigh'⟩ := hdigit (b.toNat / 16) (by have := b.toNat_lt; omega)
    obtain ⟨hlow, hlow'⟩ := hdigit (b.toNat % 16) (by omega)
    have hbyte : UInt8.ofNat (b.toNat / 16 * 16 + b.toNat % 16) = b := by
      rw [Nat.div_add_mod', UInt8.ofNat_toNat]
    have hpercent : String.utf8EncodeChar '%' = [0x25] := rfl
    simp only [decodeText, List.cons_append, List.nil_append, List.flatMap_cons, hpercent, hhigh',
      hlow', decodeBytes, hhigh, hlow, hbyte]
  · next hplain =>
      obtain ⟨hnat, hchar⟩ := ofNat_of_not_mustEncode (Bool.eq_false_iff.mpr hplain)
      have hne : b ≠ 0x25 := by
        rintro rfl
        exact hplain rfl
      have hlt : (Char.ofNat b.toNat).toNat < 0x80 := by simp [isComponentChar] at hchar; omega
      have hbyte : String.utf8EncodeChar (Char.ofNat b.toNat) = [b] := by
        rw [utf8EncodeChar_of_lt hlt, hnat, UInt8.ofNat_toNat]
      rw [decodeText, List.cons_append, List.flatMap_cons, hbyte]
      exact decodeBytes_cons_of_ne hne _

/-- Decoding takes an encoded component back, whatever its bytes are. -/
theorem decodeText_encodeComponent (bytes : List UInt8) :
    decodeText (encodeComponent bytes) = bytes := by
  induction bytes with
  | nil => rfl
  | cons b bytes ih =>
      calc decodeText (encodeComponent (b :: bytes))
          = decodeText (encodeByte b ++ encodeComponent bytes) := rfl
        _ = b :: decodeText (encodeComponent bytes) := decodeText_encodeByte_append b _
        _ = b :: bytes := by rw [ih]

/-- The segments of the URI of a path with these components. -/
def segmentsOf : List (List UInt8) → List Segment
  | [] => [[]]
  | components => components.map encodeComponent

theorem ofPath_eq_segments {p : Path} (h : p.isAbsolute) :
    ofPath p = .ok
      (String.ofList ("file://".toList ++ (segmentsOf p.components).flatMap ('/' :: ·))) := by
  rw [ofPath, if_pos h]
  cases p.components with
  | nil => rfl
  | cons c components => simp [segmentsOf, List.flatMap_map]

theorem mem_segmentsOf {components : List (List UInt8)} {segment : Segment}
    (h : segment ∈ segmentsOf components) :
    segment = [] ∨ ∃ c ∈ components, encodeComponent c = segment := by
  cases components with
  | nil => exact .inl (List.mem_singleton.mp h)
  | cons first components => exact .inr (List.mem_map.mp h)

theorem isComponentChar_of_mem_segmentsOf {components : List (List UInt8)} {segment : Segment}
    (h : segment ∈ segmentsOf components) : ∀ c ∈ segment, isComponentChar c = true := by
  obtain rfl | ⟨component, -, rfl⟩ := mem_segmentsOf h
  · simp
  · exact isComponentChar_encodeComponent component

/-- The components are what the segments stand for, less the empty one of the root. -/
theorem filter_decoded_segmentsOf (p : Path) :
    ((segmentsOf p.components).map decodeText).filter (fun c => c ≠ [] && c ≠ [Path.dot]) =
      p.components := by
  have hcounts : p.components.filter (fun c => c ≠ [] && c ≠ [Path.dot]) = p.components := by
    refine List.filter_eq_self.mpr fun c hc => ?_
    obtain ⟨hempty, hdot, -⟩ := Path.of_mem_components hc
    simp [hempty, hdot]
  have hdecode : decodeText ∘ encodeComponent = id := funext decodeText_encodeComponent
  cases hcomponents : p.components with
  | nil => rfl
  | cons first components =>
      rw [segmentsOf, List.map_map, hdecode, List.map_id, ← hcomponents, hcounts]
      exact List.cons_ne_nil first components

/-- The segments are found again at the slashes, also by those that cut at other marks. -/
theorem splitAll_segmentsOf {isSeparator : Char → Bool} (hslash : isSeparator '/' = true)
    (hmarks : ∀ c ∉ marks, isSeparator c = false) (components : List (List UInt8)) :
    splitAll isSeparator ((segmentsOf components).flatMap ('/' :: ·)) =
      [] :: segmentsOf components :=
  splitAll_flatMap hslash fun _ hsegment c hc =>
    hmarks c (notMem_marks (isComponentChar_of_mem_segmentsOf hsegment c hc))

end Uri

end DiagnosticLens
