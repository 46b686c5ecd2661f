import DiagnosticLens.Proofs.EncodedPaths
import Mathlib.Data.List.TakeWhile

/-!
# The way back from a URI to its path

Reading the URI of a path leads back to the path, as long as no component of the path leads up. A
lot may happen to a URI while it is read: blanks are trimmed, tabs and line ends are passed over,
backslashes are taken for slashes, segments that spell dots are resolved, and a drive is treated in
its own way. None of this touches an encoded component, whatever its bytes are.

## Implementation notes

The components are encoded so that only visible characters without a meaning are left, which settles
everything that reading does to single characters. Dots are not encoded. But a segment that spells
dots, with escapes or without, also stands for these dots once it is decoded, and a component that
counts does not consist of one dot.

The first segment that reading meets is the empty one in front of the path's own slash. So no
component is at the very front, where a drive would be spelled with a colon.
-/

namespace DiagnosticLens

section Pieces

variable {α : Type} {isSeparator : α → Bool}

theorem splitAll_ne_nil (xs : List α) : splitAll isSeparator xs ≠ [] := by
  cases xs with
  | nil => exact List.cons_ne_nil _ _
  | cons x xs =>
      rw [splitAll]
      split
      · exact List.cons_ne_nil _ _
      · split <;> exact List.cons_ne_nil _ _

/-- A separator at the end adds an empty piece. -/
theorem splitAll_concat {separator : α} (hseparator : isSeparator separator = true)
    (xs : List α) : splitAll isSeparator (xs ++ [separator]) =
      splitAll isSeparator xs ++ [[]] := by
  induction xs with
  | nil => simp [splitAll, hseparator]
  | cons x xs ih =>
      simp only [List.cons_append, splitAll, ih]
      split
      · rfl
      · cases hpieces : splitAll isSeparator xs with
        | nil => exact absurd hpieces (splitAll_ne_nil xs)
        | cons first others => rfl

end Pieces

namespace Path

/-- A slash at the end makes no difference to the components. -/
theorem components_concat_slash (bytes : List UInt8) :
    components ⟨bytes ++ [slash]⟩ = components ⟨bytes⟩ := by
  simp [components, splitAll_concat]

/-- Of pieces without slashes, those that count are the components. -/
theorem components_flatMap {pieces : List (List UInt8)} (h : ∀ piece ∈ pieces, slash ∉ piece) :
    components ⟨pieces.flatMap (slash :: ·)⟩ = pieces.filter fun c => c ≠ [] && c ≠ [dot] := by
  have hpieces : ∀ piece ∈ pieces, ∀ b ∈ piece, (b == slash) = false := fun piece hpiece b hb =>
    beq_eq_false_iff_ne.mpr fun hslash => h piece hpiece (hslash ▸ hb)
  have hsplit : splitAll (· == slash) (pieces.flatMap (slash :: ·)) = [] :: pieces :=
    splitAll_flatMap rfl hpieces
  rw [components, hsplit]
  exact List.filter_cons_of_neg (by decide)

end Path

namespace Uri

section Dots

/-- What spells a single dot stands for one, whatever follows. -/
theorem decodeText_append_of_isCurrent {s : Segment} (h : isCurrent s = true) (rest : List Char) :
    decodeText (s ++ rest) = Path.dot :: decodeText rest := by
  simp only [isCurrent, Bool.or_eq_true, decide_eq_true_eq, List.map_eq_cons_iff,
    List.map_eq_nil_iff, toLower_eq_asciiLower] at h
  obtain ⟨a, _, rfl, ha, rfl⟩ | ⟨a, _, rfl, ha, b, _, rfl, hb, c, _, rfl, hc, rfl⟩ := h
  · obtain rfl := eq_of_asciiLower_eq (by decide) ha
    exact decodeBytes_cons_of_ne (by decide) _
  · obtain rfl := eq_of_asciiLower_eq (by decide) ha
    obtain rfl := eq_of_asciiLower_eq (by decide) hb
    obtain rfl | rfl := eq_of_asciiLower_eq_e hc <;> rfl

/-- Two dots are spelled as one dot after the other. -/
theorem exists_append_of_isParent {s : Segment} (h : isParent s = true) :
    ∃ a b, s = a ++ b ∧ isCurrent a = true ∧ isCurrent b = true := by
  have hdots : ∃ a b : Segment, s.map Char.toLower = a ++ b ∧
      (a = ['.'] ∨ a = ['%', '2', 'e']) ∧ (b = ['.'] ∨ b = ['%', '2', 'e']) := by
    simp only [isParent, Bool.or_eq_true, decide_eq_true_eq] at h
    obtain ((h | h) | h) | h := h
    · exact ⟨['.'], ['.'], h, by simp⟩
    · exact ⟨['.'], ['%', '2', 'e'], h, by simp⟩
    · exact ⟨['%', '2', 'e'], ['.'], h, by simp⟩
    · exact ⟨['%', '2', 'e'], ['%', '2', 'e'], h, by simp⟩
  obtain ⟨_, _, hs, ha, hb⟩ := hdots
  obtain ⟨a, b, rfl, rfl, rfl⟩ := List.map_eq_append_iff.mp hs
  exact ⟨a, b, rfl, by simpa [isCurrent] using ha, by simpa [isCurrent] using hb⟩

theorem decodeText_of_isCurrent {s : Segment} (h : isCurrent s = true) :
    decodeText s = [Path.dot] := by
  have hdecode := decodeText_append_of_isCurrent h []
  rwa [List.append_nil] at hdecode

theorem decodeText_of_isParent {s : Segment} (h : isParent s = true) :
    decodeText s = [Path.dot, Path.dot] := by
  obtain ⟨a, b, rfl, ha, hb⟩ := exists_append_of_isParent h
  rw [decodeText_append_of_isCurrent ha, decodeText_of_isCurrent hb]

end Dots

/-- A segment that reading leaves as it is. -/
structure Plain (s : Segment) : Prop where
  chars : ∀ c ∈ s, isComponentChar c = true
  not_current : decodeText s ≠ [Path.dot]
  not_parent : decodeText s ≠ [Path.dot, Path.dot]

theorem isGap_of_isComponentChar {c : Char} (h : isComponentChar c = true) : isGap c = false := by
  have hmarks := notMem_marks h
  simp_all [marks, isGap]

namespace Plain

variable {s : Segment}

theorem withoutGaps_eq (h : Plain s) : withoutGaps s = s := by
  refine List.filter_eq_self.mpr fun c hc => ?_
  simp [isGap_of_isComponentChar (h.chars c hc)]

theorem isCurrent_eq (h : Plain s) : isCurrent s = false :=
  Bool.eq_false_iff.mpr fun hdot => h.not_current (decodeText_of_isCurrent hdot)

theorem isParent_eq (h : Plain s) : isParent s = false :=
  Bool.eq_false_iff.mpr fun hdots => h.not_parent (decodeText_of_isParent hdots)

end Plain

/-- The segments of a path of which no component leads up are plain. -/
theorem plain_of_mem_segmentsOf {p : Path} (hup : [Path.dot, Path.dot] ∉ p.components) :
    ∀ s ∈ segmentsOf p.components, Plain s := by
  intro s hs
  have hchars := isComponentChar_of_mem_segmentsOf hs
  obtain rfl | ⟨component, hcomponent, rfl⟩ := mem_segmentsOf hs
  · exact ⟨hchars, by decide, by decide⟩
  · rw [← decodeText_encodeComponent component] at hcomponent
    refine ⟨hchars, (Path.of_mem_components hcomponent).2.1, fun hparent => hup ?_⟩
    rwa [hparent] at hcomponent

namespace Trail

variable {t : Trail} {s : Segment}

/-- Behind the first segment a plain one is taken as it is. -/
theorem step_of_plain (hs : Plain s) (hdone : t.done ≠ []) (file : Bool) :
    t.step file s = ⟨s :: t.done, t.drive⟩ := by
  simp [step, enter, hs.withoutGaps_eq, hs.isParent_eq, hs.isCurrent_eq, hdone]

theorem lastStep_of_plain (hs : Plain s) (hdone : t.done ≠ []) (file : Bool) :
    t.lastStep file s = ⟨s :: t.done, t.drive⟩ := by
  simp [lastStep, enter, hs.withoutGaps_eq, hs.isParent_eq, hs.isCurrent_eq, hdone]

/-- Behind the first segment all plain ones are taken as they are. -/
theorem walk_of_plain {segments : List Segment} (hplain : ∀ s ∈ segments, Plain s)
    (hdone : t.done ≠ []) (file : Bool) :
    t.walk file segments = ⟨segments.reverse ++ t.done, t.drive⟩ := by
  fun_induction walk t file segments with
  | case1 t => rfl
  | case2 t s => exact lastStep_of_plain (hplain s List.mem_cons_self) hdone file
  | case3 t s rest hrest ih =>
      have hstep := step_of_plain (hplain s List.mem_cons_self) hdone file
      rw [hstep] at ih ⊢
      rw [ih (fun s hs => hplain s (List.mem_cons_of_mem _ hs)) (List.cons_ne_nil _ _)]
      simp

end Trail

/-- The empty segment in front of those of a path is dropped again. -/
theorem dropLeadingEmpty_segmentsOf (p : Path) :
    dropLeadingEmpty ([] :: segmentsOf p.components) = segmentsOf p.components := by
  cases hcomponents : p.components with
  | nil => rfl
  | cons first components =>
      have hfirst : first ∈ p.components := hcomponents ▸ List.mem_cons_self
      have hne : encodeComponent first ≠ [] := by
        intro hempty
        have hdecode := decodeText_encodeComponent first
        rw [hempty] at hdecode
        exact (Path.of_mem_components hfirst).1 hdecode.symm
      obtain ⟨c, rest, hcons⟩ := List.exists_cons_of_ne_nil hne
      simp [segmentsOf, dropLeadingEmpty, hcons]

theorem slash_or_isComponentChar {components : List (List UInt8)} {c : Char}
    (h : c ∈ (segmentsOf components).flatMap ('/' :: ·)) : c = '/' ∨ isComponentChar c = true := by
  obtain ⟨segment, hsegment, hc⟩ := List.mem_flatMap.mp h
  exact (List.mem_cons.mp hc).imp_right fun hc => isComponentChar_of_mem_segmentsOf hsegment c hc

/-- Reading the text of a path of which no component leads up finds its segments. -/
theorem resolve_segmentsOf {p : Path} (hup : [Path.dot, Path.dot] ∉ p.components) :
    resolve true true ((segmentsOf p.components).flatMap ('/' :: ·)) =
      segmentsOf p.components := by
  have hpath : ((segmentsOf p.components).flatMap ('/' :: ·)).takeWhile
      (fun c => c ≠ '?' && c ≠ '#') = (segmentsOf p.components).flatMap ('/' :: ·) := by
    refine List.takeWhile_eq_self_iff.mpr fun c hc => ?_
    obtain rfl | hc := slash_or_isComponentChar hc
    · rfl
    · have hmarks := notMem_marks hc
      simp_all [marks]
  have hmarks : ∀ c ∉ marks, (c == '/' || (true && c == '\\')) = false := by
    simp +contextual [marks]
  have hfirst : Trail.start.walk true ([] :: segmentsOf p.components) =
      Trail.walk ⟨[[]], false⟩ true (segmentsOf p.components) := by
    cases p.components <;> rfl
  have hwalk := Trail.walk_of_plain (t := ⟨[[]], false⟩) (plain_of_mem_segmentsOf hup)
    (List.cons_ne_nil [] []) true
  rw [resolve, trail, hpath, splitAll_segmentsOf rfl hmarks, hfirst, hwalk]
  simpa using dropLeadingEmpty_segmentsOf p

theorem slash_notMem_decodeText {p : Path} {s : Segment} (h : s ∈ segmentsOf p.components) :
    Path.slash ∉ decodeText s := by
  obtain rfl | ⟨component, hcomponent, rfl⟩ := mem_segmentsOf h
  · exact List.not_mem_nil
  · rw [decodeText_encodeComponent]
    exact (Path.of_mem_components hcomponent).2.2

/-- Decoding the segments of a path gives its components, with a slash at the end or without. -/
theorem components_pathOfSegments (p : Path) :
    (pathOfSegments (segmentsOf p.components)).components = p.components := by
  have hslash : ∀ piece ∈ (segmentsOf p.components).map decodeText, Path.slash ∉ piece := by
    intro piece hpiece
    obtain ⟨s, hs, rfl⟩ := List.mem_map.mp hpiece
    exact slash_notMem_decodeText hs
  have hdecoded : Path.components
      ⟨(segmentsOf p.components).flatMap fun s => Path.slash :: decodeText s⟩ = p.components := by
    calc Path.components ⟨(segmentsOf p.components).flatMap fun s => Path.slash :: decodeText s⟩
        = Path.components
            ⟨((segmentsOf p.components).map decodeText).flatMap (Path.slash :: ·)⟩ := by
          rw [List.flatMap_map]
      _ = ((segmentsOf p.components).map decodeText).filter
            (fun c => c ≠ [] && c ≠ [Path.dot]) := Path.components_flatMap hslash
      _ = p.components := filter_decoded_segmentsOf p
  rw [pathOfSegments]
  split
  · exact (Path.components_concat_slash _).trans hdecoded
  · exact hdecoded

theorem isAbsolute_pathOfSegments {segments : List Segment} (h : segments ≠ []) :
    (pathOfSegments segments).isAbsolute := by
  obtain ⟨s, rest, rfl⟩ := List.exists_cons_of_ne_nil h
  rw [pathOfSegments]
  split <;> rfl

/-- What has no blanks and controls is not trimmed. -/
theorem trim_of_visible {cs : List Char} (h : ∀ c ∈ cs, 0x20 < c.toNat) :
    trim (String.ofList cs) = cs := by
  have hdrop : ∀ ds : List Char, (∀ d ∈ ds, d ∈ cs) →
      ds.dropWhile (fun c => decide (c.toNat ≤ 0x20)) = ds := by
    intro ds hds
    cases ds with
    | nil => rfl
    | cons d ds =>
        have hd : ¬ d.toNat ≤ 0x20 := Nat.not_le.mpr (h d (hds d List.mem_cons_self))
        simp [hd]
  have hreverse := hdrop cs.reverse fun d hd => List.mem_reverse.mp hd
  rw [trim, String.toList_ofList, hdrop cs fun d hd => hd, hreverse, List.reverse_reverse]

/-- A `file` URI without a host, blanks and controls is read as what its path stands for. -/
theorem toPath?_file {rest : List Char} (h : ∀ c ∈ rest, 0x20 < c.toNat) :
    toPath? (String.ofList ("file://".toList ++ '/' :: rest)) =
      some (pathOfSegments (resolve true true ('/' :: rest))) := by
  have hfront : "file://".toList.all (fun c => 0x20 < c.toNat) = true := by decide
  have hvisible : ∀ c ∈ "file://".toList ++ '/' :: rest, 0x20 < c.toNat := by
    intro c hc
    obtain hc | hc := List.mem_append.mp hc
    · simpa using List.all_eq_true.mp hfront c hc
    · obtain rfl | hc := List.mem_cons.mp hc
      · decide
      · exact h c hc
  have hscheme : splitScheme? ("file://".toList ++ '/' :: rest) =
      some ("file".toList, '/' :: '/' :: '/' :: rest) := rfl
  rw [toPath?, trim_of_visible hvisible, hscheme]
  rfl

theorem segmentsOf_ne_nil (components : List (List UInt8)) : segmentsOf components ≠ [] := by
  cases components <;> exact List.cons_ne_nil _ _

/-- The URI of a path from the root of which no component leads up is read as a path from the root
with the same components. -/
theorem uri_of_path_leads_back {p : Path} (habsolute : p.isAbsolute)
    (hup : [Path.dot, Path.dot] ∉ p.components) :
    ∃ uri q, ofPath p = .ok uri ∧ toPath? uri = some q ∧ q.isAbsolute ∧
      q.components = p.components := by
  obtain ⟨first, others, hsegments⟩ := List.exists_cons_of_ne_nil (segmentsOf_ne_nil p.components)
  have htext : (segmentsOf p.components).flatMap ('/' :: ·) =
      '/' :: (first ++ others.flatMap ('/' :: ·)) := by
    rw [hsegments, List.flatMap_cons, List.cons_append]
  have hvisible : ∀ c ∈ first ++ others.flatMap ('/' :: ·), 0x20 < c.toNat := by
    intro c hc
    have hc := List.mem_cons_of_mem '/' hc
    rw [← htext] at hc
    obtain rfl | hc := slash_or_isComponentChar hc
    · decide
    · simp only [isComponentChar, Bool.and_eq_true, decide_eq_true_eq] at hc
      exact hc.1.1
  refine ⟨_, _, ofPath_eq_segments habsolute, ?_, isAbsolute_pathOfSegments (segmentsOf_ne_nil _),
    components_pathOfSegments p⟩
  rw [htext, toPath?_file hvisible, ← htext, resolve_segmentsOf hup]

/-- Components that look like a drive, like dots and like an escape, with separators, controls and
a byte outside ASCII among their bytes. -/
theorem uri_of_path_leads_back_odd :
    let odd : Path := ⟨[0x2F, 0x43, 0x7C, 0x2F, 0x2E, 0x25, 0x32, 0x65, 0x2F, 0x5C, 0x09, 0xFF,
      0x20, 0x2F, 0x64, 0x3A]⟩
    ∃ uri q, ofPath odd = .ok uri ∧ toPath? uri = some q ∧ q.isAbsolute ∧
      q.components =
        [[0x43, 0x7C], [0x2E, 0x25, 0x32, 0x65], [0x5C, 0x09, 0xFF, 0x20], [0x64, 0x3A]] :=
  uri_of_path_leads_back rfl (by decide)

end Uri

end DiagnosticLens
