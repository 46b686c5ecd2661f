import DiagnosticLens.Uri.FilePath

/-!
# URIs of files

Every absolute path has a URI, and this URI names a file again: no path is encoded in such a way
that reading the URI would refuse it.

## Implementation notes

Reading looks at the front of a URI only, once the blanks around it are gone. All URIs of paths start
alike, and none of the characters at the front is a blank, so what follows does not matter.
-/

namespace DiagnosticLens.Uri

/-- What the URI of a path starts with. -/
def front : List Char := ['f', 'i', 'l', 'e', ':', '/', '/', '/']

/-- Every absolute path has a URI. -/
theorem ofPath_eq_ok {p : Path} (h : p.isAbsolute) :
    ∃ rest, ofPath p = .ok (String.ofList (front ++ rest)) := by
  rw [ofPath, if_pos h]
  cases p.components with
  | nil => exact ⟨[], rfl⟩
  | cons c components =>
      exact ⟨encodeComponent c ++ components.flatMap fun c => '/' :: encodeComponent c, rfl⟩

/-- No other path has one. -/
theorem ofPath_eq_error {p : Path} (h : p.isAbsolute = false) : ofPath p = .error ⟨p⟩ := by
  rw [ofPath, h]
  rfl

/-- Of a URI that starts as those of paths do, the front is never trimmed away. -/
theorem trim_front (rest : List Char) :
    ∃ rest', trim (String.ofList (front ++ rest)) = front ++ rest' := by
  let outside := fun (c : Char) => decide (c.toNat ≤ 0x20)
  have hfront : (front ++ rest).dropWhile outside = front ++ rest := rfl
  have hslash : front.reverse.dropWhile outside = front.reverse := rfl
  refine ⟨(rest.reverse.dropWhile outside).reverse, ?_⟩
  rw [trim, String.toList_ofList, hfront, List.reverse_append, List.dropWhile_append]
  -- only if everything behind the front is blank does trimming get as far as its last slash
  split
  · next hblank =>
      rw [List.isEmpty_iff.mp hblank, hslash, List.reverse_reverse, List.reverse_nil,
        List.append_nil]
  · rw [List.reverse_append, List.reverse_reverse]

/-- A URI that starts as those of paths do names a file. -/
theorem isSome_toPath?_front (rest : List Char) :
    (toPath? (String.ofList (front ++ rest))).isSome := by
  obtain ⟨rest', htrim⟩ := trim_front rest
  have hscheme : splitScheme? (front ++ rest') = some ("file".toList, '/' :: '/' :: '/' :: rest') :=
    rfl
  rw [toPath?, htrim, hscheme]
  rfl

/-- The URI of a path names a file. -/
theorem isSome_toPath?_ofPath {p : Path} {uri : String} (h : ofPath p = .ok uri) :
    (toPath? uri).isSome := by
  by_cases habsolute : p.isAbsolute
  · obtain ⟨rest, hrest⟩ := ofPath_eq_ok habsolute
    obtain rfl := Except.ok.inj (hrest.symm.trans h)
    exact isSome_toPath?_front rest
  · rw [ofPath, if_neg habsolute] at h
    cases h

end DiagnosticLens.Uri
