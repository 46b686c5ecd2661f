import DiagnosticLens.Proofs.ManagerHistory

/-!
# URIs of other schemes

Whether a URI names a file is found out without a look at its scheme, so that a URI of another
scheme may be taken for one. This file says exactly when this happens: a URI is taken for a file if
it has a path from the root and its host is absent or the local one. Diagnostics of all other URIs
that are not of the scheme `file` are ignored.

## Implementation notes

The parts of a URI are found by cutting it where a character stands for the first or for the last
time. The grammar below has the parts as they are written instead, and `Authority.ofChars_eq_iff`
says that there is only one way to find them.
-/

namespace DiagnosticLens

/-- A list is cut where a property fails for the first time in one way only. -/
theorem takeWhile_dropWhile_iff {α : Type} {p : α → Bool} {cs front back : List α} :
    cs.takeWhile p = front ∧ cs.dropWhile p = back ↔
      cs = front ++ back ∧ (∀ c ∈ front, p c = true) ∧ ∀ c ∈ back.head?, p c = false := by
  constructor
  · rintro ⟨rfl, rfl⟩
    refine ⟨List.takeWhile_append_dropWhile.symm, fun c hc => List.mem_takeWhile_imp hc, ?_⟩
    intro c hc
    have hhead := List.head?_dropWhile_not p cs
    rw [Option.mem_def.mp hc] at hhead
    simpa using hhead
  · rintro ⟨rfl, hfront, hback⟩
    rw [List.takeWhile_append_of_pos hfront, List.dropWhile_append_of_pos hfront]
    cases back with
    | nil => simp
    | cons c back => simp [hback c rfl]

/-- Every list can be cut there. -/
theorem exists_cut {α : Type} (p : α → Bool) (cs : List α) :
    ∃ front back, cs = front ++ back ∧ (∀ c ∈ front, p c = true) ∧ ∀ c ∈ back.head?, p c = false :=
  ⟨_, _, takeWhile_dropWhile_iff.mp ⟨rfl, rfl⟩⟩

namespace Uri

/-- The scheme of a URI in lower case. -/
def scheme? (uri : String) : Option (List Char) := (splitScheme? (trim uri)).map Prod.fst

namespace Authority

/-- The user information with its at sign. -/
def userText (a : Authority) : List Char := a.user.elim [] (· ++ ['@'])

/-- What is written for an authority. -/
def text (a : Authority) : List Char := a.userText ++ a.host ++ a.behind

/-- An authority whose parts do not run into each other when they are written. -/
structure Apart (a : Authority) : Prop where
  no_at : ∀ c ∈ a.host ++ a.behind, c ≠ '@'
  no_colon : ∀ c ∈ a.host, c ≠ ':'
  colon : ∀ c ∈ a.behind.head?, c = ':'

/-- The parts of an authority are found again behind its last at sign and at the first colon
there. -/
theorem ofChars_text {a : Authority} (h : a.Apart) : ofChars a.text = a := by
  have htail : a.text.reverse.takeWhile (· ≠ '@') = (a.host ++ a.behind).reverse ∧
      a.text.reverse.dropWhile (· ≠ '@') = a.userText.reverse := by
    refine takeWhile_dropWhile_iff.mpr ⟨by simp [text], ?_, ?_⟩
    · intro c hc
      simpa using h.no_at c (List.mem_reverse.mp hc)
    · cases huser : a.user <;> simp [userText, huser]
  have hhost : (a.host ++ a.behind).takeWhile (· ≠ ':') = a.host ∧
      (a.host ++ a.behind).dropWhile (· ≠ ':') = a.behind := by
    refine takeWhile_dropWhile_iff.mpr ⟨rfl, ?_, ?_⟩
    · intro c hc
      simpa using h.no_colon c hc
    · intro c hc
      simpa using h.colon c hc
  have huser : (if (a.host ++ a.behind).length < a.text.length then
      some (a.text.take (a.text.length - (a.host ++ a.behind).length - 1)) else none) = a.user := by
    cases huser : a.user with
    | none => simp [text, userText, huser]
    | some info =>
        have hlength : a.text.length = info.length + 1 + (a.host ++ a.behind).length := by
          simp [text, userText, huser]
          omega
        rw [if_pos (by omega), hlength, Nat.add_sub_cancel, Nat.add_sub_cancel]
        simp [text, userText, huser]
  rw [ofChars, htail.1, List.reverse_reverse, hhost.1, hhost.2, huser]

/-- Everything can be read as an authority. -/
theorem exists_text_eq (cs : List Char) : ∃ a : Authority, a.Apart ∧ a.text = cs := by
  obtain ⟨tail, before, hcs, htail, hbefore⟩ := exists_cut (· ≠ '@') cs.reverse
  obtain ⟨host, behind, hsplit, hhost, hbehind⟩ := exists_cut (· ≠ ':') tail.reverse
  have hat : ∀ c ∈ host ++ behind, c ≠ '@' := by
    intro c hc
    rw [← hsplit] at hc
    simpa using htail c (List.mem_reverse.mp hc)
  have happ : ∀ user, Apart ⟨user, host, behind⟩ := fun user =>
    ⟨hat, fun c hc => by simpa using hhost c hc, fun c hc => by simpa using hbehind c hc⟩
  have htext : cs = before.reverse ++ host ++ behind := by
    rw [List.append_assoc, ← hsplit, ← List.reverse_append, ← hcs, List.reverse_reverse]
  cases before with
  | nil => exact ⟨⟨none, host, behind⟩, happ _, htext.symm⟩
  | cons c info =>
      obtain rfl : c = '@' := by simpa using hbefore c rfl
      refine ⟨⟨some info.reverse, host, behind⟩, happ _, ?_⟩
      rw [htext, List.reverse_cons]
      rfl

/-- There is one way to take an authority apart. -/
theorem ofChars_eq_iff {a : Authority} {cs : List Char} :
    ofChars cs = a ↔ a.Apart ∧ a.text = cs := by
  obtain ⟨b, hb, rfl⟩ := exists_text_eq cs
  rw [ofChars_text hb]
  constructor
  · rintro rfl
    exact ⟨hb, rfl⟩
  · rintro ⟨ha, htext⟩
    rw [← ofChars_text ha, htext, ofChars_text hb]

end Authority

/-- An authority that ends where a path starts. -/
structure Authority.EndsAt (a : Authority) (special : Bool) (path : List Char) : Prop where
  apart : a.Apart
  inside : ∀ c ∈ a.text, endsAuthority special c = false
  ends : ∀ c ∈ path.head?, endsAuthority special c = true

/-- An authority and the path behind it are found where the authority first ends. -/
theorem Authority.cut_iff {special : Bool} {cs path : List Char} {a : Authority} :
    ofChars (cs.takeWhile fun c => !endsAuthority special c) = a ∧
        cs.dropWhile (fun c => !endsAuthority special c) = path ↔
      cs = a.text ++ path ∧ a.EndsAt special path := by
  constructor
  · rintro ⟨ha, hpath⟩
    obtain ⟨hapart, htext⟩ := ofChars_eq_iff.mp ha
    obtain ⟨hcs, hinside, hends⟩ := takeWhile_dropWhile_iff.mp ⟨htext.symm, hpath⟩
    refine ⟨hcs, hapart, ?_, ?_⟩
    · exact fun c hc => by simpa using hinside c hc
    · exact fun c hc => by simpa using hends c hc
  · rintro ⟨hcs, hends⟩
    have hcut : cs.takeWhile (fun c => !endsAuthority special c) = a.text ∧
        cs.dropWhile (fun c => !endsAuthority special c) = path := by
      refine takeWhile_dropWhile_iff.mpr ⟨hcs, ?_, ?_⟩
      · exact fun c hc => by simpa using hends.inside c hc
      · exact fun c hc => by simpa using hends.ends c hc
    exact ⟨ofChars_eq_iff.mpr ⟨hends.apart, hcut.1.symm⟩, hcut.2⟩

/-- A number behind a host: none, or a colon and digits that stay below `2 ^ 16`. -/
def IsNumber (cs : List Char) : Prop :=
  cs = [] ∨ ∃ digits, cs = ':' :: digits ∧ (∀ c ∈ digits, c.isDigit = true) ∧
    Text.digitsValue digits < 0x10000

theorem afterNumber?_colon_iff {cs rest : List Char} :
    afterNumber? (':' :: cs) = some rest ↔
      ∃ digits, cs = digits ++ rest ∧ (∀ c ∈ digits, c.isDigit = true) ∧
        Text.digitsValue digits < 0x10000 ∧ (rest = [] ∨ rest.head? = some '\\') := by
  simp only [afterNumber?, Option.ite_none_right_eq_some, Option.some.injEq, Bool.and_eq_true,
    Bool.or_eq_true, decide_eq_true_eq, List.isEmpty_iff, beq_iff_eq]
  constructor
  · rintro ⟨⟨hsmall, hbehind⟩, rfl⟩
    obtain ⟨hcs, hdigits, -⟩ := takeWhile_dropWhile_iff.mp
      ⟨Eq.refl (cs.takeWhile Char.isDigit), rfl⟩
    exact ⟨_, hcs, hdigits, hsmall, hbehind⟩
  · rintro ⟨digits, hcs, hdigits, hsmall, hrest⟩
    -- what follows is no digit, since it is a backslash if there is anything
    have hcut : cs.takeWhile Char.isDigit = digits ∧ cs.dropWhile Char.isDigit = rest := by
      refine takeWhile_dropWhile_iff.mpr ⟨hcs, hdigits, ?_⟩
      rintro c hc
      obtain rfl | hhead := hrest
      · cases hc
      · obtain rfl := Option.some.inj (hhead.symm.trans hc)
        rfl
    rw [hcut.1, hcut.2]
    exact ⟨⟨hsmall, hrest⟩, rfl⟩

/-- Behind a number there is nothing or a backslash. -/
theorem afterNumber?_eq_some_iff {cs rest : List Char} :
    afterNumber? cs = some rest ↔
      ∃ number, cs = number ++ rest ∧ IsNumber number ∧
        (rest = [] ∨ number ≠ [] ∧ rest.head? = some '\\') := by
  constructor
  · intro h
    cases cs with
    | nil =>
        obtain rfl : [] = rest := Option.some.inj h
        exact ⟨[], rfl, .inl rfl, .inl rfl⟩
    | cons c cs =>
        by_cases hc : c = ':'
        · obtain ⟨digits, rfl, hdigits, hsmall, hrest⟩ := afterNumber?_colon_iff.mp (hc ▸ h)
          refine ⟨':' :: digits, by simp [hc], .inr ⟨digits, rfl, hdigits, hsmall⟩, ?_⟩
          simpa using hrest
        · simp [afterNumber?, hc] at h
  · rintro ⟨number, rfl, rfl | ⟨digits, rfl, hdigits, hsmall⟩, hrest⟩
    · obtain rfl : rest = [] := by simpa using hrest
      rfl
    · exact afterNumber?_colon_iff.mpr ⟨digits, rfl, hdigits, hsmall, by simpa using hrest⟩

/-- What follows a web scheme is taken for local: any slashes, then a spelling of the local host,
perhaps with user information and a number. -/
def LocalWeb (cs : List Char) : Prop :=
  ∃ (slashes : List Char) (a : Authority) (path : List Char) (host : Host),
    cs = slashes ++ (a.text ++ path) ∧ (∀ c ∈ slashes, isSlash c = true) ∧ a.EndsAt true path ∧
      Host.ofChars? a.host = some host ∧ host.isLocal = true ∧ IsNumber a.behind

theorem isSome_webSegments?_of_cut {cs rest : List Char} {a : Authority}
    (hrest : cs.dropWhile isSlash = rest)
    (ha : Authority.ofChars (rest.takeWhile fun c => !endsAuthority true c) = a) :
    (webSegments? cs).isSome ↔ (∃ more, afterNumber? a.behind = some more) ∧
      ∃ host, Host.ofChars? a.host = some host ∧ host.isLocal = true := by
  rw [webSegments?, hrest, ha]
  cases afterNumber? a.behind <;> cases Host.ofChars? a.host <;> simp

/-- Behind the number of a web authority nothing is left, since a backslash ends the authority. -/
theorem Authority.EndsAt.isNumber {a : Authority} {path more : List Char}
    (hends : a.EndsAt true path) (h : afterNumber? a.behind = some more) : IsNumber a.behind := by
  obtain ⟨number, hbehind, hnumber, rfl | ⟨-, hhead⟩⟩ := afterNumber?_eq_some_iff.mp h
  · rwa [hbehind, List.append_nil]
  · have hmem : '\\' ∈ a.text := by
      rw [text, hbehind]
      exact List.mem_append_right _ (List.mem_append_right _ (List.mem_of_head? hhead))
    cases hends.inside _ hmem

/-- The slashes in front of a web authority with a host are those that are not part of it. -/
theorem Authority.EndsAt.dropWhile_isSlash {a : Authority} {slashes path : List Char}
    (hends : a.EndsAt true path) (hslashes : ∀ c ∈ slashes, isSlash c = true)
    (hhost : a.host ≠ []) :
    (slashes ++ (a.text ++ path)).dropWhile isSlash = a.text ++ path := by
  refine (takeWhile_dropWhile_iff.mpr ⟨rfl, hslashes, ?_⟩).2
  intro c hc
  have hne : a.text ≠ [] := by simp [text, hhost]
  have hmem : c ∈ a.text := by
    rw [List.head?_append_of_ne_nil _ hne] at hc
    exact List.mem_of_head? hc
  have hinside := hends.inside c hmem
  simp_all [endsAuthority, isSlash]

theorem isSome_webSegments?_iff {cs : List Char} : (webSegments? cs).isSome ↔ LocalWeb cs := by
  constructor
  · intro h
    obtain ⟨⟨more, hmore⟩, host, hhost, hlocal⟩ := (isSome_webSegments?_of_cut rfl rfl).mp h
    obtain ⟨hrest, hends⟩ := Authority.cut_iff.mp ⟨rfl, Eq.refl ((cs.dropWhile isSlash).dropWhile
      fun c => !endsAuthority true c)⟩
    refine ⟨cs.takeWhile isSlash, _, _, host, ?_, fun c hc => List.mem_takeWhile_imp hc, hends,
      hhost, hlocal, hends.isNumber hmore⟩
    rw [← hrest, List.takeWhile_append_dropWhile]
  · rintro ⟨slashes, a, path, host, rfl, hslashes, hends, hhost, hlocal, hnumber⟩
    have hne : a.host ≠ [] := by
      intro hnil
      rw [hnil] at hhost
      cases hhost
    have hrest := hends.dropWhile_isSlash hslashes hne
    have ha := (Authority.cut_iff.mpr ⟨rfl, hends⟩).1
    refine (isSome_webSegments?_of_cut hrest ha).mpr ⟨⟨[], ?_⟩, host, hhost, hlocal⟩
    exact afterNumber?_eq_some_iff.mpr ⟨a.behind, (List.append_nil _).symm, hnumber, .inl rfl⟩

/-- What follows any other scheme is taken for local. -/
inductive LocalOther (cs : List Char) : Prop where
  /-- A path from the root, and no authority. -/
  | rooted (path : List Char) (hcs : cs = '/' :: path) (hroot : path.head? ≠ some '/')
  /-- The local host as it is spelled, perhaps with user information and a number, and a path from
  the root. Behind a number the path may also start with a backslash. -/
  | named (a : Authority) (number more path : List Char) (hcs : cs = '/' :: '/' :: (a.text ++ path))
    (hends : a.EndsAt false path) (hhost : a.host = "localhost".toList)
    (hbehind : a.behind = number ++ more) (hnumber : IsNumber number)
    (hpath : more = [] ∧ path.head? = some '/' ∨ number ≠ [] ∧ more.head? = some '\\')
  /-- No host, and a path from the root. -/
  | nameless (user path : List Char) (hcs : cs = '/' :: '/' :: (user ++ '/' :: path))
    (huser : user = [] ∨ user = [':', '@'])

theorem isSome_otherAuthority?_of_cut {cs path : List Char} {a : Authority}
    (ha : Authority.ofChars (cs.takeWhile fun c => !endsAuthority false c) = a)
    (hpath : cs.dropWhile (fun c => !endsAuthority false c) = path) :
    (otherAuthority? cs).isSome ↔ ∃ more, afterNumber? a.behind = some more ∧
      (a.host = "localhost".toList ∨
        a.host = [] ∧ a.behind = [] ∧ (a.user = none ∨ a.user = some [':'])) ∧
      ∃ c, (more ++ path).head? = some c ∧ c ≠ '?' ∧ c ≠ '#' := by
  rw [otherAuthority?, ha, hpath]
  generalize "localhost".toList = name
  cases afterNumber? a.behind with
  | none => simp
  | some more =>
      simp only [Option.bind_eq_bind, Option.bind_some, Option.some.injEq, exists_eq_left',
        Bool.or_eq_true, Bool.and_eq_true, decide_eq_true_eq, List.isEmpty_iff,
        Option.isNone_iff_eq_none, beq_iff_eq]
      by_cases hhost :
          a.host = name ∨ a.host = [] ∧ a.behind = [] ∧ (a.user = none ∨ a.user = some [':'])
      · rw [if_pos hhost]
        cases more ++ path <;> simp [hhost]
      · rw [if_neg hhost]
        simp [hhost]

theorem localOther_of_isSome {cs : List Char} (h : (otherAuthority? cs).isSome) :
    LocalOther ('/' :: '/' :: cs) := by
  obtain ⟨more, hmore, hhost, c, hhead, hquery, hfragment⟩ :=
    (isSome_otherAuthority?_of_cut rfl rfl).mp h
  obtain ⟨hcs, hends⟩ :=
    Authority.cut_iff.mp ⟨rfl, Eq.refl (cs.dropWhile fun c => !endsAuthority false c)⟩
  obtain ⟨number, hbehind, hnumber, hrest⟩ := afterNumber?_eq_some_iff.mp hmore
  generalize Authority.ofChars (cs.takeWhile fun c => !endsAuthority false c) = a at *
  generalize cs.dropWhile (fun c => !endsAuthority false c) = path at *
  -- of what may end the authority only the slash is left
  have hslash : more = [] → path.head? = some '/' := by
    rintro rfl
    have hend := hends.ends c hhead
    have hc : c = '/' := by simpa [endsAuthority, hquery, hfragment] using hend
    rwa [← hc]
  obtain hhost | ⟨hhost, hnone, huser⟩ := hhost
  · refine .named a number more path (by rw [hcs]) hends hhost hbehind hnumber ?_
    obtain hnil | hback := hrest
    · exact .inl ⟨hnil, hslash hnil⟩
    · exact .inr hback
  · obtain ⟨rfl, rfl⟩ := List.append_eq_nil_iff.mp (hbehind.symm.trans hnone)
    obtain ⟨rest, rfl⟩ := List.head?_eq_some_iff.mp (hslash rfl)
    refine .nameless a.text rest (by rw [hcs]) ?_
    obtain huser | huser := huser <;> simp [Authority.text, Authority.userText, huser, hhost, hnone]

/-- An authority without host and number is found in front of a path from the root. -/
theorem isSome_otherAuthority?_of_nameless {user : List Char} (path : List Char)
    (huser : user = [] ∨ user = [':', '@']) : (otherAuthority? (user ++ '/' :: path)).isSome := by
  have hread : ∃ a : Authority, a.text = user ∧ a.host = [] ∧ a.behind = [] ∧
      (a.user = none ∨ a.user = some [':']) := by
    obtain rfl | rfl := huser
    · exact ⟨⟨none, [], []⟩, rfl, rfl, rfl, .inl rfl⟩
    · exact ⟨⟨some [':'], [], []⟩, rfl, rfl, rfl, .inr rfl⟩
  obtain ⟨a, rfl, hhost, hbehind, hinfo⟩ := hread
  have hends : a.EndsAt false ('/' :: path) := by
    have hapart : a.Apart := ⟨by simp [hhost, hbehind], by simp [hhost], by simp [hbehind]⟩
    refine ⟨hapart, ?_, by simp [endsAuthority]⟩
    obtain hnil | htext := huser
    · simp [hnil]
    · simp [htext, endsAuthority]
  obtain ⟨ha, hpath⟩ := Authority.cut_iff.mpr ⟨rfl, hends⟩
  refine (isSome_otherAuthority?_of_cut ha hpath).mpr
    ⟨[], by rw [hbehind]; rfl, .inr ⟨hhost, hbehind, hinfo⟩, ?_⟩
  exact ⟨'/', rfl, by decide, by decide⟩

theorem isSome_otherSegments?_iff {cs : List Char} :
    (otherSegments? cs).isSome ↔ LocalOther cs := by
  constructor
  · intro h
    unfold otherSegments? at h
    split at h
    · exact localOther_of_isSome h
    · next path hpath =>
        refine .rooted path rfl ?_
        intro hhead
        obtain ⟨rest, rfl⟩ := List.head?_eq_some_iff.mp hhead
        exact hpath rest rfl
    · cases h
  · rintro (⟨path, rfl, hroot⟩ |
      ⟨a, number, more, path, rfl, hends, hhost, hbehind, hnumber, hpath⟩ |
      ⟨user, path, rfl, huser⟩)
    · rw [otherSegments?]
      · rfl
      · rintro rest rfl
        exact hroot rfl
    · obtain ⟨ha, hcut⟩ := Authority.cut_iff.mpr ⟨rfl, hends⟩
      refine (isSome_otherAuthority?_of_cut ha hcut).mpr ⟨more, ?_, .inl hhost, ?_⟩
      · refine afterNumber?_eq_some_iff.mpr ⟨number, hbehind, hnumber, ?_⟩
        exact hpath.imp_left And.left
      · obtain ⟨rfl, hslash⟩ | ⟨-, hback⟩ := hpath
        · exact ⟨'/', hslash, by decide, by decide⟩
        · exact ⟨'\\', by simp [hback], by decide, by decide⟩
    · exact isSome_otherAuthority?_of_nameless path huser

/-- A URI of another scheme than `file` that is taken for one: it has a path from the root, and no
host or the local one. -/
def LooksLocal (uri : String) : Prop :=
  ∃ scheme rest, splitScheme? (trim uri) = some (scheme, rest) ∧
    (scheme ∈ webSchemes ∧ LocalWeb (withoutGaps rest) ∨
      scheme ∉ webSchemes ∧ LocalOther (withoutGaps rest))

/-- A URI of another scheme than `file` names a file if it looks local, and only then. -/
theorem isSome_toPath?_iff {uri : String} (hforeign : scheme? uri ≠ some "file".toList) :
    (toPath? uri).isSome ↔ LooksLocal uri := by
  have hpath : ∀ segments? : Option (List Segment),
      (segments?.bind fun segments => some (pathOfSegments segments)).isSome =
        segments?.isSome := by
    rintro (_ | segments) <;> rfl
  rw [scheme?] at hforeign
  rw [toPath?, LooksLocal]
  generalize "file".toList = file at hforeign ⊢
  cases hsplit : splitScheme? (trim uri) with
  | none => simp
  | some parts =>
      obtain ⟨scheme, rest⟩ := parts
      have hne : scheme ≠ file := by simpa [hsplit] using hforeign
      by_cases hweb : scheme ∈ webSchemes
      · simp [hne, hweb, hpath, ← isSome_webSegments?_iff]
      · simp [hne, hweb, hpath, ← isSome_otherSegments?_iff]

end Uri

namespace Manager

variable {ε : Type}

/-- Diagnostics of a URI that is not of the scheme `file` are ignored if the URI does not look
local, and only then: the URI names no file, and nothing in the store changes, for any document.
Diagnostics of all other such URIs are kept under the URI and counted. -/
theorem foreign_diagnostics_ignored_iff {uri : String}
    (hforeign : Uri.scheme? uri ≠ some "file".toList) (m : Manager ε) (items : List Diagnostic) :
    (Uri.toPath? uri = none ↔ ¬Uri.LooksLocal uri) ∧
      ((∀ other,
          (m.handle (.diagnostics uri items)).1.store.snapshot other = m.store.snapshot other ∧
            (m.handle (.diagnostics uri items)).1.store.generation other =
              m.store.generation other) ↔
        ¬Uri.LooksLocal uri) ∧
      (Uri.LooksLocal uri →
        (m.handle (.diagnostics uri items)).1.store.snapshot uri =
          ⟨uri, items, m.store.generation uri + 1⟩) := by
  have hsome := Uri.isSome_toPath?_iff hforeign
  have hkept : Uri.LooksLocal uri →
      (m.handle (.diagnostics uri items)).1.store.snapshot uri =
        ⟨uri, items, m.store.generation uri + 1⟩ := by
    intro hlocal
    rw [handle_diagnostics (hsome.mpr hlocal)]
    simp [Store.snapshot, Store.publish, Store.generation]
  refine ⟨by rw [← hsome]; simp, ⟨?_, ?_⟩, hkept⟩
  · intro hsame hlocal
    have hgeneration := congrArg Snapshot.generation ((hkept hlocal).symm.trans (hsame uri).1)
    have hnext : m.store.generation uri + 1 = m.store.generation uri := hgeneration
    simp at hnext
  · intro hremote other
    have hnone : Uri.toPath? uri = none := by simpa [← hsome] using hremote
    simp [handle, hnone]

/-- A manager that has not been told of anything. -/
def untold : Manager Unit := (ofConfig {}).1

/-- A diagnostic at the front of a document. -/
def strayDiagnostic : Diagnostic := ⟨⟨⟨0, 0⟩, ⟨0, 1⟩⟩, none, "stray", none, none⟩

/-- A document of version control has a path from the root, and a document without a name has not:
the diagnostics of the first one are kept, and those of the second one are ignored. -/
theorem foreign_diagnostics_ignored_iff_rooted :
    Uri.scheme? "git:/a.c" = some "git".toList ∧ Uri.LooksLocal "git:/a.c" ∧
      (untold.handle (.diagnostics "git:/a.c" [strayDiagnostic])).1.store.snapshot "git:/a.c" =
        ⟨"git:/a.c", [strayDiagnostic], 1⟩ ∧
      Uri.scheme? "untitled:a.c" = some "untitled".toList ∧ ¬Uri.LooksLocal "untitled:a.c" ∧
      (untold.handle (.diagnostics "untitled:a.c" [strayDiagnostic])).1.store.snapshot
        "untitled:a.c" = untold.store.snapshot "untitled:a.c" := by
  have hgit : Uri.scheme? "git:/a.c" ≠ some "file".toList := by decide
  have hlocal : Uri.LooksLocal "git:/a.c" :=
    ⟨_, _, rfl, .inr ⟨by decide, .rooted "a.c".toList rfl (by decide)⟩⟩
  have huntitled : Uri.scheme? "untitled:a.c" ≠ some "file".toList := by decide
  have hremote : ¬Uri.LooksLocal "untitled:a.c" :=
    (foreign_diagnostics_ignored_iff huntitled untold []).1.mp rfl
  obtain ⟨-, -, hkept⟩ := foreign_diagnostics_ignored_iff hgit untold [strayDiagnostic]
  obtain ⟨-, hsame, -⟩ := foreign_diagnostics_ignored_iff huntitled untold [strayDiagnostic]
  exact ⟨rfl, hlocal, hkept hlocal, rfl, hremote, (hsame.mpr hremote "untitled:a.c").1⟩

/-- So it is not true of all URIs of other schemes that they name no file and that their diagnostics
leave the store as it is. -/
theorem foreign_diagnostics_kept :
    Uri.scheme? "git:/a.c" = some "git".toList ∧
      Uri.toPath? "git:/a.c" = some (.ofString "/a.c") ∧
      untold.store.generation "git:/a.c" = 0 ∧
      (untold.handle (.diagnostics "git:/a.c" [strayDiagnostic])).1.store.generation "git:/a.c" =
        1 ∧
      ¬∀ (uri : String) (m : Manager Unit) (items : List Diagnostic),
        Uri.scheme? uri ≠ some "file".toList →
          Uri.toPath? uri = none ∧
            ∀ other,
              (m.handle (.diagnostics uri items)).1.store.snapshot other = m.store.snapshot other ∧
                (m.handle (.diagnostics uri items)).1.store.generation other =
                  m.store.generation other := by
  have hpath : Uri.toPath? "git:/a.c" = some (.ofString "/a.c") := by decide
  refine ⟨rfl, hpath, rfl, rfl, ?_⟩
  intro hclaim
  obtain ⟨hnone, -⟩ := hclaim "git:/a.c" untold [strayDiagnostic] (by decide)
  rw [hpath] at hnone
  cases hnone

end Manager

end DiagnosticLens
