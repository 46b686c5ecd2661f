import DiagnosticLens.Proofs.ForeignUri
import DiagnosticLens.Proofs.Isolation

/-!
# Other spellings of a URI

Many URIs name the same file, and the manager keeps diagnostics under the URI that they came with.
An inspection computes the URI of its file from the path. So diagnostics reach the inspection only
if their URI is spelled in exactly this way: those that come under another spelling are kept, but
the inspection goes on as if they had never come. There is such a spelling for every file.
-/

namespace DiagnosticLens

namespace Uri

/-- Whether a character does not count at the ends of a URI. -/
def isOutside (c : Char) : Bool := c.toNat ≤ 0x20

/-- If a URI does not start with a blank, and something in it is no blank either, only blanks behind
that are trimmed. -/
theorem trim_append {first last : Char} (middle rest : List Char) (hfirst : isOutside first = false)
    (hlast : isOutside last = false) :
    trim (String.ofList (first :: middle ++ last :: rest)) =
      first :: middle ++ last :: rest.rdropWhile isOutside := by
  have hfront : (first :: middle ++ last :: rest).dropWhile isOutside =
      first :: middle ++ last :: rest := by
    simp [hfirst]
  have htrim : trim (String.ofList (first :: middle ++ last :: rest)) =
      ((first :: middle ++ last :: rest).dropWhile isOutside).rdropWhile isOutside := by
    rw [trim, String.toList_ofList]
    rfl
  rw [htrim, hfront, List.rdropWhile, List.rdropWhile, List.reverse_append, List.reverse_cons,
    List.append_assoc, List.dropWhile_append]
  split
  · next hblank => simp [List.isEmpty_iff.mp hblank, hlast]
  · simp

/-- The start of a URI in capitals. -/
def capitals : List Char := ['F', 'I', 'L', 'E', ':', '/', '/', '/']

theorem trim_capitals (rest : List Char) :
    trim (String.ofList (capitals ++ rest)) = capitals ++ rest.rdropWhile isOutside :=
  trim_append ['I', 'L', 'E', ':', '/', '/'] rest rfl rfl

/-- Whether a URI has its scheme in capitals makes no difference to the file that it names. -/
theorem toPath?_capitals (rest : List Char) :
    toPath? (String.ofList (capitals ++ rest)) = toPath? (String.ofList (front ++ rest)) := by
  have hfront : trim (String.ofList (front ++ rest)) = front ++ rest.rdropWhile isOutside :=
    trim_append ['i', 'l', 'e', ':', '/', '/'] rest rfl rfl
  rw [toPath?, toPath?, trim_capitals, hfront]
  rfl

/-- Every file has a URI with another spelling. -/
theorem exists_other_spelling {file : Path} {uri : String} (h : ofPath file = .ok uri) :
    ∃ other, other ≠ uri ∧ scheme? other = some "file".toList ∧ toPath? other = toPath? uri := by
  have habsolute : file.isAbsolute := by
    by_contra hrelative
    rw [ofPath, if_neg hrelative] at h
    cases h
  obtain ⟨rest, hrest⟩ := ofPath_eq_ok habsolute
  obtain rfl := Except.ok.inj (hrest.symm.trans h)
  refine ⟨String.ofList (capitals ++ rest), ?_, ?_, toPath?_capitals rest⟩
  · intro hsame
    have hlist := congrArg String.toList hsame
    simp [capitals, front] at hlist
  · rw [scheme?, trim_capitals]
    rfl

end Uri

namespace Manager

variable {ε : Type}

/-- Diagnostics that come under one URI leave everything as it was about another. -/
theorem agreeOn_handle_of_ne {uri spelled : String} (hne : spelled ≠ uri) (m : Manager ε)
    (items : List Diagnostic) : (m.handle (.diagnostics spelled items)).1.AgreeOn uri m := by
  have hop : (HostOp.manager (.event (.diagnostics spelled items)) : HostOp ε).uri ≠ uri := hne
  exact HostOp.agreeOn_apply_of_ne hop m

/-- With a quiet session the inspection of a file reports the diagnostics that come under the URI of
the file, and else those that there were. -/
theorem inspect_handle_of_quiet {m : Manager ε} {file : Path} {uri text : String} {version : UInt64}
    {session : Session (World ε)} (hsupports : m.supports file.extensionText? = true)
    (huri : Uri.ofPath file = .ok uri) (hsession : m.sessionFor? uri = some session)
    {spelled : String} {items : List Diagnostic} {rest : ε}
    (hquiet : session.Quiet uri text version
      ⟨(m.handle (.diagnostics spelled items)).1.store, rest⟩) (isPreview : Bool) :
    ((inspect (ProblemFactory.plain (World ε)) file isPreview).run
        ((m.handle (.diagnostics spelled items)).1, rest)).result =
      .reported ((if spelled = uri then items else (m.store.entry uri).items).filterMap
        ((Document.ofText text version).problem? file isPreview)) := by
  have hsupports' : (m.handle (.diagnostics spelled items)).1.supports file.extensionText? := by
    rw [supports, extensions_handle]
    exact hsupports
  have hsession' : (m.handle (.diagnostics spelled items)).1.sessionFor? uri = some session := by
    rw [sessionFor?, sessions_handle_diagnostics]
    exact hsession
  have hitems : ((m.handle (.diagnostics spelled items)).1.store.entry uri).items =
      if spelled = uri then items else (m.store.entry uri).items := by
    rw [items_handle (Uri.isSome_toPath?_ofPath huri), ManagerOp.eventTold?]
    split <;> rfl
  rw [← hitems]
  exact inspect_of_session hsupports' huri hsession' (Pass.run_of_quiet rfl hquiet)

/-- Diagnostics are kept under the spelling that they come with. For a session and a factory that
see no more of the store than the document of their file, the inspection of the file goes on as if
they had come under the URI of the file if this is how they are spelled, and as if they had not come
at all if it is not. With a quiet session this shows in what is reported. -/
theorem spelling_decides_delivery (m : Manager ε) {file : Path} {uri spelled : String}
    (huri : Uri.ofPath file = .ok uri) (hspelled : Uri.toPath? spelled = some file)
    (items : List Diagnostic) :
    (∀ other, (m.handle (.diagnostics spelled items)).1.store.entry other =
        if other = spelled then ⟨items, (m.store.entry spelled).generation + 1⟩
        else m.store.entry other) ∧
      (∀ {η : Type} (own : ε → η) (factory : ProblemFactory (World ε)) (isPreview : Bool)
          (rest : ε),
        (∀ session, m.sessionFor? uri = some session → session.Respects (SameFor uri own)) →
        factory.Respects (SameFor uri own) →
        ((inspect factory file isPreview).run
            ((m.handle (.diagnostics spelled items)).1, rest)).result =
          if spelled = uri then
            ((inspect factory file isPreview).run
              ((m.handle (.diagnostics uri items)).1, rest)).result
          else ((inspect factory file isPreview).run (m, rest)).result) ∧
      ∀ session text version isPreview rest, m.supports file.extensionText? = true →
        m.sessionFor? uri = some session →
        session.Quiet uri text version ⟨(m.handle (.diagnostics spelled items)).1.store, rest⟩ →
        ((inspect (ProblemFactory.plain (World ε)) file isPreview).run
            ((m.handle (.diagnostics spelled items)).1, rest)).result =
          .reported ((if spelled = uri then items else (m.store.entry uri).items).filterMap
            ((Document.ofText text version).problem? file isPreview)) := by
  refine ⟨?_, ?_, ?_⟩
  · intro other
    rw [handle_diagnostics (by simp [hspelled])]
    split
    · next hown => simp [hown, Store.publish]
    · next hother => exact Store.entry_write_of_ne _ _ hother
  · intro η own factory isPreview rest hsession hfactory
    split
    · next hsame => rw [hsame]
    · next hother =>
        have hagree := agreeOn_handle_of_ne hother m items
        exact inspect_alike huri (hagree.consulted? huri).symm hsession hfactory isPreview
          ⟨hagree.entry.symm, rfl⟩
  · intro session text version isPreview rest hsupports hsession hquiet
    exact inspect_handle_of_quiet hsupports huri hsession hquiet isPreview

/-- A session that goes on quietly in all surroundings sees nothing but its own document. -/
theorem respects_of_quiet {η : Type} {session : Session (World ε)} {uri text : String}
    {version : UInt64} (own : ε → η) (hquiet : ∀ w, session.Quiet uri text version w) :
    session.Respects (SameFor uri own) where
  isDisposed w w' h := by
    rw [(hquiet w).isDisposed, (hquiet w').isDisposed]
    exact ⟨rfl, h⟩
  document w w' h := by
    rw [(hquiet w).document, (hquiet w').document]
    exact ⟨rfl, h⟩
  documentVersion w w' h := by
    rw [(hquiet w).documentVersion, (hquiet w').documentVersion]
    exact ⟨rfl, h⟩
  diagnostics w w' h := by
    rw [(hquiet w).diagnostics, (hquiet w').diagnostics]
    refine ⟨?_, h⟩
    simp only [Store.snapshot, h.1]
  verify s snapshot hsnapshot w w' h := by
    rw [(hquiet s).diagnostics] at hsnapshot
    obtain rfl : s.store.snapshot uri = snapshot := Except.ok.inj hsnapshot
    rw [(hquiet w).verify, (hquiet w').verify]
    have hgeneration : w.store.generation (s.store.snapshot uri).uri =
        w'.store.generation (s.store.snapshot uri).uri :=
      congrArg StoreEntry.generation h.1
    refine ⟨?_, h⟩
    simp only [Snapshot.verify, hgeneration]
  codeAction anchor w w' h := by
    rw [(hquiet w).codeAction, (hquiet w').codeAction]
    exact ⟨rfl, h⟩

/-- A manager with a quiet session for the file `/a.c`. -/
def opened : Manager Unit :=
  replay clangConfig [.attach "file:///a.c" (quietSession "file:///a.c" "let xy" 7)]

/-- A diagnostic of this file. -/
def unusedDiagnostic : Diagnostic := ⟨⟨⟨0, 4⟩, ⟨0, 9⟩⟩, some .warning, "unused", none, none⟩

theorem supports_opened : opened.supports sourceFile.extensionText? = true := by
  rw [supports, opened, extensions_replay]
  exact supports_sourceFile

/-- The diagnostic comes under a URI in capitals, and the inspection of the file reports nothing. -/
theorem spelling_decides_delivery_capitals :
    Uri.ofPath sourceFile = .ok "file:///a.c" ∧ Uri.toPath? "FILE:///a.c" = some sourceFile ∧
      ((inspect (ProblemFactory.plain (World Unit)) sourceFile true).run
        ((opened.handle (.diagnostics "FILE:///a.c" [unusedDiagnostic])).1, ())).result =
          .reported [] ∧
      ((inspect (ProblemFactory.plain (World Unit)) sourceFile true).run
        ((opened.handle (.diagnostics "FILE:///a.c" [unusedDiagnostic])).1, ())).result =
        ((inspect (ProblemFactory.plain (World Unit)) sourceFile true).run
          (opened, ())).result := by
  have huri : Uri.ofPath sourceFile = .ok "file:///a.c" := rfl
  have hspelled : Uri.toPath? "FILE:///a.c" = some sourceFile := by decide
  obtain ⟨-, hresult, hreported⟩ :=
    spelling_decides_delivery opened huri hspelled [unusedDiagnostic]
  refine ⟨huri, hspelled, ?_, ?_⟩
  · exact hreported _ "let xy" 7 true () supports_opened rfl (quiet_quietSession _ _ _ _)
  · have hsession : ∀ session, opened.sessionFor? "file:///a.c" = some session →
        session.Respects (SameFor "file:///a.c" id) := by
      intro session hsession
      obtain rfl : quietSession "file:///a.c" "let xy" 7 = session := Option.some.inj hsession
      exact respects_of_quiet id (quiet_quietSession _ _ _)
    exact (hresult id _ true () hsession ProblemFactory.respects_plain).trans (if_neg (by decide))

/-- So the spelling of a URI does decide whether diagnostics arrive. -/
theorem spelled_diagnostics_lost :
    Uri.scheme? "FILE:///a.c" = some "file".toList ∧
      Uri.toPath? "FILE:///a.c" = some sourceFile ∧
      ((inspect (ProblemFactory.plain (World Unit)) sourceFile true).run
        ((opened.handle (.diagnostics "FILE:///a.c" [unusedDiagnostic])).1, ())).result =
          .reported [] ∧
      ((inspect (ProblemFactory.plain (World Unit)) sourceFile true).run
        ((opened.handle (.diagnostics "file:///a.c" [unusedDiagnostic])).1, ())).result =
          .reported [reopenedProblem] ∧
      ¬∀ (m : Manager Unit) (file : Path) (uri spelled : String) (items : List Diagnostic)
        (isPreview : Bool),
        Uri.ofPath file = .ok uri → Uri.scheme? spelled = some "file".toList →
        Uri.toPath? spelled = some file →
        (∃ session text version, m.sessionFor? uri = some session ∧
          ∀ w, session.Quiet uri text version w) →
        ((inspect (ProblemFactory.plain (World Unit)) file isPreview).run
            ((m.handle (.diagnostics spelled items)).1, ())).result =
          ((inspect (ProblemFactory.plain (World Unit)) file isPreview).run
            ((m.handle (.diagnostics uri items)).1, ())).result := by
  have huri : Uri.ofPath sourceFile = .ok "file:///a.c" := rfl
  have hspelled : Uri.toPath? "FILE:///a.c" = some sourceFile := by decide
  have hsession : opened.sessionFor? "file:///a.c" =
      some (quietSession "file:///a.c" "let xy" 7) := rfl
  have hquiet : ∀ w : World Unit,
      (quietSession "file:///a.c" "let xy" 7).Quiet "file:///a.c" "let xy" 7 w :=
    quiet_quietSession _ _ _
  have hlost : ((inspect (ProblemFactory.plain (World Unit)) sourceFile true).run
      ((opened.handle (.diagnostics "FILE:///a.c" [unusedDiagnostic])).1, ())).result =
        .reported [] :=
    inspect_handle_of_quiet supports_opened huri hsession (hquiet _) true
  have hfound : ((inspect (ProblemFactory.plain (World Unit)) sourceFile true).run
      ((opened.handle (.diagnostics "file:///a.c" [unusedDiagnostic])).1, ())).result =
        .reported [reopenedProblem] :=
    inspect_handle_of_quiet supports_opened huri hsession (hquiet _) true
  refine ⟨rfl, hspelled, hlost, hfound, ?_⟩
  intro hclaim
  have hsame := hclaim opened sourceFile "file:///a.c" "FILE:///a.c" [unusedDiagnostic] true huri
    rfl hspelled ⟨_, "let xy", 7, hsession, hquiet⟩
  rw [hlost, hfound] at hsame
  cases hsame

end Manager

end DiagnosticLens
