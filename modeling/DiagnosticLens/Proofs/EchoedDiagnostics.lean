import DiagnosticLens.Manager
import DiagnosticLens.Proofs.OffsetOrder
import DiagnosticLens.Proofs.WireRoundTrip
import DiagnosticLens.Wire.Request

/-!
# Diagnostics that go back to the server

A server that is asked for fixes is shown the diagnostics at the place in question. What it is shown
can be read again, and is then what the editor has kept: nothing is lost of a diagnostic on its way
to the server, though some may have been lost on the way from it. So a server that publishes what it
was shown changes nothing.

## Implementation notes

`Diagnostic.echo` is what a written diagnostic is read as before it is converted. It is not what the
server sent in the first place: a number for the code comes back as a string, and a severity that
has no name does not come back at all.
-/

namespace DiagnosticLens

open Layout

/-- Reading an array of written values gives what each of them is read as. -/
theorem Wire.list_map_eq_ok {α β : Type} {encode : β → Json} {item : Decoder α} {f : β → α}
    (h : ∀ b, item (encode b) = .ok (f b)) (bs : List β) :
    list item (.arr (bs.map encode)) = .ok (bs.map f) := by
  rw [list_eq_ok_iff]
  refine ⟨_, rfl, ?_⟩
  rw [List.forall₂_map_left_iff, List.forall₂_map_right_iff, List.forall₂_same]
  exact fun b _ => h b

theorem Wire.word64_ofUInt64 (n : UInt64) : word64 (.num (.ofUInt64 n)) = .ok n := by
  have hlt : (n.toNat : Int) < 0x10000000000000000 := by
    have hbound := n.toNat_lt
    omega
  simp [word64, JsonNumber.ofUInt64, UInt64.ofNatLT_toNat, hlt]

namespace WireDiagnostic

theorem updates_of_put {draft next : Draft} {name : String} {value : Json}
    (h : draft.put name value = .ok next) :
    update "range" Range.decode name value draft.range = .ok next.range ∧
      update "severity" (Wire.nullable Wire.word64) name value draft.severity =
        .ok next.severity ∧
      update "source" (Wire.nullable Wire.text) name value draft.source = .ok next.source ∧
      update "code" (Wire.nullable Wire.anything) name value draft.code = .ok next.code ∧
      update "message" Wire.text name value draft.message = .ok next.message := by
  unfold Draft.put at h
  split at h <;> simp only [bind_eq_ok_iff, pure_eq_ok_iff, Except.ok.injEq] at h <;>
    grind [update, Except.map]

theorem keeps_range : Keeps Draft.put "range" Range.decode Draft.range where
  accepts h := ⟨_, bind_eq_ok_iff.mpr ⟨_, h, rfl⟩⟩
  updates h := (updates_of_put h).1

theorem keeps_severity : Keeps Draft.put "severity" (Wire.nullable Wire.word64) Draft.severity where
  accepts h := ⟨_, bind_eq_ok_iff.mpr ⟨_, h, rfl⟩⟩
  updates h := (updates_of_put h).2.1

theorem keeps_source : Keeps Draft.put "source" (Wire.nullable Wire.text) Draft.source where
  accepts h := ⟨_, bind_eq_ok_iff.mpr ⟨_, h, rfl⟩⟩
  updates h := (updates_of_put h).2.2.1

theorem keeps_code : Keeps Draft.put "code" (Wire.nullable Wire.anything) Draft.code where
  accepts h := ⟨_, bind_eq_ok_iff.mpr ⟨_, h, rfl⟩⟩
  updates h := (updates_of_put h).2.2.2.1

theorem keeps_message : Keeps Draft.put "message" Wire.text Draft.message where
  accepts h := ⟨_, bind_eq_ok_iff.mpr ⟨_, h, rfl⟩⟩
  updates h := (updates_of_put h).2.2.2.2

end WireDiagnostic

namespace Diagnostic

/-- The diagnostic as a server would send it. -/
def echo (d : Diagnostic) : WireDiagnostic :=
  ⟨d.range, d.severity.map Severity.code, d.source, d.code.map .str, d.message⟩

/-- Nothing of a diagnostic is lost on its way to the server and back. -/
theorem toDiagnostic_echo (d : Diagnostic) : d.echo.toDiagnostic = d := by
  obtain ⟨range, severity, message, source, code⟩ := d
  cases severity <;> cases code <;>
    simp [echo, WireDiagnostic.toDiagnostic, WireDiagnostic.codeText?, Severity.ofCode?_code]

theorem map_toDiagnostic_echo (ds : List Diagnostic) :
    (ds.map echo).map WireDiagnostic.toDiagnostic = ds := by
  rw [List.map_map]
  exact (List.map_congr_left fun d _ => d.toDiagnostic_echo).trans (List.map_id ds)

/-- The values that are written for the fields of a diagnostic. -/
theorem given?_encode (d : Diagnostic) :
    WireDiagnostic.layout.given? d.encode "range" = some d.range.encode ∧
      WireDiagnostic.layout.given? d.encode "severity" =
        d.severity.map (fun s => .num (.ofUInt64 s.code)) ∧
      WireDiagnostic.layout.given? d.encode "source" = d.source.map .str ∧
      WireDiagnostic.layout.given? d.encode "code" = d.code.map .str ∧
      WireDiagnostic.layout.given? d.encode "message" = some (.str d.message) := by
  simp [given?, given, encode, List.lookup_append, List.lookup_cons]

/-- A written diagnostic is read as its echo. -/
theorem decode_encode (d : Diagnostic) : WireDiagnostic.decode d.encode = .ok d.echo := by
  obtain ⟨hrange, hseverity, hsource, hcode, hmessage⟩ := d.given?_encode
  have hseverity' : StandsFor (Wire.nullable Wire.word64) none
      (d.severity.map fun s => .num (.ofUInt64 s.code)) (d.severity.map Severity.code) := by
    have hmap := Wire.standsFor_map (x := d.severity.map Severity.code)
      (fun n _ => Wire.word64_ofUInt64 n) nofun
    rwa [Option.map_map] at hmap
  have hsource' : StandsFor (Wire.nullable Wire.text) none (d.source.map .str) d.source :=
    Wire.standsFor_map (fun _ _ => rfl) nofun
  have hcode' : StandsFor (Wire.nullable Wire.anything) none (d.code.map .str)
      (d.code.map .str) := by
    apply Wire.standsFor_self
    cases d.code <;> simp
  apply decode_obj_eq_ok
  · simp only [List.forall_mem_append]
    refine ⟨⟨⟨?_, List.forall_mem_cons.mpr ⟨?_, List.forall_mem_singleton.mpr ?_⟩⟩, ?_⟩, ?_⟩
    · exact WireDiagnostic.keeps_code.accepts_optional hcode'
    · exact fun draft => WireDiagnostic.keeps_message.accepts rfl
    · exact fun draft => WireDiagnostic.keeps_range.accepts d.range.decode_encode
    · exact WireDiagnostic.keeps_severity.accepts_optional hseverity'
    · exact WireDiagnostic.keeps_source.accepts_optional hsource'
  · intro draft hfill
    rw [WireDiagnostic.keeps_range.kept_of_lookup rfl hfill hrange d.range.decode_encode,
      WireDiagnostic.keeps_message.kept_of_lookup rfl hfill hmessage rfl,
      WireDiagnostic.keeps_severity.getD_of_fill rfl hfill hseverity hseverity',
      WireDiagnostic.keeps_source.getD_of_fill rfl hfill hsource hsource',
      WireDiagnostic.keeps_code.getD_of_fill rfl hfill hcode hcode']
    rfl

end Diagnostic

namespace Range

/-- A position between the two ends of a range, the ends included. -/
def Holds (range : Range) (p : Position) : Prop := range.start ≤ p ∧ p ≤ range.stop

theorem overlaps_iff_le (a b : Range) :
    a.overlaps b = true ↔ a.start ≤ b.stop ∧ b.start ≤ a.stop := by
  simp [overlaps]

/-- Ranges that are not reversed overlap if some position lies in both. -/
theorem overlaps_iff {a b : Range} (ha : a.start ≤ a.stop) (hb : b.start ≤ b.stop) :
    a.overlaps b = true ↔ ∃ p, a.Holds p ∧ b.Holds p := by
  rw [overlaps_iff_le]
  constructor
  · rintro ⟨hab, hba⟩
    -- the later start lies in both
    by_cases hle : a.start ≤ b.start
    · exact ⟨b.start, ⟨hle, hba⟩, Std.le_refl _, hb⟩
    · exact ⟨a.start, ⟨Std.le_refl _, ha⟩, Std.le_of_not_ge hle, hab⟩
  · rintro ⟨p, ⟨hastart, hastop⟩, hbstart, hbstop⟩
    exact ⟨Std.le_trans hastart hbstop, Std.le_trans hbstart hastop⟩

end Range

namespace PublishParams

theorem updates_of_put {draft next : Draft} {name : String} {value : Json}
    (h : draft.put name value = .ok next) :
    update "uri" Wire.text name value draft.uri = .ok next.uri ∧
      update "version" (Wire.nullable Wire.signed64) name value draft.version =
        .ok next.version ∧
      update "diagnostics" (Wire.list WireDiagnostic.decode) name value draft.diagnostics =
        .ok next.diagnostics := by
  unfold Draft.put at h
  split at h <;> simp only [bind_eq_ok_iff, pure_eq_ok_iff, Except.ok.injEq] at h <;>
    grind [update, Except.map]

theorem keeps_uri : Keeps Draft.put "uri" Wire.text Draft.uri where
  accepts h := ⟨_, bind_eq_ok_iff.mpr ⟨_, h, rfl⟩⟩
  updates h := (updates_of_put h).1

theorem keeps_version : Keeps Draft.put "version" (Wire.nullable Wire.signed64) Draft.version where
  accepts h := ⟨_, bind_eq_ok_iff.mpr ⟨_, h, rfl⟩⟩
  updates h := (updates_of_put h).2.1

theorem keeps_diagnostics :
    Keeps Draft.put "diagnostics" (Wire.list WireDiagnostic.decode) Draft.diagnostics where
  accepts h := ⟨_, bind_eq_ok_iff.mpr ⟨_, h, rfl⟩⟩
  updates h := (updates_of_put h).2.2

/-- The notification of diagnostics as they are shown to the server. -/
def notification (uri : String) (ds : List Diagnostic) : Json :=
  .obj [("diagnostics", .arr (ds.map Diagnostic.encode)), ("uri", .str uri)]

/-- The notification of diagnostics is read as one of their echoes. -/
theorem decode_notification (uri : String) (ds : List Diagnostic) :
    decode (notification uri ds) = .ok ⟨uri, none, ds.map Diagnostic.echo⟩ := by
  have hread : Wire.list WireDiagnostic.decode (.arr (ds.map Diagnostic.encode)) =
      .ok (ds.map Diagnostic.echo) := Wire.list_map_eq_ok Diagnostic.decode_encode ds
  have hversion : StandsFor (Wire.nullable Wire.signed64) none none none := ⟨fun _ => rfl, nofun⟩
  apply decode_obj_eq_ok
  · refine List.forall_mem_cons.mpr ⟨?_, List.forall_mem_singleton.mpr ?_⟩
    · exact fun draft => keeps_diagnostics.accepts hread
    · exact fun draft => keeps_uri.accepts rfl
  · intro draft hfill
    rw [keeps_uri.kept_of_lookup rfl hfill rfl rfl,
      keeps_diagnostics.kept_of_lookup rfl hfill rfl hread,
      keeps_version.getD_of_fill rfl hfill rfl hversion]
    rfl

end PublishParams

/-- What a request shows is read as the diagnostics that overlap the anchor. -/
theorem Anchor.decode_shown (anchor : Anchor) (uri : String) (ds : List Diagnostic) :
    ∃ shown, ((anchor.requestParams uri ds).member? "context").bind (Json.member? "diagnostics") =
        some shown ∧
      Wire.list WireDiagnostic.decode shown =
        .ok ((ds.filter fun d => d.range.overlaps anchor.range).map Diagnostic.echo) :=
  ⟨_, rfl, Wire.list_map_eq_ok Diagnostic.decode_encode _⟩

/-- What the server is shown of a diagnostic is read as the diagnostic. A request shows those that
overlap the anchor, in their order: for ranges that are not reversed, those with a position in
common. A server that sends a diagnostic, or publishes a whole list, and then publishes what it is
shown of it makes no difference. -/
theorem shown_diagnostics_read_back :
    (∀ d : Diagnostic, ∃ w, WireDiagnostic.decode d.encode = .ok w ∧ w.toDiagnostic = d) ∧
      (∀ (uri : String) (anchor : Anchor) (ds : List Diagnostic), ∃ shown ws,
        ((anchor.requestParams uri ds).member? "context").bind (Json.member? "diagnostics") =
            some shown ∧
          Wire.list WireDiagnostic.decode shown = .ok ws ∧
          ws.map WireDiagnostic.toDiagnostic =
            ds.filter fun d => d.range.overlaps anchor.range) ∧
      (∀ a b : Range, a.start ≤ a.stop → b.start ≤ b.stop →
        (a.overlaps b = true ↔ ∃ p, a.Holds p ∧ b.Holds p)) ∧
      (∀ a b : Range, a.overlaps b = b.overlaps a) ∧
      (∀ value w, WireDiagnostic.decode value = .ok w → ∃ again,
        WireDiagnostic.decode w.toDiagnostic.encode = .ok again ∧
          again.toDiagnostic = w.toDiagnostic) ∧
      ∀ value params, PublishParams.decode value = .ok params → ∃ again,
        PublishParams.decode (PublishParams.notification params.uri params.toDiagnostics) =
            .ok again ∧
          ∀ (ε : Type) (m : Manager ε), m.handlePublish again = m.handlePublish params := by
  refine ⟨?_, ?_, ?_, Range.overlaps_comm, ?_, ?_⟩
  · intro d
    exact ⟨d.echo, d.decode_encode, d.toDiagnostic_echo⟩
  · intro uri anchor ds
    obtain ⟨shown, hshown, hread⟩ := anchor.decode_shown uri ds
    exact ⟨shown, _, hshown, hread, Diagnostic.map_toDiagnostic_echo _⟩
  · intro a b ha hb
    exact Range.overlaps_iff ha hb
  · intro value w _
    exact ⟨_, w.toDiagnostic.decode_encode, w.toDiagnostic.toDiagnostic_echo⟩
  · intro value params _
    refine ⟨_, PublishParams.decode_notification params.uri params.toDiagnostics, ?_⟩
    intro ε m
    have htold : PublishParams.toDiagnostics
        ⟨params.uri, none, params.toDiagnostics.map Diagnostic.echo⟩ = params.toDiagnostics :=
      Diagnostic.map_toDiagnostic_echo params.toDiagnostics
    rw [Manager.handlePublish, htold]
    rfl

/-- A diagnostic with a number for its code and a severity that has no name. -/
def numbered : Json :=
  .obj [("code", .num (.int 2304 (by decide))), ("message", .str "cannot find name"),
    ("range", .obj [
      ("end", .obj [("character", .num (.int 6 (by decide))), ("line", .num (.int 0 (by decide)))]),
      ("start", .obj
        [("character", .num (.int 2 (by decide))), ("line", .num (.int 0 (by decide)))])]),
    ("severity", .num (.int 9 (by decide)))]

/-- It is kept, and shown, with a string for the code and without a severity. A cursor at its end
touches it. -/
theorem shown_diagnostics_read_back_numbered :
    ∃ w, WireDiagnostic.decode numbered = .ok w ∧
      w.toDiagnostic = ⟨⟨⟨0, 2⟩, ⟨0, 6⟩⟩, none, "cannot find name", none, some "2304"⟩ ∧
      (∃ again, WireDiagnostic.decode w.toDiagnostic.encode = .ok again ∧
        again.toDiagnostic = w.toDiagnostic) ∧
      ∃ p, w.range.Holds p ∧ (⟨⟨0, 6⟩, ⟨0, 6⟩⟩ : Range).Holds p := by
  obtain ⟨-, -, hoverlaps, -, hback, -⟩ := shown_diagnostics_read_back
  have hread : WireDiagnostic.decode numbered =
      .ok ⟨⟨⟨0, 2⟩, ⟨0, 6⟩⟩, some 9, none, some (.num (.int 2304 (by decide))),
        "cannot find name"⟩ := rfl
  refine ⟨_, hread, rfl, hback numbered _ hread, ?_⟩
  exact (hoverlaps _ _ (by decide) (by decide)).mp (by decide)

end DiagnosticLens
