import TemplateLint.Proofs.Json.Integers
import TemplateLint.Proofs.Json.Quoted
import TemplateLint.Proofs.Response.Decoding

/-!
# Diagnostics, written and read

A diagnostic is read from any object with its members, in any order and among
others, and its compact text is one of the texts that it is read from.  Of all
the texts of a diagnostic, the compact one stands for the diagnostic.
-/

namespace TemplateLint.Diagnostic

open Json Response

/-! ## What a document means -/

/-- One line, one column, one length, one message and at most one severity. -/
def MeansDiagnostic (document : Document) (diagnostic : Diagnostic) : Prop :=
  ∃ members severity, document = .object members ∧
    Holds members "line" IsWord32 (some diagnostic.line) ∧
    Holds members "column" IsWord32 (some diagnostic.column) ∧
    Holds members "length" IsWord32 (some diagnostic.length) ∧
    Holds members "message" MeansText (some diagnostic.message) ∧
    Holds members "severity" MeansSeverity severity ∧
    diagnostic.severity = severity.getD .error

/-- The diagnostic is not written as the list of its fields, and its severity
is no object. -/
structure DiagnosticInObjectForm (document : Document) : Prop where
  noList : ∀ items, document ≠ .list items
  severity : ∀ members, document = .object members →
    ∀ value ∈ valuesOf "severity" members, ∀ inner, value ≠ .object inner

/-- Neither the order of the members nor those of other names have any
influence. -/
theorem meansDiagnostic_congr {members others : List (String × Document)}
    (same : SameMembers
      ["line", "column", "length", "message", "severity"] members others) :
    MeansDiagnostic (.object members) = MeansDiagnostic (.object others) := by
  funext diagnostic
  simp [MeansDiagnostic, same.holds_iff]

/-! ## Reading -/

def diagnosticSlots : List (Slot Fields) :=
  [wordSlot "line" false (fun fields => fields.line)
     (fun fields value => { fields with line := some value }),
   wordSlot "column" false (fun fields => fields.column)
     (fun fields value => { fields with column := some value }),
   wordSlot "length" false (fun fields => fields.length)
     (fun fields value => { fields with length := some value }),
   textSlot "message" false (fun fields => fields.message)
     (fun fields value => { fields with message := some value }),
   { name := "severity"
     mayLack := true
     Content := Severity
     read := Severity.read
     Means := MeansSeverity
     get := fun fields => fields.severity
     set := fun fields value => { fields with severity := some value } }]

theorem lawful_diagnosticSlots : LawfulSlots diagnosticSlots where
  nodup := by decide
  get_set := by
    simp only [diagnosticSlots, List.mem_cons, List.not_mem_nil, or_false]
    rintro _ (rfl | rfl | rfl | rfl | rfl) state content <;> rfl
  get_set_of_ne := by
    simp only [diagnosticSlots, List.mem_cons, List.not_mem_nil, or_false]
    rintro _ (rfl | rfl | rfl | rfl | rfl) _ (rfl | rfl | rfl | rfl | rfl)
      different state content <;>
      first
      | rfl
      | exact absurd rfl different
  ext := by
    simp only [diagnosticSlots, List.forall_mem_cons]
    rintro ⟨line, column, length, message, severity⟩ ⟨_, _, _, _, _⟩
      ⟨rfl, rfl, rfl, rfl, rfl, _⟩
    rfl

theorem complete_iff {fields : Fields} {diagnostic : Diagnostic} :
    form.complete fields = .ok diagnostic ↔
      fields.line = some diagnostic.line ∧
        fields.column = some diagnostic.column ∧
        fields.length = some diagnostic.length ∧
        fields.message = some diagnostic.message ∧
        diagnostic.severity = fields.severity.getD .error := by
  obtain ⟨line, column, length, message, severity⟩ := diagnostic
  simp only [form, bind_eq_ok_iff, required_eq_ok_iff, pure, Except.pure,
    Except.ok.injEq, Diagnostic.mk.injEq]
  constructor
  · intro accepted
    obtain ⟨_, lineHeld, _, columnHeld, _, lengthHeld, _, said, rfl, rfl, rfl,
      rfl, rfl⟩ := accepted
    exact ⟨lineHeld, columnHeld, lengthHeld, said, rfl⟩
  · intro meant
    obtain ⟨lineHeld, columnHeld, lengthHeld, said, rfl⟩ := meant
    exact ⟨line, lineHeld, column, columnHeld, length, lengthHeld, message,
      said, rfl, rfl, rfl, rfl, rfl⟩

theorem reads_diagnostic {document : Document}
    (spelled : DiagnosticInObjectForm document) :
    Reads form.read document (MeansDiagnostic document) := by
  have reads : ∀ members, document = .object members →
      ∀ slot ∈ diagnosticSlots, ∀ value ∈ valuesOf slot.name members,
        Reads slot.read value (slot.Means value) := by
    intro members isObject
    simp only [diagnosticSlots, List.forall_mem_cons]
    exact ⟨fun value _ => reads_word32 value,
      fun value _ => reads_word32 value, fun value _ => reads_word32 value,
      fun value _ => reads_string value,
      fun value isValue =>
        reads_severity (spelled.severity members isObject value isValue),
      by simp⟩
  refine (reads_record lawful_diagnosticSlots rfl (by decide) spelled.noList
    reads).congr fun diagnostic => ?_
  simp only [complete_iff, diagnosticSlots, List.forall_mem_cons,
    MeansDiagnostic]
  constructor
  · intro accepted
    obtain ⟨members, ⟨_, _, _, _, severity⟩, isObject,
      ⟨lineHolds, columnHolds, lengthHolds, messageHolds, severityHolds, _⟩,
      rfl, rfl, rfl, rfl, carried⟩ := accepted
    exact ⟨members, severity, isObject, lineHolds, columnHolds, lengthHolds,
      messageHolds, severityHolds, carried⟩
  · intro meant
    obtain ⟨members, severity, isObject, lineHolds, columnHolds, lengthHolds,
      messageHolds, severityHolds, carried⟩ := meant
    exact ⟨members,
      ⟨some diagnostic.line, some diagnostic.column, some diagnostic.length,
        some diagnostic.message, severity⟩,
      isObject,
      ⟨lineHolds, columnHolds, lengthHolds, messageHolds, severityHolds,
        by simp⟩,
      rfl, rfl, rfl, rfl, carried⟩

/-- A text is read as a diagnostic exactly if its document means it. -/
theorem parse_iff_means {text : String} {document : Document}
    (written : WritesDocument document text.toList)
    (spelled : DiagnosticInObjectForm document) {diagnostic : Diagnostic} :
    parse text = .ok diagnostic ↔ MeansDiagnostic document diagnostic :=
  readDocument_iff written (reads_diagnostic spelled)

/-! ## Writing -/

/-- A word as it is written. -/
def wordDocument (value : UInt32) : Document :=
  .number (integerLiteral value.toNat)

/-- The diagnostic as it is written. -/
def document (diagnostic : Diagnostic) : Document :=
  .object
    [("line", wordDocument diagnostic.line),
      ("column", wordDocument diagnostic.column),
      ("length", wordDocument diagnostic.length),
      ("message", .text diagnostic.message),
      ("severity", .text diagnostic.severity.label)]

theorem writes_wordDocument (value : UInt32) :
    Writes (.document (wordDocument value)) (integerText value.toNat) :=
  .number (writesNumber_integerText value.toNat)

theorem isWord32_wordDocument (value : UInt32) :
    IsWord32 (wordDocument value) value := by
  refine ⟨Nat.toDigits 10 value.toNat, ?_, digitsValue_toDigits _⟩
  simp [wordDocument, integerLiteral]

theorem writes_compact (diagnostic : Diagnostic) :
    Writes (.document diagnostic.document) diagnostic.compact := by
  have members :=
    writes_member "line" (writes_wordDocument diagnostic.line) <|
      .moreMembers <|
    writes_member "column" (writes_wordDocument diagnostic.column) <|
      .moreMembers <|
    writes_member "length" (writes_wordDocument diagnostic.length) <|
      .moreMembers <|
    writes_member "message" (writes_quote diagnostic.message) <|
      .moreMembers <|
    writes_member "severity" (writes_quote diagnostic.severity.label)
      .noMoreMembers
  have whole := Writes.object members
  simpa only [document, compact, List.append_assoc, List.cons_append,
    List.nil_append, List.append_nil] using whole

theorem writesDocument_render (diagnostic : Diagnostic) :
    WritesDocument diagnostic.document diagnostic.render.toList :=
  ⟨[], diagnostic.compact, [], by simp [render], blanks_nil,
    writes_compact diagnostic, blanks_nil⟩

theorem inObjectForm_document (diagnostic : Diagnostic) :
    DiagnosticInObjectForm diagnostic.document where
  noList := by simp [document]
  severity := by
    rintro members ⟨⟩
    simp [valuesOf]

theorem means_document (diagnostic : Diagnostic) :
    MeansDiagnostic diagnostic.document diagnostic :=
  ⟨_, some diagnostic.severity, rfl,
    ⟨_, rfl, isWord32_wordDocument _⟩, ⟨_, rfl, isWord32_wordDocument _⟩,
    ⟨_, rfl, isWord32_wordDocument _⟩, ⟨_, rfl, rfl⟩, ⟨_, rfl, rfl⟩, rfl⟩

theorem parse_render (diagnostic : Diagnostic) :
    parse diagnostic.render = .ok diagnostic :=
  (parse_iff_means (writesDocument_render diagnostic)
    (inObjectForm_document diagnostic)).mpr (means_document diagnostic)

theorem render_injective {diagnostic other : Diagnostic}
    (same : diagnostic.render = other.render) : diagnostic = other := by
  have read := parse_render diagnostic
  rw [same, parse_render other] at read
  exact (Except.ok.inj read).symm

/-- A diagnostic is read back from its compact text, and so is one that has
been read from any text; two texts have the same compact form exactly if they
are read as the same diagnostic.  A text is read by what its members mean,
whatever their order is and whatever stands between and among them. -/
theorem render_is_canonical :
    (∀ diagnostic, parse (render diagnostic) = .ok diagnostic) ∧
    (∀ text diagnostic, parse text = .ok diagnostic →
      parse diagnostic.render = .ok diagnostic ∧
      ∀ other found, parse other = .ok found →
        (found.render = diagnostic.render ↔
          parse other = .ok diagnostic)) ∧
    (∀ text document, WritesDocument document text.toList →
      DiagnosticInObjectForm document → ∀ diagnostic,
        parse text = .ok diagnostic ↔
          MeansDiagnostic document diagnostic) ∧
    ∀ members others,
      SameMembers ["line", "column", "length", "message", "severity"]
        members others →
      MeansDiagnostic (.object members) =
        MeansDiagnostic (.object others) := by
  refine ⟨parse_render, fun text diagnostic _ =>
    ⟨parse_render diagnostic, fun other found read => ?_⟩,
    fun text document written spelled diagnostic =>
      parse_iff_means written spelled,
    fun members others => meansDiagnostic_congr⟩
  rw [read, Except.ok.injEq]
  exact ⟨render_injective, congrArg render⟩

/-! Members in another order and with one of another name, no severity, an
escaped pair of surrogates and an escaped slash. -/

def escapedText : String :=
  "\x7b\"message\":\"\\ud83d\\uDE00\\/\",\"length\":0,\"x\":[ ]," ++
    "\"line\":4294967295,\"column\":2\x7d\n"

def escapedDocument : Document :=
  .object [("message", .text "😀/"), ("length", wordDocument 0),
    ("x", .list []), ("line", wordDocument 4294967295),
    ("column", wordDocument 2)]

def escapedDiagnostic : Diagnostic where
  line := 4294967295
  column := 2
  length := 0
  message := "😀/"

theorem writesDocument_escaped :
    WritesDocument escapedDocument escapedText.toList := by
  have high : IsQuad ['d', '8', '3', 'd'] 0xD83D :=
    .digits (.lower (by decide) (by decide))
      (.decimal (by decide) (by decide)) (.decimal (by decide) (by decide))
      (.lower (by decide) (by decide))
  have low : IsQuad ['D', 'E', '0', '0'] 0xDE00 :=
    .digits (.upper (by decide) (by decide)) (.upper (by decide) (by decide))
      (.decimal (by decide) (by decide)) (.decimal (by decide) (by decide))
  have point : 0x10000 + (0xD83D - 0xD800) * 0x400 + (0xDE00 - 0xDC00) =
      0x1F600 := by
    decide
  have face := WritesCharacter.pair high (by decide) (by decide) low
    (by decide) (by decide)
  rw [point] at face
  have message : Writes (.document (.text "😀/")) _ :=
    .text (.cons face (.cons (.short .slash) .nil))
  have blank : Blanks [' '] := by simp [Blanks]
  have other := Writes.list (.noItems blank)
  have members :=
    writes_member "message" message <| .moreMembers <|
    writes_member "length" (writes_wordDocument 0) <| .moreMembers <|
    writes_member "x" other <| .moreMembers <|
    writes_member "line" (writes_wordDocument 4294967295) <| .moreMembers <|
    writes_member "column" (writes_wordDocument 2) .noMoreMembers
  refine ⟨[], _, ['\n'], ?_, blanks_nil, .object members, by simp [Blanks]⟩
  decide +kernel

theorem inObjectForm_escaped : DiagnosticInObjectForm escapedDocument where
  noList := by simp [escapedDocument]
  severity := by
    rintro members ⟨⟩
    simp [valuesOf]

theorem means_escaped :
    MeansDiagnostic escapedDocument escapedDiagnostic :=
  ⟨_, none, rfl, ⟨_, rfl, isWord32_wordDocument _⟩,
    ⟨_, rfl, isWord32_wordDocument _⟩, ⟨_, rfl, isWord32_wordDocument _⟩,
    ⟨_, rfl, rfl⟩, rfl, rfl⟩

theorem render_is_canonical_escaped :
    WritesDocument escapedDocument escapedText.toList ∧
      DiagnosticInObjectForm escapedDocument ∧
      parse escapedText = .ok escapedDiagnostic ∧
      parse escapedDiagnostic.render = .ok escapedDiagnostic := by
  obtain ⟨_, reparses, reads, _⟩ := render_is_canonical
  have read : parse escapedText = .ok escapedDiagnostic :=
    (reads escapedText escapedDocument writesDocument_escaped
      inObjectForm_escaped escapedDiagnostic).mpr means_escaped
  exact ⟨writesDocument_escaped, inObjectForm_escaped, read,
    (reparses escapedText escapedDiagnostic read).1⟩

end TemplateLint.Diagnostic
