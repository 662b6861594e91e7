import TemplateLint.Proofs.Json.Variants
import TemplateLint.Response

/-!
# What a response document means

A response is read exactly if it is an object with a single member: a list of
issues, or an error.  The meaning of the objects inside it speaks of the
members of known names only.
-/

namespace TemplateLint.Response

open Json

/-! ## Meanings -/

def MeansText (document : Document) (value : String) : Prop :=
  document = .text value

def MeansSeverity (document : Document) (severity : Severity) : Prop :=
  document = .text severity.label

/-- One line, one column and at most one length. -/
def MeansLocation (document : Document) (location : Location) : Prop :=
  ∃ members length, document = .object members ∧
    Holds members "line" IsWord32 (some location.line) ∧
    Holds members "col" IsWord32 (some location.column) ∧
    Holds members "length" IsWord32 length ∧
    location.length = length.getD 0

/-- One location, one message and at most one severity. -/
def MeansIssue (document : Document) (issue : Diagnostic) : Prop :=
  ∃ members location severity, document = .object members ∧
    Holds members "location" MeansLocation (some location) ∧
    Holds members "message" MeansText (some issue.message) ∧
    Holds members "severity" MeansSeverity severity ∧
    issue.line = location.line ∧ issue.column = location.column ∧
    issue.length = location.length ∧
    issue.severity = severity.getD .error

/-- One kind and at most one message. -/
def MeansError (document : Document) (reported : ReportedError) : Prop :=
  ∃ members message, document = .object members ∧
    Holds members "kind" MeansText (some reported.kind) ∧
    Holds members "message" MeansText message ∧
    reported.message = message.getD ""

/-! ## Object form -/

/-- The issue is not a list, nor is its location, and its severity is no
object. -/
structure IssueInObjectForm (document : Document) : Prop where
  noList : ∀ items, document ≠ .list items
  location : ∀ members, document = .object members →
    ∀ value ∈ valuesOf "location" members, ∀ items, value ≠ .list items
  severity : ∀ members, document = .object members →
    ∀ value ∈ valuesOf "severity" members, ∀ inner, value ≠ .object inner

/-- No issue, location or error is written as a list of its fields, and no
severity as an object. -/
structure InObjectForm (document : Document) : Prop where
  issues : ∀ members, document = .object members →
    ∀ value ∈ valuesOf "diagnostics" members, ∀ items, value = .list items →
      ∀ item ∈ items, IssueInObjectForm item
  error : ∀ members, document = .object members →
    ∀ value ∈ valuesOf "error" members, ∀ items, value ≠ .list items

/-! ## Slots -/

def wordSlot {Partial : Type} (name : String) (mayLack : Bool)
    (get : Partial → Option UInt32) (set : Partial → UInt32 → Partial) :
    Slot Partial where
  name := name
  mayLack := mayLack
  Content := UInt32
  read := readWord32
  Means := IsWord32
  get := get
  set := set

def textSlot {Partial : Type} (name : String) (mayLack : Bool)
    (get : Partial → Option String) (set : Partial → String → Partial) :
    Slot Partial where
  name := name
  mayLack := mayLack
  Content := String
  read := readString
  Means := MeansText
  get := get
  set := set

def locationSlots : List (Slot LocationFields) :=
  [wordSlot "line" false (fun fields => fields.line)
     (fun fields value => { fields with line := some value }),
   wordSlot "col" false (fun fields => fields.column)
     (fun fields value => { fields with column := some value }),
   wordSlot "length" true (fun fields => fields.length)
     (fun fields value => { fields with length := some value })]

def issueSlots : List (Slot IssueFields) :=
  [{ name := "location"
     mayLack := false
     Content := Location
     read := locationForm.read
     Means := MeansLocation
     get := fun fields => fields.location
     set := fun fields value => { fields with location := some value } },
   textSlot "message" false (fun fields => fields.message)
     (fun fields value => { fields with message := some value }),
   { name := "severity"
     mayLack := true
     Content := Severity
     read := Severity.read
     Means := MeansSeverity
     get := fun fields => fields.severity
     set := fun fields value => { fields with severity := some value } }]

def errorSlots : List (Slot ErrorFields) :=
  [textSlot "kind" false (fun fields => fields.kind)
     (fun fields value => { fields with kind := some value }),
   textSlot "message" true (fun fields => fields.message)
     (fun fields value => { fields with message := some value })]

theorem lawful_locationSlots : LawfulSlots locationSlots where
  nodup := by decide
  get_set := by
    simp only [locationSlots, List.mem_cons, List.not_mem_nil, or_false]
    rintro _ (rfl | rfl | rfl) state content <;> rfl
  get_set_of_ne := by
    simp only [locationSlots, List.mem_cons, List.not_mem_nil, or_false]
    rintro _ (rfl | rfl | rfl) _ (rfl | rfl | rfl) different state content <;>
      first
      | rfl
      | exact absurd rfl different
  ext := by
    simp only [locationSlots, List.forall_mem_cons]
    rintro ⟨line, column, length⟩ ⟨_, _, _⟩ ⟨rfl, rfl, rfl, _⟩
    rfl

theorem lawful_issueSlots : LawfulSlots issueSlots where
  nodup := by decide
  get_set := by
    simp only [issueSlots, List.mem_cons, List.not_mem_nil, or_false]
    rintro _ (rfl | rfl | rfl) state content <;> rfl
  get_set_of_ne := by
    simp only [issueSlots, List.mem_cons, List.not_mem_nil, or_false]
    rintro _ (rfl | rfl | rfl) _ (rfl | rfl | rfl) different state content <;>
      first
      | rfl
      | exact absurd rfl different
  ext := by
    simp only [issueSlots, List.forall_mem_cons]
    rintro ⟨location, message, severity⟩ ⟨_, _, _⟩ ⟨rfl, rfl, rfl, _⟩
    rfl

theorem lawful_errorSlots : LawfulSlots errorSlots where
  nodup := by decide
  get_set := by
    simp only [errorSlots, List.mem_cons, List.not_mem_nil, or_false]
    rintro _ (rfl | rfl) state content <;> rfl
  get_set_of_ne := by
    simp only [errorSlots, List.mem_cons, List.not_mem_nil, or_false]
    rintro _ (rfl | rfl) _ (rfl | rfl) different state content <;>
      first
      | rfl
      | exact absurd rfl different
  ext := by
    simp only [errorSlots, List.forall_mem_cons]
    rintro ⟨kind, message⟩ ⟨_, _⟩ ⟨rfl, rfl, _⟩
    rfl

/-! ## Reading the parts of a response -/

theorem complete_location_iff {fields : LocationFields}
    {location : Location} :
    locationForm.complete fields = .ok location ↔
      fields.line = some location.line ∧
        fields.column = some location.column ∧
        location.length = fields.length.getD 0 := by
  obtain ⟨line, column, length⟩ := location
  simp only [locationForm, bind_eq_ok_iff, required_eq_ok_iff, pure,
    Except.pure, Except.ok.injEq, Location.mk.injEq]
  constructor
  · intro accepted
    obtain ⟨_, lineHeld, _, columnHeld, rfl, rfl, rfl⟩ := accepted
    exact ⟨lineHeld, columnHeld, rfl⟩
  · intro meant
    obtain ⟨lineHeld, columnHeld, rfl⟩ := meant
    exact ⟨line, lineHeld, column, columnHeld, rfl, rfl, rfl⟩

theorem reads_location {document : Document}
    (noList : ∀ items, document ≠ .list items) :
    Reads locationForm.read document (MeansLocation document) := by
  have reads : ∀ slot ∈ locationSlots, ∀ value,
      Reads slot.read value (slot.Means value) := by
    simp only [locationSlots, List.forall_mem_cons]
    exact ⟨reads_word32, reads_word32, reads_word32, by simp⟩
  refine (reads_record lawful_locationSlots rfl (by decide) noList
    (fun _ _ slot isSlot value _ => reads slot isSlot value)).congr
    fun location => ?_
  simp only [complete_location_iff, locationSlots, List.forall_mem_cons,
    MeansLocation]
  constructor
  · intro accepted
    obtain ⟨members, ⟨line, column, length⟩, isObject,
      ⟨lineHolds, columnHolds, lengthHolds, _⟩, rfl, rfl, lengthEq⟩ := accepted
    exact ⟨members, length, isObject, lineHolds, columnHolds, lengthHolds,
      lengthEq⟩
  · intro meant
    obtain ⟨members, length, isObject, lineHolds, columnHolds, lengthHolds,
      lengthEq⟩ := meant
    exact ⟨members, ⟨location.line, location.column, length⟩, isObject,
      ⟨lineHolds, columnHolds, lengthHolds, by simp⟩, rfl, rfl, lengthEq⟩

theorem reads_severity {document : Document}
    (noObject : ∀ members, document ≠ .object members) :
    Reads Severity.read document (MeansSeverity document) := by
  refine (reads_bareVariant (by decide) noObject).congr fun severity => ?_
  cases severity <;> simp [MeansSeverity, Severity.label]

theorem complete_issue_iff {fields : IssueFields} {issue : Diagnostic} :
    issueForm.complete fields = .ok issue ↔
      ∃ location, fields.location = some location ∧
        fields.message = some issue.message ∧
        issue.line = location.line ∧ issue.column = location.column ∧
        issue.length = location.length ∧
        issue.severity = fields.severity.getD .error := by
  obtain ⟨line, column, length, message, severity⟩ := issue
  simp only [issueForm, bind_eq_ok_iff, required_eq_ok_iff, pure,
    Except.pure, Except.ok.injEq, Diagnostic.mk.injEq]
  constructor
  · intro accepted
    obtain ⟨location, located, _, said, rfl, rfl, rfl, rfl, rfl⟩ := accepted
    exact ⟨location, located, said, rfl, rfl, rfl, rfl⟩
  · intro meant
    obtain ⟨location, located, said, rfl, rfl, rfl, rfl⟩ := meant
    exact ⟨location, located, message, said, rfl, rfl, rfl, rfl, rfl⟩

theorem reads_issue {document : Document}
    (spelled : IssueInObjectForm document) :
    Reads issueForm.read document (MeansIssue document) := by
  have reads : ∀ members, document = .object members →
      ∀ slot ∈ issueSlots, ∀ value ∈ valuesOf slot.name members,
        Reads slot.read value (slot.Means value) := by
    intro members isObject
    simp only [issueSlots, List.forall_mem_cons]
    exact ⟨fun value isValue =>
        reads_location (spelled.location members isObject value isValue),
      fun value _ => reads_string value,
      fun value isValue =>
        reads_severity (spelled.severity members isObject value isValue),
      by simp⟩
  refine (reads_record lawful_issueSlots rfl (by decide) spelled.noList
    reads).congr fun issue => ?_
  simp only [complete_issue_iff, issueSlots, List.forall_mem_cons,
    MeansIssue]
  constructor
  · intro accepted
    obtain ⟨members, ⟨_, _, severity⟩, isObject,
      ⟨locationHolds, messageHolds, severityHolds, _⟩, location, rfl, rfl,
      carried⟩ := accepted
    exact ⟨members, location, severity, isObject, locationHolds,
      messageHolds, severityHolds, carried⟩
  · intro meant
    obtain ⟨members, location, severity, isObject, locationHolds,
      messageHolds, severityHolds, carried⟩ := meant
    exact ⟨members, ⟨some location, some issue.message, severity⟩, isObject,
      ⟨locationHolds, messageHolds, severityHolds, by simp⟩, location, rfl,
      rfl, carried⟩

theorem complete_error_iff {fields : ErrorFields}
    {reported : ReportedError} :
    errorForm.complete fields = .ok reported ↔
      fields.kind = some reported.kind ∧
        reported.message = fields.message.getD "" := by
  obtain ⟨kind, message⟩ := reported
  simp only [errorForm, bind_eq_ok_iff, required_eq_ok_iff, pure,
    Except.pure, Except.ok.injEq, ReportedError.mk.injEq]
  constructor
  · intro accepted
    obtain ⟨_, kindHeld, rfl, rfl⟩ := accepted
    exact ⟨kindHeld, rfl⟩
  · intro meant
    obtain ⟨kindHeld, rfl⟩ := meant
    exact ⟨kind, kindHeld, rfl, rfl⟩

theorem reads_error {document : Document}
    (noList : ∀ items, document ≠ .list items) :
    Reads errorForm.read document (MeansError document) := by
  have reads : ∀ slot ∈ errorSlots, ∀ value,
      Reads slot.read value (slot.Means value) := by
    simp only [errorSlots, List.forall_mem_cons]
    exact ⟨reads_string, reads_string, by simp⟩
  refine (reads_record lawful_errorSlots rfl (by decide) noList
    (fun _ _ slot isSlot value _ => reads slot isSlot value)).congr
    fun reported => ?_
  simp only [complete_error_iff, errorSlots, List.forall_mem_cons,
    MeansError]
  constructor
  · intro accepted
    obtain ⟨members, ⟨_, message⟩, isObject, ⟨kindHolds, messageHolds, _⟩,
      rfl, messageEq⟩ := accepted
    exact ⟨members, message, isObject, kindHolds, messageHolds, messageEq⟩
  · intro meant
    obtain ⟨members, message, isObject, kindHolds, messageHolds,
      messageEq⟩ := meant
    exact ⟨members, ⟨some reported.kind, message⟩, isObject,
      ⟨kindHolds, messageHolds, by simp⟩, rfl, messageEq⟩

/-! ## Whole responses -/

/-- A single member: the issues in order, or the error. -/
def MeansResponse (document : Document) : Response → Prop
  | .diagnostics issues =>
      ∃ items, document = .object [("diagnostics", .list items)] ∧
        List.Forall₂ MeansIssue items issues
  | .error reported =>
      ∃ value, document = .object [("error", value)] ∧
        MeansError value reported

theorem parse_iff {text : String} {document : Document}
    (written : WritesDocument document (Text.trim text).toList)
    (spelled : InObjectForm document) {response : Response} :
    parse text = .ok response ↔ MeansResponse document response := by
  have readsIssues : ∀ members, document = .object members →
      ∀ value ∈ valuesOf "diagnostics" members,
        Reads readDiagnostics value fun response =>
          ∃ issues, (∃ items, value = .list items ∧
            List.Forall₂ MeansIssue items issues) ∧
            response = .diagnostics issues :=
    fun members isObject value isValue =>
      (reads_list fun items isList item isItem => reads_issue
        (spelled.issues members isObject value isValue items isList item
          isItem)).map Response.diagnostics
  have readsError : ∀ members, document = .object members →
      ∀ value ∈ valuesOf "error" members,
        Reads readError value fun response =>
          ∃ reported, MeansError value reported ∧
            response = .error reported :=
    fun members isObject value isValue =>
      (reads_error (spelled.error members isObject value isValue)).map
        Response.error
  rw [parse, readDocument_iff written
    (reads_fullVariant (by decide) readsIssues readsError)]
  cases response with
  | diagnostics issues =>
      constructor
      · intro accepted
        obtain ⟨_, ⟨isObject, _, ⟨items, rfl, mean⟩, same⟩ |
          ⟨_, _, _, different⟩⟩ := accepted
        · obtain rfl := Response.diagnostics.inj same
          exact ⟨items, isObject, mean⟩
        · cases different
      · intro meant
        obtain ⟨items, isObject, mean⟩ := meant
        exact ⟨.list items, .inl ⟨isObject, issues, ⟨items, rfl, mean⟩, rfl⟩⟩
  | error reported =>
      constructor
      · intro accepted
        obtain ⟨value, ⟨_, _, _, different⟩ |
          ⟨isObject, _, means, same⟩⟩ := accepted
        · cases different
        · obtain rfl := Response.error.inj same
          exact ⟨value, isObject, means⟩
      · intro meant
        obtain ⟨value, isObject, means⟩ := meant
        exact ⟨value, .inr ⟨isObject, reported, means, rfl⟩⟩

theorem exists_forall₂_iff {α β : Type} {relation : α → β → Prop}
    {items : List α} :
    (∃ values, List.Forall₂ relation items values) ↔
      ∀ item ∈ items, ∃ value, relation item value := by
  induction items with
  | nil => simp
  | cons item items inductionHypothesis =>
      simp only [List.forall₂_cons_left_iff, List.forall_mem_cons,
        ← inductionHypothesis]
      constructor
      · intro accepted
        obtain ⟨_, value, values, means, others, rfl⟩ := accepted
        exact ⟨⟨value, means⟩, values, others⟩
      · intro meant
        obtain ⟨⟨value, means⟩, values, others⟩ := meant
        exact ⟨_, value, values, means, others, rfl⟩

theorem exists_parse_iff {text : String} {document : Document}
    (written : WritesDocument document (Text.trim text).toList)
    (spelled : InObjectForm document) :
    (∃ response, parse text = .ok response) ↔
      (∃ items, document = .object [("diagnostics", .list items)] ∧
        ∀ item ∈ items, ∃ issue, MeansIssue item issue) ∨
      ∃ value, document = .object [("error", value)] ∧
        ∃ reported, MeansError value reported := by
  simp only [parse_iff written spelled]
  constructor
  · intro accepted
    obtain ⟨issues | reported, means⟩ := accepted
    · obtain ⟨items, isObject, mean⟩ := means
      exact .inl ⟨items, isObject, exists_forall₂_iff.mp ⟨issues, mean⟩⟩
    · obtain ⟨value, isObject, means⟩ := means
      exact .inr ⟨value, isObject, reported, means⟩
  · rintro (⟨items, isObject, mean⟩ | ⟨value, isObject, reported, means⟩)
    · obtain ⟨issues, mean⟩ := exists_forall₂_iff.mpr mean
      exact ⟨.diagnostics issues, items, isObject, mean⟩
    · exact ⟨.error reported, value, isObject, means⟩

theorem meansLocation_congr {members others : List (String × Document)}
    (same : SameMembers ["line", "col", "length"] members others) :
    MeansLocation (.object members) = MeansLocation (.object others) := by
  funext location
  simp [MeansLocation, same.holds_iff]

theorem meansIssue_congr {members others : List (String × Document)}
    (same : SameMembers ["location", "message", "severity"] members others) :
    MeansIssue (.object members) = MeansIssue (.object others) := by
  funext issue
  simp [MeansIssue, same.holds_iff]

theorem meansError_congr {members others : List (String × Document)}
    (same : SameMembers ["kind", "message"] members others) :
    MeansError (.object members) = MeansError (.object others) := by
  funext reported
  simp [MeansError, same.holds_iff]

/-- A response is read exactly if it is an object with a single member that
means issues or an error; the result is what this member means, the issues in
order.  Members of other names and the order of members have no influence on
what an object means. -/
theorem decodes_exactly {text : String} {document : Document}
    (written : WritesDocument document (Text.trim text).toList)
    (spelled : InObjectForm document) :
    ((∃ response, parse text = .ok response) ↔
      (∃ items, document = .object [("diagnostics", .list items)] ∧
        ∀ item ∈ items, ∃ issue, MeansIssue item issue) ∨
      ∃ value, document = .object [("error", value)] ∧
        ∃ reported, MeansError value reported) ∧
    (∀ issues,
      (∃ response, parse text = .ok response ∧
        response.toResult = .ok issues) ↔
      ∃ items, document = .object [("diagnostics", .list items)] ∧
        List.Forall₂ MeansIssue items issues) ∧
    (∀ failure,
      (∃ response, parse text = .ok response ∧
        response.toResult = .error failure) ↔
      ∃ value, document = .object [("error", value)] ∧
        ∃ reported, MeansError value reported ∧
          failure = failureOf reported) ∧
    (∀ members others,
      SameMembers ["line", "col", "length"] members others →
        MeansLocation (.object members) = MeansLocation (.object others)) ∧
    (∀ members others,
      SameMembers ["location", "message", "severity"] members others →
        MeansIssue (.object members) = MeansIssue (.object others)) ∧
    (∀ members others,
      SameMembers ["kind", "message"] members others →
        MeansError (.object members) = MeansError (.object others)) := by
  refine ⟨exists_parse_iff written spelled, fun issues => ?_,
    fun failure => ?_, fun _ _ => meansLocation_congr,
    fun _ _ => meansIssue_congr, fun _ _ => meansError_congr⟩
  · simp only [parse_iff written spelled]
    constructor
    · intro accepted
      obtain ⟨found | reported, means, result⟩ := accepted
      · obtain rfl : found = issues := Except.ok.inj result
        exact means
      · cases result
    · intro means
      exact ⟨.diagnostics issues, means, rfl⟩
  · simp only [parse_iff written spelled]
    constructor
    · intro accepted
      obtain ⟨issues | reported, means, result⟩ := accepted
      · cases result
      · obtain ⟨value, isObject, means⟩ := means
        exact ⟨value, isObject, reported, means,
          (Except.error.inj result).symm⟩
    · intro meant
      obtain ⟨value, isObject, reported, means, rfl⟩ := meant
      exact ⟨.error reported, ⟨value, isObject, means⟩, rfl⟩

/-! A response with a member of another name and with members in another order:
its issue has neither a length nor a severity. -/

def reorderedText : String :=
  "\n\x7b\"diagnostics\":[\x7b\"x\":[],\"message\":\"m\",\"location\":" ++
    "\x7b\"col\":2,\"line\":1\x7d\x7d]\x7d"

def reorderedIssue : Document :=
  .object [("x", .list []), ("message", .text "m"),
    ("location", .object
      [("col", .number ⟨false, ['2'], none, none⟩),
        ("line", .number ⟨false, ['1'], none, none⟩)])]

theorem writesDocument_reordered :
    WritesDocument (.object [("diagnostics", .list [reorderedIssue])])
      (Text.trim reorderedText).toList := by
  have number (digit : Char) (isWhole : IsWhole [digit]) :
      Writes (.document (.number ⟨false, [digit], none, none⟩)) [digit] :=
    .number (.parts isWhole .absent .absent)
  have member (name : List Char)
      (plain : ∀ character ∈ name, character ≠ '"' ∧ character ≠ '\\' ∧
        0x20 ≤ character.toNat)
      {text further : List Char} {value : Document}
      {others : List (String × Document)}
      (written : Writes (.document value) text)
      (more : Writes (.moreMembers others) further) :
      Writes (.members ((String.ofList name, value) :: others))
        ('"' :: (name ++ '"' :: ':' :: (text ++ further))) :=
    .member blanks_nil (writesText_of_plain plain) blanks_nil blanks_nil
      written blanks_nil more
  have location := Writes.object
    (member ['c', 'o', 'l'] (by simp) (number '2' (by decide))
      (.moreMembers (member ['l', 'i', 'n', 'e'] (by simp)
        (number '1' (by decide)) .noMoreMembers)))
  have message : Writes (.document (.text "m")) ['"', 'm', '"'] :=
    .text (.cons (.plain (by decide) (by decide) (by decide)) .nil)
  have issue := Writes.object
    (member ['x'] (by simp) (.list (.noItems blanks_nil))
      (.moreMembers (member ['m', 'e', 's', 's', 'a', 'g', 'e']
        (by simp) message
        (.moreMembers (member ['l', 'o', 'c', 'a', 't', 'i', 'o', 'n']
          (by simp) location .noMoreMembers)))))
  have response := Writes.object
    (member ['d', 'i', 'a', 'g', 'n', 'o', 's', 't', 'i', 'c', 's']
      (by simp) (.list (.item blanks_nil issue blanks_nil .noMoreItems))
      .noMoreMembers)
  refine ⟨[], _, [], ?_, blanks_nil, response, blanks_nil⟩
  decide +kernel

theorem inObjectForm_reordered :
    InObjectForm (.object [("diagnostics", .list [reorderedIssue])]) where
  issues := by
    rintro members ⟨⟩ value isValue items rfl item isItem
    obtain rfl : items = [reorderedIssue] := by simpa [valuesOf] using isValue
    obtain rfl : item = reorderedIssue := List.mem_singleton.mp isItem
    exact
      { noList := by simp [reorderedIssue]
        location := by
          rintro members ⟨⟩
          simp [valuesOf]
        severity := by
          rintro members ⟨⟩
          simp [valuesOf] }
  error := by
    rintro members ⟨⟩
    simp [valuesOf]

theorem meansIssue_reordered :
    MeansIssue reorderedIssue
      { line := 1, column := 2, length := 0, message := "m" } :=
  ⟨_, ⟨1, 2, 0⟩, none, rfl,
    ⟨_, rfl, _, none, rfl, ⟨_, rfl, ['1'], rfl, rfl⟩,
      ⟨_, rfl, ['2'], rfl, rfl⟩, rfl, rfl⟩,
    ⟨_, rfl, rfl⟩, rfl, rfl, rfl, rfl, rfl⟩

theorem decodes_exactly_reordered :
    WritesDocument (.object [("diagnostics", .list [reorderedIssue])])
        (Text.trim reorderedText).toList ∧
      InObjectForm (.object [("diagnostics", .list [reorderedIssue])]) ∧
      ∃ response, parse reorderedText = .ok response ∧
        response.toResult =
          .ok [{ line := 1, column := 2, length := 0, message := "m" }] := by
  obtain ⟨_, read, _⟩ :=
    decodes_exactly writesDocument_reordered inObjectForm_reordered
  exact ⟨writesDocument_reordered, inObjectForm_reordered,
    (read _).mpr ⟨[reorderedIssue], rfl,
      .cons meansIssue_reordered .nil⟩⟩

end TemplateLint.Response
