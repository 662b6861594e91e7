import TemplateLint.Proofs.Configuration.RoundTrip
import TemplateLint.Proofs.Jsonc.Maps
import TemplateLint.Proofs.Jsonc.Silence
import TemplateLint.Proofs.NameMap

/-!
# Configurations member by member

Which values are configurations, and what each of their members gives to the
configuration that is loaded.  A member that is left out has a default, alone
or together with the others of its object.
-/

namespace TemplateLint.Configuration

open Json

/-! ## What a document can give -/

/-- What the object for the program and its arguments gives. -/
structure GivenEngine where
  command : Option String
  arguments : Option (List String)
  deriving DecidableEq, Repr

/-- What a configuration file gives, each member alone. -/
structure Given where
  schema : Option String
  engine : Option GivenEngine
  customBlocks : Option (List String)
  customTags : Option (List String)
  jobs : Option UInt64
  deriving DecidableEq, Repr

/-- No text that must be filled is empty, and there is at least one job. -/
structure Given.IsProper (given : Given) : Prop where
  command : ∀ engine, given.engine = some engine →
    engine.command ≠ some ""
  customBlocks : ∀ names, given.customBlocks = some names → "" ∉ names
  customTags : ∀ names, given.customTags = some names → "" ∉ names
  jobs : given.jobs ≠ some 0

def textsValue (texts : List String) : Value :=
  .list (texts.map .text)

/-- The members of the object for the program, in the order of their names. -/
def GivenEngine.fields (given : GivenEngine) : List (String × Option Value) :=
  [("args", given.arguments.map textsValue),
    ("command", given.command.map .text)]

def GivenEngine.toValue (given : GivenEngine) : Value :=
  .object (NameMap.ofFields given.fields)

/-- The members of a document, in the order of their names. -/
def Given.fields (given : Given) : List (String × Option Value) :=
  [("$schema", given.schema.map .text),
    ("custom_blocks", given.customBlocks.map textsValue),
    ("custom_tags", given.customTags.map textsValue),
    ("engine", given.engine.map GivenEngine.toValue),
    ("jobs", given.jobs.map fun jobs => .integer jobs.toNat)]

/-- The object that gives this and nothing else. -/
def Given.toValue (given : Given) : Value :=
  .object (NameMap.ofFields given.fields)

/-- The configuration with what is given and the defaults of the rest. -/
def Given.configuration (given : Given) : Configuration where
  command := (given.engine.bind GivenEngine.command).getD "liquid-linter"
  arguments := (given.engine.bind GivenEngine.arguments).getD []
  customBlocks := given.customBlocks.getD []
  customTags := given.customTags.getD []
  jobs := given.jobs
  baseDirectory := none

/-! ## Members of what is given -/

theorem GivenEngine.ordered_fields (given : GivenEngine) :
    (given.fields.map Prod.fst).Pairwise (· < ·) := by
  have ordered : ["args", "command"].Pairwise (· < ·) := by decide
  exact ordered

theorem Given.ordered_fields (given : Given) :
    (given.fields.map Prod.fst).Pairwise (· < ·) := by
  have ordered : ["$schema", "custom_blocks", "custom_tags", "engine",
      "jobs"].Pairwise (· < ·) := by
    decide
  exact ordered

theorem GivenEngine.of_mem_members {given : GivenEngine} {name : String}
    {value : Value}
    (member : (name, value) ∈ NameMap.ofFields given.fields) :
    (name = "args" ∧ ∃ texts, given.arguments = some texts ∧
      textsValue texts = value) ∨
    (name = "command" ∧ ∃ program, given.command = some program ∧
      .text program = value) := by
  have inFields := NameMap.mem_ofFields_iff.mp member
  simpa only [fields, List.mem_cons, List.not_mem_nil, or_false,
    Prod.mk.injEq, @eq_comm _ (some value), Option.map_eq_some_iff]
    using inFields

theorem Given.of_mem_members {given : Given} {name : String} {value : Value}
    (member : (name, value) ∈ NameMap.ofFields given.fields) :
    (name = "$schema" ∧ ∃ text, given.schema = some text ∧
      .text text = value) ∨
    (name = "custom_blocks" ∧ ∃ names, given.customBlocks = some names ∧
      textsValue names = value) ∨
    (name = "custom_tags" ∧ ∃ names, given.customTags = some names ∧
      textsValue names = value) ∨
    (name = "engine" ∧ ∃ engine, given.engine = some engine ∧
      engine.toValue = value) ∨
    (name = "jobs" ∧ ∃ jobs, given.jobs = some jobs ∧
      .integer jobs.toNat = value) := by
  have inFields := NameMap.mem_ofFields_iff.mp member
  simpa only [fields, List.mem_cons, List.not_mem_nil, or_false,
    Prod.mk.injEq, @eq_comm _ (some value), Option.map_eq_some_iff]
    using inFields

/-! ## Accepted members, by name -/

theorem engineMember_iff (name : String) (value : Value) :
    EngineMember name value ↔
      (name = "args" ∧ ∃ texts, value = textsValue texts) ∨
        name = "command" ∧ ∃ program, value = .text program ∧
          program ≠ "" := by
  constructor
  · intro member
    cases member with
    | command filled => exact .inr ⟨rfl, _, rfl, filled⟩
    | arguments texts => exact .inl ⟨rfl, texts, rfl⟩
  · rintro (⟨rfl, texts, rfl⟩ | ⟨rfl, program, rfl, filled⟩)
    · exact .arguments texts
    · exact .command filled

theorem configurationMember_iff (name : String) (value : Value) :
    ConfigurationMember name value ↔
      (name = "$schema" ∧ ∃ text, value = .text text) ∨
      (name = "custom_blocks" ∧ ∃ names, value = textsValue names ∧
        "" ∉ names) ∨
      (name = "custom_tags" ∧ ∃ names, value = textsValue names ∧
        "" ∉ names) ∨
      (name = "engine" ∧ ∃ members, value = .object members ∧
        ∀ entry ∈ members, EngineMember entry.1 entry.2) ∨
      (name = "jobs" ∧ ConfigurationMember "jobs" value) := by
  constructor
  · intro member
    cases member with
    | schema text => exact .inl ⟨rfl, text, rfl⟩
    | engine known =>
        exact .inr (.inr (.inr (.inl ⟨rfl, _, rfl, known⟩)))
    | customBlocks filled => exact .inr (.inl ⟨rfl, _, rfl, filled⟩)
    | customTags filled => exact .inr (.inr (.inl ⟨rfl, _, rfl, filled⟩))
    | jobs positive =>
        exact .inr (.inr (.inr (.inr ⟨rfl, .jobs positive⟩)))
    | doubleJobs integral notBelow =>
        exact .inr (.inr (.inr (.inr ⟨rfl, .doubleJobs integral notBelow⟩)))
  · rintro (⟨rfl, text, rfl⟩ | ⟨rfl, names, rfl, filled⟩ |
      ⟨rfl, names, rfl, filled⟩ | ⟨rfl, members, rfl, known⟩ | ⟨rfl, jobs⟩)
    · exact .schema text
    · exact .customBlocks filled
    · exact .customTags filled
    · exact .engine known
    · exact jobs

/-! ## What a document gives -/

/-- A number of integral value that is at least one. -/
def IsCount : Value → Prop
  | .integer number => 1 ≤ number
  | .double number => number.isIntegral = true ∧ number.isBelowOne = false
  | _ => False

/-- A number of jobs that is a count has 64 bits and is not written as a
double. -/
def HasWordJobs (value : Value) : Prop :=
  ∀ jobs, NameMap.get? "jobs" (membersOf (some value)) = some jobs →
    IsCount jobs → ∃ word : UInt64, jobs = .integer word.toNat

theorem isCount_of_member {value : Value}
    (member : ConfigurationMember "jobs" value) : IsCount value := by
  rcases (configurationMember_jobs_iff value).mp member with
    ⟨number, rfl, positive⟩ | ⟨number, rfl, integral, notBelow⟩
  · exact positive
  · exact ⟨integral, notBelow⟩

/-- What is found under a name, if only one kind of content can be written
there. -/
theorem exists_eq_map {α : Type} (write : α → Value) (Holds : α → Prop)
    {found : Option Value}
    (written : ∀ value, found = some value →
      ∃ content, value = write content ∧ Holds content) :
    ∃ given : Option α, found = given.map write ∧
      ∀ content, given = some content → Holds content := by
  cases found with
  | none => exact ⟨none, rfl, fun _ absent => by cases absent⟩
  | some value =>
      obtain ⟨content, rfl, holds⟩ := written value rfl
      refine ⟨some content, rfl, ?_⟩
      rintro _ ⟨⟩
      exact holds

theorem exists_engine {members : NameMap String Value}
    (increasing : NameMap.Increasing members)
    (known : ∀ entry ∈ members, EngineMember entry.1 entry.2) :
    ∃ given : GivenEngine, Value.object members = given.toValue ∧
      given.command ≠ some "" := by
  have names : ∀ entry ∈ members, entry.1 ∈ ["args", "command"] := by
    intro entry member
    rcases (engineMember_iff _ _).mp (known entry member) with
      ⟨name, _⟩ | ⟨name, _⟩ <;> simp [name]
  obtain ⟨arguments, argumentsFound, _⟩ :=
    exists_eq_map textsValue (fun _ => True) fun value
      (found : NameMap.get? "args" members = some value) => by
        simpa using
          (engineMember_iff _ _).mp (known _ (NameMap.mem_of_get? found))
  obtain ⟨command, commandFound, filled⟩ :=
    exists_eq_map Value.text (· ≠ "") fun value
      (found : NameMap.get? "command" members = some value) => by
        simpa using
          (engineMember_iff _ _).mp (known _ (NameMap.mem_of_get? found))
  let given : GivenEngine := ⟨command, arguments⟩
  have whole := NameMap.eq_ofFields given.ordered_fields increasing names
  refine ⟨given, ?_, fun empty => filled "" empty rfl⟩
  simpa only [given, List.map_cons, List.map_nil, argumentsFound,
    commandFound, GivenEngine.fields, GivenEngine.toValue] using
      congrArg Value.object whole

theorem exists_given {value : Value} (mapped : Jsonc.HasMaps value)
    (hasWordJobs : HasWordJobs value) (accepted : value.firstBreach = none) :
    ∃ given : Given, given.IsProper ∧ value = given.toValue := by
  obtain ⟨members, rfl, known⟩ :=
    (Json.Value.firstBreach_eq_none_iff value).mp accepted
  obtain ⟨increasing, mapped⟩ : NameMap.Increasing members ∧
      ∀ entry ∈ members, Jsonc.HasMaps entry.2 := by
    cases mapped with
    | object increasing mapped => exact ⟨increasing, mapped⟩
  have names : ∀ entry ∈ members, entry.1 ∈
      ["$schema", "custom_blocks", "custom_tags", "engine", "jobs"] := by
    intro entry member
    rcases (configurationMember_iff _ _).mp (known entry member) with
      ⟨name, _⟩ | ⟨name, _⟩ | ⟨name, _⟩ | ⟨name, _⟩ | ⟨name, _⟩ <;>
      simp [name]
  have content : ∀ {name value}, NameMap.get? name members = some value →
      ConfigurationMember name value :=
    fun found => known _ (NameMap.mem_of_get? found)
  obtain ⟨schema, schemaFound, _⟩ :=
    exists_eq_map Value.text (fun _ => True) fun value
      (found : NameMap.get? "$schema" members = some value) => by
        simpa using (configurationMember_iff _ _).mp (content found)
  obtain ⟨blocks, blocksFound, blocksFilled⟩ :=
    exists_eq_map textsValue ("" ∉ ·) fun value
      (found : NameMap.get? "custom_blocks" members = some value) => by
        simpa using (configurationMember_iff _ _).mp (content found)
  obtain ⟨tags, tagsFound, tagsFilled⟩ :=
    exists_eq_map textsValue ("" ∉ ·) fun value
      (found : NameMap.get? "custom_tags" members = some value) => by
        simpa using (configurationMember_iff _ _).mp (content found)
  obtain ⟨engine, engineFound, engineFilled⟩ :=
    exists_eq_map GivenEngine.toValue (·.command ≠ some "") fun value
      (found : NameMap.get? "engine" members = some value) => by
        obtain ⟨inner, rfl, innerKnown⟩ : ∃ inner, value = .object inner ∧
            ∀ entry ∈ inner, EngineMember entry.1 entry.2 := by
          simpa using (configurationMember_iff _ _).mp (content found)
        cases mapped _ (NameMap.mem_of_get? found) with
        | object innerIncreasing _ =>
            exact exists_engine innerIncreasing innerKnown
  obtain ⟨jobs, jobsFound, jobsPositive⟩ :=
    exists_eq_map (fun jobs : UInt64 => Value.integer jobs.toNat) (· ≠ 0)
      fun value (found : NameMap.get? "jobs" members = some value) => by
        have isCount := isCount_of_member (content found)
        obtain ⟨word, rfl⟩ := hasWordJobs value found isCount
        refine ⟨word, rfl, ?_⟩
        rintro rfl
        simp [IsCount] at isCount
  let given : Given := ⟨schema, engine, blocks, tags, jobs⟩
  have whole := NameMap.eq_ofFields given.ordered_fields increasing names
  refine ⟨given, ⟨engineFilled, blocksFilled, tagsFilled,
    fun zero => jobsPositive 0 zero rfl⟩, ?_⟩
  simpa only [given, List.map_cons, List.map_nil, schemaFound, blocksFound,
    tagsFound, engineFound, jobsFound, Given.toValue, Given.fields] using
      congrArg Value.object whole

/-! ## What is made of it -/

theorem GivenEngine.accepted {given : GivenEngine}
    (filled : given.command ≠ some "") :
    ConfigurationMember "engine" given.toValue := by
  refine .engine fun entry member => (engineMember_iff _ _).mpr ?_
  rcases of_mem_members member with
    ⟨name, texts, _, written⟩ | ⟨name, program, found, written⟩
  · exact .inl ⟨name, texts, written.symm⟩
  · refine .inr ⟨name, program, written.symm, ?_⟩
    rintro rfl
    exact filled found

theorem firstBreach_toValue {given : Given} (proper : given.IsProper) :
    given.toValue.firstBreach = none := by
  refine (Json.Value.firstBreach_eq_none_iff _).mpr ⟨_, rfl, ?_⟩
  rintro ⟨name, value⟩ member
  rcases Given.of_mem_members member with ⟨rfl, text, _, rfl⟩ |
    ⟨rfl, names, found, rfl⟩ | ⟨rfl, names, found, rfl⟩ |
    ⟨rfl, engine, found, rfl⟩ | ⟨rfl, jobs, found, rfl⟩
  · exact .schema text
  · exact .customBlocks (proper.customBlocks names found)
  · exact .customTags (proper.customTags names found)
  · exact GivenEngine.accepted (proper.command engine found)
  · have positive : jobs ≠ 0 := fun zero => proper.jobs (zero ▸ found)
    exact .jobs ((one_le_toNat_iff jobs).mpr positive)

theorem textsOf_map (given : Option (List String)) :
    textsOf (given.map textsValue) = given.getD [] := by
  cases given with
  | none => rfl
  | some texts => exact textsOf_texts texts

theorem textOr_map (default : String) (given : Option String) :
    textOr default (given.map .text) = given.getD default := by
  cases given <;> rfl

theorem jobsOf_map (given : Option UInt64) :
    jobsOf (given.map fun jobs => .integer jobs.toNat) = .ok given := by
  cases given <;> simp [jobsOf]

theorem get?_command (given : Option GivenEngine) :
    NameMap.get? "command" (membersOf (given.map GivenEngine.toValue)) =
      (given.bind GivenEngine.command).map .text := by
  cases given with
  | none => rfl
  | some engine =>
      exact NameMap.get?_ofFields engine.ordered_fields
        (by simp [GivenEngine.fields])

theorem get?_args (given : Option GivenEngine) :
    NameMap.get? "args" (membersOf (given.map GivenEngine.toValue)) =
      (given.bind GivenEngine.arguments).map textsValue := by
  cases given with
  | none => rfl
  | some engine =>
      exact NameMap.get?_ofFields engine.ordered_fields
        (by simp [GivenEngine.fields])

theorem ofValue_toValue (given : Given) :
    ofValue given.toValue = .ok given.configuration := by
  have found : ∀ name value, (name, value) ∈ given.fields →
      NameMap.get? name (membersOf (some given.toValue)) = value :=
    fun _ _ => NameMap.get?_ofFields given.ordered_fields
  have engine := found "engine" (given.engine.map GivenEngine.toValue)
    (by simp [Given.fields])
  have blocks := found "custom_blocks" (given.customBlocks.map textsValue)
    (by simp [Given.fields])
  have tags := found "custom_tags" (given.customTags.map textsValue)
    (by simp [Given.fields])
  have jobs := found "jobs" (given.jobs.map fun jobs => .integer jobs.toNat)
    (by simp [Given.fields])
  simp only [ofValue, engine, blocks, tags, jobs, get?_command, get?_args,
    textsOf_map, textOr_map, jobsOf_map, bind, Except.bind]
  rfl

/-! ## The text of what is given -/

theorem hasMaps_texts (texts : List String) :
    Jsonc.HasMaps (textsValue texts) := by
  refine .list fun item member => ?_
  obtain ⟨text, _, rfl⟩ := List.mem_map.mp member
  exact .text text

theorem GivenEngine.isExact_and_hasMaps (given : GivenEngine) :
    Jsonc.IsExact given.toValue ∧ Jsonc.HasMaps given.toValue := by
  have each : ∀ entry ∈ NameMap.ofFields given.fields,
      Jsonc.IsExact entry.2 ∧ Jsonc.HasMaps entry.2 := by
    rintro ⟨name, value⟩ member
    rcases of_mem_members member with
      ⟨_, texts, _, rfl⟩ | ⟨_, program, _, rfl⟩
    · exact ⟨areExact_texts texts, hasMaps_texts texts⟩
    · exact ⟨trivial, .text program⟩
  exact ⟨(Jsonc.membersAreExact_iff _).mpr fun entry member =>
      (each entry member).1,
    .object (NameMap.increasing_ofFields given.ordered_fields)
      fun entry member => (each entry member).2⟩

theorem Given.isExact_and_hasMaps (given : Given) :
    Jsonc.IsExact given.toValue ∧ Jsonc.HasMaps given.toValue := by
  have each : ∀ entry ∈ NameMap.ofFields given.fields,
      Jsonc.IsExact entry.2 ∧ Jsonc.HasMaps entry.2 := by
    rintro ⟨name, value⟩ member
    rcases of_mem_members member with ⟨_, text, _, rfl⟩ |
      ⟨_, names, _, rfl⟩ | ⟨_, names, _, rfl⟩ | ⟨_, engine, _, rfl⟩ |
      ⟨_, jobs, _, rfl⟩
    · exact ⟨trivial, .text text⟩
    · exact ⟨areExact_texts names, hasMaps_texts names⟩
    · exact ⟨areExact_texts names, hasMaps_texts names⟩
    · exact engine.isExact_and_hasMaps
    · exact ⟨isExact_word jobs, .integer _⟩
  exact ⟨(Jsonc.membersAreExact_iff _).mpr fun entry member =>
      (each entry member).1,
    .object (NameMap.increasing_ofFields given.ordered_fields)
      fun entry member => (each entry member).2⟩

/-- Whatever is given has a text that gives it. -/
theorem parse_render_given (given : Given) :
    Jsonc.parse given.toValue.render = .ok (some given.toValue) :=
  Jsonc.parse_render_of_hasMaps given.isExact_and_hasMaps.1
    given.isExact_and_hasMaps.2

/-! ## Acceptance and values -/

theorem parse_of_given {text : String} {given : Given}
    (read : Jsonc.parse text = .ok (some given.toValue))
    (proper : given.IsProper) : parse text = .ok given.configuration := by
  simp only [parse, read, Option.getD_some, firstBreach_toValue proper,
    ofValue_toValue]

theorem exists_breach_of_not_given {text : String} {value : Value}
    (read : Jsonc.parse text = .ok (some value))
    (hasWordJobs : HasWordJobs value)
    (other : ¬∃ given : Given, given.IsProper ∧ value = given.toValue) :
    ∃ broken, parse text = .error (.breach broken) := by
  obtain ⟨broken, breaks⟩ := Option.ne_none_iff_exists'.mp
    (mt (exists_given (Jsonc.hasMaps_of_parse read) hasWordJobs) other)
  exact ⟨broken, by simp only [parse, read, Option.getD_some, breaks]⟩

theorem parse_of_isSilent {text : String}
    (silent : Jsonc.IsSilent text.toList) : parse text = .ok {} := by
  have noValue := (Jsonc.parse_eq_none_iff text).mpr silent
  simp only [parse, noValue, Option.getD_none]
  rfl

/-- A document whose number of jobs has 64 bits, if it is a count, is loaded
exactly if something proper is written as it, and then with what is given and
the defaults of what is left out.  The schema refuses any other.  A text of
blanks and comments alone is loaded as the configuration of all defaults. -/
theorem parse_by_members (text : String) :
    (∀ value, Jsonc.parse text = .ok (some value) → HasWordJobs value →
      (∀ configuration, parse text = .ok configuration ↔
        ∃ given : Given, given.IsProper ∧ value = given.toValue ∧
          configuration = given.configuration) ∧
      ((¬∃ given : Given, given.IsProper ∧ value = given.toValue) →
        ∃ broken, parse text = .error (.breach broken) ∧
          (ConfigurationFault.breach broken).message =
            "Config validation failed: " ++ broken.message)) ∧
    (Jsonc.parse text = .ok none ↔ Jsonc.IsSilent text.toList) ∧
    (Jsonc.IsSilent text.toList → parse text = .ok {}) := by
  refine ⟨fun value read hasWordJobs =>
    ⟨fun configuration => ⟨fun parsed => ?_, ?_⟩, fun other => ?_⟩,
    Jsonc.parse_eq_none_iff text, parse_of_isSilent⟩
  · by_cases isGiven : ∃ given : Given, given.IsProper ∧
        value = given.toValue
    · obtain ⟨given, proper, rfl⟩ := isGiven
      rw [parse_of_given read proper, Except.ok.injEq] at parsed
      exact ⟨given, proper, rfl, parsed.symm⟩
    · obtain ⟨broken, fails⟩ :=
        exists_breach_of_not_given read hasWordJobs isGiven
      rw [fails] at parsed
      cases parsed
  · rintro ⟨given, proper, rfl, rfl⟩
    exact parse_of_given read proper
  · obtain ⟨broken, fails⟩ :=
      exists_breach_of_not_given read hasWordJobs other
    exact ⟨broken, fails, rfl⟩

/-- A program object with neither a program nor arguments leaves both to their
defaults, one with an empty program is refused, and a comment alone gives the
defaults of everything. -/
theorem parse_by_members_of_each_kind :
    parse "\x7b\"engine\":\x7b\x7d,\"jobs\":2\x7d" = .ok { jobs := some 2 } ∧
    (∃ broken, parse "\x7b\"engine\":\x7b\"command\":\"\"\x7d\x7d" =
      .error (.breach broken)) ∧
    parse "// nothing" = .ok {} := by
  refine ⟨?_, ?_, (parse_by_members _).2.2 (.lastComment (by decide))⟩
  · let given : Given := ⟨none, some ⟨none, none⟩, none, none, some 2⟩
    have written : given.toValue.render =
        "\x7b\"engine\":\x7b\x7d,\"jobs\":2\x7d" := by
      decide +kernel
    have hasWordJobs : HasWordJobs given.toValue := by
      rintro jobs ⟨⟩ _
      exact ⟨2, rfl⟩
    have proper : given.IsProper := by
      constructor <;> simp [given]
    rw [← written]
    exact (((parse_by_members _).1 _ (parse_render_given given)
      hasWordJobs).1 _).mpr ⟨given, proper, rfl, rfl⟩
  · let given : Given := ⟨none, some ⟨some "", none⟩, none, none, none⟩
    have written : given.toValue.render =
        "\x7b\"engine\":\x7b\"command\":\"\"\x7d\x7d" := by
      decide +kernel
    have hasWordJobs : HasWordJobs given.toValue := by
      rintro jobs ⟨⟩
    have breaks : given.toValue.firstBreach.isSome = true := by
      decide +kernel
    obtain ⟨broken, fails, _⟩ :=
      ((parse_by_members _).1 _ (parse_render_given given)
        hasWordJobs).2 (by
          rintro ⟨other, proper, same⟩
          rw [same, firstBreach_toValue proper] at breaks
          cases breaks)
    rw [← written]
    exact ⟨broken, fails⟩

end TemplateLint.Configuration
