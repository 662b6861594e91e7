import TemplateLint.Configuration.Load

/-!
# Which values the schema accepts

A value is accepted if it is an object whose members are all known and hold
what is asked of them.  An accepted document is loaded, unless its number of
jobs is a double.
-/

namespace TemplateLint

open Json

/-! ## Accepted members -/

/-- A member that the program and its arguments can be given with. -/
inductive EngineMember : String → Value → Prop
  | command {program : String} :
      program ≠ "" → EngineMember "command" (.text program)
  | arguments (texts : List String) :
      EngineMember "args" (.list (texts.map .text))

/-- A member that a configuration can have.  An integer that is written as a
double is one as well. -/
inductive ConfigurationMember : String → Value → Prop
  | schema (text : String) : ConfigurationMember "$schema" (.text text)
  | engine {members : List (String × Value)} :
      (∀ entry ∈ members, EngineMember entry.1 entry.2) →
      ConfigurationMember "engine" (.object members)
  | customBlocks {names : List String} :
      "" ∉ names →
      ConfigurationMember "custom_blocks" (.list (names.map .text))
  | customTags {names : List String} :
      "" ∉ names →
      ConfigurationMember "custom_tags" (.list (names.map .text))
  | jobs {number : Int} :
      1 ≤ number → ConfigurationMember "jobs" (.integer number)
  | doubleJobs {number : Number.Binary64} :
      number.isIntegral = true → number.isBelowOne = false →
      ConfigurationMember "jobs" (.double number)

namespace Schema

variable (pointer : List String)

/-! ## Checks -/

theorem text_eq_none_iff (value : Value) :
    text pointer value = none ↔ ∃ content, value = .text content := by
  cases value <;> simp [text]

theorem filledText_eq_none_iff (value : Value) :
    filledText pointer value = none ↔
      ∃ content, value = .text content ∧ content ≠ "" := by
  cases value <;> simp [filledText]

theorem positiveInteger_eq_none_iff (value : Value) :
    positiveInteger pointer value = none ↔
      (∃ number, value = .integer number ∧ 1 ≤ number) ∨
        ∃ number, value = .double number ∧ number.isIntegral = true ∧
          number.isBelowOne = false := by
  cases value with
  | integer number => simp [positiveInteger]
  | double number =>
      cases integral : number.isIntegral <;>
        cases below : number.isBelowOne <;>
        simp [positiveInteger, integral, below]
  | null | boolean _ | text _ | list _ | object _ => simp [positiveInteger]

/-- Items are checked one by one, each at its own place. -/
theorem items_eq_none_iff {check : Check} {Holds : Value → Prop}
    (decides : ∀ place value, check place value = none ↔ Holds value)
    (position : Nat) (values : List Value) :
    items check pointer position values = none ↔
      ∀ item ∈ values, Holds item := by
  induction values generalizing position with
  | nil => simp [items]
  | cons item rest inductionHypothesis =>
      rw [List.forall_mem_cons, ← inductionHypothesis (position + 1),
        ← decides (pointer ++ [toString position]) item, items]
      generalize pointer ++ [toString position] = place
      cases broken : check place item <;> simp

theorem listOf_eq_none_iff {check : Check} {Holds : Value → Prop}
    (decides : ∀ place value, check place value = none ↔ Holds value)
    (value : Value) :
    listOf check pointer value = none ↔
      ∃ values, value = .list values ∧ ∀ item ∈ values, Holds item := by
  cases value with
  | list values => simp [listOf, items_eq_none_iff pointer decides]
  | null | boolean _ | integer _ | double _ | text _ | object _ =>
      simp [listOf]

theorem members_eq_none_iff (checks : List (String × Check))
    (entries : List (String × Value)) :
    members checks pointer entries = none ↔
      ∀ entry ∈ entries, ∃ check, checks.lookup entry.1 = some check ∧
        check (pointer ++ [entry.1]) entry.2 = none := by
  induction entries with
  | nil => simp [members]
  | cons entry rest inductionHypothesis =>
      obtain ⟨name, value⟩ := entry
      rw [List.forall_mem_cons, ← inductionHypothesis, members]
      cases checks.lookup name with
      | none => simp
      | some check =>
          cases broken : check (pointer ++ [name]) value <;> simp [broken]

theorem objectOf_eq_none_iff (checks : List (String × Check))
    (value : Value) :
    objectOf checks pointer value = none ↔
      ∃ entries, value = .object entries ∧
        ∀ entry ∈ entries, ∃ check, checks.lookup entry.1 = some check ∧
          check (pointer ++ [entry.1]) entry.2 = none := by
  cases value with
  | object entries => simp [objectOf, members_eq_none_iff]
  | null | boolean _ | integer _ | double _ | text _ | list _ =>
      simp [objectOf]

/-! ## Lists of texts -/

theorem exists_eq_map_text (Holds : String → Prop) {values : List Value}
    (texts : ∀ item ∈ values, ∃ content, item = .text content ∧
      Holds content) :
    ∃ contents : List String, values = contents.map .text ∧
      ∀ content ∈ contents, Holds content := by
  induction values with
  | nil => exact ⟨[], rfl, by simp⟩
  | cons item rest inductionHypothesis =>
      obtain ⟨content, rfl, holds⟩ := texts item List.mem_cons_self
      obtain ⟨contents, rfl, allHold⟩ := inductionHypothesis
        fun other member => texts other (List.mem_cons_of_mem _ member)
      exact ⟨content :: contents, rfl,
        List.forall_mem_cons.mpr ⟨holds, allHold⟩⟩

theorem listOf_text_eq_none_iff (value : Value) :
    listOf text pointer value = none ↔
      ∃ contents : List String, value = .list (contents.map .text) := by
  rw [listOf_eq_none_iff pointer text_eq_none_iff]
  constructor
  · rintro ⟨values, rfl, texts⟩
    obtain ⟨contents, rfl, _⟩ := exists_eq_map_text (fun _ => True)
      fun item member => (texts item member).imp fun _ same => ⟨same, trivial⟩
    exact ⟨contents, rfl⟩
  · rintro ⟨contents, rfl⟩
    exact ⟨_, rfl, by simp⟩

theorem listOf_filledText_eq_none_iff (value : Value) :
    listOf filledText pointer value = none ↔
      ∃ contents : List String, value = .list (contents.map .text) ∧
        "" ∉ contents := by
  rw [listOf_eq_none_iff pointer filledText_eq_none_iff]
  constructor
  · rintro ⟨values, rfl, texts⟩
    obtain ⟨contents, rfl, filled⟩ := exists_eq_map_text _ texts
    exact ⟨contents, rfl, fun member => filled "" member rfl⟩
  · rintro ⟨contents, rfl, filled⟩
    refine ⟨_, rfl, ?_⟩
    simp only [List.mem_map, forall_exists_index, and_imp]
    rintro _ content member rfl
    exact ⟨content, rfl, fun empty => filled (empty ▸ member)⟩

/-! ## Configurations -/

theorem engine_eq_none_iff (value : Value) :
    engine pointer value = none ↔
      ∃ members, value = .object members ∧
        ∀ entry ∈ members, EngineMember entry.1 entry.2 := by
  rw [engine, objectOf_eq_none_iff]
  refine exists_congr fun members => and_congr_right fun _ => ?_
  refine forall₂_congr fun entry _ => ?_
  obtain ⟨name, value⟩ := entry
  constructor
  · rintro ⟨check, found, accepted⟩
    have listed := NameMap.mem_of_get? found
    simp only [List.mem_cons, Prod.mk.injEq, List.not_mem_nil, or_false]
      at listed
    rcases listed with ⟨rfl, rfl⟩ | ⟨rfl, rfl⟩
    · obtain ⟨program, rfl, filled⟩ := (filledText_eq_none_iff _ _).mp accepted
      exact .command filled
    · obtain ⟨texts, rfl⟩ := (listOf_text_eq_none_iff _ _).mp accepted
      exact .arguments texts
  · intro member
    cases member with
    | command filled => exact ⟨filledText, rfl, by simp [filledText, filled]⟩
    | arguments texts =>
        exact ⟨listOf text, rfl,
          (listOf_text_eq_none_iff _ _).mpr ⟨texts, rfl⟩⟩

theorem configuration_eq_none_iff (value : Value) :
    configuration pointer value = none ↔
      ∃ members, value = .object members ∧
        ∀ entry ∈ members, ConfigurationMember entry.1 entry.2 := by
  rw [configuration, objectOf_eq_none_iff]
  refine exists_congr fun members => and_congr_right fun _ => ?_
  refine forall₂_congr fun entry _ => ?_
  obtain ⟨name, value⟩ := entry
  constructor
  · rintro ⟨check, found, accepted⟩
    have listed := NameMap.mem_of_get? found
    simp only [List.mem_cons, Prod.mk.injEq, List.not_mem_nil, or_false]
      at listed
    rcases listed with
      ⟨rfl, rfl⟩ | ⟨rfl, rfl⟩ | ⟨rfl, rfl⟩ | ⟨rfl, rfl⟩ | ⟨rfl, rfl⟩
    · obtain ⟨content, rfl⟩ := (text_eq_none_iff _ _).mp accepted
      exact .schema content
    · obtain ⟨members, rfl, known⟩ := (engine_eq_none_iff _ _).mp accepted
      exact .engine known
    · obtain ⟨names, rfl, filled⟩ :=
        (listOf_filledText_eq_none_iff _ _).mp accepted
      exact .customBlocks filled
    · obtain ⟨names, rfl, filled⟩ :=
        (listOf_filledText_eq_none_iff _ _).mp accepted
      exact .customTags filled
    · rcases (positiveInteger_eq_none_iff _ _).mp accepted with
        ⟨number, rfl, positive⟩ | ⟨number, rfl, integral, notBelow⟩
      · exact .jobs positive
      · exact .doubleJobs integral notBelow
  · intro member
    cases member with
    | schema content => exact ⟨text, rfl, rfl⟩
    | engine known =>
        exact ⟨engine, rfl, (engine_eq_none_iff _ _).mpr ⟨_, rfl, known⟩⟩
    | customBlocks filled =>
        exact ⟨listOf filledText, rfl,
          (listOf_filledText_eq_none_iff _ _).mpr ⟨_, rfl, filled⟩⟩
    | customTags filled =>
        exact ⟨listOf filledText, rfl,
          (listOf_filledText_eq_none_iff _ _).mpr ⟨_, rfl, filled⟩⟩
    | jobs positive =>
        exact ⟨positiveInteger, rfl,
          (positiveInteger_eq_none_iff _ _).mpr (.inl ⟨_, rfl, positive⟩)⟩
    | doubleJobs integral notBelow =>
        exact ⟨positiveInteger, rfl,
          (positiveInteger_eq_none_iff _ _).mpr
            (.inr ⟨_, rfl, integral, notBelow⟩)⟩

end Schema

/-- The schema accepts the objects whose members are all members of a
configuration. -/
theorem Json.Value.firstBreach_eq_none_iff (value : Value) :
    value.firstBreach = none ↔
      ∃ members, value = .object members ∧
        ∀ entry ∈ members, ConfigurationMember entry.1 entry.2 :=
  Schema.configuration_eq_none_iff [] value

namespace Configuration

/-! ## Loading what is accepted -/

theorem configurationMember_jobs_iff (value : Value) :
    ConfigurationMember "jobs" value ↔
      (∃ number, value = .integer number ∧ 1 ≤ number) ∨
        ∃ number, value = .double number ∧ number.isIntegral = true ∧
          number.isBelowOne = false := by
  constructor
  · generalize isJobs : "jobs" = name
    intro member
    cases member with
    | jobs positive => exact .inl ⟨_, rfl, positive⟩
    | doubleJobs integral notBelow => exact .inr ⟨_, rfl, integral, notBelow⟩
    | schema _ | engine _ | customBlocks _ | customTags _ => simp at isJobs
  · rintro (⟨number, rfl, positive⟩ | ⟨number, rfl, integral, notBelow⟩)
    · exact .jobs positive
    · exact .doubleJobs integral notBelow

theorem exists_ofValue_eq_ok {members : List (String × Value)}
    (single : ∀ number,
      NameMap.get? "jobs" members ≠ some (.double number)) :
    ∃ configuration, ofValue (.object members) = .ok configuration := by
  have jobs : ∃ jobs, jobsOf (NameMap.get? "jobs" members) = .ok jobs := by
    unfold jobsOf
    split
    · exact ⟨_, rfl⟩
    · next number found => exact absurd found (single number)
    · exact ⟨_, rfl⟩
  obtain ⟨jobs, read⟩ := jobs
  simp [ofValue, membersOf, read, bind, Except.bind, pure, Except.pure]

theorem ofValue_of_doubleJobs {members : List (String × Value)}
    {number : Number.Binary64}
    (found : NameMap.get? "jobs" members = some (.double number)) :
    ofValue (.object members) = .error (.unsupportedJobs number) := by
  simp [ofValue, membersOf, found, jobsOf, bind, Except.bind]

/-- A document that the schema accepts is loaded, unless its number of jobs is
a double; such a number of jobs is at least one and has no fraction. -/
theorem parse_of_accepted {text : String} {parsed : Option Value}
    (read : Jsonc.parse text = .ok parsed)
    (accepted : (parsed.getD (.object [])).firstBreach = none) :
    let jobs := NameMap.get? "jobs" (membersOf (parsed.getD (.object [])))
    (∀ number, jobs ≠ some (.double number)) ∧
        (∃ configuration, parse text = .ok configuration) ∨
      ∃ number, jobs = some (.double number) ∧
        number.isIntegral = true ∧ number.isBelowOne = false ∧
        parse text = .error (.unsupportedJobs number) := by
  intro jobs
  have loads : parse text = ofValue (parsed.getD (.object [])) := by
    simp only [parse, read, accepted]
  obtain ⟨members, isObject, known⟩ :=
    (Json.Value.firstBreach_eq_none_iff _).mp accepted
  have jobsEq : jobs = NameMap.get? "jobs" members := by
    simp only [jobs, isObject, membersOf]
  rw [loads, isObject, jobsEq]
  by_cases double : ∃ number,
      NameMap.get? "jobs" members = some (.double number)
  · obtain ⟨number, found⟩ := double
    have member := known _ (NameMap.mem_of_get? found)
    rcases (configurationMember_jobs_iff _).mp member with
      ⟨_, isInteger, _⟩ | ⟨other, same, integral, notBelow⟩
    · cases isInteger
    · cases same
      exact .inr ⟨number, found, integral, notBelow,
        ofValue_of_doubleJobs found⟩
  · have single := not_exists.mp double
    exact .inl ⟨single, exists_ofValue_eq_ok single⟩

/-- A document with comments, with a comma at its end and with jobs that are
written with digits alone. -/
theorem parse_of_accepted_commented :
    let text := "\x7b // as many as there are cores\n\"jobs\": 4, \x7d"
    ∃ configuration, parse text = .ok configuration := by
  intro text
  have scanned : ((Jsonc.parse text).toOption.map fun parsed =>
      (parsed.getD (.object [])).firstBreach.isNone) = some true := by
    decide +kernel
  have loaded : (parse text).isOk = true := by decide +kernel
  cases read : Jsonc.parse text with
  | error fault => simp [read, Except.toOption] at scanned
  | ok parsed =>
      have accepted : (parsed.getD (.object [])).firstBreach = none := by
        simpa [read, Except.toOption] using scanned
      rcases parse_of_accepted read accepted with
        ⟨_, loads⟩ | ⟨number, _, _, _, refused⟩
      · exact loads
      · rw [refused] at loaded
        cases loaded

/-- A number of jobs with a point is accepted as an integer, but not
loaded. -/
theorem accepted_not_loaded :
    ∃ value, Jsonc.parse "\x7b\"jobs\": 2.0\x7d" = .ok (some value) ∧
      value.firstBreach = none ∧
      ∀ configuration,
        parse "\x7b\"jobs\": 2.0\x7d" ≠ .ok configuration := by
  have scanned : ((Jsonc.parse "\x7b\"jobs\": 2.0\x7d").toOption.map
      fun parsed => parsed.map fun value => value.firstBreach.isNone) =
        some (some true) := by
    decide +kernel
  have refused : (parse "\x7b\"jobs\": 2.0\x7d").isOk = false := by
    decide +kernel
  cases read : Jsonc.parse "\x7b\"jobs\": 2.0\x7d" with
  | error fault => simp [read, Except.toOption] at scanned
  | ok parsed =>
      cases parsed with
      | none => simp [read, Except.toOption] at scanned
      | some value =>
          refine ⟨value, rfl, ?_, ?_⟩
          · simpa [read, Except.toOption] using scanned
          · intro configuration loaded
            rw [loaded] at refused
            cases refused

end Configuration

end TemplateLint
