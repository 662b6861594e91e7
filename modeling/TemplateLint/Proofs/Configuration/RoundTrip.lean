import TemplateLint.Proofs.Configuration.Acceptance
import TemplateLint.Proofs.Jsonc.Compact

/-!
# Reading written configurations

A configuration is written as the compact text of a value.  The text is read
as the same value with sorted members, and that value is a configuration for
the schema exactly if the program and all names are filled and the number of
jobs is not zero.
-/

namespace TemplateLint.Configuration

open Json

/-- A configuration that the schema can describe. -/
structure IsDescribable (configuration : Configuration) : Prop where
  hasCommand : configuration.command ≠ ""
  hasBlockNames : "" ∉ configuration.customBlocks
  hasTagNames : "" ∉ configuration.customTags
  hasJobs : configuration.jobs ≠ some 0

/-! ## The written value -/

/-- The member for the number of jobs, if there is a number. -/
def jobsMember (jobs : Option UInt64) : List (String × Value) :=
  match jobs with
  | none => []
  | some jobs => [("jobs", .integer jobs.toNat)]

/-- The value that a configuration is written as. -/
def toValue (configuration : Configuration) : Value :=
  .object
    (("engine", .object
        [("command", .text configuration.command),
          ("args", .list (configuration.arguments.map .text))]) ::
      ("custom_blocks", .list (configuration.customBlocks.map .text)) ::
      ("custom_tags", .list (configuration.customTags.map .text)) ::
      jobsMember configuration.jobs)

/-- The members of the value that is read, in the order of their names. -/
def readMembers (configuration : Configuration) : List (String × Value) :=
  ("custom_blocks", .list (configuration.customBlocks.map .text)) ::
    ("custom_tags", .list (configuration.customTags.map .text)) ::
    ("engine", .object
      [("args", .list (configuration.arguments.map .text)),
        ("command", .text configuration.command)]) ::
    jobsMember configuration.jobs

theorem compact_toValue (configuration : Configuration) :
    configuration.toValue.compact = configuration.compact := by
  cases jobs : configuration.jobs <;>
    simp [toValue, jobsMember, compact, compactTexts, jobs, Value.compact,
      compactMembers]

theorem areExact_texts (texts : List String) :
    Jsonc.AreExact (texts.map .text) := by
  simp [Jsonc.areExact_iff, Jsonc.IsExact]

theorem itemsWithMaps_texts (texts : List String) :
    Jsonc.itemsWithMaps (texts.map .text) = texts.map .text :=
  Jsonc.itemsWithMaps_of_forall (by simp [Jsonc.withMaps])

theorem isExact_word (word : UInt64) :
    Jsonc.IsExact (.integer word.toNat) := by
  have below : word.toNat ≤ greatestWord64 :=
    Nat.le_sub_one_of_lt word.toNat_lt
  constructor <;> omega

/-- The only number in a written configuration is that of jobs, which has 64
bits. -/
theorem isExact_toValue (configuration : Configuration) :
    Jsonc.IsExact configuration.toValue := by
  have blocks := areExact_texts configuration.customBlocks
  have tags := areExact_texts configuration.customTags
  have arguments := areExact_texts configuration.arguments
  refine ⟨⟨trivial, arguments, trivial⟩, blocks, tags, ?_⟩
  cases configuration.jobs with
  | none => trivial
  | some jobs => exact ⟨isExact_word jobs, trivial⟩

theorem withMaps_toValue (configuration : Configuration) :
    Jsonc.withMaps configuration.toValue =
      .object configuration.readMembers := by
  cases jobs : configuration.jobs <;>
    simp only [toValue, readMembers, jobsMember, jobs, Jsonc.withMaps,
      Jsonc.membersWithMaps, itemsWithMaps_texts, NameMap.ofPairs,
      NameMap.set, List.foldl_cons, List.foldl_nil, String.reduceEq,
      String.reduceLT, if_true, if_false]

theorem parse_render_toValue (configuration : Configuration) :
    Jsonc.parse configuration.render =
      .ok (some (.object configuration.readMembers)) := by
  have sameText : configuration.render = configuration.toValue.render := by
    rw [render, Value.render, compact_toValue]
  rw [sameText, Jsonc.parse_render (isExact_toValue configuration),
    withMaps_toValue]

/-! ## The value that is read -/

theorem map_text_injective : Function.Injective (List.map Value.text) :=
  List.map_injective_iff.mpr fun _ _ same => Value.text.inj same

theorem engineMember_command_iff {program : String} :
    EngineMember "command" (.text program) ↔ program ≠ "" := by
  constructor
  · generalize "command" = name
    intro member
    cases member with
    | command filled => exact filled
  · exact .command

theorem configurationMember_engine_iff {members : List (String × Value)} :
    ConfigurationMember "engine" (.object members) ↔
      ∀ entry ∈ members, EngineMember entry.1 entry.2 := by
  constructor
  · generalize "engine" = name
    intro member
    cases member with
    | engine known => exact known
  · exact .engine

theorem configurationMember_names_iff {name : String} (names : List String)
    (isNames : name = "custom_blocks" ∨ name = "custom_tags") :
    ConfigurationMember name (.list (names.map .text)) ↔ "" ∉ names := by
  constructor
  · generalize written : Value.list (names.map .text) = value
    intro member
    cases member with
    | customBlocks filled | customTags filled =>
        rwa [map_text_injective (Value.list.inj written)]
    | schema _ | engine _ | jobs _ | doubleJobs _ _ => cases written
  · intro filled
    rcases isNames with rfl | rfl
    · exact .customBlocks filled
    · exact .customTags filled

theorem one_le_toNat_iff (word : UInt64) :
    (1 : Int) ≤ word.toNat ↔ word ≠ 0 := by
  rw [Ne, ← UInt64.toNat_inj]
  simp
  omega

theorem jobsMember_iff (jobs : Option UInt64) :
    (∀ entry ∈ jobsMember jobs, ConfigurationMember entry.1 entry.2) ↔
      jobs ≠ some 0 := by
  cases jobs with
  | none => simp [jobsMember]
  | some jobs =>
      simpa [jobsMember, configurationMember_jobs_iff] using
        one_le_toNat_iff jobs

/-- The schema accepts what is read back exactly if it can describe the
configuration. -/
theorem firstBreach_readMembers (configuration : Configuration) :
    (Value.object configuration.readMembers).firstBreach = none ↔
      configuration.IsDescribable := by
  have engine : ConfigurationMember "engine" (.object
      [("args", .list (configuration.arguments.map .text)),
        ("command", .text configuration.command)]) ↔
      configuration.command ≠ "" := by
    rw [configurationMember_engine_iff]
    simp [engineMember_command_iff, EngineMember.arguments]
  have blocks := configurationMember_names_iff configuration.customBlocks
    (.inl rfl)
  have tags := configurationMember_names_iff configuration.customTags
    (.inr rfl)
  have jobs := jobsMember_iff configuration.jobs
  simp only [Json.Value.firstBreach_eq_none_iff, Value.object.injEq,
    exists_eq_left', readMembers, List.forall_mem_cons, engine, blocks, tags,
    jobs]
  constructor
  · rintro ⟨hasBlockNames, hasTagNames, hasCommand, hasJobs⟩
    exact ⟨hasCommand, hasBlockNames, hasTagNames, hasJobs⟩
  · rintro ⟨hasCommand, hasBlockNames, hasTagNames, hasJobs⟩
    exact ⟨hasBlockNames, hasTagNames, hasCommand, hasJobs⟩

theorem textsOf_texts (texts : List String) :
    textsOf (some (.list (texts.map .text))) = texts := by
  simp [textsOf]

theorem jobsOf_jobsMember (jobs : Option UInt64) :
    jobsOf (NameMap.get? "jobs" (jobsMember jobs)) = .ok jobs := by
  cases jobs with
  | none => rfl
  | some jobs =>
      simp [jobsMember, NameMap.get?_cons, jobsOf]

theorem ofValue_readMembers (configuration : Configuration) :
    ofValue (.object configuration.readMembers) =
      .ok { configuration with baseDirectory := none } := by
  have jobs := jobsOf_jobsMember configuration.jobs
  simp [ofValue, membersOf, readMembers, NameMap.get?_cons, textsOf_texts,
    textOr, jobs, bind, Except.bind, pure, Except.pure]

/-! ## Round trip -/

theorem parse_render_of_isDescribable {configuration : Configuration}
    (describable : configuration.IsDescribable) :
    parse configuration.render =
      .ok { configuration with baseDirectory := none } := by
  have accepted := (firstBreach_readMembers configuration).mpr describable
  simp only [parse, parse_render_toValue, Option.getD_some, accepted,
    ofValue_readMembers]

theorem parse_render_of_not_isDescribable {configuration : Configuration}
    (other : ¬configuration.IsDescribable) :
    ∃ broken : Breach,
      parse configuration.render = .error (.breach broken) := by
  have refused := mt (firstBreach_readMembers configuration).mp other
  obtain ⟨broken, found⟩ := Option.ne_none_iff_exists'.mp refused
  refine ⟨broken, ?_⟩
  simp only [parse, parse_render_toValue, Option.getD_some, found]

/-- A written configuration is read back, without its base directory, exactly
if the program and all names are filled and the number of jobs is not zero.
Any other one is refused by the schema. -/
theorem parse_written_iff (configuration : Configuration) :
    (parse configuration.render =
        .ok { configuration with baseDirectory := none } ↔
      configuration.IsDescribable) ∧
    ((∃ broken : Breach,
        parse configuration.render = .error (.breach broken) ∧
        (ConfigurationFault.breach broken).message =
          "Config validation failed: " ++ broken.message) ↔
      ¬configuration.IsDescribable) := by
  rcases Classical.em configuration.IsDescribable with describable | other
  · have loads := parse_render_of_isDescribable describable
    simp only [loads, describable, true_and, not_true_eq_false,
      iff_false, not_exists, not_and]
    intro broken refused
    cases refused
  · obtain ⟨broken, refused⟩ := parse_render_of_not_isDescribable other
    refine ⟨⟨fun loads => ?_, fun describable => absurd describable other⟩,
      ⟨fun _ => other, fun _ => ⟨broken, refused, rfl⟩⟩⟩
    rw [refused] at loads
    cases loads

end TemplateLint.Configuration
