import TemplateLint.Proofs.CommandLine.Alike

/-!
# Options that are only passed on

A command line and the same one with more options that are passed on are read
alike: either both are refused, or both mean the same apart from what is passed
on.
-/

namespace TemplateLint.CommandLine

open Linter

/-! ## Options and how they are written -/

/-- The letters that give an option its value, and the arguments after
them. -/
inductive LetterForm (option : ValueOption) (value : String) :
    List Char → List String → Prop
  | apart {letter : Char} :
      Switch.ofShort? letter = some (.value option) →
      Progress.takes option value = true →
      LetterForm option value [letter] [value]
  | attached {letter : Char} {letters : List Char} :
      Switch.ofShort? letter = some (.value option) →
      Progress.attachedValue letters = some value →
      LetterForm option value (letter :: letters) []

/-- The arguments that give an option its value. -/
inductive Spelling (option : ValueOption) (value : String) :
    List String → Prop
  | apart :
      Progress.takes option value = true →
      Spelling option value ["--" ++ option.longName, value]
  | attached :
      Spelling option value ["--" ++ option.longName ++ "=" ++ value]
  | letters {letters : List Char} {rest : List String} :
      LetterForm option value letters rest →
      Spelling option value (String.ofList ('-' :: letters) :: rest)

/-- A letter that names a flag. -/
def IsFlagLetter (letter : Char) : Prop :=
  ∃ flag, Switch.ofShort? letter = some (.flag flag)

/-- Some arguments, and the same arguments with more options that are passed
on, wherever an option can stand.  None of the new values holds the character
that ends texts in system calls. -/
inductive Adds :
    Option ValueOption → List String → List String → Prop
  | refl (awaited : Option ValueOption) (texts : List String) :
      Adds awaited texts texts
  /-- A value stays with its option. -/
  | value {option : ValueOption} {text : String}
      {fewer more : List String} :
      Progress.takes option text = true →
      Adds none fewer more →
      Adds (some option) (text :: fewer) (text :: more)
  /-- Behind the argument that ends the options nothing can be added. -/
  | argument {awaited : Option ValueOption} {text : String}
      {fewer more : List String} :
      Unclaimed awaited [text] → text ≠ "--" →
      Adds (awaitedAfter text) fewer more →
      Adds awaited (text :: fewer) (text :: more)
  | option {awaited : Option ValueOption} {option : ValueOption}
      {value : String} {spelling fewer more : List String} :
      option.isPassedOn = true → holdsNul value = false →
      Spelling option value spelling →
      Unclaimed awaited spelling → Unclaimed awaited fewer →
      Adds awaited fewer more →
      Adds awaited fewer (spelling ++ more)
  /-- The letter of an option can stand behind those of flags. -/
  | letters {awaited : Option ValueOption} {flags letters : List Char}
      {option : ValueOption} {value : String}
      {rest fewer more : List String} :
      flags ≠ [] → (∀ letter ∈ flags, IsFlagLetter letter) →
      option.isPassedOn = true → holdsNul value = false →
      LetterForm option value letters rest →
      Unclaimed awaited [String.ofList ('-' :: flags)] →
      Adds none fewer more →
      Adds awaited (String.ofList ('-' :: flags) :: fewer)
        (String.ofList ('-' :: (flags ++ letters)) :: (rest ++ more))

/-- A command line and the same one with more options that are passed on are
read alike.  An argument that is not recognised is reported before a fault of
the pending option; an option between the two has the pending one settled, and
its fault reported, first. -/
inductive ReadAlike :
    Except Interruption Arguments → Except Interruption Arguments → Prop
  | read {fewer more : Arguments} :
      fewer.Alike more → ReadAlike (.ok fewer) (.ok more)
  | interrupted (cause : Interruption) :
      ReadAlike (.error cause) (.error cause)
  | overtaken {unrecognised fault : UsageFault} :
      unrecognised.isUnrecognised = true → fault.isUnrecognised = false →
      ReadAlike (.error (.fault unrecognised)) (.error (.fault fault))

/-! ## Reading a further option -/

/-- The first argument of a spelling names the option; what is attached to it
is the value, or the value is the second argument. -/
theorem Spelling.exists_head {option : ValueOption} {value : String}
    {spelling : List String} (spelled : Spelling option value spelling) :
    ∃ head attached, head ≠ "--" ∧
      (∀ progress : Progress,
        progress.addArgument head = progress.addOption option attached) ∧
      (spelling = [head] ∧ attached = some value ∨
        spelling = [head, value] ∧ attached = none ∧
          Progress.takes option value = true) := by
  cases spelled with
  | apart taken =>
      have shape : ("--" ++ option.longName).toList =
          '-' :: '-' :: option.longName.toList := by
        simp
      refine ⟨_, none, ?_, fun progress => ?_, .inr ⟨rfl, rfl, taken⟩⟩
      · exact ne_end_of_long shape (longName_ne_nil option)
      · rw [addArgument_long progress shape,
          Progress.addLong_name progress (equals_not_mem_longName option),
          String.ofList_toList, ofLong?_value]
  | attached =>
      have shape : ("--" ++ option.longName ++ "=" ++ value).toList =
          '-' :: '-' :: (option.longName.toList ++ '=' :: value.toList) := by
        simp
      refine ⟨_, some value, ?_, fun progress => ?_, .inl ⟨rfl, rfl⟩⟩
      · exact ne_end_of_long shape (by simp)
      · rw [addArgument_long progress shape,
          Progress.addLong_name_value progress
            (equals_not_mem_longName option),
          String.ofList_toList, String.ofList_toList, ofLong?_value]
  | letters form =>
      cases form with
      | @apart letter named taken =>
          refine ⟨_, none, ofList_ne_end named [], fun progress => ?_,
            .inr ⟨rfl, rfl, taken⟩⟩
          rw [addArgument_letters progress named, Progress.addShort, named]
          rfl
      | @attached letter letters named attached =>
          refine ⟨_, some value, ofList_ne_end named letters,
            fun progress => ?_, .inl ⟨rfl, rfl⟩⟩
          rw [addArgument_letters progress named, Progress.addShort, named,
            attached]

namespace Progress

/-- A whole spelling is read as its option with its value, which may still be
pending. -/
theorem exists_readAll_spelling {option : ValueOption} {value : String}
    {spelling : List String} (spelled : Spelling option value spelling)
    {progress settled : Progress} {assigned : Arguments}
    (settles : progress.settle = .ok settled)
    (assigns : settled.arguments.assign option value = .ok assigned)
    (more : List String) :
    ∃ next : Progress,
      progress.readAll (spelling ++ more) = next.readAll more ∧
      next.awaited = none ∧ next.settle = .ok ⟨assigned, none⟩ := by
  have idle := awaited_of_settle settles
  obtain ⟨head, attached, notEnd, reads, ⟨rfl, rfl⟩ | ⟨rfl, rfl, taken⟩⟩ :=
    spelled.exists_head
  · refine ⟨⟨assigned, none⟩, ?_, rfl, rfl⟩
    rw [List.singleton_append,
      readAll_argument (by simp [Unclaimed, idle]) notEnd, reads]
    simp [addOption, settles, assigns, bind, Except.bind, pure, Except.pure]
  · refine ⟨{ settled with pending := some ⟨option, some value⟩ }, ?_, rfl,
      ?_⟩
    · rw [List.cons_append, List.singleton_append,
        readAll_argument (by simp [Unclaimed, idle]) notEnd, reads]
      simp only [addOption, settles, bind, Except.bind, pure, Except.pure]
      exact readAll_value rfl taken more
    · simp [settle, assigns, bind, Except.bind, pure, Except.pure]

/-- No option is read before the pending one is settled. -/
theorem finish_spelling_of_fails {option : ValueOption} {value : String}
    {spelling : List String} (spelled : Spelling option value spelling)
    {progress : Progress} {fault : UsageFault}
    (fails : progress.settle = .error (.fault fault))
    (unclaimed : Unclaimed progress.awaited spelling) (more : List String) :
    progress.finish (spelling ++ more) = .error (.fault fault) := by
  obtain ⟨head, attached, notEnd, reads, shape⟩ := spelled.exists_head
  have isHead : ∃ rest, spelling = head :: rest := by
    rcases shape with ⟨rfl, _⟩ | ⟨rfl, _⟩ <;> exact ⟨_, rfl⟩
  obtain ⟨rest, rfl⟩ := isHead
  have free : Unclaimed progress.awaited (head :: (rest ++ more)) := unclaimed
  rw [List.cons_append, finish_argument free notEnd, reads,
    addOption_of_fails fails]
  rfl

/-! ## Letters behind letters -/

theorem addShort_append (progress : Progress) {flags : List Char}
    (named : ∀ letter ∈ flags, IsFlagLetter letter) (letters : List Char) :
    progress.addShort (flags ++ letters) =
      progress.addShort flags >>= fun next => next.addShort letters := by
  induction flags generalizing progress with
  | nil => rfl
  | cons letter others inductionHypothesis =>
      obtain ⟨⟨flag, isFlag⟩, othersNamed⟩ := List.forall_mem_cons.mp named
      simp only [List.cons_append, addShort, isFlag, bind_assoc,
        inductionHypothesis _ othersNamed]

theorem awaitedAfterLetters_flags {flags : List Char}
    (named : ∀ letter ∈ flags, IsFlagLetter letter) :
    awaitedAfterLetters flags = none := by
  induction flags with
  | nil => rfl
  | cons letter others inductionHypothesis =>
      obtain ⟨⟨flag, isFlag⟩, othersNamed⟩ := List.forall_mem_cons.mp named
      simp only [awaitedAfterLetters, isFlag, inductionHypothesis othersNamed]

theorem awaitedAfter_flags {letter : Char} {others : List Char}
    (named : ∀ flag ∈ letter :: others, IsFlagLetter flag) :
    awaitedAfter (String.ofList ('-' :: letter :: others)) = none := by
  obtain ⟨flag, isFlag⟩ := named letter List.mem_cons_self
  rw [awaitedAfter_short (ne_hyphen_of_named isFlag) String.toList_ofList]
  exact awaitedAfterLetters_flags named

/-- Arguments that look like options are taken for values by the same
options. -/
theorem unclaimed_letters {awaited : Option ValueOption} {letter other : Char}
    {letters others : List Char} {rest : List String}
    (unclaimed : Unclaimed awaited
      [String.ofList ('-' :: letter :: letters)]) :
    Unclaimed awaited (String.ofList ('-' :: other :: others) :: rest) := by
  intro option awaits text isHead
  obtain rfl := Option.some.inj isHead
  have notTaken := unclaimed option awaits _ rfl
  simpa [takes, looksLikeOption] using notTaken

/-- The letters of an option behind those of flags are read as if they stood
in an argument of their own. -/
theorem readAll_letters {progress : Progress} {flags letters : List Char}
    (filled : flags ≠ []) (named : ∀ letter ∈ flags, IsFlagLetter letter)
    {option : ValueOption} {value : String} {rest : List String}
    (form : LetterForm option value letters rest)
    (unclaimed : Unclaimed progress.awaited [String.ofList ('-' :: flags)])
    (more : List String) :
    progress.readAll
        (String.ofList ('-' :: (flags ++ letters)) :: (rest ++ more)) =
      progress.readAll
        (String.ofList ('-' :: flags) ::
          (String.ofList ('-' :: letters) :: rest ++ more)) := by
  obtain ⟨first, others, rfl⟩ := List.exists_cons_of_ne_nil filled
  obtain ⟨flag, isFlag⟩ := named first List.mem_cons_self
  obtain ⟨letter, behind, rfl, isOption⟩ :
      ∃ letter behind, letters = letter :: behind ∧
        Switch.ofShort? letter = some (.value option) := by
    cases form with
    | apart isOption _ => exact ⟨_, _, rfl, isOption⟩
    | attached isOption _ => exact ⟨_, _, rfl, isOption⟩
  rw [List.cons_append, List.cons_append,
    readAll_argument (unclaimed_letters unclaimed) (ofList_ne_end isFlag _),
    readAll_argument (unclaimed_letters unclaimed) (ofList_ne_end isFlag _),
    addArgument_letters progress isFlag, addArgument_letters progress isFlag,
    ← List.cons_append, addShort_append progress named, bind_assoc]
  cases read : progress.addShort (first :: others) with
  | error cause => rfl
  | ok next =>
      have idle : next.awaited = none :=
        (awaited_of_addShort _ read (List.cons_ne_nil _ _)).trans
          (awaitedAfterLetters_flags named)
      change next.addShort (letter :: behind) >>= _ = next.readAll _
      rw [readAll_argument (by simp [Unclaimed, idle])
        (ofList_ne_end isOption _), addArgument_letters next isOption]

/-! ## Command lines that differ in what is passed on -/

variable {left right : Progress}

theorem readAlike_of_agree {first second : Except Interruption Arguments}
    (agree : Agree Arguments.Alike first second) :
    ReadAlike first second := by
  cases agree with
  | ok alike => exact .read alike
  | error cause => exact .interrupted cause

theorem Alike.finish (alike : left.Alike right) (texts : List String) :
    ReadAlike (left.finish texts) (right.finish texts) := by
  refine readAlike_of_agree ((alike.readAll texts).bind
    fun first second read => read.settle.bind
      fun firstSettled secondSettled settled => .ok settled.arguments)

/-- The same argument is read before the rest. -/
theorem Alike.finish_argument (alike : left.Alike right) {text : String}
    (unclaimed : Unclaimed left.awaited [text]) (notEnd : text ≠ "--")
    {fewer more : List String}
    (behind : ∀ first second : Progress, first.Alike second →
      first.awaited = awaitedAfter text →
      ReadAlike (first.finish fewer) (second.finish more)) :
    ReadAlike (left.finish (text :: fewer))
      (right.finish (text :: more)) := by
  have leftUnclaimed : Unclaimed left.awaited (text :: fewer) := unclaimed
  have rightUnclaimed : Unclaimed right.awaited (text :: more) :=
    alike.awaited_eq ▸ unclaimed
  rw [Progress.finish_argument leftUnclaimed notEnd,
    Progress.finish_argument rightUnclaimed notEnd]
  rcases agree_iff.mp (alike.addArgument text) with
    ⟨first, second, leftReads, rightReads, related⟩ |
      ⟨cause, leftReads, rightReads⟩
  · rw [leftReads, rightReads]
    exact behind first second related (awaited_of_addArgument leftReads)
  · rw [leftReads, rightReads]
    exact .interrupted cause

/-- An option that is passed on is read before the rest of one side only. -/
theorem Alike.finish_spelling (alike : left.Alike right)
    {option : ValueOption} {value : String} {spelling : List String}
    (passedOn : option.isPassedOn = true) (clean : holdsNul value = false)
    (spelled : Spelling option value spelling) {fewer more : List String}
    (unclaimed : Unclaimed left.awaited spelling)
    (free : Unclaimed left.awaited fewer)
    (behind : ∀ next : Progress, left.Alike next →
      ReadAlike (left.finish fewer) (next.finish more)) :
    ReadAlike (left.finish fewer) (right.finish (spelling ++ more)) := by
  rcases agree_iff.mp alike.settle with
    ⟨first, second, leftSettles, rightSettles, settled⟩ |
      ⟨cause, leftFails, rightFails⟩
  · obtain ⟨assigned, assigns, similar⟩ :=
      second.arguments.exists_assign_of_isPassedOn passedOn clean
    obtain ⟨next, reads, nextIdle, nextSettles⟩ :=
      exists_readAll_spelling spelled rightSettles assigns more
    have idle := awaited_of_settle leftSettles
    have nextAlike : left.Alike next := by
      refine ⟨idle.trans nextIdle.symm, ?_, fun awaits => absurd idle awaits⟩
      rw [leftSettles, nextSettles]
      exact .ok ⟨settled.left_settled, rfl, settled.arguments.trans similar⟩
    have sameFinish :
        right.finish (spelling ++ more) = next.finish more := by
      rw [Progress.finish, Progress.finish, reads]
    rw [sameFinish]
    exact behind next nextAlike
  · -- The further option is refused at once; on the other side the next
    -- argument may be complained of before the pending one is settled.
    obtain ⟨fault, rfl, recognised⟩ := exists_fault_of_settle leftFails
    obtain ⟨reported, leftRefused, which⟩ := finish_of_fails leftFails free
    rw [leftRefused, finish_spelling_of_fails spelled rightFails
      (alike.awaited_eq ▸ unclaimed)]
    rcases which with rfl | unrecognised
    · exact .interrupted (.fault reported)
    · exact .overtaken unrecognised recognised

theorem Alike.finish_of_adds (alike : left.Alike right)
    {awaited : Option ValueOption} {fewer more : List String}
    (adds : Adds awaited fewer more) (awaits : left.awaited = awaited) :
    ReadAlike (left.finish fewer) (right.finish more) := by
  -- Along the additions both sides stay alike and await the same option.
  induction adds generalizing left right with
  | refl awaited texts => exact alike.finish texts
  | @value option text fewer more taken _ inductionHypothesis =>
      have rightAwaits := alike.awaited_eq.symm.trans awaits
      rw [finish_value awaits taken, finish_value rightAwaits taken]
      exact inductionHypothesis (alike.addValue awaits text) rfl
  | argument unclaimed notEnd _ inductionHypothesis =>
      exact alike.finish_argument (awaits ▸ unclaimed) notEnd
        fun first second => inductionHypothesis
  | option passedOn clean spelled unclaimed free _ inductionHypothesis =>
      exact alike.finish_spelling passedOn clean spelled
        (awaits ▸ unclaimed) (awaits ▸ free)
        fun next nextAlike => inductionHypothesis nextAlike awaits
  | @letters awaited flags letters option value rest fewer more filled named
      passedOn clean form unclaimed _ inductionHypothesis =>
      -- The option is read as if it stood behind the flags, in an argument
      -- of its own.
      have leftUnclaimed := awaits ▸ unclaimed
      have sameFinish :
          right.finish
              (String.ofList ('-' :: (flags ++ letters)) :: (rest ++ more)) =
            right.finish (String.ofList ('-' :: flags) ::
              (String.ofList ('-' :: letters) :: rest ++ more)) := by
        rw [Progress.finish, Progress.finish, readAll_letters filled named
          form (alike.awaited_eq ▸ leftUnclaimed) more]
      obtain ⟨letter, others, rfl⟩ := List.exists_cons_of_ne_nil filled
      obtain ⟨flag, isFlag⟩ := named letter List.mem_cons_self
      rw [sameFinish]
      refine alike.finish_argument leftUnclaimed (ofList_ne_end isFlag _)
        fun first second related idle => ?_
      rw [awaitedAfter_flags named] at idle
      exact related.finish_spelling passedOn clean (.letters form)
        (by simp [Unclaimed, idle]) (by simp [Unclaimed, idle])
        fun next nextAlike => inductionHypothesis nextAlike idle

end Progress

/-- A command line and the same one with more options that are passed on are
read alike. -/
theorem Arguments.parse_of_adds {fewer more : List String}
    (adds : Adds none fewer more) :
    ReadAlike (Arguments.parse fewer) (Arguments.parse more) := by
  have start : Progress.Alike {} {} :=
    Progress.SettledAlike.alike ⟨rfl, rfl, .refl {}⟩
  exact start.finish_of_adds adds rfl

end TemplateLint.CommandLine
