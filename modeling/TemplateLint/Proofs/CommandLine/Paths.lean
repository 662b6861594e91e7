import TemplateLint.Proofs.CommandLine.Reading

/-!
# Options without the paths

The paths of a command line can be taken out of it, and other ones can be given
behind the argument that ends the options: the options stay what they are.
-/

namespace TemplateLint.CommandLine

def Arguments.withPaths (arguments : Arguments) (paths : List String) :
    Arguments :=
  { arguments with paths := paths }

/-- The options among some arguments, with their values. -/
def optionTextsFrom : Option ValueOption → List String → List String
  | _, [] => []
  | awaited, text :: rest =>
      if awaited.any (fun option => Progress.takes option text) then
        text :: optionTextsFrom none rest
      else if text = "--" then []
      else if Progress.looksLikeOption text then
        text :: optionTextsFrom (awaitedAfter text) rest
      else optionTextsFrom none rest

/-- A command line without its paths, and without the argument that ends its
options. -/
def optionTexts (texts : List String) : List String :=
  optionTextsFrom none texts

theorem optionTextsFrom_value {option : ValueOption} {text : String}
    (taken : Progress.takes option text = true) (rest : List String) :
    optionTextsFrom (some option) (text :: rest) =
      text :: optionTextsFrom none rest := by
  simp [optionTextsFrom, taken]

theorem optionTextsFrom_of_unclaimed {awaited : Option ValueOption}
    {text : String} {rest : List String}
    (unclaimed : Unclaimed awaited (text :: rest)) :
    optionTextsFrom awaited (text :: rest) =
      if text = "--" then []
      else if Progress.looksLikeOption text then
        text :: optionTextsFrom (awaitedAfter text) rest
      else optionTextsFrom none rest := by
  have notTaken :
      awaited.any (fun option => Progress.takes option text) = false := by
    cases awaited with
    | none => rfl
    | some option => exact unclaimed option rfl text rfl
  rw [optionTextsFrom, notTaken]
  simp

theorem optionTextsFrom_sublist (awaited : Option ValueOption)
    (texts : List String) :
    (optionTextsFrom awaited texts).Sublist texts := by
  induction texts generalizing awaited with
  | nil => exact List.Sublist.slnil
  | cons text rest inductionHypothesis =>
      unfold optionTextsFrom
      split
      · exact (inductionHypothesis none).cons_cons text
      · split
        · exact List.nil_sublist _
        · split
          · exact (inductionHypothesis _).cons_cons text
          · exact (inductionHypothesis none).cons text

theorem optionTexts_sublist (texts : List String) :
    (optionTexts texts).Sublist texts :=
  optionTextsFrom_sublist none texts

/-! ## Reading without paths -/

theorem Arguments.assign_withPaths (arguments : Arguments)
    (option : ValueOption) (value : String) (paths : List String) :
    (arguments.withPaths paths).assign option value =
      (arguments.assign option value).map (·.withPaths paths) := by
  cases option with
  | customBlock | customTag | engineArgument => rfl
  | config =>
      cases given : arguments.config with
      | some path => simp [Arguments.assign, withPaths, given, Except.map]
      | none =>
          simp only [Arguments.assign, withPaths, given]
          cases value.isEmpty <;> rfl
  | engine =>
      cases given : arguments.engine with
      | some program => simp [Arguments.assign, withPaths, given, Except.map]
      | none => simp [Arguments.assign, withPaths, given, Except.map]
  | jobs =>
      cases given : arguments.jobs with
      | some jobs => simp [Arguments.assign, withPaths, given, Except.map]
      | none =>
          simp only [Arguments.assign, withPaths, given]
          cases readJobs value <;> rfl
  | color =>
      cases given : arguments.color with
      | some mode => simp [Arguments.assign, withPaths, given, Except.map]
      | none =>
          simp only [Arguments.assign, withPaths, given]
          cases ColorMode.ofName? value with
          | some mode => rfl
          | none => cases value.isEmpty <;> rfl

namespace Progress

/-- The same progress, but without any path. -/
def withoutPaths (progress : Progress) : Progress :=
  { progress with arguments := progress.arguments.withPaths [] }

/-- A state of reading is another one without its paths.  An option may still
be pending that a path has settled in the other state. -/
structure IsBare (full bare : Progress) : Prop where
  awaited_eq : bare.awaited = full.awaited
  settle_eq : bare.settle = full.settle.map withoutPaths
  eq_withoutPaths : full.awaited ≠ none → bare = full.withoutPaths

theorem isBare_withoutPaths (progress : Progress) :
    IsBare progress progress.withoutPaths := by
  refine ⟨rfl, ?_, fun _ => rfl⟩
  obtain ⟨arguments, pending⟩ := progress
  rcases pending with _ | ⟨option, _ | value⟩
  · rfl
  · rfl
  · simp only [withoutPaths, settle, Arguments.assign_withPaths]
    cases arguments.assign option value <;> rfl

theorem exists_of_settle_eq_ok {progress settled : Progress}
    (settles : progress.settle = .ok settled) :
    ∃ arguments, settled = ⟨arguments, none⟩ := by
  obtain ⟨arguments, pending⟩ := settled
  exact ⟨arguments, congrArg (Progress.mk arguments)
    (pending_of_settle settles)⟩

theorem addPath_of_settle {progress : Progress} {arguments : Arguments}
    (settles : progress.settle = .ok ⟨arguments, none⟩) (path : String) :
    progress.addPath path =
      .ok ⟨arguments.withPaths (arguments.paths ++ [path]), none⟩ := by
  rw [addPath, settles]
  rfl

theorem settle_of_finish_nil {progress : Progress} {arguments : Arguments}
    (accepted : progress.finish [] = .ok arguments) :
    progress.settle = .ok ⟨arguments, none⟩ := by
  obtain ⟨settled, settles, same⟩ :
      ∃ settled, progress.settle = .ok settled ∧
        Except.ok settled.arguments = .ok arguments :=
    exists_of_bind_eq_ok accepted
  obtain ⟨_, rfl⟩ := exists_of_settle_eq_ok settles
  cases same
  exact settles

/-- Paths are added behind those that are there. -/
theorem settle_readPathsOnly {progress : Progress} {arguments : Arguments}
    (settles : progress.settle = .ok ⟨arguments, none⟩)
    (paths : List String) :
    (progress.readPathsOnly paths >>= settle) =
      .ok ⟨arguments.withPaths (arguments.paths ++ paths), none⟩ := by
  induction paths generalizing progress arguments with
  | nil =>
      rw [List.append_nil]
      exact settles
  | cons path rest inductionHypothesis =>
      let next := arguments.withPaths (arguments.paths ++ [path])
      have later : (readPathsOnly ⟨next, none⟩ rest >>= settle) =
          .ok ⟨next.withPaths (next.paths ++ rest), none⟩ :=
        inductionHypothesis rfl
      rw [readPathsOnly, addPath_of_settle settles]
      refine later.trans ?_
      simp [next, Arguments.withPaths]

namespace IsBare

variable {full bare : Progress} (isBare : IsBare full bare)

include isBare

/-! ### Options -/

theorem addFlag (flag : Flag) :
    bare.addFlag flag = (full.addFlag flag).map withoutPaths := by
  unfold Progress.addFlag
  rw [isBare.settle_eq]
  cases full.settle with
  | error cause => rfl
  | ok settled =>
      obtain ⟨arguments, pending⟩ := settled
      cases flag with
      | help => rfl
      | version => rfl
      | verbose =>
          cases given : arguments.verbose <;>
            simp [Except.map, bind, Except.bind, pure, Except.pure,
              withoutPaths, Arguments.withPaths, given]

theorem addOption (option : ValueOption) (attached : Option String) :
    bare.addOption option attached =
      (full.addOption option attached).map withoutPaths := by
  unfold Progress.addOption
  rw [isBare.settle_eq]
  cases full.settle with
  | error cause => rfl
  | ok settled =>
      cases attached with
      | none => rfl
      | some value =>
          have assigned := Arguments.assign_withPaths settled.arguments option
            value []
          simp only [Except.map, bind, Except.bind, withoutPaths, assigned]
          cases settled.arguments.assign option value <;> rfl

theorem addLong (text : List Char) :
    bare.addLong text = (full.addLong text).map withoutPaths := by
  unfold Progress.addLong
  dsimp only
  split
  · rfl
  · exact isBare.addOption _ _
  · rfl
  · exact isBare.addFlag _

theorem addShort {letters : List Char} (filled : letters ≠ []) :
    bare.addShort letters = (full.addShort letters).map withoutPaths := by
  induction letters generalizing full bare with
  | nil => exact absurd rfl filled
  | cons letter rest inductionHypothesis =>
      unfold Progress.addShort
      split
      · rfl
      · next flag _ =>
          rw [isBare.addFlag]
          cases full.addFlag flag with
          | error cause => rfl
          | ok next =>
              cases rest with
              | nil => rfl
              | cons second others =>
                  exact inductionHypothesis (isBare_withoutPaths next)
                    (List.cons_ne_nil _ _)
      · exact isBare.addOption _ _

theorem addArgument {text : String}
    (looks : looksLikeOption text = true) :
    bare.addArgument text = (full.addArgument text).map withoutPaths := by
  unfold Progress.addArgument
  split
  · exact isBare.addLong _
  · exact isBare.addShort (List.cons_ne_nil _ _)
  · next notLong notShort =>
      unfold looksLikeOption at looks
      split at looks
      · next letter letters shape =>
          exact (notShort letter letters shape).elim
      · cases looks

/-! ### Paths -/

theorem addPath {path : String} {next : Progress}
    (read : full.addPath path = .ok next) : IsBare next bare := by
  obtain ⟨settled, settles, _⟩ := exists_of_bind_eq_ok read
  obtain ⟨arguments, rfl⟩ := exists_of_settle_eq_ok settles
  rw [addPath_of_settle settles] at read
  cases read
  refine ⟨?_, ?_, fun awaits => absurd rfl awaits⟩
  · exact isBare.awaited_eq.trans (awaited_of_settle settles)
  · rw [isBare.settle_eq, settles]
    rfl

theorem readPathsOnly {texts : List String} {next : Progress}
    (read : full.readPathsOnly texts = .ok next) : IsBare next bare := by
  induction texts generalizing full with
  | nil =>
      cases read
      exact isBare
  | cons text rest inductionHypothesis =>
      obtain ⟨between, atText, behind⟩ := exists_of_bind_eq_ok read
      exact inductionHypothesis (isBare.addPath atText) behind

/-! ### Whole command lines -/

/-- Behind the argument that ends the options, everything is a path. -/
theorem finish_end {arguments : Arguments}
    (settles : full.settle = .ok ⟨arguments, none⟩) (paths : List String) :
    bare.finish ("--" :: paths) = .ok (arguments.withPaths paths) := by
  have idle : bare.awaited = none :=
    isBare.awaited_eq.trans (awaited_of_settle settles)
  have bareSettles : bare.settle = .ok ⟨arguments.withPaths [], none⟩ := by
    rw [isBare.settle_eq, settles]
    rfl
  have read := settle_readPathsOnly bareSettles paths
  unfold Progress.finish
  rw [readAll_end (by simp [Unclaimed, idle]) rfl, ← bind_assoc, read]
  rfl

theorem finish {awaited : Option ValueOption} {texts : List String}
    {arguments : Arguments} (awaits : full.awaited = awaited)
    (accepted : full.finish texts = .ok arguments) (paths : List String) :
    bare.finish (optionTextsFrom awaited texts ++ "--" :: paths) =
      .ok (arguments.withPaths paths) := by
  -- Along the line one side reads everything and the other only the options,
  -- and at every point it is the first without its paths.
  induction texts generalizing full bare awaited with
  | nil =>
      exact isBare.finish_end (settle_of_finish_nil accepted) paths
  | cons text rest inductionHypothesis =>
      by_cases taken : ∃ option, awaited = some option ∧
          takes option text = true
      · obtain ⟨option, rfl, takesText⟩ := taken
        have bareAwaits := isBare.awaited_eq.trans awaits
        have sameBare := isBare.eq_withoutPaths (by simp [awaits])
        let valued : Progress :=
          { full with pending := some ⟨option, some text⟩ }
        rw [finish_value awaits takesText] at accepted
        rw [optionTextsFrom_value takesText, List.cons_append,
          finish_value bareAwaits takesText, sameBare]
        exact inductionHypothesis (isBare_withoutPaths valued) rfl accepted
      have unclaimed : Unclaimed awaited (text :: rest) := by
        rintro option awaitsOption _ ⟨⟩
        exact Bool.eq_false_iff.mpr fun takesText =>
          taken ⟨option, awaitsOption, takesText⟩
      rw [optionTextsFrom_of_unclaimed unclaimed]
      subst awaits
      by_cases ends : text = "--"
      · rw [if_pos ends, List.nil_append]
        unfold Progress.finish at accepted
        rw [readAll_end unclaimed ends] at accepted
        obtain ⟨read, reads, settles⟩ := exists_of_bind_eq_ok accepted
        exact (isBare.readPathsOnly reads).finish_end
          (settle_of_finish_nil settles) paths
      rw [if_neg ends]
      rw [finish_argument unclaimed ends] at accepted
      obtain ⟨next, reads, behind⟩ := exists_of_bind_eq_ok accepted
      by_cases looks : looksLikeOption text = true
      · have bareUnclaimed : ∀ others,
            Unclaimed bare.awaited (text :: others) :=
          fun _ => isBare.awaited_eq ▸ unclaimed
        rw [if_pos looks, List.cons_append,
          finish_argument (bareUnclaimed _) ends, isBare.addArgument looks,
          reads]
        exact inductionHypothesis (isBare_withoutPaths next)
          (awaited_of_addArgument reads) behind
      · have noLetter : ∀ letter letters,
            text.toList ≠ '-' :: letter :: letters := by
          intro letter letters shape
          exact looks (by simp [looksLikeOption, shape])
        rw [if_neg looks]
        rw [addArgument_path full noLetter] at reads
        exact inductionHypothesis (isBare.addPath reads)
          (awaited_of_addPath reads) behind

end IsBare

end Progress

theorem Arguments.parse_optionTexts {texts : List String}
    {arguments : Arguments} (accepted : Arguments.parse texts = .ok arguments)
    (paths : List String) :
    Arguments.parse (optionTexts texts ++ "--" :: paths) =
      .ok (arguments.withPaths paths) :=
  (Progress.isBare_withoutPaths {}).finish rfl accepted paths

end TemplateLint.CommandLine
