import TemplateLint.Proofs.CommandLine.Additions
import TemplateLint.Proofs.CommandLine.Paths

/-!
# Command lines and what they are made of

A command line is made of options with their values, the flag for verbose
output and paths.  However these are mixed and written, every option gets its
own values in order, and the paths are those that are no values.
-/

namespace TemplateLint.CommandLine

/-! ## Tokens -/

/-- A part of a command line in front of the argument that ends the options. -/
inductive Token where
  | option (named : ValueOption) (value : String)
  | verbose
  | path (place : String)
  deriving DecidableEq, Repr

/-- The number that some decimal digits stand for. -/
def numberOf (digits : String) : Nat :=
  Nat.ofDigitChars 10 digits.toList 0

namespace Token

/-- The token in one argument, a value behind an equals sign. -/
def text : Token → String
  | .option named value => "--" ++ named.longName ++ "=" ++ value
  | .verbose => "--verbose"
  | .path place => place

/-- The token in one or two arguments. -/
inductive Writes : Token → List String → Prop
  | option {named : ValueOption} {value : String} {spelling : List String} :
      Spelling named value spelling → Writes (.option named value) spelling
  | verbose : Writes .verbose ["--verbose"]
  | verboseLetter : Writes .verbose ["-v"]
  | path (place : String) : Writes (.path place) [place]

/-- The value suits the option, and a path does not begin with a hyphen. -/
def IsProper : Token → Prop
  | .option .config value => value ≠ ""
  | .option .jobs value =>
      value ≠ "" ∧
        (∀ digit ∈ value.toList, '0' ≤ digit ∧ digit ≤ '9') ∧
        0 < numberOf value ∧ numberOf value < UInt64.size
  | .option .color value => value ∈ ["auto", "always", "never"]
  | .path place => place.toList.head? ≠ some '-'
  | _ => True

@[simp]
def valueOf? (named : ValueOption) : Token → Option String
  | .option other value => if other = named then some value else none
  | _ => none

@[simp]
def path? : Token → Option String
  | .path place => some place
  | _ => none

end Token

/-- Tokens in order, each written in one of its ways. -/
inductive WritesTokens : List Token → List String → Prop
  | nil : WritesTokens [] []
  | cons {token : Token} {tokens : List Token}
      {texts rest : List String} :
      token.Writes texts → WritesTokens tokens rest →
      WritesTokens (token :: tokens) (texts ++ rest)

/-- The values of an option in order. -/
def valuesGiven (named : ValueOption) (tokens : List Token) :
    List String :=
  tokens.filterMap (Token.valueOf? named)

def pathsGiven (tokens : List Token) : List String :=
  tokens.filterMap Token.path?

/-- All tokens are proper, and only options whose values are passed on are
repeated. -/
structure AreProper (tokens : List Token) : Prop where
  proper : ∀ token ∈ tokens, token.IsProper
  single : ∀ named : ValueOption, named.isPassedOn = false →
    (valuesGiven named tokens).length ≤ 1
  verbose_single : tokens.count .verbose ≤ 1

/-- The argument that ends the options and the paths behind it, if it is
there. -/
def endingTexts : Option (List String) → List String
  | none => []
  | some paths => "--" :: paths

/-- What tokens mean: each option has its own values. -/
def Arguments.ofTokens (tokens : List Token) : Arguments where
  paths := pathsGiven tokens
  customBlocks := valuesGiven .customBlock tokens
  customTags := valuesGiven .customTag tokens
  config := (valuesGiven .config tokens).head?
  engine := (valuesGiven .engine tokens).head?
  engineArguments := valuesGiven .engineArgument tokens
  jobs := (valuesGiven .jobs tokens).head?.map fun value =>
    UInt64.ofNat (numberOf value)
  color := (valuesGiven .color tokens).head?.bind ColorMode.ofName?
  verbose := Token.verbose ∈ tokens

/-! ## Values that suit their options -/

theorem le_ofDigitChars (digits : List Char) (value : Nat) :
    value ≤ Nat.ofDigitChars 10 digits value := by
  induction digits generalizing value with
  | nil => exact Nat.le_refl value
  | cons digit rest inductionHypothesis =>
      have behind :=
        inductionHypothesis (10 * value + (digit.toNat - '0'.toNat))
      rw [Nat.ofDigitChars_cons]
      omega

theorem readDigits64_of_digits {digits : List Char} {value : Nat}
    (areDigits : ∀ digit ∈ digits, '0' ≤ digit ∧ digit ≤ '9')
    (fits : Nat.ofDigitChars 10 digits value < UInt64.size) :
    readDigits64 value digits = .ok (Nat.ofDigitChars 10 digits value) := by
  induction digits generalizing value with
  | nil => rfl
  | cons digit rest inductionHypothesis =>
      obtain ⟨isDigit, others⟩ := List.forall_mem_cons.mp areDigits
      rw [Nat.ofDigitChars_cons] at fits ⊢
      have next : value * 10 + (digit.toNat - 0x30) =
          10 * value + (digit.toNat - '0'.toNat) := by
        rw [Nat.mul_comm]
        rfl
      have bound := le_ofDigitChars rest
        (10 * value + (digit.toNat - '0'.toNat))
      rw [readDigits64, if_pos isDigit, next]
      dsimp only
      rw [if_neg (by omega)]
      exact inductionHypothesis others fits

theorem readJobs_of_isProper {value : String}
    (proper : (Token.option .jobs value).IsProper) :
    readJobs value = .ok (UInt64.ofNat (numberOf value)) := by
  obtain ⟨filled, areDigits, positive, fits⟩ := proper
  have read := readDigits64_of_digits areDigits fits
  have noPlus : '+' ∉ value.toList := fun member =>
    absurd (areDigits '+' member) (by decide)
  unfold readJobs
  split
  · next nothing => exact absurd (by simpa using nothing) filled
  · next plus => exact absurd (by simp [plus]) noPlus
  · next plus => exact absurd (by simp [plus]) noPlus
  · change (readDigits64 0 value.toList >>= _) = _
    rw [read]
    exact if_neg (Nat.ne_of_gt positive)

theorem exists_ofName?_of_isProper {value : String}
    (proper : (Token.option .color value).IsProper) :
    ∃ mode, ColorMode.ofName? value = some mode := by
  simp only [Token.IsProper, List.mem_cons, List.not_mem_nil, or_false]
    at proper
  rcases proper with rfl | rfl | rfl
  · exact ⟨.auto, ColorMode.ofName?_name .auto⟩
  · exact ⟨.always, ColorMode.ofName?_name .always⟩
  · exact ⟨.never, ColorMode.ofName?_name .never⟩

/-! ## One token more -/

theorem filterMap_append_singleton {α β : Type} (choose : α → Option β)
    (items : List α) (last : α) :
    (items ++ [last]).filterMap choose =
      items.filterMap choose ++ (choose last).toList := by
  cases held : choose last <;> simp [held]

@[simp]
theorem valuesGiven_behind (named : ValueOption) (tokens : List Token)
    (token : Token) :
    valuesGiven named (tokens ++ [token]) =
      valuesGiven named tokens ++ (token.valueOf? named).toList :=
  filterMap_append_singleton (Token.valueOf? named) tokens token

@[simp]
theorem pathsGiven_behind (tokens : List Token) (token : Token) :
    pathsGiven (tokens ++ [token]) =
      pathsGiven tokens ++ token.path?.toList :=
  filterMap_append_singleton Token.path? tokens token

section Proper

variable {tokens behind : List Token}

theorem AreProper.not_given {named : ValueOption} {value : String}
    (proper : AreProper (tokens ++ .option named value :: behind))
    (single : named.isPassedOn = false) : valuesGiven named tokens = [] := by
  have once := proper.single named single
  have here : (Token.option named value).valueOf? named = some value :=
    if_pos rfl
  rw [valuesGiven, List.filterMap_append, List.length_append,
    List.filterMap_cons_some here, List.length_cons] at once
  exact List.eq_nil_of_length_eq_zero (by rw [valuesGiven]; omega)

theorem AreProper.not_verbose
    (proper : AreProper (tokens ++ .verbose :: behind)) :
    Token.verbose ∉ tokens := by
  have once := proper.verbose_single
  rw [List.count_append, List.count_cons_self] at once
  exact List.count_eq_zero.mp (by omega)

/-- A further option gives its value to itself alone. -/
theorem assign_ofTokens {named : ValueOption} {value : String}
    (proper : AreProper (tokens ++ .option named value :: behind)) :
    (Arguments.ofTokens tokens).assign named value =
      .ok (.ofTokens (tokens ++ [.option named value])) := by
  have suits := proper.proper (.option named value) (by simp)
  cases named with
  | customBlock | customTag | engineArgument =>
      simp [Arguments.assign, Arguments.ofTokens]
  | config =>
      have filled : value.isEmpty = false := by
        simpa [Token.IsProper] using suits
      simp [Arguments.assign, Arguments.ofTokens, proper.not_given rfl,
        filled]
  | engine =>
      simp [Arguments.assign, Arguments.ofTokens, proper.not_given rfl]
  | jobs =>
      simp [Arguments.assign, Arguments.ofTokens, proper.not_given rfl,
        readJobs_of_isProper suits]
  | color =>
      obtain ⟨mode, named⟩ := exists_ofName?_of_isProper suits
      simp [Arguments.assign, Arguments.ofTokens, proper.not_given rfl, named]

/-! ## Reading tokens -/

/-- Some arguments are read as a token: what has been settled before them is
followed by the token behind them. -/
def ReadsToken (tokens : List Token) (token : Token) (texts : List String) :
    Prop :=
  ∀ progress : Progress,
    progress.settle = .ok ⟨.ofTokens tokens, none⟩ →
    ∀ more, ∃ next : Progress,
      progress.finish (texts ++ more) = next.finish more ∧
      next.settle = .ok ⟨.ofTokens (tokens ++ [token]), none⟩

theorem readsToken_option {named : ValueOption} {value : String}
    {spelling : List String} (spelled : Spelling named value spelling)
    (proper : AreProper (tokens ++ .option named value :: behind)) :
    ReadsToken tokens (.option named value) spelling := by
  intro progress settles more
  obtain ⟨next, reads, _, nextSettles⟩ :=
    Progress.exists_readAll_spelling spelled settles
      (assign_ofTokens proper) more
  refine ⟨next, ?_, nextSettles⟩
  rw [Progress.finish, Progress.finish, reads]

/-- An argument that awaits no value behind it is read on its own. -/
theorem readsToken_of_addArgument {token : Token} {text : String}
    (notEnd : text ≠ "--")
    (reads : ∀ progress : Progress,
      progress.settle = .ok ⟨.ofTokens tokens, none⟩ →
      progress.addArgument text =
        .ok ⟨.ofTokens (tokens ++ [token]), none⟩) :
    ReadsToken tokens token [text] := by
  intro progress settles more
  have idle := Progress.awaited_of_settle settles
  refine ⟨⟨.ofTokens (tokens ++ [token]), none⟩, ?_, rfl⟩
  rw [List.singleton_append,
    Progress.finish_argument (by simp [Unclaimed, idle]) notEnd,
    reads progress settles]
  rfl

theorem addFlag_verbose {progress : Progress}
    (proper : AreProper (tokens ++ .verbose :: behind))
    (settles : progress.settle = .ok ⟨.ofTokens tokens, none⟩) :
    progress.addFlag .verbose =
      .ok ⟨.ofTokens (tokens ++ [.verbose]), none⟩ := by
  simp [Progress.addFlag, settles, Arguments.ofTokens, proper.not_verbose,
    bind, Except.bind, pure, Except.pure]

theorem readsToken_verbose
    (proper : AreProper (tokens ++ .verbose :: behind)) :
    ReadsToken tokens .verbose ["--verbose"] := by
  refine readsToken_of_addArgument (by decide) fun progress settles => ?_
  have shape : "--verbose".toList = '-' :: '-' :: "verbose".toList := rfl
  have named : Switch.ofLong? "verbose" = some (.flag .verbose) :=
    Switch.ofLong?_longName (.flag .verbose)
  rw [addArgument_long progress shape,
    Progress.addLong_name progress (by decide), String.ofList_toList, named]
  exact addFlag_verbose proper settles

theorem readsToken_verbose_letter
    (proper : AreProper (tokens ++ .verbose :: behind)) :
    ReadsToken tokens .verbose ["-v"] := by
  refine readsToken_of_addArgument (by decide) fun progress settles => ?_
  have shape : "-v".toList = ['-', 'v'] := rfl
  rw [addArgument_short progress (by decide) shape]
  simp [Progress.addShort, Switch.ofShort?, addFlag_verbose proper settles,
    bind, Except.bind]

theorem readsToken_path {place : String}
    (proper : AreProper (tokens ++ .path place :: behind)) :
    ReadsToken tokens (.path place) [place] := by
  have noHyphen : place.toList.head? ≠ some '-' :=
    proper.proper (.path place) (by simp)
  have notEnd : place ≠ "--" := by
    rintro rfl
    exact noHyphen rfl
  have noLetter : ∀ letter letters,
      place.toList ≠ '-' :: letter :: letters := by
    intro letter letters shape
    exact noHyphen (by rw [shape]; rfl)
  refine readsToken_of_addArgument notEnd fun progress settles => ?_
  rw [addArgument_path progress noLetter, Progress.addPath_of_settle settles]
  simp [Arguments.ofTokens, Arguments.withPaths]

theorem readsToken_of_writes {token : Token} {texts : List String}
    (written : token.Writes texts)
    (proper : AreProper (tokens ++ token :: behind)) :
    ReadsToken tokens token texts := by
  cases written with
  | option spelled => exact readsToken_option spelled proper
  | verbose => exact readsToken_verbose proper
  | verboseLetter => exact readsToken_verbose_letter proper
  | path place => exact readsToken_path proper

end Proper

/-! ## Reading whole command lines -/

theorem finish_endingTexts {progress : Progress} {arguments : Arguments}
    (settles : progress.settle = .ok ⟨arguments, none⟩)
    (ending : Option (List String)) :
    progress.finish (endingTexts ending) =
      .ok (arguments.withPaths (arguments.paths ++ ending.getD [])) := by
  cases ending with
  | none =>
      have same : arguments.withPaths arguments.paths = arguments := rfl
      simp [endingTexts, Progress.finish, Progress.readAll, settles, same,
        bind, Except.bind, pure, Except.pure]
  | some paths =>
      have idle := Progress.awaited_of_settle settles
      have read := Progress.settle_readPathsOnly settles paths
      rw [endingTexts, Progress.finish,
        Progress.readAll_end (by simp [Unclaimed, idle]) rfl, ← bind_assoc,
        read]
      rfl

/-- Along the line the settled part is what the tokens so far mean. -/
theorem finish_of_writesTokens {tokens rest : List Token}
    {texts : List String} (written : WritesTokens rest texts)
    (proper : AreProper (tokens ++ rest)) {progress : Progress}
    (settles : progress.settle = .ok ⟨.ofTokens tokens, none⟩)
    (ending : Option (List String)) :
    progress.finish (texts ++ endingTexts ending) =
      .ok ((Arguments.ofTokens (tokens ++ rest)).withPaths
        (pathsGiven (tokens ++ rest) ++ ending.getD [])) := by
  induction written generalizing tokens progress with
  | nil =>
      rw [List.nil_append, finish_endingTexts settles, List.append_nil]
      rfl
  | @cons token others texts moreTexts writes _ inductionHypothesis =>
      obtain ⟨next, reads, nextSettles⟩ :=
        readsToken_of_writes writes proper progress settles
          (moreTexts ++ endingTexts ending)
      rw [List.append_assoc, reads, List.append_cons]
      exact inductionHypothesis (List.append_cons _ _ _ ▸ proper) nextSettles

namespace Token

theorem writes_text (token : Token) : token.Writes [token.text] := by
  cases token with
  | option named value => exact .option .attached
  | verbose => exact .verbose
  | path place => exact .path place

theorem writes_engineArgument (value : String) :
    (Token.option .engineArgument value).Writes ["--engine-arg", value] :=
  .option (.apart rfl)

/-- A value that does not begin with a hyphen can stand behind a letter. -/
theorem writes_letter {letter : Char} {named : ValueOption} {value : String}
    (isLetter : Switch.ofShort? letter = some (.value named))
    (noHyphen : value.toList.head? ≠ some '-') :
    (Token.option named value).Writes [String.ofList ['-', letter], value] := by
  have taken : Progress.takes named value = true := by
    rw [Progress.takes, Progress.looksLikeOption]
    split
    · next shape => simp [shape] at noHyphen
    · simp
  exact .option (.letters (.apart isLetter taken))

end Token

theorem writesTokens_text (tokens : List Token) :
    WritesTokens tokens (tokens.map Token.text) := by
  induction tokens with
  | nil => exact .nil
  | cons token others inductionHypothesis =>
      exact .cons token.writes_text inductionHypothesis

/-- Every option gets its own values in order and the paths are those given,
however the tokens are mixed and in whichever way each of them is written.
Without a mode of coloring that is the automatic one. -/
theorem Arguments.parse_of_writesTokens {tokens : List Token}
    (proper : AreProper tokens) (ending : Option (List String)) :
    Arguments.parse (tokens.map Token.text ++ endingTexts ending) =
        .ok ((Arguments.ofTokens tokens).withPaths
          (pathsGiven tokens ++ ending.getD [])) ∧
      (∀ texts, WritesTokens tokens texts →
        Arguments.parse (texts ++ endingTexts ending) =
          Arguments.parse (tokens.map Token.text ++ endingTexts ending)) ∧
      (∀ value, (Token.option .engineArgument value).Writes
        ["--engine-arg", value]) ∧
      (∀ name, name ≠ "" → name.toList.head? ≠ some '-' →
        (Token.option .customBlock name).Writes ["-b", name] ∧
          (Token.option .customTag name).Writes ["-t", name]) ∧
      (valuesGiven .color tokens = [] →
        (Arguments.ofTokens tokens).colorMode = .auto) := by
  have reads : ∀ texts, WritesTokens tokens texts →
      Arguments.parse (texts ++ endingTexts ending) =
        .ok ((Arguments.ofTokens tokens).withPaths
          (pathsGiven tokens ++ ending.getD [])) := by
    intro texts written
    have nothingRead : Progress.settle {} = .ok ⟨.ofTokens [], none⟩ := rfl
    have fromStart : AreProper ([] ++ tokens) := proper
    exact finish_of_writesTokens written fromStart nothingRead ending
  have joined := reads _ (writesTokens_text tokens)
  refine ⟨joined, fun texts written => (reads texts written).trans joined.symm,
    Token.writes_engineArgument, fun name _ noHyphen =>
      ⟨Token.writes_letter rfl noHyphen, Token.writes_letter rfl noHyphen⟩,
    fun none => ?_⟩
  simp [Arguments.colorMode, Arguments.ofTokens, none]

/-- Values that look like options, the largest number of jobs and paths behind
the argument that ends the options. -/
theorem Arguments.parse_of_writesTokens_mixed :
    let tokens : List Token :=
      [.option .engineArgument "--", .path "a", .option .customTag "",
        .option .jobs "018446744073709551615", .verbose,
        .option .engineArgument "--help", .option .customBlock "b",
        .option .color "never", .path "", .option .customTag "-t"]
    let texts :=
      ["--engine-arg", "--", "a", "--custom-tag=",
        "--jobs=018446744073709551615", "--verbose", "--engine-arg=--help",
        "-b", "b", "--color=never", "", "--custom-tag=-t"]
    AreProper tokens ∧ WritesTokens tokens texts ∧
      Arguments.parse (texts ++ ["--", "-j", "--"]) =
        .ok {
          paths := ["a", "", "-j", "--"]
          customBlocks := ["b"]
          customTags := ["", "-t"]
          engineArguments := ["--", "--help"]
          jobs := some 18446744073709551615
          color := some .never
          verbose := true } := by
  intro tokens texts
  have greatest :
      (Token.option .jobs "018446744073709551615").IsProper :=
    ⟨by decide, by simp, by decide, by decide⟩
  have proper : AreProper tokens := by
    refine ⟨?_, fun named single => ?_, by decide⟩
    · simp only [tokens, List.forall_mem_cons, greatest]
      simp [Token.IsProper]
    · subst tokens
      cases named with
      | customBlock | customTag | engineArgument => cases single
      | config | engine | jobs | color => decide
  have block : (Token.option .customBlock "b").Writes ["-b", "b"] :=
    Token.writes_letter rfl (by decide)
  have written : WritesTokens tokens texts :=
    .cons (Token.writes_engineArgument "--") <|
      .cons (Token.writes_text _) <| .cons (Token.writes_text _) <|
      .cons (Token.writes_text _) <| .cons (Token.writes_text _) <|
      .cons (Token.writes_text _) <|
      .cons block <|
      writesTokens_text
        [.option .color "never", .path "", .option .customTag "-t"]
  obtain ⟨joined, alike, _⟩ :=
    Arguments.parse_of_writesTokens proper (some ["-j", "--"])
  exact ⟨proper, written, (alike texts written).trans (joined.trans (by rfl))⟩

end TemplateLint.CommandLine
