import Mathlib.Data.List.TakeWhile
import TemplateLint.CommandLine.Arguments

/-!
# How arguments are read

Which option awaits a value, which argument it takes for it, and how each kind
of argument continues the reading.  While the pending option cannot be settled,
no argument but its value leads anywhere.
-/

namespace TemplateLint.CommandLine

/-- The fault lies in how an argument is named, not in the value of an option
or in its repetition. -/
def UsageFault.isUnrecognised : UsageFault → Bool
  | .unknownArgument _ | .unexpectedValue _ _ => true
  | _ => false

/-! ## Awaited values -/

namespace Progress

/-- The option that the next argument may be the value of. -/
def awaited (progress : Progress) : Option ValueOption :=
  match progress.pending with
  | some ⟨option, none⟩ => some option
  | _ => none

/-- An option takes an argument for its value. -/
def takes (option : ValueOption) (argument : String) : Bool :=
  option.takesAnything || !looksLikeOption argument

end Progress

/-- The first of some arguments is not the value that is awaited. -/
def Unclaimed (awaited : Option ValueOption) (texts : List String) : Prop :=
  ∀ option ∈ awaited, ∀ text ∈ texts.head?,
    Progress.takes option text = false

/-- The option that the last letter of an argument awaits a value for. -/
def awaitedAfterLetters : List Char → Option ValueOption
  | [] => none
  | letter :: rest =>
      match Switch.ofShort? letter with
      | some (.flag _) => awaitedAfterLetters rest
      | some (.value option) => if rest = [] then some option else none
      | none => none

/-- The option that an argument awaits a value for. -/
def awaitedAfter (argument : String) : Option ValueOption :=
  match argument.toList with
  | '-' :: '-' :: text =>
      if '=' ∈ text then none
      else
        match Switch.ofLong? (String.ofList text) with
        | some (.value option) => some option
        | _ => none
  | '-' :: letter :: letters => awaitedAfterLetters (letter :: letters)
  | _ => none

namespace Progress

theorem awaiting?_eq (progress : Progress) (text : String) :
    progress.awaiting? text =
      progress.awaited.bind fun option =>
        if takes option text then some option else none := by
  obtain ⟨arguments, pending⟩ := progress
  rcases pending with _ | ⟨option, _ | value⟩ <;> rfl

theorem awaiting?_eq_some_iff {progress : Progress} {option : ValueOption}
    {text : String} :
    progress.awaiting? text = some option ↔
      progress.awaited = some option ∧ takes option text = true := by
  rw [awaiting?_eq, Option.bind_eq_some_iff]
  constructor
  · rintro ⟨other, awaits, found⟩
    obtain ⟨taken, same⟩ := Option.ite_none_right_eq_some.mp found
    cases same
    exact ⟨awaits, taken⟩
  · rintro ⟨awaits, taken⟩
    exact ⟨option, awaits, if_pos taken⟩

theorem awaiting?_of_unclaimed {progress : Progress} {text : String}
    {rest : List String}
    (unclaimed : Unclaimed progress.awaited (text :: rest)) :
    progress.awaiting? text = none := by
  refine Option.eq_none_iff_forall_ne_some.mpr fun option found => ?_
  obtain ⟨awaits, taken⟩ := awaiting?_eq_some_iff.mp found
  have notTaken := unclaimed option awaits text rfl
  exact Bool.false_ne_true (notTaken.symm.trans taken)

/-! ## Names and letters -/

/-- A name without a value. -/
theorem addLong_name (progress : Progress) {name : List Char}
    (absent : '=' ∉ name) :
    progress.addLong name =
      match Switch.ofLong? (String.ofList name) with
      | none =>
          .error (.fault (.unknownArgument ("--" ++ String.ofList name)))
      | some (.value option) => progress.addOption option none
      | some (.flag flag) => progress.addFlag flag := by
  have goesOn : ∀ letter ∈ name, decide (letter ≠ '=') = true :=
    fun letter member => decide_eq_true fun same => absent (same ▸ member)
  unfold addLong
  rw [List.takeWhile_eq_self_iff.mpr goesOn,
    List.dropWhile_eq_nil_iff.mpr goesOn]
  dsimp only
  split <;> simp_all

/-- A name with the value that is attached to it. -/
theorem addLong_name_value (progress : Progress) {name : List Char}
    (absent : '=' ∉ name) (value : List Char) :
    progress.addLong (name ++ '=' :: value) =
      match Switch.ofLong? (String.ofList name) with
      | none =>
          .error (.fault (.unknownArgument ("--" ++ String.ofList name)))
      | some (.value option) =>
          progress.addOption option (some (String.ofList value))
      | some (.flag flag) =>
          .error (.fault (.unexpectedValue flag (String.ofList value))) := by
  have goesOn : ∀ letter ∈ name, decide (letter ≠ '=') = true :=
    fun letter member => decide_eq_true fun same => absent (same ▸ member)
  have name_eq : (name ++ '=' :: value).takeWhile (· ≠ '=') = name := by
    rw [List.takeWhile_append_of_pos goesOn]
    simp
  have value_eq :
      (name ++ '=' :: value).dropWhile (· ≠ '=') = '=' :: value := by
    rw [List.dropWhile_append_of_pos goesOn]
    simp
  unfold addLong
  rw [name_eq, value_eq]
  dsimp only
  split <;> simp_all

end Progress

theorem equals_not_mem_longName (option : ValueOption) :
    '=' ∉ option.longName.toList := by
  cases option <;> simp [ValueOption.longName]

theorem longName_ne_nil (option : ValueOption) :
    option.longName.toList ≠ [] := by
  cases option <;> simp [ValueOption.longName]

theorem ofLong?_value (option : ValueOption) :
    Switch.ofLong? option.longName = some (.value option) :=
  Switch.ofLong?_longName (.value option)

theorem addArgument_long (progress : Progress) {argument : String}
    {text : List Char} (shape : argument.toList = '-' :: '-' :: text) :
    progress.addArgument argument = progress.addLong text := by
  simp only [Progress.addArgument, shape]

theorem ne_end_of_long {argument : String} {text : List Char}
    (shape : argument.toList = '-' :: '-' :: text) (filled : text ≠ []) :
    argument ≠ "--" := by
  rintro rfl
  cases shape
  exact filled rfl

theorem addArgument_short (progress : Progress) {argument : String}
    {letter : Char} {letters : List Char} (notHyphen : letter ≠ '-')
    (shape : argument.toList = '-' :: letter :: letters) :
    progress.addArgument argument =
      progress.addShort (letter :: letters) := by
  unfold Progress.addArgument
  rw [shape]
  split
  · next same =>
      cases same
      exact (notHyphen rfl).elim
  · next same =>
      cases same
      rfl
  · next notShort => exact (notShort letter letters rfl).elim

theorem addArgument_path (progress : Progress) {argument : String}
    (noLetter : ∀ letter letters,
      argument.toList ≠ '-' :: letter :: letters) :
    progress.addArgument argument = progress.addPath argument := by
  unfold Progress.addArgument
  split
  · next shape => exact (noLetter _ _ shape).elim
  · next shape => exact (noLetter _ _ shape).elim
  · rfl

theorem awaitedAfter_short {argument : String} {letter : Char}
    {letters : List Char} (notHyphen : letter ≠ '-')
    (shape : argument.toList = '-' :: letter :: letters) :
    awaitedAfter argument = awaitedAfterLetters (letter :: letters) := by
  unfold awaitedAfter
  rw [shape]
  split
  · next same =>
      cases same
      exact (notHyphen rfl).elim
  · next same =>
      cases same
      rfl
  · next notShort => exact (notShort letter letters rfl).elim

theorem awaitedAfter_path {argument : String}
    (noLetter : ∀ letter letters,
      argument.toList ≠ '-' :: letter :: letters) :
    awaitedAfter argument = none := by
  unfold awaitedAfter
  split
  · next shape => exact (noLetter _ _ shape).elim
  · next shape => exact (noLetter _ _ shape).elim
  · rfl

theorem ne_hyphen_of_named {letter : Char} {switch : Switch}
    (named : Switch.ofShort? letter = some switch) : letter ≠ '-' := by
  rintro rfl
  cases named

theorem addArgument_letters (progress : Progress) {letter : Char}
    {switch : Switch} (named : Switch.ofShort? letter = some switch)
    (letters : List Char) :
    progress.addArgument (String.ofList ('-' :: letter :: letters)) =
      progress.addShort (letter :: letters) :=
  addArgument_short progress (ne_hyphen_of_named named) String.toList_ofList

theorem ofList_ne_end {letter : Char} {switch : Switch}
    (named : Switch.ofShort? letter = some switch) (letters : List Char) :
    String.ofList ('-' :: letter :: letters) ≠ "--" := by
  intro same
  have characters := congrArg String.toList same
  rw [String.toList_ofList] at characters
  cases characters
  exact ne_hyphen_of_named named rfl

namespace Progress

/-! ## What an argument awaits -/

theorem exists_of_bind_eq_ok {First Second : Type}
    {first : Except Interruption First}
    {next : First → Except Interruption Second} {result : Second}
    (read : (first >>= next) = .ok result) :
    ∃ value, first = .ok value ∧ next value = .ok result := by
  cases first with
  | error cause => cases read
  | ok value => exact ⟨value, rfl, read⟩

theorem pending_of_settle {progress settled : Progress}
    (settles : progress.settle = .ok settled) : settled.pending = none := by
  unfold settle at settles
  split at settles
  · next nothing =>
      cases settles
      exact nothing
  · cases settles
  · obtain ⟨arguments, _, same⟩ := exists_of_bind_eq_ok settles
    cases same
    rfl

theorem awaited_of_addPath {progress next : Progress} {path : String}
    (read : progress.addPath path = .ok next) : next.awaited = none := by
  obtain ⟨settled, settles, same⟩ := exists_of_bind_eq_ok read
  cases same
  simp [awaited, pending_of_settle settles]

theorem awaited_of_addFlag {progress next : Progress} {flag : Flag}
    (read : progress.addFlag flag = .ok next) : next.awaited = none := by
  obtain ⟨settled, settles, same⟩ := exists_of_bind_eq_ok read
  cases flag with
  | help | version => cases same
  | verbose =>
      dsimp only at same
      split at same
      · cases same
      · cases same
        simp [awaited, pending_of_settle settles]

theorem awaited_of_addOption {progress next : Progress}
    {option : ValueOption} {attached : Option String}
    (read : progress.addOption option attached = .ok next) :
    next.awaited = if attached = none then some option else none := by
  obtain ⟨settled, settles, same⟩ := exists_of_bind_eq_ok read
  cases attached with
  | none =>
      cases same
      rfl
  | some value =>
      obtain ⟨arguments, _, same⟩ := exists_of_bind_eq_ok same
      cases same
      rfl

theorem awaited_of_settle {progress settled : Progress}
    (settles : progress.settle = .ok settled) : progress.awaited = none := by
  obtain ⟨arguments, pending⟩ := progress
  rcases pending with _ | ⟨option, _ | value⟩
  · rfl
  · cases settles
  · rfl

theorem attachedValue_eq_none_iff (letters : List Char) :
    attachedValue letters = none ↔ letters = [] := by
  unfold attachedValue
  split <;> simp_all

theorem awaited_of_addShort {progress next : Progress}
    (letters : List Char) (read : progress.addShort letters = .ok next) :
    letters ≠ [] → next.awaited = awaitedAfterLetters letters := by
  induction letters generalizing progress with
  | nil => exact fun filled => absurd rfl filled
  | cons letter rest inductionHypothesis =>
      intro _
      unfold addShort at read
      unfold awaitedAfterLetters
      split at read
      · cases read
      · next flag named =>
          rw [named]
          obtain ⟨between, atFlag, behind⟩ := exists_of_bind_eq_ok read
          cases rest with
          | nil =>
              cases behind
              exact awaited_of_addFlag atFlag
          | cons second others =>
              exact inductionHypothesis behind (List.cons_ne_nil _ _)
      · next option named =>
          rw [named, awaited_of_addOption read]
          simp only [attachedValue_eq_none_iff]

theorem awaited_of_addLong {progress next : Progress} {text : List Char}
    (read : progress.addLong text = .ok next) :
    next.awaited =
      if '=' ∈ text then none
      else
        match Switch.ofLong? (String.ofList text) with
        | some (.value option) => some option
        | _ => none := by
  by_cases attached : '=' ∈ text
  · rw [if_pos attached]
    obtain ⟨name, value, rfl, absent⟩ := List.eq_append_cons_of_mem attached
    rw [addLong_name_value progress absent] at read
    split at read
    · cases read
    · exact awaited_of_addOption read
    · cases read
  · rw [if_neg attached]
    rw [addLong_name progress attached] at read
    split at read
    · cases read
    · next found =>
        rw [found]
        exact awaited_of_addOption read
    · next found =>
        rw [found]
        exact awaited_of_addFlag read

theorem awaited_of_addArgument {progress next : Progress} {text : String}
    (read : progress.addArgument text = .ok next) :
    next.awaited = awaitedAfter text := by
  by_cases looks : ∃ letter letters, text.toList = '-' :: letter :: letters
  · obtain ⟨letter, letters, shape⟩ := looks
    by_cases hyphen : letter = '-'
    · subst hyphen
      rw [addArgument_long progress shape] at read
      simp only [awaitedAfter, shape]
      exact awaited_of_addLong read
    · rw [addArgument_short progress hyphen shape] at read
      rw [awaitedAfter_short hyphen shape]
      exact awaited_of_addShort _ read (List.cons_ne_nil _ _)
  · have noLetter : ∀ letter letters,
        text.toList ≠ '-' :: letter :: letters :=
      fun letter letters shape => looks ⟨letter, letters, shape⟩
    rw [addArgument_path progress noLetter] at read
    rw [awaitedAfter_path noLetter]
    exact awaited_of_addPath read

/-! ## Reading one more argument -/

section Unclaimed

variable {progress : Progress} {text : String} {rest : List String}
  (unclaimed : Unclaimed progress.awaited (text :: rest))

include unclaimed

theorem readAll_end (ends : text = "--") :
    progress.readAll (text :: rest) = progress.readPathsOnly rest := by
  rw [readAll, awaiting?_of_unclaimed unclaimed, if_pos ends]

theorem readAll_argument (goesOn : text ≠ "--") :
    progress.readAll (text :: rest) =
      progress.addArgument text >>= fun next => next.readAll rest := by
  rw [readAll, awaiting?_of_unclaimed unclaimed, if_neg goesOn]

end Unclaimed

theorem readAll_value {progress : Progress} {option : ValueOption}
    {text : String} (awaits : progress.awaited = some option)
    (taken : takes option text = true) (rest : List String) :
    progress.readAll (text :: rest) =
      readAll { progress with pending := some ⟨option, some text⟩ }
        rest := by
  rw [readAll, awaiting?_eq_some_iff.mpr ⟨awaits, taken⟩]

/-- Read some arguments and settle what is pending behind them. -/
def finish (progress : Progress) (texts : List String) :
    Except Interruption Arguments := do
  let read ← progress.readAll texts
  let settled ← read.settle
  return settled.arguments

theorem finish_argument {progress : Progress} {text : String}
    {rest : List String}
    (unclaimed : Unclaimed progress.awaited (text :: rest))
    (notEnd : text ≠ "--") :
    progress.finish (text :: rest) =
      progress.addArgument text >>= fun next => next.finish rest := by
  unfold finish
  rw [readAll_argument unclaimed notEnd, bind_assoc]

theorem finish_value {progress : Progress} {option : ValueOption}
    {text : String} (awaits : progress.awaited = some option)
    (taken : takes option text = true) (rest : List String) :
    progress.finish (text :: rest) =
      finish { progress with pending := some ⟨option, some text⟩ } rest := by
  unfold finish
  rw [readAll_value awaits taken]

/-! ## A pending option that cannot be settled -/

theorem exists_fault_of_assign {arguments : Arguments}
    {option : ValueOption} {value : String} {cause : Interruption}
    (fails : arguments.assign option value = .error cause) :
    ∃ fault, cause = .fault fault ∧ fault.isUnrecognised = false := by
  cases option <;> simp only [Arguments.assign] at fails <;>
    (repeat' split at fails) <;> cases fails <;> exact ⟨_, rfl, rfl⟩

theorem exists_fault_of_settle {progress : Progress} {cause : Interruption}
    (fails : progress.settle = .error cause) :
    ∃ fault, cause = .fault fault ∧ fault.isUnrecognised = false := by
  obtain ⟨arguments, pending⟩ := progress
  rcases pending with _ | ⟨option, _ | value⟩
  · cases fails
  · cases fails
    exact ⟨_, rfl, rfl⟩
  · cases assigned : arguments.assign option value with
    | ok result => simp [settle, assigned] at fails
    | error fault =>
        simp only [settle, assigned] at fails
        cases fails
        exact exists_fault_of_assign assigned

section Fails

variable {progress : Progress} {fault : UsageFault}
  (fails : progress.settle = .error (.fault fault))

include fails

theorem addPath_of_fails (path : String) :
    progress.addPath path = .error (.fault fault) := by
  simp [addPath, fails, bind, Except.bind]

theorem addFlag_of_fails (flag : Flag) :
    progress.addFlag flag = .error (.fault fault) := by
  simp [addFlag, fails, bind, Except.bind]

theorem addOption_of_fails (option : ValueOption)
    (attached : Option String) :
    progress.addOption option attached = .error (.fault fault) := by
  simp [addOption, fails, bind, Except.bind]

theorem addLong_of_fails (text : List Char) :
    ∃ reported, progress.addLong text = .error (.fault reported) ∧
      (reported = fault ∨ reported.isUnrecognised = true) := by
  unfold addLong
  dsimp only
  split
  · exact ⟨_, rfl, .inr rfl⟩
  · exact ⟨fault, addOption_of_fails fails _ _, .inl rfl⟩
  · exact ⟨_, rfl, .inr rfl⟩
  · exact ⟨fault, addFlag_of_fails fails _, .inl rfl⟩

theorem addShort_of_fails (letter : Char) (letters : List Char) :
    ∃ reported,
      progress.addShort (letter :: letters) = .error (.fault reported) ∧
      (reported = fault ∨ reported.isUnrecognised = true) := by
  unfold addShort
  split
  · exact ⟨_, rfl, .inr rfl⟩
  · refine ⟨fault, ?_, .inl rfl⟩
    simp [addFlag_of_fails fails, bind, Except.bind]
  · exact ⟨fault, addOption_of_fails fails _ _, .inl rfl⟩

theorem addArgument_of_fails (text : String) :
    ∃ reported, progress.addArgument text = .error (.fault reported) ∧
      (reported = fault ∨ reported.isUnrecognised = true) := by
  unfold addArgument
  split
  · exact addLong_of_fails fails _
  · exact addShort_of_fails fails _ _
  · exact ⟨fault, addPath_of_fails fails _, .inl rfl⟩

/-- If the pending option cannot be settled, the command line is refused,
unless its value is still to come.  Only the name of the next argument can be
complained of instead. -/
theorem finish_of_fails {texts : List String}
    (unclaimed : Unclaimed progress.awaited texts) :
    ∃ reported, progress.finish texts = .error (.fault reported) ∧
      (reported = fault ∨ reported.isUnrecognised = true) := by
  cases texts with
  | nil =>
      refine ⟨fault, ?_, .inl rfl⟩
      simp [finish, readAll, fails, bind, Except.bind]
  | cons text rest =>
      by_cases ends : text = "--"
      · -- Settling fails at the first path behind, or at the end.
        refine ⟨fault, ?_, .inl rfl⟩
        rw [finish, readAll_end unclaimed ends]
        cases rest with
        | nil => simp [readPathsOnly, fails, bind, Except.bind]
        | cons path paths =>
            simp [readPathsOnly, addPath_of_fails fails, bind, Except.bind]
      · obtain ⟨reported, refused, which⟩ := addArgument_of_fails fails text
        refine ⟨reported, ?_, which⟩
        rw [finish, readAll_argument unclaimed ends, refused]
        rfl

end Fails

end Progress

end TemplateLint.CommandLine
