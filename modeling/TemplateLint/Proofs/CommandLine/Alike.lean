import TemplateLint.Linter.Launch
import TemplateLint.Proofs.CommandLine.Reading

/-!
# Arguments that are read alike

Custom blocks, custom tags and arguments of the linter are passed on and not
looked at.  No step of reading tells two states apart that differ in nothing
else.
-/

namespace TemplateLint.CommandLine

open Linter

/-- The value of the option is passed on to the linter. -/
def ValueOption.isPassedOn : ValueOption → Bool
  | .customBlock | .customTag | .engineArgument => true
  | _ => false

/-- All values that are passed on. -/
def Arguments.passedOn (arguments : Arguments) : List String :=
  arguments.engineArguments ++ arguments.customBlocks ++
    arguments.customTags

/-- The arguments mean the same apart from what is passed on, and that can be
passed on for both or for none. -/
structure Arguments.Alike (left right : Arguments) : Prop where
  paths_eq : left.paths = right.paths
  config_eq : left.config = right.config
  engine_eq : left.engine = right.engine
  jobs_eq : left.jobs = right.jobs
  color_eq : left.color = right.color
  verbose_eq : left.verbose = right.verbose
  holdsNul_eq :
    (left.passedOn.map Path.ofText).any holdsNul =
      (right.passedOn.map Path.ofText).any holdsNul

/-! ## Results -/

/-- Two results of reading are related, or reading is interrupted for the same
cause. -/
inductive Agree {Result : Type} (Related : Result → Result → Prop) :
    Except Interruption Result → Except Interruption Result → Prop
  | ok {left right : Result} :
      Related left right → Agree Related (.ok left) (.ok right)
  | error (cause : Interruption) :
      Agree Related (.error cause) (.error cause)

theorem agree_iff {Result : Type} {Related : Result → Result → Prop}
    {left right : Except Interruption Result} :
    Agree Related left right ↔
      (∃ first second, left = .ok first ∧ right = .ok second ∧
        Related first second) ∨
      ∃ cause, left = .error cause ∧ right = .error cause := by
  constructor
  · intro agree
    cases agree with
    | ok related => exact .inl ⟨_, _, rfl, rfl, related⟩
    | error cause => exact .inr ⟨cause, rfl, rfl⟩
  · rintro (⟨first, second, rfl, rfl, related⟩ | ⟨cause, rfl, rfl⟩)
    · exact .ok related
    · exact .error cause

theorem Agree.bind {First Second : Type} {Related : First → First → Prop}
    {Target : Second → Second → Prop}
    {left right : Except Interruption First}
    {continueLeft continueRight : First → Except Interruption Second}
    (agree : Agree Related left right)
    (step : ∀ first second, Related first second →
      Agree Target (continueLeft first) (continueRight second)) :
    Agree Target (left >>= continueLeft) (right >>= continueRight) := by
  cases agree with
  | ok related => exact step _ _ related
  | error cause => exact .error cause

/-! ## Arguments -/

namespace Arguments

theorem Alike.refl (arguments : Arguments) : arguments.Alike arguments :=
  ⟨rfl, rfl, rfl, rfl, rfl, rfl, rfl⟩

theorem Alike.trans {first second third : Arguments}
    (front : first.Alike second) (back : second.Alike third) :
    first.Alike third :=
  ⟨front.paths_eq.trans back.paths_eq, front.config_eq.trans back.config_eq,
    front.engine_eq.trans back.engine_eq, front.jobs_eq.trans back.jobs_eq,
    front.color_eq.trans back.color_eq,
    front.verbose_eq.trans back.verbose_eq,
    front.holdsNul_eq.trans back.holdsNul_eq⟩

/-- What is passed on is accepted whatever it is. -/
theorem exists_assign_of_isPassedOn (arguments : Arguments)
    {option : ValueOption} {value : String}
    (passedOn : option.isPassedOn = true) (clean : holdsNul value = false) :
    ∃ result, arguments.assign option value = .ok result ∧
      arguments.Alike result := by
  cases option with
  | customBlock | customTag | engineArgument =>
      refine ⟨_, rfl, ⟨rfl, rfl, rfl, rfl, rfl, rfl, ?_⟩⟩
      simp [Arguments.passedOn, clean]
  | config | engine | jobs | color => cases passedOn

theorem Alike.assign {left right : Arguments} (alike : left.Alike right)
    (option : ValueOption) (value : String) :
    Agree Alike (left.assign option value) (right.assign option value) := by
  obtain ⟨paths, config, engine, jobs, color, verbose, nul⟩ := alike
  cases option with
  | customBlock | customTag | engineArgument =>
      refine .ok ⟨paths, config, engine, jobs, color, verbose, ?_⟩
      simp only [passedOn, List.map_append, List.any_append] at nul ⊢
      grind
  | config =>
      simp only [Arguments.assign, config]
      split
      · exact .error _
      split
      · exact .error _
      · exact .ok ⟨paths, rfl, engine, jobs, color, verbose, nul⟩
  | engine =>
      simp only [Arguments.assign, engine]
      split
      · exact .error _
      · exact .ok ⟨paths, config, rfl, jobs, color, verbose, nul⟩
  | jobs =>
      simp only [Arguments.assign, jobs]
      split
      · exact .error _
      split
      · exact .ok ⟨paths, config, engine, rfl, color, verbose, nul⟩
      · exact .error _
  | color =>
      simp only [Arguments.assign, color]
      split
      · exact .error _
      split
      · exact .ok ⟨paths, config, engine, jobs, rfl, verbose, nul⟩
      split
      · exact .error _
      · exact .error _

end Arguments

namespace Progress

/-! ## Steps -/

/-- Nothing is pending, and the arguments are alike. -/
structure SettledAlike (left right : Progress) : Prop where
  left_settled : left.pending = none
  right_settled : right.pending = none
  arguments : left.arguments.Alike right.arguments

/-- Both await a value for the same option or for none, and settling gives
the same.  The pending option itself may be settled in one of them only. -/
structure Alike (left right : Progress) : Prop where
  awaited_eq : left.awaited = right.awaited
  settle : Agree SettledAlike left.settle right.settle
  arguments :
    left.awaited ≠ none → left.arguments.Alike right.arguments

variable {left right : Progress}

theorem SettledAlike.alike (settled : SettledAlike left right) :
    left.Alike right := by
  obtain ⟨leftSettled, rightSettled, arguments⟩ := settled
  refine ⟨?_, ?_, fun _ => arguments⟩
  · simp [awaited, leftSettled, rightSettled]
  · simp only [Progress.settle, leftSettled, rightSettled]
    exact .ok ⟨leftSettled, rightSettled, arguments⟩

theorem Alike.addPath (alike : left.Alike right) (path : String) :
    Agree Alike (left.addPath path) (right.addPath path) := by
  refine alike.settle.bind fun first second settled => .ok ?_
  obtain ⟨leftSettled, rightSettled,
    ⟨paths, config, engine, jobs, color, verbose, nul⟩⟩ := settled
  exact SettledAlike.alike ⟨leftSettled, rightSettled,
    ⟨congrArg (· ++ [path]) paths, config, engine, jobs, color, verbose,
      nul⟩⟩

theorem Alike.addFlag (alike : left.Alike right) (flag : Flag) :
    Agree Alike (left.addFlag flag) (right.addFlag flag) := by
  refine alike.settle.bind fun first second settled => ?_
  obtain ⟨leftSettled, rightSettled,
    ⟨paths, config, engine, jobs, color, verbose, nul⟩⟩ := settled
  cases flag with
  | help => exact .error _
  | version => exact .error _
  | verbose =>
      simp only [verbose]
      split
      · exact .error _
      · exact .ok (SettledAlike.alike ⟨leftSettled, rightSettled,
          ⟨paths, config, engine, jobs, color, rfl, nul⟩⟩)

theorem Alike.addOption (alike : left.Alike right) (option : ValueOption)
    (attached : Option String) :
    Agree Alike (left.addOption option attached)
      (right.addOption option attached) := by
  refine alike.settle.bind fun first second settled => ?_
  cases attached with
  | none => exact .ok ⟨rfl, .error _, fun _ => settled.arguments⟩
  | some value =>
      refine (settled.arguments.assign option value).bind
        fun firstArguments secondArguments arguments => .ok ?_
      exact SettledAlike.alike ⟨rfl, rfl, arguments⟩

theorem Alike.addLong (alike : left.Alike right) (text : List Char) :
    Agree Alike (left.addLong text) (right.addLong text) := by
  unfold Progress.addLong
  dsimp only
  split
  · exact .error _
  · exact alike.addOption _ _
  · exact .error _
  · exact alike.addFlag _

theorem Alike.addShort (alike : left.Alike right) (letters : List Char) :
    Agree Alike (left.addShort letters) (right.addShort letters) := by
  induction letters generalizing left right with
  | nil => exact .ok alike
  | cons letter rest inductionHypothesis =>
      unfold Progress.addShort
      split
      · exact .error _
      · exact (alike.addFlag _).bind fun _ _ => inductionHypothesis
      · exact alike.addOption _ _

theorem Alike.addArgument (alike : left.Alike right) (text : String) :
    Agree Alike (left.addArgument text) (right.addArgument text) := by
  unfold Progress.addArgument
  split
  · exact alike.addLong _
  · exact alike.addShort _
  · exact alike.addPath _

theorem Alike.readPathsOnly (alike : left.Alike right)
    (texts : List String) :
    Agree Alike (left.readPathsOnly texts) (right.readPathsOnly texts) := by
  induction texts generalizing left right with
  | nil => exact .ok alike
  | cons text rest inductionHypothesis =>
      exact (alike.addPath text).bind fun _ _ => inductionHypothesis

/-- The value that is awaited by both is read. -/
theorem Alike.addValue {option : ValueOption} (alike : left.Alike right)
    (awaits : left.awaited = some option) (value : String) :
    Alike { left with pending := some ⟨option, some value⟩ }
      { right with pending := some ⟨option, some value⟩ } := by
  have arguments := alike.arguments (by simp [awaits])
  refine ⟨rfl, ?_, fun awaiting => absurd rfl awaiting⟩
  refine (arguments.assign option value).bind
    fun firstArguments secondArguments assigned => .ok ?_
  exact ⟨rfl, rfl, assigned⟩

theorem Alike.readAll (alike : left.Alike right) (texts : List String) :
    Agree Alike (left.readAll texts) (right.readAll texts) := by
  induction texts generalizing left right with
  | nil => exact .ok alike
  | cons text rest inductionHypothesis =>
      have awaiting : left.awaiting? text = right.awaiting? text := by
        rw [awaiting?_eq, awaiting?_eq, alike.awaited_eq]
      unfold Progress.readAll
      rw [awaiting]
      split
      · next option found =>
          have awaits := (awaiting?_eq_some_iff.mp (awaiting ▸ found)).1
          exact inductionHypothesis (alike.addValue awaits text)
      · split
        · exact alike.readPathsOnly rest
        · exact (alike.addArgument text).bind fun _ _ => inductionHypothesis

end Progress

end TemplateLint.CommandLine
