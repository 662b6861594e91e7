import TemplateLint.Jsonc.Document

/-!
# Texts without a value

A text holds no value exactly if it is made of blanks and comments.  A comment
goes on to the end of its line, or to the first mark that closes it; a comment
of the first kind may also end with the text.
-/

namespace TemplateLint.Jsonc

/-- A text of blanks and comments. -/
inductive IsSilent : List Char → Prop
  | nil : IsSilent []
  | blank {character : Char} {rest : List Char} :
      Text.isBlank character = true → IsSilent rest →
      IsSilent (character :: rest)
  | lineComment {comment rest : List Char} :
      '\n' ∉ comment → IsSilent rest →
      IsSilent ('/' :: '/' :: (comment ++ '\n' :: rest))
  | lastComment {comment : List Char} :
      '\n' ∉ comment → IsSilent ('/' :: '/' :: comment)
  | blockComment {comment rest : List Char} :
      ¬['*', '/'] <:+: comment → IsSilent rest →
      IsSilent ('/' :: '*' :: (comment ++ '*' :: '/' :: rest))

/-! ## Passing over comments -/

theorem skipGap_lineComment {comment : List Char} (oneLine : '\n' ∉ comment)
    (rest : List Char) :
    skipGap .lineComment (comment ++ '\n' :: rest) = skipGap .blank rest := by
  induction comment with
  | nil => simp [skipGap]
  | cons head tail inductionHypothesis =>
      rw [List.mem_cons, not_or] at oneLine
      rw [List.cons_append, skipGap, if_neg (Ne.symm oneLine.1)]
      exact inductionHypothesis oneLine.2

theorem skipGap_lastComment {comment : List Char}
    (oneLine : '\n' ∉ comment) : skipGap .lineComment comment = .ok [] := by
  induction comment with
  | nil => rfl
  | cons head tail inductionHypothesis =>
      rw [List.mem_cons, not_or] at oneLine
      rw [skipGap, if_neg (Ne.symm oneLine.1)]
      exact inductionHypothesis oneLine.2

/-- A block comment is closed by the first mark that can close it. -/
theorem skipGap_blockComment (start : List Char) {comment : List Char}
    (stillOpen : ¬['*', '/'] <:+: comment) (rest : List Char) :
    skipGap (.blockComment start) (comment ++ '*' :: '/' :: rest) =
      skipGap .blank rest := by
  induction comment with
  | nil => simp [skipGap]
  | cons head tail inductionHypothesis =>
      have tailOpen : ¬['*', '/'] <:+: tail := fun within =>
        stillOpen (List.infix_cons within)
      rw [List.cons_append, skipGap]
      · exact inductionHypothesis tailOpen
      · rintro others rfl closes
        cases tail with
        | nil => simp at closes
        | cons next further =>
            simp only [List.cons_append, List.cons.injEq] at closes
            obtain ⟨rfl, -⟩ := closes
            exact stillOpen ⟨[], further, rfl⟩

/-! ## Texts of blanks and comments -/

theorem isBlank_slash : Text.isBlank '/' = false := by
  decide

theorem skipGap_of_isSilent {text : List Char} (silent : IsSilent text) :
    skipGap .blank text = .ok [] := by
  induction silent with
  | nil => rfl
  | @blank character rest blank _ inductionHypothesis =>
      have notSlash : character ≠ '/' := by
        rintro rfl
        rw [isBlank_slash] at blank
        cases blank
      rw [skipGap]
      · rw [if_pos blank, inductionHypothesis]
      · exact fun _ isSlash _ => notSlash isSlash
      · exact fun _ isSlash _ => notSlash isSlash
  | lineComment oneLine _ inductionHypothesis =>
      rw [skipGap, skipGap_lineComment oneLine, inductionHypothesis]
  | lastComment oneLine => rw [skipGap, skipGap_lastComment oneLine]
  | blockComment stillOpen _ inductionHypothesis =>
      rw [skipGap, skipGap_blockComment _ stillOpen, inductionHypothesis]

/-- The mark that a reader has passed on the way into a gap. -/
def Gap.opening : Gap → List Char
  | .blank => []
  | .lineComment => ['/', '/']
  | .blockComment _ => ['/', '*']

theorem IsSilent.cons_lineComment {head : Char} {tail : List Char}
    (silent : IsSilent ('/' :: '/' :: tail)) (sameLine : head ≠ '\n') :
    IsSilent ('/' :: '/' :: head :: tail) := by
  generalize whole : '/' :: '/' :: tail = text at silent
  cases silent with
  | nil | blockComment _ _ => cases whole
  | blank blank _ =>
      cases whole
      rw [isBlank_slash] at blank
      cases blank
  | @lineComment comment rest oneLine silentRest =>
      cases whole
      exact .lineComment (List.not_mem_cons_of_ne_of_not_mem sameLine.symm
        oneLine) silentRest
  | lastComment oneLine =>
      cases whole
      exact .lastComment (List.not_mem_cons_of_ne_of_not_mem sameLine.symm
        oneLine)

theorem IsSilent.cons_blockComment {head : Char} {tail : List Char}
    (silent : IsSilent ('/' :: '*' :: tail))
    (stillOpen : ∀ rest, head = '*' → tail ≠ '/' :: rest) :
    IsSilent ('/' :: '*' :: head :: tail) := by
  generalize whole : '/' :: '*' :: tail = text at silent
  cases silent with
  | nil | lineComment _ _ | lastComment _ => cases whole
  | blank blank _ =>
      cases whole
      rw [isBlank_slash] at blank
      cases blank
  | @blockComment comment rest tailOpen silentRest =>
      cases whole
      refine @IsSilent.blockComment (head :: comment) _ ?_ silentRest
      intro within
      rcases List.infix_cons_iff.mp within with atFront | inComment
      · obtain ⟨further, shape⟩ := atFront
        cases shape
        exact stillOpen _ rfl rfl
      · exact tailOpen inComment

/-- A reader that comes to the end of the text in a gap has passed over blanks
and comments alone. -/
theorem isSilent_of_skipGap {gap : Gap} {text : List Char}
    (passed : skipGap gap text = .ok []) : IsSilent (gap.opening ++ text) := by
  fun_induction skipGap gap text with
  | case1 rest inductionHypothesis => exact inductionHypothesis passed
  | case2 rest inductionHypothesis => exact inductionHypothesis passed
  | case3 head rest _ _ blank inductionHypothesis =>
      exact .blank blank (inductionHypothesis passed)
  | case4 => cases passed
  | case5 => exact .nil
  | case6 head rest inductionHypothesis =>
      by_cases endsLine : head = '\n'
      · rw [if_pos endsLine] at inductionHypothesis passed
        subst endsLine
        exact .lineComment List.not_mem_nil (inductionHypothesis passed)
      · rw [if_neg endsLine] at inductionHypothesis passed
        exact (inductionHypothesis passed).cons_lineComment endsLine
  | case7 => exact .lastComment List.not_mem_nil
  | case8 start rest inductionHypothesis =>
      exact @IsSilent.blockComment [] rest (by simp)
        (inductionHypothesis passed)
  | case9 start head rest notClosing inductionHypothesis =>
      exact (inductionHypothesis passed).cons_blockComment notClosing
  | case10 => cases passed

theorem tokens_eq_nil_iff (text : List Char) :
    tokens text = [] ↔ IsSilent text := by
  constructor
  · intro noTokens
    rw [tokens, tokensWith] at noTokens
    split at noTokens
    · cases noTokens
    · next passed => exact isSilent_of_skipGap passed
    · split at noTokens <;> cases noTokens
  · intro silent
    rw [tokens, tokensWith, skipGap_of_isSilent silent]

/-- A text holds no value exactly if it is made of blanks and comments. -/
theorem parse_eq_none_iff (text : String) :
    parse text = .ok none ↔ IsSilent text.toList := by
  rw [← tokens_eq_nil_iff]
  unfold parse
  by_cases noTokens : tokens text.toList = []
  · simp [noTokens, pure, Except.pure]
  · have someTokens : (tokens text.toList).isEmpty = false := by
      simpa using noTokens
    refine iff_of_false (fun parsed => ?_) noTokens
    simp only [someTokens, Bool.false_eq_true, if_false, bind,
      Except.bind] at parsed
    split at parsed
    · cases parsed
    · split at parsed <;> cases parsed

end TemplateLint.Jsonc
