import TemplateLint.Proofs.Json.Scanning

/-!
# Passing over what has been written

Whatever document has been written, passing over it stops behind it.
-/

namespace TemplateLint.Json

/-! ## Blanks in front -/

theorem skipValueWith_skipBlanks (fuel : Nat) (text : List Char) :
    skipValueWith fuel (skipBlanks text) = skipValueWith fuel text := by
  cases fuel with
  | zero => rfl
  | succ fuel => simp only [skipValueWith, skipBlanks_skipBlanks]

theorem skipItemsWith_skipBlanks (fuel : Nat) (text : List Char) :
    skipItemsWith fuel (skipBlanks text) = skipItemsWith fuel text := by
  cases fuel with
  | zero => rfl
  | succ fuel => simp only [skipItemsWith, skipValueWith_skipBlanks]

theorem skipMembersWith_skipBlanks (fuel : Nat) (text : List Char) :
    skipMembersWith fuel (skipBlanks text) = skipMembersWith fuel text := by
  cases fuel with
  | zero => rfl
  | succ fuel => simp only [skipMembersWith, skipBlanks_skipBlanks]

/-- Items begin with a document, behind blanks. -/
theorem skipBlanks_items {item : Document} {items : List Document}
    {text : List Char} (written : Writes (.items (item :: items)) text)
    (rest : List Char) :
    ∃ head tail, skipBlanks (text ++ rest) = head :: tail ∧
      head ≠ ']' := by
  cases written with
  | item before document after more =>
      obtain ⟨head, tail, rfl, begins⟩ := document.exists_cons
      have filled := isSeparator_of_begins begins
      simp only [List.append_assoc, List.cons_append,
        skipBlanks_append_cons before filled]
      refine ⟨head, _, rfl, ?_⟩
      rintro rfl
      exact Document.not_begins_bracket begins

/-- Members begin with a quote, behind blanks. -/
theorem skipBlanks_members {member : String × Document}
    {members : List (String × Document)} {text : List Char}
    (written : Writes (.members (member :: members)) text)
    (rest : List Char) :
    ∃ tail, skipBlanks (text ++ rest) = '"' :: tail := by
  cases written with
  | member before =>
      have filled : isSeparator '"' = false := by decide
      simp only [List.append_assoc, List.cons_append,
        skipBlanks_append_cons before filled]
      exact ⟨_, rfl⟩

/-- Passing over what has been written stops behind it. -/
def PassedOver (text : List Char) : Part → Prop
  | .document _ =>
      ∀ (blanks rest : List Char) (fuel : Nat), Blanks blanks →
        EndsNumber rest → 2 * text.length ≤ fuel + 1 →
        skipValueWith (fuel + 1) (blanks ++ (text ++ rest)) = .ok rest
  | .items items =>
      items ≠ [] → ∀ (rest : List Char) (fuel : Nat),
        2 * text.length + 1 ≤ fuel →
        skipItemsWith fuel (text ++ ']' :: rest) = .ok rest
  | .moreItems items =>
      items ≠ [] → ∃ further, text = ',' :: further ∧
        ∀ (rest : List Char) (fuel : Nat), 2 * further.length + 1 ≤ fuel →
          skipItemsWith fuel (further ++ ']' :: rest) = .ok rest
  | .members members =>
      members ≠ [] → ∀ (rest : List Char) (fuel : Nat),
        2 * text.length + 1 ≤ fuel →
        skipMembersWith fuel (text ++ '\x7d' :: rest) = .ok rest
  | .moreMembers members =>
      members ≠ [] → ∃ further, text = ',' :: further ∧
        ∀ (rest : List Char) (fuel : Nat), 2 * further.length + 1 ≤ fuel →
          skipMembersWith fuel (further ++ '\x7d' :: rest) = .ok rest

section Step

variable {blanks text rest : List Char} {fuel : Nat}

theorem skipValueWith_number {literal : NumberLiteral}
    (blank : Blanks blanks) (written : WritesNumber literal text)
    (ends : EndsNumber rest) :
    skipValueWith (fuel + 1) (blanks ++ (text ++ rest)) = .ok rest := by
  have read := readNumberLiteral_append .invalidNumber written ends
  obtain ⟨head, tail, rfl, begins⟩ := written.exists_cons
  have filled : isSeparator head = false := by
    rcases begins with rfl | digit
    · decide
    · exact isSeparator_of_isDigit digit
  have noWord : head ≠ 'n' ∧ head ≠ 't' ∧ head ≠ 'f' := by
    refine ⟨?_, ?_, ?_⟩ <;> rintro rfl <;> revert begins <;> decide
  rw [List.cons_append] at read ⊢
  simp only [skipValueWith, skipBlanks_append_cons blank filled, noWord,
    begins, if_false, if_true, read]
  rfl

theorem skipValueWith_text {characters : List Char}
    (blank : Blanks blanks) (written : WritesText characters text) :
    skipValueWith (fuel + 1) (blanks ++ '"' :: (text ++ '"' :: rest)) =
      .ok rest := by
  obtain ⟨read, readText, _⟩ :=
    @exists_readLiteral_of_writesText .unchecked _ _ written rest
  rw [skipValueWith, skipBlanks_append_cons blank (by decide)]
  simp only [Char.reduceEq, if_false, if_true, readText]
  rfl

theorem skipValueWith_list {items : List Document} (blank : Blanks blanks)
    (written : Writes (.items items) text)
    (passed : PassedOver text (.items items))
    (enough : 2 * text.length + 1 ≤ fuel) :
    skipValueWith (fuel + 1) (blanks ++ '[' :: (text ++ ']' :: rest)) =
      .ok rest := by
  have filled : isSeparator ']' = false := by decide
  rw [skipValueWith, skipBlanks_append_cons blank (by decide)]
  cases items with
  | nil =>
      cases written with
      | noItems inner =>
          simp [isDigit, skipBlanks_append_cons inner filled]
  | cons item items =>
      obtain ⟨head, tail, front, notEnd⟩ :=
        skipBlanks_items written (']' :: rest)
      have skipped := passed (List.cons_ne_nil item items) rest fuel enough
      rw [← skipItemsWith_skipBlanks, front] at skipped
      simp [isDigit, front, notEnd, skipped]

theorem skipValueWith_object {members : List (String × Document)}
    (blank : Blanks blanks) (written : Writes (.members members) text)
    (passed : PassedOver text (.members members))
    (enough : 2 * text.length + 1 ≤ fuel) :
    skipValueWith (fuel + 1)
      (blanks ++ '\x7b' :: (text ++ '\x7d' :: rest)) = .ok rest := by
  have filled : isSeparator '\x7d' = false := by decide
  rw [skipValueWith, skipBlanks_append_cons blank (by decide)]
  cases members with
  | nil =>
      cases written with
      | noMembers inner =>
          simp [isDigit, skipBlanks_append_cons inner filled]
  | cons member members =>
      obtain ⟨tail, front⟩ := skipBlanks_members written ('\x7d' :: rest)
      have skipped :=
        passed (List.cons_ne_nil member members) rest fuel enough
      rw [← skipMembersWith_skipBlanks, front] at skipped
      simp [isDigit, front, skipped]

theorem skipItemsWith_last {left : List Char}
    (skipped : skipValueWith fuel text = .ok left)
    (ended : skipBlanks left = ']' :: rest) :
    skipItemsWith (fuel + 1) text = .ok rest := by
  rw [skipItemsWith, skipped]
  simp only [bind, Except.bind, ended]

theorem skipItemsWith_comma {left further : List Char}
    (skipped : skipValueWith fuel text = .ok left)
    (comma : skipBlanks left = ',' :: further) :
    skipItemsWith (fuel + 1) text = skipItemsWith fuel further := by
  rw [skipItemsWith, skipped]
  simp only [bind, Except.bind, comma]

theorem skipMembersWith_last {name : List Char}
    {afterQuote afterName afterColon left : List Char}
    (quote : skipBlanks text = '"' :: afterQuote)
    (read : readLiteral .unchecked .plain afterQuote =
      .ok (name, afterName))
    (colon : skipBlanks afterName = ':' :: afterColon)
    (skipped : skipValueWith fuel afterColon = .ok left)
    (ended : skipBlanks left = '\x7d' :: rest) :
    skipMembersWith (fuel + 1) text = .ok rest := by
  rw [skipMembersWith, quote]
  simp only [bind, Except.bind, read, colon, skipped, ended]

theorem skipMembersWith_comma {name : List Char}
    {afterQuote afterName afterColon left further : List Char}
    (quote : skipBlanks text = '"' :: afterQuote)
    (read : readLiteral .unchecked .plain afterQuote =
      .ok (name, afterName))
    (colon : skipBlanks afterName = ':' :: afterColon)
    (skipped : skipValueWith fuel afterColon = .ok left)
    (comma : skipBlanks left = ',' :: further) :
    skipMembersWith (fuel + 1) text = skipMembersWith fuel further := by
  rw [skipMembersWith, quote]
  simp only [bind, Except.bind, read, colon, skipped, comma]

theorem skipValueWith_word {document : Document}
    (written : Writes (.document document) text)
    (word : document = .null ∨ ∃ value, document = .boolean value)
    (blank : Blanks blanks) :
    skipValueWith (fuel + 1) (blanks ++ (text ++ rest)) = .ok rest := by
  have read (letters : List Char) := readLetters_append letters rest
  rcases word with rfl | ⟨_ | _, rfl⟩
  · cases written
    rw [List.cons_append, skipValueWith,
      skipBlanks_append_cons blank (by decide)]
    exact read ['u', 'l', 'l']
  · cases written
    rw [List.cons_append, skipValueWith,
      skipBlanks_append_cons blank (by decide)]
    exact read ['a', 'l', 's', 'e']
  · cases written
    rw [List.cons_append, skipValueWith,
      skipBlanks_append_cons blank (by decide)]
    exact read ['r', 'u', 'e']

end Step

section Behind

variable {before after further : List Char}

theorem passedOver_items {item : Document} {items : List Document}
    {text : List Char} (blankBefore : Blanks before)
    (document : Writes (.document item) text)
    (blankAfter : Blanks after) (more : Writes (.moreItems items) further)
    (itemPassed : PassedOver text (.document item))
    (morePassed : PassedOver further (.moreItems items)) :
    PassedOver (before ++ (text ++ (after ++ further)))
      (.items (item :: items)) := by
  intro _ rest fuel enough
  simp only [List.length_append] at enough
  -- One unit is for the item list, and one for the item, which is not empty.
  have filled := document.length_pos
  obtain ⟨fuel, rfl⟩ : ∃ less, fuel = less + 2 :=
    Nat.exists_eq_add_of_le' (by omega)
  have ends := endsNumber_append blankAfter
    (endsNumber_moreItems more rest)
  have skipped := itemPassed before _ fuel blankBefore ends (by omega)
  simp only [List.append_assoc]
  cases items with
  | nil =>
      cases more
      exact skipItemsWith_last skipped
        (skipBlanks_append_cons blankAfter (by decide) rest)
  | cons next items =>
      obtain ⟨further, rfl, passed⟩ :=
        morePassed (List.cons_ne_nil next items)
      simp only [List.length_cons] at enough
      have comma := skipBlanks_append_cons blankAfter
        (show isSeparator ',' = false by decide) (further ++ ']' :: rest)
      rw [skipItemsWith_comma skipped comma]
      exact passed rest (fuel + 1) (by omega)

theorem passedOver_members {name : List Char} {value : Document}
    {members : List (String × Document)}
    {nameText beforeColon afterColon text : List Char}
    (blankBefore : Blanks before) (isName : WritesText name nameText)
    (blankColon : Blanks beforeColon) (blankValue : Blanks afterColon)
    (blankAfter : Blanks after) (more : Writes (.moreMembers members) further)
    (valuePassed : PassedOver text (.document value))
    (morePassed : PassedOver further (.moreMembers members)) :
    PassedOver
      (before ++ '"' :: (nameText ++ '"' :: (beforeColon ++ ':' ::
        (afterColon ++ (text ++ (after ++ further))))))
      (.members ((String.ofList name, value) :: members)) := by
  intro _ rest fuel enough
  simp only [List.length_append, List.length_cons] at enough
  obtain ⟨fuel, rfl⟩ : ∃ less, fuel = less + 2 :=
    Nat.exists_eq_add_of_le' (by omega)
  have ends := endsNumber_append blankAfter
    (endsNumber_moreMembers more rest)
  have skipped := valuePassed afterColon _ fuel blankValue ends (by omega)
  simp only [List.append_assoc, List.cons_append]
  obtain ⟨read, readName, _⟩ :=
    @exists_readLiteral_of_writesText .unchecked _ _ isName
      (beforeColon ++ ':' :: (afterColon ++ (text ++ (after ++
        (further ++ '\x7d' :: rest)))))
  have quote := skipBlanks_append_cons blankBefore
    (show isSeparator '"' = false by decide)
  have colon := skipBlanks_append_cons blankColon
    (show isSeparator ':' = false by decide)
  cases members with
  | nil =>
      cases more
      exact skipMembersWith_last (quote _) readName (colon _) skipped
        (skipBlanks_append_cons blankAfter (by decide) rest)
  | cons next members =>
      obtain ⟨further, rfl, passed⟩ :=
        morePassed (List.cons_ne_nil next members)
      simp only [List.length_cons] at enough
      have comma := skipBlanks_append_cons blankAfter
        (show isSeparator ',' = false by decide) (further ++ '\x7d' :: rest)
      rw [skipMembersWith_comma (quote _) readName (colon _) skipped comma]
      exact passed rest (fuel + 1) (by omega)

end Behind

/-- Each part is passed over, if there are two units of fuel for each of its
characters. -/
theorem passedOver_of_writes {part : Part} {text : List Char}
    (written : Writes part text) : PassedOver text part := by
  induction written with
  | null =>
      intro blanks rest fuel blank _ _
      exact skipValueWith_word .null (.inl rfl) blank
  | true =>
      intro blanks rest fuel blank _ _
      exact skipValueWith_word .true (.inr ⟨_, rfl⟩) blank
  | false =>
      intro blanks rest fuel blank _ _
      exact skipValueWith_word .false (.inr ⟨_, rfl⟩) blank
  | number isNumber =>
      intro blanks rest fuel blank ends _
      exact skipValueWith_number blank isNumber ends
  | text isText =>
      intro blanks rest fuel blank _ _
      rw [List.cons_append, List.append_assoc, List.singleton_append]
      exact skipValueWith_text blank isText
  | list inner passed =>
      intro blanks rest fuel blank _ enough
      simp only [List.length_cons, List.length_append,
        List.length_nil] at enough
      rw [List.cons_append, List.append_assoc, List.singleton_append]
      exact skipValueWith_list blank inner passed (by omega)
  | object inner passed =>
      intro blanks rest fuel blank _ enough
      simp only [List.length_cons, List.length_append,
        List.length_nil] at enough
      rw [List.cons_append, List.append_assoc, List.singleton_append]
      exact skipValueWith_object blank inner passed (by omega)
  | noItems => exact fun absent => absurd rfl absent
  | noMembers => exact fun absent => absurd rfl absent
  | noMoreItems => exact fun absent => absurd rfl absent
  | noMoreMembers => exact fun absent => absurd rfl absent
  | moreItems _ passed =>
      exact fun _ => ⟨_, rfl, passed (List.cons_ne_nil _ _)⟩
  | moreMembers _ passed =>
      exact fun _ => ⟨_, rfl, passed (List.cons_ne_nil _ _)⟩
  | item blankBefore document blankAfter more itemPassed morePassed =>
      exact passedOver_items blankBefore document blankAfter more itemPassed
        morePassed
  | member blankBefore isName blankColon blankValue _ blankAfter more
      valuePassed morePassed =>
      exact passedOver_members blankBefore isName blankColon blankValue
        blankAfter more valuePassed morePassed

/-- Passing over a document stops behind it. -/
theorem skipValue_append {document : Document} {blanks text rest : List Char}
    (blank : Blanks blanks) (written : Writes (.document document) text)
    (ends : EndsNumber rest) :
    skipValue (blanks ++ (text ++ rest)) = .ok rest := by
  refine passedOver_of_writes written blanks rest _ blank ends ?_
  simp only [List.length_append]
  omega

end TemplateLint.Json
