import TemplateLint.Proofs.Json.Records

/-!
# Reading variants and whole documents

A variant without content is the text of its name; a variant with content is
an object with a single member.  A whole text is read as the document in it.
-/

namespace TemplateLint.Json

/-! ## Variants without content -/

/-- The text of the document chooses one of two names. -/
theorem reads_bareVariant {α : Type} {first second : String × α}
    (distinct : first.1 ≠ second.1) {document : Document}
    (noObject : ∀ members, document ≠ .object members) :
    Reads (readBareVariant first second) document (fun value =>
      document = .text first.1 ∧ value = first.2 ∨
        document = .text second.1 ∧ value = second.2) := by
  intro blanks text rest blank written _ value left
  obtain ⟨head, tail, rfl, begins⟩ := written.exists_cons
  rw [readBareVariant, skipBlanks_document blank written, List.cons_append]
  by_cases quote : head = '"'
  · subst quote
    obtain ⟨content, rfl⟩ := begins.exists_text
    simp only [readLiteral_text written, bind, Except.bind, pure,
      Except.pure, String.ofList_toList, Document.text.injEq]
    by_cases isFirst : content = first.1
    · subst isFirst
      simp [chooseVariant, distinct, eq_comm]
    · by_cases isSecond : content = second.1
      · subst isSecond
        simp [chooseVariant, isFirst, eq_comm]
      · simp [chooseVariant, isFirst, isSecond]
  · have noText (name : String) : document ≠ .text name := by
      rintro rfl
      exact quote begins
    split
    · next same => cases same
    · next same => exact absurd (List.cons.inj same).1 quote
    · next same =>
        rw [(List.cons.inj same).1] at begins
        obtain ⟨members, rfl⟩ := begins.exists_object
        exact absurd rfl (noObject members)
    · simp [noText]

/-! ## Variants with content -/

/-- Behind the content of a variant no other member may follow. -/
theorem closeVariant_iff {members : List (String × Document)}
    {blanks text : List Char} (blank : Blanks blanks)
    (written : Writes (.moreMembers members) text) {rest left : List Char} :
    closeVariant (blanks ++ (text ++ '\x7d' :: rest)) = .ok left ↔
      members = [] ∧ left = rest := by
  cases written with
  | noMoreMembers =>
      have front := skipBlanks_append_cons blank
        (show isSeparator '\x7d' = false by decide) rest
      simp [closeVariant, front, eq_comm]
  | @moreMembers next members text _ =>
      have front := skipBlanks_append_cons blank
        (show isSeparator ',' = false by decide) (text ++ '\x7d' :: rest)
      simp [closeVariant, front]

theorem readContent_iff {α : Type} {content : Reader α} {Means : α → Prop}
    {beforeColon afterColon text after further : List Char}
    {value : Document} {members : List (String × Document)}
    (blankColon : Blanks beforeColon) (blankValue : Blanks afterColon)
    (written : Writes (.document value) text)
    (reads : Reads content value Means) (blankAfter : Blanks after)
    (more : Writes (.moreMembers members) further) (rest : List Char)
    (result : α) (left : List Char) :
    (do
      let rest ← readColon (beforeColon ++ ':' :: (afterColon ++
        (text ++ (after ++ (further ++ '\x7d' :: rest)))))
      let (value, rest) ← content rest
      let rest ← closeVariant rest
      return (value, rest)) = Except.ok (result, left) ↔
    Means result ∧ members = [] ∧ left = rest := by
  have isRead := reads afterColon text _ blankValue written
    (endsNumber_append blankAfter (endsNumber_moreMembers more rest))
  simp only [readColon_colon blankColon, bind_eq_ok_iff, Except.ok.injEq,
    exists_eq_left', Prod.exists, isRead, pure, Except.pure, Prod.mk.injEq]
  constructor
  · intro accepted
    obtain ⟨_, _, ⟨means, rfl⟩, _, closed, rfl, rfl⟩ := accepted
    exact ⟨means, (closeVariant_iff blankAfter more).mp closed⟩
  · intro meant
    obtain ⟨means, single, rfl⟩ := meant
    exact ⟨result, _, ⟨means, rfl⟩, left,
      (closeVariant_iff blankAfter more).mpr ⟨single, rfl⟩, rfl, rfl⟩

theorem readVariantName_member {member : String × Document}
    {members : List (String × Document)} {text : List Char}
    (written : Writes (.members (member :: members)) text)
    (rest : List Char) :
    ∃ beforeColon afterColon valueText after further,
      Blanks beforeColon ∧ Blanks afterColon ∧
      Writes (.document member.2) valueText ∧ Blanks after ∧
      Writes (.moreMembers members) further ∧
      readVariantName (text ++ '\x7d' :: rest) =
        .ok (member.1, beforeColon ++ ':' :: (afterColon ++
          (valueText ++ (after ++ (further ++ '\x7d' :: rest))))) := by
  obtain ⟨memberText, after, further, isMember, blankAfter, more, _,
    front⟩ := exists_member written
  obtain @⟨name, nameText, beforeColon, afterColon, valueText, value, isName,
    blankColon, blankValue, isValue⟩ := isMember
  refine ⟨beforeColon, afterColon, valueText, after, further, blankColon,
    blankValue, isValue, blankAfter, more, ?_⟩
  simp only [readVariantName, front, List.append_assoc, List.cons_append,
    readLiteral_of_writesText isName]
  rfl

section FullVariant

variable {α : Type} {first second : String × Reader α}
  {text inside behind : List Char} {name : String}

theorem readFullVariant_chosen {content : Reader α}
    (front : skipBlanks text = '\x7b' :: inside)
    (named : readVariantName inside = .ok (name, behind))
    (chosen : chooseVariant first second name = .ok content) :
    readFullVariant first second text =
      (do
        let rest ← readColon behind
        let (value, rest) ← content rest
        let rest ← closeVariant rest
        return (value, rest)) := by
  simp only [readFullVariant, front, named, chosen, bind, Except.bind]

theorem readFullVariant_unknown
    (front : skipBlanks text = '\x7b' :: inside)
    (named : readVariantName inside = .ok (name, behind))
    (notFirst : name ≠ first.1) (notSecond : name ≠ second.1) :
    readFullVariant first second text =
      .error (.unknownVariant name first.1 second.1) := by
  simp only [readFullVariant, front, named, chooseVariant, if_neg notFirst,
    if_neg notSecond, bind, Except.bind]

theorem readFullVariant_empty {blanks rest : List Char}
    (blank : Blanks blanks)
    (front : skipBlanks text = '\x7b' :: (blanks ++ '\x7d' :: rest)) :
    readFullVariant first second text = .error .expectedValue := by
  have closed := skipBlanks_append_cons blank
    (show isSeparator '\x7d' = false by decide) rest
  simp only [readFullVariant, front, readVariantName, closed, bind,
    Except.bind]

variable {FirstMeans SecondMeans : Document → α → Prop}

/-- The first member of an object decides on the variant, and no other may
follow. -/
theorem readFullVariant_iff (distinct : first.1 ≠ second.1)
    {value : Document} {others : List (String × Document)}
    {inner rest : List Char}
    (front : skipBlanks text = '\x7b' :: (inner ++ '\x7d' :: rest))
    (written : Writes (.members ((name, value) :: others)) inner)
    (readsFirst : name = first.1 → Reads first.2 value (FirstMeans value))
    (readsSecond : name = second.1 →
      Reads second.2 value (SecondMeans value))
    {result : α} {left : List Char} :
    readFullVariant first second text = .ok (result, left) ↔
      (name = first.1 ∧ FirstMeans value result ∨
        name = second.1 ∧ SecondMeans value result) ∧
      others = [] ∧ left = rest := by
  obtain ⟨beforeColon, afterColon, valueText, after, further, blankColon,
    blankValue, isValue, blankAfter, more, named⟩ :=
    readVariantName_member written rest
  have content {reader : Reader α} {Means : α → Prop}
      (reads : Reads reader value Means) :=
    readContent_iff blankColon blankValue isValue reads blankAfter more rest
      result left
  by_cases isFirst : name = first.1
  · have chosen : chooseVariant first second name = .ok first.2 :=
      if_pos isFirst
    have notSecond : name ≠ second.1 := fun same =>
      distinct (isFirst.symm.trans same)
    rw [readFullVariant_chosen front named chosen,
      content (readsFirst isFirst)]
    simp only [isFirst, true_and, isFirst ▸ notSecond, false_and, or_false]
  · by_cases isSecond : name = second.1
    · have chosen : chooseVariant first second name = .ok second.2 :=
        (if_neg isFirst).trans (if_pos isSecond)
      rw [readFullVariant_chosen front named chosen,
        content (readsSecond isSecond)]
      simp only [isSecond, true_and, isSecond ▸ isFirst, false_and,
        false_or]
    · rw [readFullVariant_unknown front named isFirst isSecond]
      simp [isFirst, isSecond]

/-- A variant with content is an object with a single member. -/
theorem reads_fullVariant (distinct : first.1 ≠ second.1)
    {document : Document}
    (readsFirst : ∀ members, document = .object members →
      ∀ value ∈ valuesOf first.1 members,
        Reads first.2 value (FirstMeans value))
    (readsSecond : ∀ members, document = .object members →
      ∀ value ∈ valuesOf second.1 members,
        Reads second.2 value (SecondMeans value)) :
    Reads (readFullVariant first second) document (fun result =>
      ∃ value,
        document = .object [(first.1, value)] ∧ FirstMeans value result ∨
        document = .object [(second.1, value)] ∧
          SecondMeans value result) := by
  intro blanks text rest blank written _ result left
  have front := skipBlanks_document blank written rest
  obtain ⟨head, tail, rfl, begins⟩ := written.exists_cons
  by_cases brace : head = '\x7b'
  · subst brace
    obtain ⟨members, rfl⟩ := begins.exists_object
    cases written with
    | @object _ inner isMembers =>
        rw [List.cons_append, List.append_assoc, List.singleton_append]
          at front ⊢
        cases members with
        | nil =>
            cases isMembers with
            | noMembers inner =>
                rw [readFullVariant_empty inner front]
                simp
        | cons member others =>
            obtain ⟨name, value⟩ := member
            rw [readFullVariant_iff distinct front isMembers
              (fun same => readsFirst _ rfl value (mem_valuesOf_self same))
              (fun same => readsSecond _ rfl value (mem_valuesOf_self same))]
            simp only [Document.object.injEq, List.cons.injEq,
              Prod.mk.injEq]
            constructor
            · intro accepted
              obtain ⟨chosen, single, rfl⟩ := accepted
              refine ⟨⟨value, ?_⟩, rfl⟩
              simpa only [single, and_true] using chosen
            · intro meant
              obtain ⟨⟨_, ⟨⟨⟨named, rfl⟩, single⟩, means⟩ |
                ⟨⟨⟨named, rfl⟩, single⟩, means⟩⟩, rfl⟩ := meant
              · exact ⟨.inl ⟨named, means⟩, single, rfl⟩
              · exact ⟨.inr ⟨named, means⟩, single, rfl⟩
  · have noObject (members : List (String × Document)) :
        document ≠ .object members := by
      rintro rfl
      exact brace begins
    rw [readFullVariant, front, List.cons_append]
    split
    · next same => cases same
    · simp [noObject, bind_eq_ok_iff]
    · next same => exact absurd (List.cons.inj same).1 brace
    · simp [noObject]

end FullVariant

/-! ## Documents -/

/-- A text that writes a document is read as the document is meant. -/
theorem readDocument_iff {α : Type} {reader : Reader α} {text : String}
    {document : Document} (written : WritesDocument document text.toList)
    {Means : α → Prop} (reads : Reads reader document Means) {value : α} :
    readDocument reader text = .ok value ↔ Means value := by
  obtain ⟨before, inner, after, textEq, blankBefore, writes, blankAfter⟩ :=
    written
  have ends : EndsNumber after := by
    have ended := endsNumber_append blankAfter endsNumber_nil
    rwa [List.append_nil] at ended
  have isRead := reads before inner after blankBefore writes ends
  simp only [readDocument, textEq, bind_eq_ok_iff, Prod.exists, isRead]
  constructor
  · intro accepted
    obtain ⟨other, _, ⟨means, rfl⟩, returned⟩ := accepted
    simp only [skipBlanks_of_blanks blankAfter, List.isEmpty_nil, if_true,
      pure, Except.pure, Except.ok.injEq] at returned
    exact returned ▸ means
  · intro means
    refine ⟨value, after, ⟨means, rfl⟩, ?_⟩
    simp only [skipBlanks_of_blanks blankAfter, List.isEmpty_nil, if_true]
    rfl

end TemplateLint.Json
