import Mathlib.Data.List.Forall2
import TemplateLint.Json.Record
import TemplateLint.Proofs.Json.Skipping

/-!
# Reading what has been written

A reader in front of a written document succeeds exactly with the values that
the document means to it, and stops behind the document.
-/

namespace TemplateLint.Json

theorem bind_eq_ok_iff {ε α β : Type} {first : Except ε α}
    {next : α → Except ε β} {result : β} :
    (first >>= next) = .ok result ↔
      ∃ value, first = .ok value ∧ next value = .ok result := by
  cases first with
  | error fault => simp [bind, Except.bind]
  | ok value => simp [bind, Except.bind]

/-- The reader gives the values that `Means` allows for the document. -/
def Reads {α : Type} (reader : Reader α) (document : Document)
    (Means : α → Prop) : Prop :=
  ∀ (blanks text rest : List Char), Blanks blanks →
    Writes (.document document) text → EndsNumber rest →
    ∀ (value : α) (left : List Char),
      reader (blanks ++ (text ++ rest)) = .ok (value, left) ↔
        Means value ∧ left = rest

theorem Reads.congr {α : Type} {reader : Reader α} {document : Document}
    {Means Others : α → Prop} (reads : Reads reader document Means)
    (same : ∀ value, Means value ↔ Others value) :
    Reads reader document Others := by
  intro blanks text rest blank written ends value left
  rw [reads blanks text rest blank written ends, same]

theorem Reads.map {α β : Type} {reader : Reader α} {document : Document}
    {Means : α → Prop} (reads : Reads reader document Means)
    (wrap : α → β) :
    Reads
      (fun text => do
        let (value, rest) ← reader text
        return (wrap value, rest))
      document (fun wrapped => ∃ value, Means value ∧ wrapped = wrap value) :=
    by
  intro blanks text rest blank written ends wrapped left
  have isRead := reads blanks text rest blank written ends
  simp only [bind_eq_ok_iff, Prod.exists, isRead, pure, Except.pure,
    Except.ok.injEq, Prod.mk.injEq]
  constructor
  · intro accepted
    obtain ⟨value, _, ⟨means, rfl⟩, rfl, rfl⟩ := accepted
    exact ⟨⟨value, means, rfl⟩, rfl⟩
  · intro meant
    obtain ⟨⟨value, means, rfl⟩, rfl⟩ := meant
    exact ⟨value, left, ⟨means, rfl⟩, rfl, rfl⟩

/-! ## Blanks in front of a document -/

theorem skipBlanks_document {document : Document} {blanks text : List Char}
    (blank : Blanks blanks) (written : Writes (.document document) text)
    (rest : List Char) :
    skipBlanks (blanks ++ (text ++ rest)) = text ++ rest := by
  obtain ⟨head, tail, rfl, begins⟩ := written.exists_cons
  exact skipBlanks_append_cons blank (isSeparator_of_begins begins)
    (tail ++ rest)

/-! ## Numbers -/

/-- The document is a number of a 32-bit word, written with digits alone. -/
def IsWord32 (document : Document) (value : UInt32) : Prop :=
  ∃ digits, document = .number ⟨false, digits, none, none⟩ ∧
    digitsValue digits = value.toNat

theorem toFound_integer {negative : Bool} {whole : List Char}
    {fraction : Option (List Char)} {exponent : Option (Bool × List Char)}
    {value : Int}
    (found : NumberLiteral.toFound ⟨negative, whole, fraction, exponent⟩ =
      .ok (.integer value)) :
    fraction = none ∧ exponent = none ∧
      (negative = true ∧ value < 0 ∨
        negative = false ∧ value = digitsValue whole) := by
  cases negative with
  | true =>
      simp only [NumberLiteral.toFound, if_true] at found
      split at found
      · next isExact =>
          simp only [Bool.and_eq_true, Option.isNone_iff_eq_none,
            decide_eq_true_eq] at isExact
          obtain ⟨⟨noFraction, noExponent⟩, positive, _⟩ := isExact
          injection found with found
          injection found with same
          exact ⟨noFraction, noExponent, .inl ⟨rfl, by omega⟩⟩
      · split at found <;> simp at found
  | false =>
      simp only [NumberLiteral.toFound, Bool.false_eq_true, if_false]
        at found
      split at found
      · next isExact =>
          simp only [Bool.and_eq_true, Option.isNone_iff_eq_none] at isExact
          obtain ⟨⟨noFraction, noExponent⟩, _⟩ := isExact
          injection found with found
          injection found with same
          exact ⟨noFraction, noExponent, .inr ⟨rfl, same.symm⟩⟩
      · split at found <;> simp at found

theorem toFound_digits {digits : List Char}
    (small : digitsValue digits < UInt32.size) :
    NumberLiteral.toFound ⟨false, digits, none, none⟩ =
      .ok (.integer (digitsValue digits)) := by
  have fits : digitsValue digits ≤ greatestWord64 := by
    have smaller : UInt32.size - 1 ≤ greatestWord64 := by decide
    omega
  simp [NumberLiteral.toFound, fits]

/-- What is understood as a number of a 32-bit word is written as one. -/
theorem toFound_eq_word32_iff {literal : NumberLiteral} {value : UInt32} :
    literal.toFound = .ok (.integer value.toNat) ↔
      IsWord32 (.number literal) value := by
  constructor
  · intro found
    obtain ⟨negative, digits, fraction, exponent⟩ := literal
    obtain ⟨rfl, rfl, ⟨_, below⟩ | ⟨rfl, valueEq⟩⟩ := toFound_integer found
    · omega
    · exact ⟨digits, rfl, (Int.ofNat.inj valueEq).symm⟩
  · intro meant
    obtain ⟨digits, same, valueEq⟩ := meant
    obtain rfl : literal = _ := Document.number.inj same
    have small : digitsValue digits < UInt32.size :=
      valueEq ▸ value.toNat_lt
    rw [toFound_digits small, valueEq]

theorem readNumber_append {literal : NumberLiteral} {text rest : List Char}
    (written : WritesNumber literal text) (ends : EndsNumber rest)
    {found : Found} {left : List Char} :
    readNumber (text ++ rest) = .ok (found, left) ↔
      literal.toFound = .ok found ∧ left = rest := by
  simp only [readNumber, readNumberLiteral_append _ written ends,
    bind_eq_ok_iff, Except.ok.injEq, exists_eq_left', pure, Except.pure,
    Prod.mk.injEq]
  constructor
  · intro accepted
    obtain ⟨other, isFound, rfl, rfl⟩ := accepted
    exact ⟨isFound, rfl⟩
  · intro meant
    obtain ⟨isFound, rfl⟩ := meant
    exact ⟨found, isFound, rfl, rfl⟩

theorem reads_word32_number (literal : NumberLiteral) :
    Reads readWord32 (.number literal) (IsWord32 (.number literal)) := by
  intro blanks text rest blank written ends value left
  rw [readWord32, skipBlanks_document blank written]
  cases written with
  | number isNumber =>
      have read := @readNumber_append _ _ rest isNumber ends
      obtain ⟨head, tail, rfl, begins⟩ := isNumber.exists_cons
      simp only [List.cons_append] at read ⊢
      rw [if_pos begins, bind_eq_ok_iff]
      constructor
      · intro accepted
        obtain ⟨⟨found, behind⟩, isRead, chosen⟩ := accepted
        obtain ⟨isFound, rfl⟩ := read.mp isRead
        cases found with
        | integer whole =>
            -- The bounds make the integer the number of a word.
            simp only at chosen
            split at chosen
            · next bounds =>
                injection chosen with chosen
                injection chosen with valueEq restEq
                have wholeEq : whole = value.toNat := by
                  rw [← valueEq, UInt32.toNat_ofNat_of_lt' (by omega)]
                  omega
                rw [wholeEq] at isFound
                exact ⟨toFound_eq_word32_iff.mp isFound, restEq.symm⟩
            · cases chosen
        | null | boolean _ | double _ | text _ | list | object
        | bareVariant => cases chosen
      · intro means
        obtain ⟨isWord, rfl⟩ := means
        have isFound := toFound_eq_word32_iff.mpr isWord
        have small : value.toNat < UInt32.size := value.toNat_lt
        refine ⟨_, read.mpr ⟨isFound, rfl⟩, ?_⟩
        simp only
        rw [if_pos ⟨Int.natCast_nonneg _, by omega⟩, Int.toNat_natCast,
          UInt32.ofNat_toNat]
        rfl

theorem reads_word32 (document : Document) :
    Reads readWord32 document (IsWord32 document) := by
  intro blanks text rest blank written ends value left
  obtain ⟨head, tail, rfl, begins⟩ := written.exists_cons
  by_cases number : head = '-' ∨ isDigit head = true
  · obtain ⟨literal, rfl⟩ := begins.exists_number number
    exact reads_word32_number literal blanks (head :: tail) rest blank written
      ends value left
  · have noWord : ¬IsWord32 document value := by
      intro isWord
      obtain ⟨digits, rfl, _⟩ := isWord
      exact number begins
    rw [readWord32, skipBlanks_document blank written, List.cons_append]
    simp [number, noWord]

/-! ## Texts -/

theorem readLiteral_text {value : String} {tail : List Char}
    (written : Writes (.document (.text value)) ('"' :: tail))
    (rest : List Char) :
    readLiteral .paired .plain (tail ++ rest) =
      .ok (value.toList, rest) := by
  cases written with
  | text isText =>
      rw [List.append_assoc, List.singleton_append, String.toList_ofList]
      exact readLiteral_of_writesText isText rest

theorem reads_string (document : Document) :
    Reads readString document (fun value => document = .text value) := by
  intro blanks text rest blank written _ value left
  obtain ⟨head, tail, rfl, begins⟩ := written.exists_cons
  rw [readString, skipBlanks_document blank written, List.cons_append]
  by_cases quote : head = '"'
  · subst quote
    obtain ⟨content, rfl⟩ := begins.exists_text
    simp only [readLiteral_text written, bind, Except.bind, pure,
      Except.pure, String.ofList_toList]
    simp only [Except.ok.injEq, Prod.mk.injEq, Document.text.injEq, eq_comm]
  · have other : document ≠ .text value := by
      rintro rfl
      exact quote begins
    split
    · next same => exact absurd (List.cons.inj same).1 quote
    · simp [other]

/-! ## Lists -/

/-- All items of a list, or those behind one that has been read. -/
def itemsPart (items : List Document) : Bool → Part
  | true => .items items
  | false => .moreItems items

section Items

variable {first : Bool} {before text : List Char}

theorem nextItem_bracket {rest : List Char}
    (front : skipBlanks text = ']' :: rest) :
    nextItem first text = .ok none := by
  simp only [nextItem, front]

theorem nextItem_first {head : Char} {rest : List Char}
    (front : skipBlanks text = head :: rest) (notEnd : head ≠ ']') :
    nextItem true text = .ok (some (head :: rest)) := by
  simp [nextItem, front]

theorem nextItem_comma {head : Char} {further rest : List Char}
    (comma : skipBlanks text = ',' :: further)
    (front : skipBlanks further = head :: rest) (notEnd : head ≠ ']') :
    nextItem false text = .ok (some (head :: rest)) := by
  simp [nextItem, comma, front, notEnd]

theorem nextItem_none (blank : Blanks before)
    (written : Writes (itemsPart [] first) text) (rest : List Char) :
    nextItem first (before ++ (text ++ ']' :: rest)) = .ok none ∧
      Blanks text := by
  have inner : Blanks text := by
    cases first with
    | true =>
        cases written with
        | noItems inner => exact inner
    | false =>
        cases written with
        | noMoreItems => exact blanks_nil
  have front : skipBlanks (before ++ (text ++ ']' :: rest)) =
      ']' :: rest := by
    rw [skipBlanks_append blank]
    exact skipBlanks_append_cons inner (by decide) rest
  exact ⟨nextItem_bracket front, inner⟩

/-- The next item is read from where it begins. -/
theorem exists_nextItem {item : Document} {items : List Document}
    (blank : Blanks before)
    (written : Writes (itemsPart (item :: items) first) text)
    (rest : List Char) :
    ∃ itemText after further, Writes (.document item) itemText ∧
      Blanks after ∧ Writes (.moreItems items) further ∧
      further.length < text.length ∧
      nextItem first (before ++ (text ++ ']' :: rest)) =
        .ok (some (itemText ++ (after ++ (further ++ ']' :: rest)))) := by
  have split {text : List Char}
      (written : Writes (.items (item :: items)) text) :
      ∃ head tail after further, Writes (.document item) (head :: tail) ∧
        Blanks after ∧ Writes (.moreItems items) further ∧
        further.length < text.length ∧ head ≠ ']' ∧
        skipBlanks (text ++ ']' :: rest) =
          head :: (tail ++ (after ++ (further ++ ']' :: rest))) := by
    cases written with
    | @item _ _ inFront itemText after further blankFront document blankAfter
        more =>
        have front := skipBlanks_document blankFront document
          (after ++ (further ++ ']' :: rest))
        obtain ⟨head, tail, rfl, begins⟩ := document.exists_cons
        refine ⟨head, tail, after, further, document, blankAfter, more, ?_,
          ?_, ?_⟩
        · simp only [List.length_append, List.length_cons]
          omega
        · rintro rfl
          exact Document.not_begins_bracket begins
        · simpa only [List.append_assoc, List.cons_append] using front
  cases first with
  | true =>
      obtain ⟨head, tail, after, further, document, blankAfter, more,
        shorter, notEnd, front⟩ := split written
      refine ⟨head :: tail, after, further, document, blankAfter, more,
        shorter, nextItem_first ?_ notEnd⟩
      exact (skipBlanks_append blank _).trans front
  | false =>
      cases written with
      | moreItems behind =>
          obtain ⟨head, tail, after, further, document, blankAfter, more,
            shorter, notEnd, front⟩ := split behind
          refine ⟨head :: tail, after, further, document, blankAfter, more,
            Nat.lt_succ_of_lt shorter, nextItem_comma ?_ front notEnd⟩
          exact skipBlanks_append_cons blank (by decide) _

end Items

theorem Blanks.append {blanks others : List Char} (blank : Blanks blanks)
    (blankOthers : Blanks others) : Blanks (blanks ++ others) := by
  intro character member
  rcases List.mem_append.mp member with inFirst | inSecond
  · exact blank character inFirst
  · exact blankOthers character inSecond

/-- Items are read in turn, up to the blanks in front of the bracket. -/
theorem readItems_iff {α : Type} {reader : Reader α}
    {Means : Document → α → Prop} {items : List Document}
    (reads : ∀ item ∈ items, Reads reader item (Means item))
    {first : Bool} {before text : List Char} (blank : Blanks before)
    (written : Writes (itemsPart items first) text) {fuel : Nat}
    (enough : text.length < fuel) (rest : List Char) :
    ∃ last, Blanks last ∧ ∀ values left,
      readItems reader fuel first (before ++ (text ++ ']' :: rest)) =
          .ok (values, left) ↔
        List.Forall₂ Means items values ∧ left = last ++ ']' :: rest := by
  -- Blanks behind an item are left standing, and are in front of the next one.
  induction items generalizing first before text fuel with
  | nil =>
      obtain ⟨fuel, rfl⟩ : ∃ less, fuel = less + 1 :=
        Nat.exists_eq_add_one_of_ne_zero (by omega)
      obtain ⟨ended, inner⟩ := nextItem_none blank written rest
      refine ⟨before ++ text, blank.append inner, fun values left => ?_⟩
      simp only [readItems, ended, bind, Except.bind, pure, Except.pure,
        Except.ok.injEq, Prod.mk.injEq, List.forall₂_nil_left_iff,
        List.append_assoc, eq_comm]
  | cons item items inductionHypothesis =>
      obtain ⟨fuel, rfl⟩ : ∃ less, fuel = less + 1 :=
        Nat.exists_eq_add_one_of_ne_zero (by omega)
      obtain ⟨itemText, after, further, document, blankAfter, more, shorter,
        next⟩ := exists_nextItem blank written rest
      obtain ⟨last, blankLast, behind⟩ := inductionHypothesis
        (fun other member => reads other (List.mem_cons_of_mem item member))
        blankAfter (show Writes (itemsPart items false) further from more)
        (show further.length < fuel by omega)
      have itemRead := reads item List.mem_cons_self [] itemText _ blanks_nil
        document (endsNumber_append blankAfter
          (endsNumber_moreItems more rest))
      refine ⟨last, blankLast, fun values left => ?_⟩
      rw [List.nil_append] at itemRead
      simp only [readItems, next, bind_eq_ok_iff, Except.ok.injEq,
        exists_eq_left', Prod.exists, itemRead, pure, Except.pure,
        Prod.mk.injEq, List.forall₂_cons_left_iff]
      constructor
      · intro accepted
        obtain ⟨value, _, ⟨means, rfl⟩, others, behindOthers, isRead, rfl,
          rfl⟩ := accepted
        obtain ⟨meanOthers, rfl⟩ := (behind others behindOthers).mp isRead
        exact ⟨⟨value, others, means, meanOthers, rfl⟩, rfl⟩
      · intro meant
        obtain ⟨⟨value, others, means, meanOthers, rfl⟩, rfl⟩ := meant
        exact ⟨value, _, ⟨means, rfl⟩, others, _,
          (behind others _).mpr ⟨meanOthers, rfl⟩, rfl, rfl⟩

theorem closeList_bracket {blanks : List Char} (blank : Blanks blanks)
    (rest : List Char) : closeList (blanks ++ ']' :: rest) = .ok rest := by
  have front := skipBlanks_append_cons blank
    (show isSeparator ']' = false by decide) rest
  simp only [closeList, front]

/-- A list is read item by item, in order. -/
theorem reads_list {α : Type} {reader : Reader α}
    {Means : Document → α → Prop} {document : Document}
    (reads : ∀ items, document = .list items →
      ∀ item ∈ items, Reads reader item (Means item)) :
    Reads (readList reader) document (fun values =>
      ∃ items, document = .list items ∧
        List.Forall₂ Means items values) := by
  intro blanks text rest blank written _ values left
  obtain ⟨head, tail, rfl, begins⟩ := written.exists_cons
  rw [readList, skipBlanks_document blank written, List.cons_append]
  by_cases bracket : head = '['
  · subst bracket
    obtain ⟨items, rfl⟩ := begins.exists_list
    cases written with
    | @list _ inner isItems =>
        rw [List.append_assoc, List.singleton_append]
        obtain ⟨last, blankLast, readAll⟩ :=
          readItems_iff (reads items rfl) blanks_nil
            (show Writes (itemsPart items true) inner from isItems)
            (show inner.length < (inner ++ ']' :: rest).length + 1 by
              simp only [List.length_append]; omega) rest
        rw [List.nil_append] at readAll
        simp only [bind_eq_ok_iff, Prod.exists, readAll, pure, Except.pure,
          Except.ok.injEq, Prod.mk.injEq, Document.list.injEq,
          exists_eq_left']
        constructor
        · intro accepted
          obtain ⟨others, _, ⟨means, rfl⟩, behind, closed, rfl, rfl⟩ := accepted
          rw [closeList_bracket blankLast] at closed
          exact ⟨means, (Except.ok.inj closed).symm⟩
        · intro meant
          obtain ⟨means, rfl⟩ := meant
          exact ⟨values, _, ⟨means, rfl⟩, left,
            closeList_bracket blankLast left, rfl, rfl⟩
  · have noList (items : List Document) : document ≠ .list items := by
      rintro rfl
      exact bracket begins
    split
    · next same => exact absurd (List.cons.inj same).1 bracket
    · simp [noList]

end TemplateLint.Json
