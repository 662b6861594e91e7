import Mathlib.Data.List.Nodup
import TemplateLint.Proofs.Json.Reading

/-!
# Reading records that are written as objects

A record is made of slots, each of which is filled by the member of its name.
Reading an object succeeds exactly if no slot has two members and each member
that fills a slot means something to it; members without a slot have no
influence.
-/

namespace TemplateLint.Json

/-- A place in a record: how its content is read, what a document means to it,
and where the content stands in the part of the record that has been read. -/
structure Slot (Partial : Type) : Type 1 where
  name : String
  mayLack : Bool
  Content : Type
  read : Reader Content
  Means : Document → Content → Prop
  get : Partial → Option Content
  set : Partial → Content → Partial

variable {Partial : Type}

def Slot.field (slot : Slot Partial) : Field Partial where
  name := slot.name
  mayLack := slot.mayLack
  isFilled := fun state => (slot.get state).isSome
  fill := fun state text => do
    let (content, rest) ← slot.read text
    return (slot.set state content, rest)

theorem Slot.fill_eq_ok_iff (slot : Slot Partial) {state next : Partial}
    {text left : List Char} :
    slot.field.fill state text = .ok (next, left) ↔
      ∃ content, slot.read text = .ok (content, left) ∧
        next = slot.set state content := by
  simp only [Slot.field, bind_eq_ok_iff, Prod.exists, pure, Except.pure,
    Except.ok.injEq, Prod.mk.injEq]
  constructor
  · intro accepted
    obtain ⟨content, _, read, rfl, rfl⟩ := accepted
    exact ⟨content, read, rfl⟩
  · intro meant
    obtain ⟨content, read, rfl⟩ := meant
    exact ⟨content, left, read, rfl, rfl⟩

/-- The values of all members of a name. -/
def valuesOf (name : String) (members : List (String × Document)) :
    List Document :=
  (members.filter fun member => member.1 == name).map Prod.snd

section ValuesOf

variable {name : String} {member : String × Document}
  {members : List (String × Document)}

theorem valuesOf_cons_of_eq (named : member.1 = name) :
    valuesOf name (member :: members) =
      member.2 :: valuesOf name members := by
  simp [valuesOf, named]

theorem valuesOf_cons_of_ne (other : member.1 ≠ name) :
    valuesOf name (member :: members) = valuesOf name members := by
  simp [valuesOf, other]

theorem mem_valuesOf_self (named : member.1 = name) :
    member.2 ∈ valuesOf name (member :: members) := by
  rw [valuesOf_cons_of_eq named]
  exact List.mem_cons_self

theorem mem_valuesOf_cons {value : Document}
    (isValue : value ∈ valuesOf name members) :
    value ∈ valuesOf name (member :: members) := by
  by_cases named : member.1 = name
  · rw [valuesOf_cons_of_eq named]
    exact List.mem_cons_of_mem member.2 isValue
  · rwa [valuesOf_cons_of_ne named]

end ValuesOf

/-- No member of the name, or exactly one, which means the content. -/
def Holds {α : Type} (members : List (String × Document)) (name : String)
    (Means : Document → α → Prop) : Option α → Prop
  | none => valuesOf name members = []
  | some content =>
      ∃ value, valuesOf name members = [value] ∧ Means value content

/-- The members of these names are the same, up to their order. -/
def SameMembers (names : List String)
    (members others : List (String × Document)) : Prop :=
  (members.filter fun member => names.contains member.1).Perm
    (others.filter fun member => names.contains member.1)

theorem SameMembers.valuesOf_perm {names : List String}
    {members others : List (String × Document)}
    (same : SameMembers names members others) {name : String}
    (known : name ∈ names) :
    (valuesOf name members).Perm (valuesOf name others) := by
  have narrow (listed : List (String × Document)) :
      (listed.filter fun member => names.contains member.1).filter
          (fun member => member.1 == name) =
        listed.filter fun member => member.1 == name := by
    rw [List.filter_filter]
    refine List.filter_congr fun member _ => ?_
    by_cases named : member.1 = name
    · simp [named, known]
    · simp [named]
  have kept := (same.filter fun member => member.1 == name).map Prod.snd
  rwa [narrow, narrow] at kept

/-- What is held depends neither on members of other names nor on the order of
members. -/
theorem SameMembers.holds_iff {α : Type} {names : List String}
    {members others : List (String × Document)}
    (same : SameMembers names members others) {name : String}
    (known : name ∈ names) {Means : Document → α → Prop} {held : Option α} :
    Holds members name Means held ↔ Holds others name Means held := by
  have perm := same.valuesOf_perm known
  cases held with
  | none =>
      change valuesOf name members = [] ↔ valuesOf name others = []
      rw [← List.length_eq_zero_iff, perm.length_eq, List.length_eq_zero_iff]
  | some content =>
      refine exists_congr fun value => and_congr_left fun _ => ?_
      constructor
      · intro single
        exact List.singleton_perm.mp (single ▸ perm) |>.symm
      · intro single
        exact List.perm_singleton.mp (single ▸ perm)

/-! ## Members one after another -/

/-- What one member does to the part of the record that has been read. -/
def Enters (slots : List (Slot Partial)) (member : String × Document)
    (state next : Partial) : Prop :=
  match slots.find? (fun slot => slot.name == member.1) with
  | none => next = state
  | some slot =>
      slot.get state = none ∧
        ∃ content, slot.Means member.2 content ∧
          next = slot.set state content

/-- What members in order do to it. -/
def Gathers (slots : List (Slot Partial)) :
    List (String × Document) → Partial → Partial → Prop
  | [], state, last => last = state
  | member :: members, state, last =>
      ∃ next, Enters slots member state next ∧
        Gathers slots members next last

theorem readColon_colon {blanks : List Char} (blank : Blanks blanks)
    (rest : List Char) : readColon (blanks ++ ':' :: rest) = .ok rest := by
  have front := skipBlanks_append_cons blank
    (show isSeparator ':' = false by decide) rest
  simp only [readColon, front]

/-- A member from behind the first quote of its name. -/
inductive WritesMember : String × Document → List Char → Prop
  | parts {name nameText beforeColon afterColon text : List Char}
      {value : Document} :
      WritesText name nameText → Blanks beforeColon → Blanks afterColon →
      Writes (.document value) text →
      WritesMember (String.ofList name, value)
        (nameText ++ '"' :: (beforeColon ++ ':' :: (afterColon ++ text)))

theorem readMember_iff {slots : List (Slot Partial)}
    {member : String × Document} {text rest : List Char}
    (written : WritesMember member text) (ends : EndsNumber rest)
    (reads : ∀ slot ∈ slots, slot.name = member.1 →
      Reads slot.read member.2 (slot.Means member.2))
    {state next : Partial} {left : List Char} :
    readMember (slots.map Slot.field) state (text ++ rest) =
        .ok (next, left) ↔
      Enters slots member state next ∧ left = rest := by
  obtain @⟨name, nameText, beforeColon, afterColon, valueText, value, isName,
    blankColon, blankValue, document⟩ := written
  have colon :=
    readColon_colon blankColon (afterColon ++ (valueText ++ rest))
  have chosen :
      (slots.map Slot.field).find?
          (fun field => field.name == String.ofList name) =
        (slots.find? fun slot => slot.name == String.ofList name).map
          Slot.field := by
    rw [List.find?_map]
    rfl
  simp only [List.append_assoc, List.cons_append, readMember,
    readLiteral_of_writesText isName, bind, Except.bind, chosen, Enters]
  cases found : slots.find? (fun slot => slot.name == String.ofList name) with
  | none =>
      -- A member without a slot is passed over, whatever its value is.
      simp only [Option.map_none, colon,
        skipValue_append blankValue document ends, pure, Except.pure,
        Except.ok.injEq, Prod.mk.injEq, eq_comm]
  | some slot =>
      have named := List.find?_some found
      simp only [beq_iff_eq] at named
      have isRead := reads slot (List.mem_of_find?_eq_some found) named
        afterColon valueText rest blankValue document ends
      simp only [Option.map_some]
      cases filled : slot.get state with
      | some content =>
          have isFilled : slot.field.isFilled state = true := by
            simp [Slot.field, filled]
          simp [isFilled]
      | none =>
          have isEmpty : slot.field.isFilled state = false := by
            simp [Slot.field, filled]
          simp only [isEmpty, Bool.false_eq_true, if_false, colon,
            slot.fill_eq_ok_iff, isRead, true_and]
          constructor
          · intro accepted
            obtain ⟨content, ⟨means, rfl⟩, rfl⟩ := accepted
            exact ⟨⟨content, means, rfl⟩, rfl⟩
          · intro meant
            obtain ⟨⟨content, means, rfl⟩, rfl⟩ := meant
            exact ⟨content, ⟨means, rfl⟩, rfl⟩

/-- All members of an object, or those behind one that has been read. -/
def membersPart (members : List (String × Document)) : Bool → Part
  | true => .members members
  | false => .moreMembers members

section Members

variable {first : Bool} {before text : List Char}

theorem nextMember_brace {rest : List Char}
    (front : skipBlanks text = '\x7d' :: rest) :
    nextMember first text = .ok none := by
  simp only [nextMember, front]

theorem nextMember_first {rest : List Char}
    (front : skipBlanks text = '"' :: rest) :
    nextMember true text = .ok (some rest) := by
  simp [nextMember, front]

theorem nextMember_comma {further rest : List Char}
    (comma : skipBlanks text = ',' :: further)
    (front : skipBlanks further = '"' :: rest) :
    nextMember false text = .ok (some rest) := by
  simp [nextMember, comma, front]

theorem nextMember_none (blank : Blanks before)
    (written : Writes (membersPart [] first) text) (rest : List Char) :
    nextMember first (before ++ (text ++ '\x7d' :: rest)) = .ok none ∧
      Blanks text := by
  have inner : Blanks text := by
    cases first with
    | true =>
        cases written with
        | noMembers inner => exact inner
    | false =>
        cases written with
        | noMoreMembers => exact blanks_nil
  have front : skipBlanks (before ++ (text ++ '\x7d' :: rest)) =
      '\x7d' :: rest := by
    rw [skipBlanks_append blank]
    exact skipBlanks_append_cons inner (by decide) rest
  exact ⟨nextMember_brace front, inner⟩

/-- Behind blanks the first member begins with the quote of its name. -/
theorem exists_member {member : String × Document}
    {members : List (String × Document)}
    (written : Writes (.members (member :: members)) text) :
    ∃ memberText after further, WritesMember member memberText ∧
      Blanks after ∧ Writes (.moreMembers members) further ∧
      further.length < text.length ∧ ∀ rest,
        skipBlanks (text ++ rest) =
          '"' :: (memberText ++ (after ++ (further ++ rest))) := by
  cases written with
  | @member _ _ _ inFront nameText beforeColon afterColon valueText after
      further blankFront isName blankColon blankValue document blankAfter
      more =>
      refine ⟨_, after, further, .parts isName blankColon blankValue
        document, blankAfter, more, ?_, fun rest => ?_⟩
      · simp only [List.length_append, List.length_cons]
        omega
      · simp only [List.append_assoc, List.cons_append]
        exact skipBlanks_append_cons blankFront (by decide) _

theorem exists_nextMember {member : String × Document}
    {members : List (String × Document)} (blank : Blanks before)
    (written : Writes (membersPart (member :: members) first) text)
    (rest : List Char) :
    ∃ memberText after further, WritesMember member memberText ∧
      Blanks after ∧ Writes (.moreMembers members) further ∧
      further.length < text.length ∧
      nextMember first (before ++ (text ++ '\x7d' :: rest)) =
        .ok (some (memberText ++
          (after ++ (further ++ '\x7d' :: rest)))) := by
  cases first with
  | true =>
      obtain ⟨memberText, after, further, isMember, blankAfter, more,
        shorter, front⟩ := exists_member written
      exact ⟨memberText, after, further, isMember, blankAfter, more, shorter,
        nextMember_first ((skipBlanks_append blank _).trans (front _))⟩
  | false =>
      cases written with
      | moreMembers behind =>
          obtain ⟨memberText, after, further, isMember, blankAfter, more,
            shorter, front⟩ := exists_member behind
          refine ⟨memberText, after, further, isMember, blankAfter, more,
            Nat.lt_succ_of_lt shorter, nextMember_comma ?_ (front _)⟩
          exact skipBlanks_append_cons blank (by decide) _

end Members

/-- Members enter in turn, up to the blanks in front of the brace. -/
theorem readMembers_iff {slots : List (Slot Partial)}
    {members : List (String × Document)}
    (reads : ∀ slot ∈ slots, ∀ value ∈ valuesOf slot.name members,
      Reads slot.read value (slot.Means value))
    {first : Bool} {before text : List Char} (blank : Blanks before)
    (written : Writes (membersPart members first) text) {fuel : Nat}
    (enough : text.length < fuel) (rest : List Char) :
    ∃ last, Blanks last ∧ ∀ state final left,
      readMembers (slots.map Slot.field) fuel first state
          (before ++ (text ++ '\x7d' :: rest)) = .ok (final, left) ↔
        Gathers slots members state final ∧
          left = last ++ '\x7d' :: rest := by
  -- Blanks behind a member are left standing, and are in front of the next one.
  induction members generalizing first before text fuel with
  | nil =>
      obtain ⟨fuel, rfl⟩ : ∃ less, fuel = less + 1 :=
        Nat.exists_eq_add_one_of_ne_zero (by omega)
      obtain ⟨ended, inner⟩ := nextMember_none blank written rest
      refine ⟨before ++ text, blank.append inner, fun state final left => ?_⟩
      simp only [readMembers, ended, bind, Except.bind, pure, Except.pure,
        Except.ok.injEq, Prod.mk.injEq, Gathers, List.append_assoc, eq_comm]
  | cons member members inductionHypothesis =>
      obtain ⟨fuel, rfl⟩ : ∃ less, fuel = less + 1 :=
        Nat.exists_eq_add_one_of_ne_zero (by omega)
      obtain ⟨memberText, after, further, isMember, blankAfter, more,
        shorter, next⟩ := exists_nextMember blank written rest
      have valueIsRead : ∀ slot ∈ slots, slot.name = member.1 →
          Reads slot.read member.2 (slot.Means member.2) :=
        fun slot isSlot named =>
          reads slot isSlot member.2 (mem_valuesOf_self named.symm)
      have othersAreRead : ∀ slot ∈ slots,
          ∀ value ∈ valuesOf slot.name members,
            Reads slot.read value (slot.Means value) :=
        fun slot isSlot value isValue =>
          reads slot isSlot value (mem_valuesOf_cons isValue)
      obtain ⟨last, blankLast, behind⟩ := inductionHypothesis othersAreRead
        blankAfter
        (show Writes (membersPart members false) further from more)
        (show further.length < fuel by omega)
      have ends := endsNumber_append blankAfter
        (endsNumber_moreMembers more rest)
      refine ⟨last, blankLast, fun state final left => ?_⟩
      simp only [readMembers, next, bind_eq_ok_iff, Except.ok.injEq,
        exists_eq_left', Prod.exists,
        readMember_iff isMember ends valueIsRead, Gathers]
      constructor
      · intro accepted
        obtain ⟨entered, _, ⟨enters, rfl⟩, isRead⟩ := accepted
        obtain ⟨gathers, rfl⟩ := (behind entered final left).mp isRead
        exact ⟨⟨entered, enters, gathers⟩, rfl⟩
      · intro meant
        obtain ⟨⟨entered, enters, gathers⟩, rfl⟩ := meant
        exact ⟨entered, _, ⟨enters, rfl⟩,
          (behind entered final _).mpr ⟨gathers, rfl⟩⟩

/-! ## Slots independent of each other -/

/-- The slots of a record: each is told apart by its name, holds what is put
into it and nothing of the others, and together they are the record. -/
structure LawfulSlots (slots : List (Slot Partial)) : Prop where
  nodup : (slots.map Slot.name).Nodup
  get_set : ∀ slot ∈ slots, ∀ state content,
    slot.get (slot.set state content) = some content
  get_set_of_ne : ∀ slot ∈ slots, ∀ other ∈ slots,
    slot.name ≠ other.name → ∀ state content,
      slot.get (other.set state content) = slot.get state
  ext : ∀ state other, (∀ slot ∈ slots, slot.get state = slot.get other) →
    state = other

/-- How members change the content of a slot. -/
def Slot.Fills (slot : Slot Partial) (members : List (String × Document))
    (before after : Option slot.Content) : Prop :=
  valuesOf slot.name members = [] ∧ after = before ∨
    before = none ∧ ∃ value content,
      valuesOf slot.name members = [value] ∧ slot.Means value content ∧
        after = some content

section Fills

variable {slot : Slot Partial} {member : String × Document}
  {members : List (String × Document)} {before after : Option slot.Content}

theorem Slot.fills_nil : slot.Fills [] before after ↔ after = before := by
  simp [Slot.Fills, valuesOf]

theorem Slot.fills_cons_of_ne (other : member.1 ≠ slot.name) :
    slot.Fills (member :: members) before after ↔
      slot.Fills members before after := by
  simp only [Slot.Fills, valuesOf_cons_of_ne other]

theorem Slot.fills_cons_of_eq (named : member.1 = slot.name) :
    slot.Fills (member :: members) before after ↔
      before = none ∧ ∃ content, slot.Means member.2 content ∧
        slot.Fills members (some content) after := by
  simp only [Slot.Fills, valuesOf_cons_of_eq named, List.cons.injEq]
  constructor
  · intro fills
    rcases fills with ⟨absent, _⟩ |
      ⟨empty, _, content, ⟨rfl, single⟩, means, filled⟩
    · cases absent
    · exact ⟨empty, content, means, .inl ⟨single, filled⟩⟩
  · intro meant
    obtain ⟨empty, content, means, ⟨single, filled⟩ | ⟨full, _⟩⟩ := meant
    · exact .inr ⟨empty, _, content, ⟨rfl, single⟩, means, filled⟩
    · cases full

theorem Slot.fills_none_iff :
    slot.Fills members none after ↔
      Holds members slot.name slot.Means after := by
  cases after with
  | none => simp [Slot.Fills, Holds]
  | some content =>
      simp only [Slot.Fills, Holds, reduceCtorEq, and_false, false_or,
        true_and, Option.some.injEq]
      constructor
      · intro accepted
        obtain ⟨value, _, single, means, rfl⟩ := accepted
        exact ⟨value, single, means⟩
      · intro meant
        obtain ⟨value, single, means⟩ := meant
        exact ⟨value, content, single, means, rfl⟩

end Fills

/-- Gathering members fills each slot with the members of its own name. -/
theorem gathers_iff {slots : List (Slot Partial)}
    (lawful : LawfulSlots slots) {members : List (String × Document)}
    {state final : Partial} :
    Gathers slots members state final ↔
      ∀ slot ∈ slots,
        slot.Fills members (slot.get state) (slot.get final) := by
  -- A member changes its own slot and leaves the others as they are, so that
  -- what holds behind it holds of each slot apart.
  induction members generalizing state with
  | nil =>
      simp only [Gathers, Slot.fills_nil]
      exact ⟨fun same _ _ => by rw [same], lawful.ext final state⟩
  | cons member members inductionHypothesis =>
      simp only [Gathers, Enters, inductionHypothesis]
      cases found : slots.find? (fun slot => slot.name == member.1) with
      | none =>
          have otherName : ∀ slot ∈ slots, member.1 ≠ slot.name := by
            intro slot isSlot same
            have absent := List.find?_eq_none.mp found slot isSlot
            simp [same] at absent
          simp only [exists_eq_left]
          exact forall₂_congr fun slot isSlot =>
            (Slot.fills_cons_of_ne (otherName slot isSlot)).symm
      | some chosen =>
          have isChosen := List.mem_of_find?_eq_some found
          have named := List.find?_some found
          simp only [beq_iff_eq] at named
          have kept : ∀ slot ∈ slots, slot ≠ chosen → ∀ content,
              slot.get (chosen.set state content) = slot.get state ∧
                member.1 ≠ slot.name := by
            intro slot isSlot isOther content
            have otherName : slot.name ≠ chosen.name := fun same =>
              isOther (List.inj_on_of_nodup_map lawful.nodup isSlot isChosen
                same)
            exact ⟨lawful.get_set_of_ne slot isSlot chosen isChosen otherName
              state content, fun same => otherName (same ▸ named.symm)⟩
          constructor
          · intro entered slot isSlot
            obtain ⟨_, ⟨empty, content, means, rfl⟩, fills⟩ := entered
            by_cases same : slot = chosen
            · subst same
              have filled := fills slot isSlot
              rw [lawful.get_set slot isSlot] at filled
              exact (Slot.fills_cons_of_eq named.symm).mpr
                ⟨empty, content, means, filled⟩
            · obtain ⟨getEq, otherName⟩ := kept slot isSlot same content
              rw [Slot.fills_cons_of_ne otherName, ← getEq]
              exact fills slot isSlot
          · intro fills
            obtain ⟨empty, content, means, filled⟩ :=
              (Slot.fills_cons_of_eq named.symm).mp (fills chosen isChosen)
            refine ⟨_, ⟨empty, content, means, rfl⟩, fun slot isSlot => ?_⟩
            by_cases same : slot = chosen
            · subst same
              rwa [lawful.get_set slot isSlot]
            · obtain ⟨getEq, otherName⟩ := kept slot isSlot same content
              rw [getEq]
              exact (Slot.fills_cons_of_ne otherName).mp
                (fills slot isSlot)

/-! ## Records -/

theorem required_eq_ok_iff {α : Type} {name : String} {held : Option α}
    {value : α} : required name held = .ok value ↔ held = some value := by
  cases held <;> simp [required]

theorem closeObject_brace {blanks : List Char} (blank : Blanks blanks)
    (rest : List Char) :
    closeObject (blanks ++ '\x7d' :: rest) = .ok rest := by
  have front := skipBlanks_append_cons blank
    (show isSeparator '\x7d' = false by decide) rest
  simp only [closeObject, front]

/-- A record that is not written as a list is read exactly if it is an object
and its slots hold what completes it. -/
theorem reads_record {α : Type} {form : RecordForm Partial α}
    {slots : List (Slot Partial)} (lawful : LawfulSlots slots)
    (fields : form.fields = slots.map Slot.field)
    (empty : ∀ slot ∈ slots, slot.get form.empty = none)
    {document : Document} (noList : ∀ items, document ≠ .list items)
    (reads : ∀ members, document = .object members →
      ∀ slot ∈ slots, ∀ value ∈ valuesOf slot.name members,
        Reads slot.read value (slot.Means value)) :
    Reads form.read document (fun value =>
      ∃ members state, document = .object members ∧
        (∀ slot ∈ slots,
          Holds members slot.name slot.Means (slot.get state)) ∧
        form.complete state = .ok value) := by
  intro blanks text rest blank written _ value left
  obtain ⟨head, tail, rfl, begins⟩ := written.exists_cons
  rw [RecordForm.read, skipBlanks_document blank written, List.cons_append]
  by_cases brace : head = '\x7b'
  · subst brace
    obtain ⟨members, rfl⟩ := begins.exists_object
    cases written with
    | @object _ inner isMembers =>
        rw [List.append_assoc, List.singleton_append]
        obtain ⟨last, blankLast, readAll⟩ :=
          readMembers_iff (reads members rfl) blanks_nil
            (show Writes (membersPart members true) inner from isMembers)
            (show inner.length < (inner ++ '\x7d' :: rest).length + 1 by
              simp only [List.length_append]; omega) rest
        have gathers (state : Partial) :
            Gathers slots members form.empty state ↔ ∀ slot ∈ slots,
              Holds members slot.name slot.Means (slot.get state) := by
          rw [gathers_iff lawful]
          refine forall₂_congr fun slot isSlot => ?_
          rw [empty slot isSlot, Slot.fills_none_iff]
        rw [List.nil_append] at readAll
        simp only [bind_eq_ok_iff, Prod.exists, fields, readAll, gathers,
          pure, Except.pure, Except.ok.injEq, Prod.mk.injEq,
          Document.object.injEq, exists_and_left, exists_eq_left']
        constructor
        · intro accepted
          obtain ⟨state, _, ⟨holds, rfl⟩, _, completed, _, closed, rfl, rfl⟩ :=
            accepted
          rw [closeObject_brace blankLast] at closed
          exact ⟨⟨state, holds, completed⟩, (Except.ok.inj closed).symm⟩
        · intro meant
          obtain ⟨⟨state, holds, completed⟩, rfl⟩ := meant
          exact ⟨state, _, ⟨holds, rfl⟩, value, completed, left,
            closeObject_brace blankLast left, rfl, rfl⟩
  · have noObject (members : List (String × Document)) :
        document ≠ .object members := by
      rintro rfl
      exact brace begins
    split
    · next same =>
        rw [(List.cons.inj same).1] at begins
        obtain ⟨items, rfl⟩ := begins.exists_list
        exact absurd rfl (noList items)
    · next same => exact absurd (List.cons.inj same).1 brace
    · simp [noObject]

end TemplateLint.Json
