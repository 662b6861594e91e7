import TemplateLint.Proofs.Jsonc.Scanning

/-!
# Compact texts as commented documents

A reader of commented documents understands the compact text of every value
whose numbers are integers of 64 bits.  What it reads is the value itself, with
the members of objects as a map.
-/

namespace TemplateLint.Jsonc

open Json

/-! ## Values -/

mutual

/-- All numbers in a value are integers of 64 bits. -/
def IsExact : Value → Prop
  | .null => True
  | .boolean _ => True
  | .integer value => IsWide value
  | .double _ => False
  | .text _ => True
  | .list items => AreExact items
  | .object members => MembersAreExact members

def AreExact : List Value → Prop
  | [] => True
  | item :: rest => IsExact item ∧ AreExact rest

def MembersAreExact : List (String × Value) → Prop
  | [] => True
  | (_, value) :: rest => IsExact value ∧ MembersAreExact rest

end

mutual

/-- The kinds of the tokens of a compact text. -/
def tokensOf : Value → List Token
  | .null => [.null]
  | .boolean value => [.boolean value]
  | .integer value => [.number (integerText value)]
  | .double value => [.number value.render.toList]
  | .text value => [.text value]
  | .list items => .openBracket :: (tokensOfItems items ++ [.closeBracket])
  | .object members =>
      .openBrace :: (tokensOfMembers members ++ [.closeBrace])

def tokensOfItems : List Value → List Token
  | [] => []
  | [item] => tokensOf item
  | item :: next :: rest =>
      tokensOf item ++ .comma :: tokensOfItems (next :: rest)

def tokensOfMembers : List (String × Value) → List Token
  | [] => []
  | [(name, value)] => .text name :: .colon :: tokensOf value
  | (name, value) :: next :: rest =>
      .text name :: .colon ::
        (tokensOf value ++ .comma :: tokensOfMembers (next :: rest))

end

mutual

/-- The value with the members of its objects as a map: of equal names the
last one counts. -/
def withMaps : Value → Value
  | .list items => .list (itemsWithMaps items)
  | .object members => .object (NameMap.ofPairs (membersWithMaps members))
  | .null => .null
  | .boolean value => .boolean value
  | .integer value => .integer value
  | .double value => .double value
  | .text value => .text value

def itemsWithMaps : List Value → List Value
  | [] => []
  | item :: rest => withMaps item :: itemsWithMaps rest

def membersWithMaps : List (String × Value) → List (String × Value)
  | [] => []
  | (name, value) :: rest => (name, withMaps value) :: membersWithMaps rest

end

/-! ## Items and members one by one -/

theorem areExact_iff (items : List Value) :
    AreExact items ↔ ∀ item ∈ items, IsExact item := by
  induction items with
  | nil => simp [AreExact]
  | cons item rest inductionHypothesis =>
      rw [AreExact, inductionHypothesis, List.forall_mem_cons]

theorem membersAreExact_iff (members : List (String × Value)) :
    MembersAreExact members ↔ ∀ entry ∈ members, IsExact entry.2 := by
  induction members with
  | nil => simp [MembersAreExact]
  | cons entry rest inductionHypothesis =>
      rw [MembersAreExact, inductionHypothesis, List.forall_mem_cons]

theorem itemsWithMaps_of_forall {items : List Value}
    (kept : ∀ item ∈ items, withMaps item = item) :
    itemsWithMaps items = items := by
  induction items with
  | nil => rfl
  | cons item rest inductionHypothesis =>
      obtain ⟨itemKept, restKept⟩ := List.forall_mem_cons.mp kept
      rw [itemsWithMaps, itemKept, inductionHypothesis restKept]

theorem membersWithMaps_of_forall {members : List (String × Value)}
    (kept : ∀ entry ∈ members, withMaps entry.2 = entry.2) :
    membersWithMaps members = members := by
  induction members with
  | nil => rfl
  | cons entry rest inductionHypothesis =>
      obtain ⟨entryKept, restKept⟩ := List.forall_mem_cons.mp kept
      rw [membersWithMaps, entryKept, inductionHypothesis restKept]

/-! ## Scanning values -/

mutual

theorem scans_value (value : Value) (exact : IsExact value)
    {rest : List Char} (ends : EndsValue rest) :
    Scans value.compact rest (tokensOf value) := by
  cases value with
  | null => exact scans_null ends
  | boolean value => exact scans_boolean value ends
  | integer value => exact scans_integerText value ends
  | double value => exact exact.elim
  | text value => exact scans_quote value rest
  | list items =>
      have inside := scans_items items exact (endsValue_bracket rest)
      exact (scans_openBracket _).append
        (inside.append (scans_closeBracket rest))
  | object members =>
      have inside := scans_members members exact (endsValue_brace rest)
      exact (scans_openBrace _).append
        (inside.append (scans_closeBrace rest))

theorem scans_items (items : List Value) (exact : AreExact items)
    {rest : List Char} (ends : EndsValue rest) :
    Scans (compactItems items) rest (tokensOfItems items) := by
  match items, exact with
  | [], _ => exact scans_nil rest
  | [item], ⟨isExact, _⟩ => exact scans_value item isExact ends
  | item :: next :: others, ⟨isExact, areExact⟩ =>
      have front := scans_value item isExact
        (endsValue_comma (compactItems (next :: others) ++ rest))
      have back := scans_items (next :: others) areExact ends
      exact front.append ((scans_comma _).append back)

theorem scans_members (members : List (String × Value))
    (exact : MembersAreExact members) {rest : List Char}
    (ends : EndsValue rest) :
    Scans (compactMembers members) rest (tokensOfMembers members) := by
  match members, exact with
  | [], _ => exact scans_nil rest
  | [(name, value)], ⟨isExact, _⟩ =>
      have back := scans_value value isExact ends
      exact (scans_quote name _).append ((scans_colon _).append back)
  | (name, value) :: next :: others, ⟨isExact, areExact⟩ =>
      have front := scans_value value isExact
        (endsValue_comma (compactMembers (next :: others) ++ rest))
      have back := scans_members (next :: others) areExact ends
      exact (scans_quote name _).append ((scans_colon _).append
        (front.append ((scans_comma _).append back)))

end

/-! ## Reading values -/

/-- The tokens of a value begin with none that ends a list. -/
theorem exists_tokensOf_eq_cons (value : Value) :
    ∃ first others, tokensOf value = first :: others ∧
      first ≠ .closeBracket := by
  cases value with
  | null | boolean _ | integer _ | double _ | text _ | list _ | object _ =>
      exact ⟨_, _, rfl, by simp⟩

theorem length_pos_of_tokensOf {value : Value} {located : List Located}
    (found : located.map Located.token = tokensOf value) :
    0 < located.length := by
  obtain ⟨first, others, shape, _⟩ := exists_tokensOf_eq_cons value
  rw [shape] at found
  obtain ⟨next, rest, rfl, _, _⟩ := List.map_eq_cons_iff.mp found
  exact Nat.succ_pos rest.length

section Reading

variable {bound : Nat} {start : List Char}
  {located rest after others : List Located} {value result : Value}

theorem readItems_cons {results : List Value}
    (found : located.map Located.token = tokensOf value)
    (readsItem : readValue bound (located ++ rest) = .ok (result, after))
    (readsItems : readItems bound start (skipComma after) =
      .ok (results, others)) :
    readItems (bound + 1) start (located ++ rest) =
      .ok (result :: results, others) := by
  obtain ⟨first, further, shape, notEnd⟩ := exists_tokensOf_eq_cons value
  rw [shape] at found
  obtain ⟨next, behind, rfl, rfl, _⟩ := List.map_eq_cons_iff.mp found
  rw [List.cons_append] at readsItem ⊢
  rw [readItems]
  · simp only [readsItem, readsItems, bind, Except.bind, pure, Except.pure]
  · rintro place rfl
    exact notEnd rfl

theorem readMembers_cons {name : String} {next colon : Located}
    {results : List (String × Value)}
    (named : next.token = .text name) (isColon : colon.token = .colon)
    (readsValue : readValue bound rest = .ok (result, after))
    (readsMembers : readMembers bound start (skipComma after) =
      .ok (results, others)) :
    readMembers (bound + 1) start (next :: colon :: rest) =
      .ok ((name, result) :: results, others) := by
  obtain ⟨_, place⟩ := next
  obtain ⟨_, colonPlace⟩ := colon
  subst named isColon
  simp only [readMembers, Token.name?, readsValue, readsMembers, bind,
    Except.bind, pure, Except.pure]

end Reading

/-- A token that is not a comma stays where it is. -/
theorem skipComma_of_ne {token : Located} (other : token.token ≠ .comma)
    (rest : List Located) : skipComma (token :: rest) = token :: rest := by
  unfold skipComma
  split
  · next place tail shape =>
      obtain ⟨rfl, _⟩ := List.cons.inj shape
      exact absurd rfl other
  · rfl

theorem skipComma_of_eq {token : Located} (isComma : token.token = .comma)
    (rest : List Located) : skipComma (token :: rest) = rest := by
  obtain ⟨_, place⟩ := token
  subst isComma
  rfl

theorem readItems_close {close : Located}
    (closes : close.token = .closeBracket) (bound : Nat)
    (start : List Char) (more : List Located) :
    readItems (bound + 1) start (close :: more) = .ok ([], more) := by
  obtain ⟨_, place⟩ := close
  subst closes
  rfl

theorem readMembers_close {close : Located}
    (closes : close.token = .closeBrace) (bound : Nat)
    (start : List Char) (more : List Located) :
    readMembers (bound + 1) start (close :: more) = .ok ([], more) := by
  obtain ⟨_, place⟩ := close
  subst closes
  rfl

mutual

theorem readValue_located (value : Value) (exact : IsExact value)
    {located : List Located}
    (found : located.map Located.token = tokensOf value) (bound : Nat)
    (enough : 2 * located.length ≤ bound) (more : List Located) :
    readValue bound (located ++ more) = .ok (withMaps value, more) := by
  -- the first token decides what is read
  obtain ⟨first, others, shape, _⟩ := exists_tokensOf_eq_cons value
  have filled := found
  rw [shape] at filled
  obtain ⟨⟨token, place⟩, rest, rfl, rfl, _⟩ :=
    List.map_eq_cons_iff.mp filled
  rw [List.length_cons] at enough
  obtain ⟨bound, rfl⟩ : ∃ smaller, bound = smaller + 1 :=
    ⟨bound - 1, by omega⟩
  rw [List.map_cons] at found
  cases value with
  | null | boolean _ | text _ =>
      obtain ⟨rfl, ended⟩ := List.cons.inj found
      obtain rfl := List.map_eq_nil_iff.mp ended
      rfl
  | integer value =>
      obtain ⟨rfl, ended⟩ := List.cons.inj found
      obtain rfl := List.map_eq_nil_iff.mp ended
      have understood := numberValue_integerText exact
      simp only [List.cons_append, List.nil_append, readValue, understood,
        withMaps]
  | double value => exact exact.elim
  | list items =>
      obtain ⟨rfl, inside⟩ := List.cons.inj found
      obtain ⟨front, back, rfl, areItems, closing⟩ :=
        List.map_eq_append_iff.mp inside
      obtain ⟨close, _, rfl, closes, ended⟩ := List.map_eq_cons_iff.mp closing
      obtain rfl := List.map_eq_nil_iff.mp ended
      simp only [List.length_append, List.length_singleton] at enough
      have read := readItems_located items exact areItems closes bound
        (by omega) place more
      simp only [List.cons_append, List.append_assoc, List.nil_append,
        readValue, read, withMaps, bind, Except.bind, pure, Except.pure]
  | object members =>
      obtain ⟨rfl, inside⟩ := List.cons.inj found
      obtain ⟨front, back, rfl, areMembers, closing⟩ :=
        List.map_eq_append_iff.mp inside
      obtain ⟨close, _, rfl, closes, ended⟩ := List.map_eq_cons_iff.mp closing
      obtain rfl := List.map_eq_nil_iff.mp ended
      simp only [List.length_append, List.length_singleton] at enough
      have read := readMembers_located members exact areMembers closes bound
        (by omega) place more
      simp only [List.cons_append, List.append_assoc, List.nil_append,
        readValue, read, withMaps, bind, Except.bind, pure, Except.pure]

theorem readItems_located (items : List Value) (exact : AreExact items)
    {located : List Located}
    (found : located.map Located.token = tokensOfItems items)
    {close : Located} (closes : close.token = .closeBracket)
    (bound : Nat) (enough : 2 * located.length + 1 ≤ bound)
    (start : List Char) (more : List Located) :
    readItems bound start (located ++ close :: more) =
      .ok (itemsWithMaps items, more) := by
  obtain ⟨bound, rfl⟩ : ∃ smaller, bound = smaller + 1 :=
    ⟨bound - 1, by omega⟩
  match items, exact with
  | [], _ =>
      obtain rfl := List.map_eq_nil_iff.mp found
      exact readItems_close closes bound start more
  | [item], ⟨isExact, _⟩ =>
      have notComma : close.token ≠ .comma := by simp [closes]
      have read := readValue_located item isExact found bound (by omega)
        (close :: more)
      refine readItems_cons found read ?_
      rw [skipComma_of_ne notComma]
      have filled := length_pos_of_tokensOf found
      obtain ⟨bound, rfl⟩ : ∃ smaller, bound = smaller + 1 :=
        ⟨bound - 1, by omega⟩
      exact readItems_close closes bound start more
  | item :: next :: others, ⟨isExact, areExact⟩ =>
      obtain ⟨front, back, rfl, isItem, behind⟩ :=
        List.map_eq_append_iff.mp found
      obtain ⟨comma, rest, rfl, isComma, areItems⟩ :=
        List.map_eq_cons_iff.mp behind
      simp only [List.length_append, List.length_cons] at enough
      have read := readValue_located item isExact isItem bound (by omega)
        (comma :: (rest ++ close :: more))
      have readRest := readItems_located (next :: others) areExact areItems
        closes bound (by omega) start more
      rw [List.append_assoc]
      refine readItems_cons isItem read ?_
      rw [skipComma_of_eq isComma]
      exact readRest

theorem readMembers_located (members : List (String × Value))
    (exact : MembersAreExact members) {located : List Located}
    (found : located.map Located.token = tokensOfMembers members)
    {close : Located} (closes : close.token = .closeBrace)
    (bound : Nat) (enough : 2 * located.length + 1 ≤ bound)
    (start : List Char) (more : List Located) :
    readMembers bound start (located ++ close :: more) =
      .ok (membersWithMaps members, more) := by
  obtain ⟨bound, rfl⟩ : ∃ smaller, bound = smaller + 1 :=
    ⟨bound - 1, by omega⟩
  match members, exact with
  | [], _ =>
      obtain rfl := List.map_eq_nil_iff.mp found
      exact readMembers_close closes bound start more
  | [(name, value)], ⟨isExact, _⟩ =>
      obtain ⟨next, _, rfl, named, behind⟩ := List.map_eq_cons_iff.mp found
      obtain ⟨colon, rest, rfl, isColon, isValue⟩ :=
        List.map_eq_cons_iff.mp behind
      simp only [List.length_cons] at enough
      have notComma : close.token ≠ .comma := by simp [closes]
      have read := readValue_located value isExact isValue bound (by omega)
        (close :: more)
      refine readMembers_cons named isColon read ?_
      rw [skipComma_of_ne notComma]
      obtain ⟨bound, rfl⟩ : ∃ smaller, bound = smaller + 1 :=
        ⟨bound - 1, by omega⟩
      exact readMembers_close closes bound start more
  | (name, value) :: second :: others, ⟨isExact, areExact⟩ =>
      obtain ⟨next, _, rfl, named, behind⟩ := List.map_eq_cons_iff.mp found
      obtain ⟨colon, _, rfl, isColon, behindColon⟩ :=
        List.map_eq_cons_iff.mp behind
      obtain ⟨front, _, rfl, isValue, behindValue⟩ :=
        List.map_eq_append_iff.mp behindColon
      obtain ⟨comma, rest, rfl, isComma, areMembers⟩ :=
        List.map_eq_cons_iff.mp behindValue
      simp only [List.length_append, List.length_cons] at enough
      have read := readValue_located value isExact isValue bound (by omega)
        (comma :: (rest ++ close :: more))
      have readRest := readMembers_located (second :: others) areExact
        areMembers closes bound (by omega) start more
      rw [List.cons_append, List.cons_append, List.append_assoc]
      refine readMembers_cons named isColon read ?_
      rw [skipComma_of_eq isComma]
      exact readRest

end

/-! ## Whole texts -/

theorem map_token_tokens_compact {value : Value} (exact : IsExact value) :
    (tokens value.compact).map Located.token = tokensOf value := by
  have enough : (value.compact ++ []).length < value.compact.length + 1 := by
    simp
  obtain ⟨located, remaining, found, left, scanned⟩ :=
    scans_value value exact endsValue_nil _ enough
  obtain ⟨remaining, rfl⟩ : ∃ smaller, remaining = smaller + 1 :=
    ⟨remaining - 1, by simp only [List.length_nil] at left; omega⟩
  rw [List.append_nil] at scanned
  have atEnd : tokensWith (remaining + 1) [] = [] := rfl
  rw [tokens, scanned, atEnd, List.append_nil, found]

/-- The compact text of a value is a document that holds the value. -/
theorem parse_render {value : Value} (exact : IsExact value) :
    parse value.render = .ok (some (withMaps value)) := by
  have found := map_token_tokens_compact exact
  have filled := length_pos_of_tokensOf found
  have read := readValue_located value exact found
    (2 * (tokens value.compact).length + 1) (Nat.le_succ _) []
  rw [List.append_nil] at read
  have some : (tokens value.compact).isEmpty = false := by
    simpa [List.isEmpty_eq_false_iff, List.length_pos_iff] using filled
  simp [parse, Value.render, some, read, bind, Except.bind, pure, Except.pure]

end TemplateLint.Jsonc
