import TemplateLint.Proofs.Json.Reading
import TemplateLint.Proofs.Jsonc.Compact
import TemplateLint.Proofs.NameMap

/-!
# Objects as maps

Whatever is read from a commented document, the members of its objects stand
in the order of their names, each name once.
-/

namespace TemplateLint.Jsonc

open Json

/-- The members of all objects in a value are maps from names. -/
inductive HasMaps : Value → Prop
  | null : HasMaps .null
  | boolean (value : Bool) : HasMaps (.boolean value)
  | integer (value : Int) : HasMaps (.integer value)
  | double (value : Number.Binary64) : HasMaps (.double value)
  | text (value : String) : HasMaps (.text value)
  | list {items : List Value} :
      (∀ item ∈ items, HasMaps item) → HasMaps (.list items)
  | object {members : List (String × Value)} :
      NameMap.Increasing members →
      (∀ entry ∈ members, HasMaps entry.2) → HasMaps (.object members)

/-! ## Values that are made of maps -/

theorem withMaps_of_hasMaps {value : Value} (mapped : HasMaps value) :
    withMaps value = value := by
  induction mapped with
  | null | boolean _ | integer _ | double _ | text _ => rw [withMaps]
  | list _ inductionHypothesis =>
      rw [withMaps, itemsWithMaps_of_forall inductionHypothesis]
  | object increasing _ inductionHypothesis =>
      rw [withMaps, membersWithMaps_of_forall inductionHypothesis,
        NameMap.ofPairs_of_increasing increasing]

/-- A value without other numbers than integers of 64 bits is read back from
its compact text, if its objects are maps. -/
theorem parse_render_of_hasMaps {value : Value} (exact : IsExact value)
    (mapped : HasMaps value) : parse value.render = .ok (some value) := by
  rw [parse_render exact, withMaps_of_hasMaps mapped]

/-! ## Values that are read -/

theorem hasMaps_numberValue (source : List Char) :
    HasMaps (numberValue source) := by
  unfold numberValue
  split
  split
  · dsimp only
    split
    · exact .integer _
    · exact .text _
  · dsimp only
    split
    · exact .integer _
    · exact .double _
    · exact .text _

mutual

theorem hasMaps_of_readValue (bound : Nat) {tokens rest : List Located}
    {value : Value} (read : readValue bound tokens = .ok (value, rest)) :
    HasMaps value := by
  match bound, tokens with
  | 0, _ => cases read
  | _ + 1, [] => cases read
  | bound + 1, ⟨token, start⟩ :: others =>
      cases token with
      | text content | boolean content =>
          cases read
          constructor
      | null =>
          cases read
          exact .null
      | number source =>
          cases read
          exact hasMaps_numberValue source
      | openBrace =>
          simp only [readValue, bind_eq_ok_iff, Prod.exists, pure,
            Except.pure, Except.ok.injEq, Prod.mk.injEq] at read
          obtain ⟨members, _, inside, rfl, rfl⟩ := read
          have mapped := hasMaps_of_readMembers bound inside
          exact .object (NameMap.increasing_ofPairs members)
            fun entry member => mapped entry (NameMap.mem_ofPairs member)
      | openBracket =>
          simp only [readValue, bind_eq_ok_iff, Prod.exists, pure,
            Except.pure, Except.ok.injEq, Prod.mk.injEq] at read
          obtain ⟨items, _, inside, rfl, rfl⟩ := read
          exact .list (hasMaps_of_readItems bound inside)
      | closeBrace | closeBracket | comma | colon | word _ | broken _ =>
          cases read

theorem hasMaps_of_readItems (bound : Nat) {start : List Char}
    {tokens rest : List Located} {items : List Value}
    (read : readItems bound start tokens = .ok (items, rest)) :
    ∀ item ∈ items, HasMaps item := by
  match bound with
  | 0 => cases read
  | bound + 1 =>
      unfold readItems at read
      split at read
      · cases read
      · cases read
      · cases read
        exact fun _ inNone => absurd inNone List.not_mem_nil
      · next smaller _ _ _ _ same =>
          cases same
          simp only [bind_eq_ok_iff, Prod.exists, pure, Except.pure,
            Except.ok.injEq, Prod.mk.injEq] at read
          obtain ⟨item, _, readItem, others, _, readOthers, rfl, rfl⟩ := read
          exact List.forall_mem_cons.mpr
            ⟨hasMaps_of_readValue bound readItem,
              hasMaps_of_readItems bound readOthers⟩

theorem hasMaps_of_readMembers (bound : Nat) {start : List Char}
    {tokens rest : List Located} {members : List (String × Value)}
    (read : readMembers bound start tokens = .ok (members, rest)) :
    ∀ entry ∈ members, HasMaps entry.2 := by
  match bound with
  | 0 => cases read
  | bound + 1 =>
      unfold readMembers at read
      split at read
      · cases read
      · cases read
      · cases read
        exact fun _ inNone => absurd inNone List.not_mem_nil
      · next smaller _ _ _ _ same =>
          cases same
          split at read
          · cases read
          · split at read
            · simp only [bind_eq_ok_iff, Prod.exists, pure, Except.pure,
                Except.ok.injEq, Prod.mk.injEq] at read
              obtain ⟨value, _, readValue, others, _, readOthers, rfl,
                rfl⟩ := read
              exact List.forall_mem_cons.mpr
                ⟨hasMaps_of_readValue bound readValue,
                  hasMaps_of_readMembers bound readOthers⟩
            · cases read

end

/-- Whatever value a text holds, its objects are maps. -/
theorem hasMaps_of_parse {text : String} {value : Value}
    (parsed : parse text = .ok (some value)) : HasMaps value := by
  unfold parse at parsed
  dsimp only at parsed
  split at parsed
  · cases parsed
  · simp only [bind_eq_ok_iff, Prod.exists] at parsed
    obtain ⟨_, _, read, atEnd⟩ := parsed
    split at atEnd
    · cases atEnd
      exact hasMaps_of_readValue _ read
    · cases atEnd

end TemplateLint.Jsonc
