import Mathlib.Data.List.Nodup
import TemplateLint.NameMap

/-!
# Maps and their fields

The pairs that a map is made of, and maps whose names are known: such a map is
the list of the fields that have a value.
-/

namespace TemplateLint.NameMap

variable {α : Type}

theorem mem_ofPairs {pairs : List (String × α)}
    {entry : String × α} (member : entry ∈ ofPairs pairs) :
    entry ∈ pairs := by
  have general : ∀ (rest : List (String × α)) (entries : NameMap String α),
      entry ∈ rest.foldl
        (fun entries pair => set pair.1 pair.2 entries) entries →
      entry ∈ rest ∨ entry ∈ entries := by
    intro rest
    induction rest with
    | nil => exact fun _ inEntries => .inr inEntries
    | cons head tail inductionHypothesis =>
        intro entries inFold
        rcases inductionHypothesis _ inFold with inTail | inSet
        · exact .inl (List.mem_cons_of_mem head inTail)
        · rcases mem_set inSet with isHead | inEntries
          · exact .inl (isHead ▸ List.mem_cons_self)
          · exact .inr inEntries
  rcases general pairs [] member with inPairs | inNone
  · exact inPairs
  · cases inNone

/-- A pair with the greatest name comes last. -/
theorem set_eq_append {name : String} {value : α} {entries : NameMap String α}
    (greatest : ∀ entry ∈ entries, entry.1 < name) :
    set name value entries = entries ++ [(name, value)] := by
  induction entries with
  | nil => rfl
  | cons head tail inductionHypothesis =>
      obtain ⟨other, present⟩ := head
      obtain ⟨smaller, tailSmaller⟩ := List.forall_mem_cons.mp greatest
      have differs : name ≠ other := fun same =>
        String.lt_irrefl name (same ▸ smaller)
      have notSmaller : ¬name < other := fun below =>
        String.lt_irrefl name (String.lt_trans below smaller)
      rw [set, if_neg differs, if_neg notSmaller,
        inductionHypothesis tailSmaller, List.cons_append]

/-- A map is made of its own pairs. -/
theorem ofPairs_of_increasing {entries : NameMap String α}
    (increasing : Increasing entries) : ofPairs entries = entries := by
  have general : ∀ (rest : List (String × α)) (before : NameMap String α),
      Increasing (before ++ rest) →
      rest.foldl (fun entries pair => set pair.1 pair.2 entries) before =
        before ++ rest := by
    intro rest
    induction rest with
    | nil => exact fun before _ => (List.append_nil before).symm
    | cons head tail inductionHypothesis =>
        intro before increasing
        have greatest : ∀ entry ∈ before, entry.1 < head.1 :=
          fun entry member => (List.pairwise_append.mp increasing).2.2 entry
            member head List.mem_cons_self
        rw [List.append_cons] at increasing ⊢
        rw [List.foldl_cons, set_eq_append greatest]
        exact inductionHypothesis _ increasing
  exact general entries [] increasing

/-! ## Maps with known names -/

/-- The fields that have a value. -/
def ofFields (fields : List (String × Option α)) : NameMap String α :=
  fields.filterMap fun field => field.2.map (field.1, ·)

theorem ofFields_cons_none (name : String)
    (rest : List (String × Option α)) :
    ofFields ((name, none) :: rest) = ofFields rest :=
  rfl

theorem ofFields_cons_some (name : String) (value : α)
    (rest : List (String × Option α)) :
    ofFields ((name, some value) :: rest) = (name, value) :: ofFields rest :=
  rfl

theorem mem_ofFields_iff {fields : List (String × Option α)}
    {entry : String × α} :
    entry ∈ ofFields fields ↔ (entry.1, some entry.2) ∈ fields := by
  rw [ofFields, List.mem_filterMap]
  constructor
  · rintro ⟨⟨name, value⟩, inFields, filled⟩
    obtain ⟨content, rfl, rfl⟩ := Option.map_eq_some_iff.mp filled
    exact inFields
  · exact fun inFields => ⟨_, inFields, rfl⟩

theorem increasing_ofFields {fields : List (String × Option α)}
    (ordered : (fields.map Prod.fst).Pairwise (· < ·)) :
    Increasing (ofFields fields) := by
  refine List.Pairwise.filterMap _ ?_ (List.pairwise_map.mp ordered)
  intro left right smaller first isFirst second isSecond
  obtain ⟨_, _, rfl⟩ := Option.map_eq_some_iff.mp isFirst
  obtain ⟨_, _, rfl⟩ := Option.map_eq_some_iff.mp isSecond
  exact smaller

theorem get?_eq_none {name : String} {entries : NameMap String α}
    (absent : ∀ entry ∈ entries, entry.1 ≠ name) :
    get? name entries = none := by
  cases found : get? name entries with
  | none => rfl
  | some value => exact absurd rfl (absent _ (mem_of_get? found))

theorem get?_ofFields {fields : List (String × Option α)}
    (ordered : (fields.map Prod.fst).Pairwise (· < ·)) {name : String}
    {value : Option α} (member : (name, value) ∈ fields) :
    get? name (ofFields fields) = value := by
  cases value with
  | some value =>
      exact get?_of_mem (increasing_ofFields ordered)
        (mem_ofFields_iff.mpr member)
  | none =>
      have distinct : (fields.map Prod.fst).Nodup := by
        refine ordered.imp fun smaller => ?_
        rintro rfl
        exact String.lt_irrefl _ smaller
      refine get?_eq_none fun entry inMap same => ?_
      cases List.inj_on_of_nodup_map distinct (mem_ofFields_iff.mp inMap)
        member same

/-- The value of the smallest name stands in front. -/
theorem exists_eq_cons {name : String} {value : α} {entries : NameMap String α}
    (increasing : Increasing entries) (found : get? name entries = some value)
    (isFirst : ∀ entry ∈ entries, ¬entry.1 < name) :
    ∃ rest, entries = (name, value) :: rest := by
  cases entries with
  | nil => cases found
  | cons entry rest =>
      obtain ⟨other, content⟩ := entry
      rw [get?_cons] at found
      split at found
      · next same =>
          cases found
          exact ⟨rest, by rw [same]⟩
      · have smaller := (List.pairwise_cons.mp increasing).1 _
          (mem_of_get? found)
        exact absurd smaller (isFirst _ List.mem_cons_self)

/-- A map is made of its values for a list of names in order, if it has no
other names. -/
theorem eq_ofFields {names : List String} {entries : NameMap String α}
    (ordered : names.Pairwise (· < ·)) (increasing : Increasing entries)
    (known : ∀ entry ∈ entries, entry.1 ∈ names) :
    entries = ofFields (names.map fun name => (name, get? name entries)) := by
  induction names generalizing entries with
  | nil => exact List.eq_nil_iff_forall_not_mem.mpr fun entry member =>
      List.not_mem_nil (known entry member)
  | cons name others inductionHypothesis =>
      obtain ⟨smallest, ordered⟩ := List.pairwise_cons.mp ordered
      rw [List.map_cons]
      cases found : get? name entries with
      | none =>
          rw [ofFields_cons_none]
          refine inductionHypothesis ordered increasing fun entry member => ?_
          refine (List.mem_cons.mp (known entry member)).resolve_left ?_
          rintro rfl
          rw [get?_of_mem increasing member] at found
          cases found
      | some value =>
          have isFirst : ∀ entry ∈ entries, ¬entry.1 < name := by
            intro entry member smaller
            rcases List.mem_cons.mp (known entry member) with same | inOthers
            · exact String.lt_irrefl name (same ▸ smaller)
            · exact String.lt_irrefl name
                (String.lt_trans (smallest _ inOthers) smaller)
          obtain ⟨rest, rfl⟩ := exists_eq_cons increasing found isFirst
          obtain ⟨isSmallest, increasing⟩ := List.pairwise_cons.mp increasing
          have restKnown : ∀ entry ∈ rest, entry.1 ∈ others := by
            intro entry member
            refine (List.mem_cons.mp
              (known entry (List.mem_cons_of_mem _ member))).resolve_left ?_
            exact fun same =>
              String.lt_irrefl name (same ▸ isSmallest entry member)
          have sameValues : ∀ other ∈ others,
              (other, get? other rest) =
                (other, get? other ((name, value) :: rest)) := by
            intro other member
            have differs : other ≠ name := fun same =>
              String.lt_irrefl name (same ▸ smallest other member)
            rw [get?_cons, if_neg differs]
          rw [ofFields_cons_some, ← List.map_congr_left sameValues,
            ← inductionHypothesis ordered increasing restKnown]

end TemplateLint.NameMap
