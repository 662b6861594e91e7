/-!
# Maps from names

A finite map from names is a list of pairs in increasing order of the names.
The names are texts, compared by code points, or paths, compared by bytes.
-/

namespace TemplateLint

/-- Names with their values. -/
abbrev NameMap (Name α : Type) := List (Name × α)

namespace NameMap

variable {Name α : Type}

/-- Each name is smaller than all names behind it. -/
def Increasing [LT Name] (entries : NameMap Name α) : Prop :=
  entries.Pairwise (fun left right => left.1 < right.1)

@[simp]
theorem increasing_nil [LT Name] : Increasing ([] : NameMap Name α) :=
  List.Pairwise.nil

variable [DecidableEq Name]

/-- The value of a name. -/
def get? (name : Name) (entries : NameMap Name α) : Option α :=
  entries.lookup name

@[simp]
theorem get?_nil (name : Name) : get? name ([] : NameMap Name α) = none := rfl

theorem get?_cons (name other : Name) (value : α) (entries : NameMap Name α) :
    get? name ((other, value) :: entries) =
      if name = other then some value else get? name entries := by
  unfold get?
  rw [List.lookup_cons]
  by_cases equal : name = other
  · simp [equal]
  · have different : (name == other) = false := by simpa using equal
    simp [equal, different]

theorem mem_of_get? {name : Name} {value : α} {entries : NameMap Name α}
    (found : get? name entries = some value) : (name, value) ∈ entries := by
  induction entries with
  | nil => simp at found
  | cons head tail inductionHypothesis =>
      obtain ⟨other, present⟩ := head
      rw [get?_cons] at found
      split at found
      · next equal =>
          rw [equal, ← Option.some.inj found]
          exact List.mem_cons_self
      · exact List.mem_cons_of_mem _ (inductionHypothesis found)

theorem get?_of_mem [LT Name] [Std.Irrefl ((· < ·) : Name → Name → Prop)]
    {name : Name} {value : α} {entries : NameMap Name α}
    (increasing : Increasing entries) (member : (name, value) ∈ entries) :
    get? name entries = some value := by
  induction entries with
  | nil => cases member
  | cons head tail inductionHypothesis =>
      obtain ⟨other, present⟩ := head
      have parts := List.pairwise_cons.mp increasing
      rw [get?_cons]
      rcases List.mem_cons.mp member with atHead | inTail
      · cases atHead
        rw [if_pos rfl]
      · have smaller : other < name := parts.1 _ inTail
        have different : name ≠ other := by
          rintro rfl
          exact Std.Irrefl.irrefl name smaller
        rw [if_neg different]
        exact inductionHypothesis parts.2 inTail

variable [LT Name] [DecidableLT Name]

/-- Set the value of a name; an earlier value is replaced. -/
def set (name : Name) (value : α) :
    NameMap Name α → NameMap Name α
  | [] => [(name, value)]
  | (other, present) :: rest =>
      if name = other then (name, value) :: rest
      else if name < other then (name, value) :: (other, present) :: rest
      else (other, present) :: set name value rest

/-- The map of some pairs; the last pair of each name counts. -/
def ofPairs (pairs : List (Name × α)) :
    NameMap Name α :=
  pairs.foldl (fun entries (name, value) => set name value entries) []

theorem mem_set {name : Name} {value : α} {entries : NameMap Name α}
    {entry : Name × α} (member : entry ∈ set name value entries) :
    entry = (name, value) ∨ entry ∈ entries := by
  induction entries with
  | nil => simpa [set] using member
  | cons head tail inductionHypothesis =>
      obtain ⟨other, present⟩ := head
      unfold set at member
      split at member
      · rcases List.mem_cons.mp member with atHead | inTail
        · exact Or.inl atHead
        · exact Or.inr (List.mem_cons_of_mem _ inTail)
      · split at member
        · exact List.mem_cons.mp member
        · rcases List.mem_cons.mp member with atHead | inTail
          · exact Or.inr (atHead ▸ List.mem_cons_self)
          · rcases inductionHypothesis inTail with isNew | isOld
            · exact Or.inl isNew
            · exact Or.inr (List.mem_cons_of_mem _ isOld)

section Increasing

variable [Std.Trichotomous ((· < ·) : Name → Name → Prop)]
  [Trans ((· < ·) : Name → Name → Prop) (· < ·) (· < ·)]

theorem increasing_set (name : Name) (value : α) {entries : NameMap Name α}
    (increasing : Increasing entries) :
    Increasing (set name value entries) := by
  induction entries with
  | nil => simp [set, Increasing]
  | cons head tail inductionHypothesis =>
      obtain ⟨other, present⟩ := head
      have parts := List.pairwise_cons.mp increasing
      unfold set
      by_cases equal : name = other
      · subst equal
        simpa [Increasing] using parts
      · by_cases smaller : name < other
        · simp only [equal, smaller, if_true, if_false]
          refine List.pairwise_cons.mpr ⟨?_, increasing⟩
          intro entry member
          rcases List.mem_cons.mp member with atHead | inTail
          · subst atHead
            exact smaller
          · exact Trans.trans smaller (parts.1 entry inTail)
        · simp only [equal, smaller, if_false]
          refine List.pairwise_cons.mpr ⟨?_, inductionHypothesis parts.2⟩
          intro entry member
          rcases mem_set member with isNew | isOld
          · subst isNew
            -- of two names that differ one is smaller
            exact Decidable.not_not.mp fun notAbove =>
              equal (Std.Trichotomous.trichotomous name other smaller notAbove)
          · exact parts.1 entry isOld

theorem increasing_ofPairs (pairs : List (Name × α)) :
    Increasing (ofPairs pairs) := by
  have general : ∀ (rest : List (Name × α)) (entries : NameMap Name α),
      Increasing entries →
        Increasing (rest.foldl
          (fun entries (name, value) => set name value entries) entries) := by
    intro rest
    induction rest with
    | nil => exact fun entries increasing => increasing
    | cons head tail inductionHypothesis =>
        exact fun entries increasing =>
          inductionHypothesis _ (increasing_set head.1 head.2 increasing)
  exact general pairs [] increasing_nil

end Increasing

end NameMap

end TemplateLint
