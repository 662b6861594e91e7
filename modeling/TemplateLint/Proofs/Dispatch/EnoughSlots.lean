import Mathlib.Data.List.Sort
import TemplateLint.Proofs.Dispatch.Continuation

/-!
# Enough slots

With a slot for every task all tasks are started at once, and they settle in
the order of their delays, those of the same delay in the order in which they
were submitted.
-/

namespace TemplateLint.Dispatch

/-! ## Stable sorting -/

section Sorting

variable {Item : Type} (key : Item → Nat)

/-- Sort by a key.  Items with the same key keep their order. -/
def sortBy (items : List Item) : List Item :=
  items.mergeSort (fun left right => key left ≤ key right)

/-- Insert an item before the first one that it need not come after. -/
def insertBy (item : Item) (items : List Item) : List Item :=
  items.orderedInsert (fun left right => key left ≤ key right) item

theorem insertBy_cons_of_le {item other : Item}
    (notSmaller : key item ≤ key other) (rest : List Item) :
    insertBy key item (other :: rest) = item :: other :: rest :=
  List.orderedInsert_cons_of_le _ rest notSmaller

theorem insertBy_cons_of_lt {item other : Item}
    (smaller : key other < key item) (rest : List Item) :
    insertBy key item (other :: rest) = other :: insertBy key item rest :=
  List.orderedInsert_of_not_le _ rest (Nat.not_le.mpr smaller)

theorem insertBy_between {item : Item} {before after : List Item}
    (smaller : ∀ other ∈ before, key other < key item)
    (notSmaller : ∀ other ∈ after, key item ≤ key other) :
    insertBy key item (before ++ after) = before ++ item :: after := by
  induction before with
  | nil =>
      cases after with
      | nil => rfl
      | cons other rest =>
          exact insertBy_cons_of_le key
            (notSmaller other List.mem_cons_self) rest
  | cons other rest inductionHypothesis =>
      have later := inductionHypothesis fun another member =>
        smaller another (List.mem_cons_of_mem other member)
      rw [List.cons_append, List.cons_append,
        insertBy_cons_of_lt key (smaller other List.mem_cons_self), later]

@[simp]
theorem sortBy_nil : sortBy key [] = [] := List.mergeSort_nil

theorem sortBy_cons (item : Item) (rest : List Item) :
    sortBy key (item :: rest) = insertBy key item (sortBy key rest) := by
  have transitive : ∀ first second third : Item,
      decide (key first ≤ key second) = true →
      decide (key second ≤ key third) = true →
      decide (key first ≤ key third) = true := by
    simp only [decide_eq_true_eq]
    exact fun _ _ _ => Nat.le_trans
  have total : ∀ left right : Item,
      (decide (key left ≤ key right) || decide (key right ≤ key left)) =
        true := by
    simp only [Bool.or_eq_true, decide_eq_true_eq]
    exact fun _ _ => Nat.le_total _ _
  obtain ⟨before, after, whole, parts, smaller⟩ :=
    List.mergeSort_cons transitive total item rest
  have sorted := List.pairwise_mergeSort transitive total (item :: rest)
  rw [whole] at sorted
  have notSmaller := (List.pairwise_cons.mp
    (List.pairwise_append.mp sorted).2.1).1
  unfold sortBy
  rw [whole, parts, insertBy_between key]
  · simpa using smaller
  · simpa using notSmaller

theorem map_sortBy {Other : Type} (otherKey : Other → Nat)
    {convert : Item → Other} (sameKey : ∀ item,
      otherKey (convert item) = key item) (items : List Item) :
    (sortBy key items).map convert = sortBy otherKey (items.map convert) := by
  unfold sortBy
  refine List.map_mergeSort fun left _ right _ => ?_
  rw [sameKey, sameKey]

end Sorting

/-! ## Slots for all tasks -/

/-- There are so many slots. -/
def Slots.Suffice : Slots → Nat → Prop
  | .unlimited, _ => True
  | .free count, wanted => wanted ≤ count

namespace Schedule

variable {Task : Type}

/-- The flight that ends first comes first when flights are sorted. -/
theorem sortBy_of_earliest? {flights others : List (Flight Task)}
    {flight : Flight Task}
    (found : earliest? flights = some (flight, others)) :
    sortBy Flight.ends flights = flight :: sortBy Flight.ends others := by
  induction flights generalizing flight others with
  | nil => cases found
  | cons head tail inductionHypothesis =>
      rw [sortBy_cons]
      rw [earliest?] at found
      split at found
      · next noneInTail =>
          cases found
          rw [(earliest?_eq_none_iff tail).mp noneInTail, sortBy_nil]
          rfl
      · next best rest inTail =>
          have sorted := inductionHypothesis inTail
          split at found
          · next first =>
              cases found
              rw [sorted, insertBy_cons_of_le _ first]
          · next notFirst =>
              cases found
              rw [sorted, sortBy_cons,
                insertBy_cons_of_lt _ (Nat.not_le.mp notFirst)]

/-! ## Starting everything -/

section Suffice

variable {slots : Slots} {tasks : List Task}
  (suffice : slots.Suffice tasks.length)

include suffice

/-- With a slot for every task no start has to wait. -/
theorem slots_ne_free_zero_of_queued {schedule : Schedule Task}
    (accounts : Accounts slots tasks schedule)
    (waiting : schedule.queued ≠ []) : schedule.slots ≠ .free 0 := by
  intro noSlot
  cases slots with
  | unlimited =>
      rw [accounts.slots_eq_unlimited] at noSlot
      cases noSlot
  | free count =>
      have allTaken := accounts.slots_eq_free_zero_iff.mp noSlot
      have lengths := accounts.length_add_length_add_length
      have enough : tasks.length ≤ count := suffice
      exact waiting (List.eq_nil_of_length_eq_zero (by omega))

theorem queued_fill_initial (endOf : Task → Nat) :
    ((initial slots tasks).fill endOf).queued = [] := by
  by_contra waiting
  have filled := (accounts_initial slots tasks).reachable
    (fill_reachable endOf _)
  exact slots_ne_free_zero_of_queued suffice filled waiting
    ((queued_eq_nil_or_fill_slots endOf _).resolve_left waiting)

theorem inFlight_fill_initial (endOf : Task → Nat) :
    ((initial slots tasks).fill endOf).inFlight =
      tasks.map (fun task => ⟨task, endOf task⟩) := by
  obtain ⟨moved, fromQueue, toFlights⟩ := exists_fillWith_moves endOf
    tasks.length (initial slots tasks)
  have nothing := queued_fill_initial suffice endOf
  unfold fill at nothing ⊢
  change (fillWith endOf tasks.length (initial slots tasks)).queued = []
    at nothing
  rw [nothing, List.append_nil] at fromQueue
  change (fillWith endOf tasks.length (initial slots tasks)).inFlight = _
  rw [toFlights, ← fromQueue]
  rfl

end Suffice

/-! ## Virtual time -/

variable (delay : Task → Nat)

/-- Once nothing is queued, what is in flight settles in the order of its
end. -/
theorem runWith_settled_of_queued_eq_nil (bound now : Nat)
    {schedule : Schedule Task} (queued : schedule.queued = [])
    (enough : schedule.inFlight.length ≤ bound) :
    (runWith delay bound now schedule).settled =
      schedule.settled ++
        (sortBy Flight.ends schedule.inFlight).map Flight.task := by
  induction bound generalizing now schedule with
  | zero =>
      have landed := List.eq_nil_of_length_eq_zero (Nat.le_zero.mp enough)
      simp [runWith, landed]
  | succ bound inductionHypothesis =>
      rw [runWith, fill_of_queued_eq_nil _ queued]
      split
      · next found =>
          simp [(earliest?_eq_none_iff _).mp found]
      · next flight others found =>
          obtain ⟨before, after, inFlight, rest⟩ :=
            exists_append_of_earliest? found
          have fewer : others.length ≤ bound := by
            rw [inFlight] at enough
            simp only [rest, List.length_append, List.length_cons] at enough ⊢
            omega
          have stillQueued : (schedule.settle flight others).queued = [] :=
            queued
          have later := inductionHypothesis flight.ends stillQueued fewer
          rw [sortBy_of_earliest? found, List.map_cons]
          simpa [settle] using later

/-- With a slot for every task the tasks settle in the order of their
delays. -/
theorem course_settled_of_suffice {slots : Slots} {tasks : List Task}
    (suffice : slots.Suffice tasks.length) :
    (course delay slots tasks).settled = sortBy delay tasks := by
  let filled := (initial slots tasks).fill fun task => 0 + delay task
  have queued : filled.queued = [] := queued_fill_initial suffice _
  have flights : filled.inFlight = tasks.map fun task =>
      ⟨task, 0 + delay task⟩ := inFlight_fill_initial suffice _
  have sameKey : ∀ task : Task,
      (Flight.mk task (0 + delay task)).ends = delay task :=
    fun task => Nat.zero_add (delay task)
  have ends := map_sortBy delay Flight.ends sameKey tasks
  -- What is to be started may as well be started beforehand.
  have startedBefore : complete delay 0 (initial slots tasks) =
      complete delay 0 filled :=
    complete_of_sameFill (fill_of_queued_eq_nil _ queued).symm
  rw [← complete_initial, startedBefore, complete,
    runWith_settled_of_queued_eq_nil delay _ _ queued
      (Nat.le_add_left _ _), flights, ← ends]
  simp [filled, initial, Function.comp_def]

end Schedule

end TemplateLint.Dispatch
