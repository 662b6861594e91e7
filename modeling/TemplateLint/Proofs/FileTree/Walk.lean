import TemplateLint.FileTree.Discovery
import TemplateLint.Proofs.Path

/-!
# The order of the walk

The walk of a directory meets the files and links below it by their names from
the directory downwards: those that no hidden name leads to and no directory
that cannot be listed, each once, in the order of the bytes of one name after
the other.
-/

namespace TemplateLint

/-- The directory may be listed and entered. -/
def Access.full (access : Access) : Bool :=
  access.listed && access.entered

namespace Node

/-! ## Descending -/

/-- The node at the end of some names.  Only directories have names below
them, and only those that allow it are gone through; a link is not
followed. -/
def descend? (allows : Access → Bool) : List Path → Node → Option Node
  | [], node => some node
  | name :: names, .directory access entries =>
      if allows access then
        (NameMap.get? name entries).bind (descend? allows names)
      else none
  | _ :: _, _ => none

/-- A file or a link. -/
def isLeaf : Node → Bool
  | .directory _ _ => false
  | _ => true

mutual

/-- The names that lead from a node to the files and links that are not
hidden. -/
def leaves : Node → List (List Path)
  | .file _ _ => [[]]
  | .link _ => [[]]
  | .directory access entries =>
      if access.listed then visibleLeaves entries else []

/-- The names that lead from entries to the files and links that are not
hidden. -/
def visibleLeaves : List (Path × Node) → List (List Path)
  | [] => []
  | (name, node) :: rest =>
      (if isHidden name then [] else node.leaves.map (name :: ·)) ++
        visibleLeaves rest

end

section Descending

variable {allows : Access → Bool} {node last : Node} {names : List Path}

@[simp]
theorem descend?_nil (allows : Access → Bool) (node : Node) :
    node.descend? allows [] = some node := by
  rw [descend?]

theorem descend?_cons_eq_some_iff (allows : Access → Bool)
    (node last : Node) (name : Path) (names : List Path) :
    node.descend? allows (name :: names) = some last ↔
      ∃ access entries next,
        node = .directory access entries ∧
        allows access = true ∧
        NameMap.get? name entries = some next ∧
        next.descend? allows names = some last := by
  cases node with
  | file content mode => simp [descend?]
  | link target => simp [descend?]
  | directory access entries =>
      rw [descend?, Option.ite_none_right_eq_some, Option.bind_eq_some_iff]
      constructor
      · rintro ⟨allowed, next, found, leads⟩
        exact ⟨access, entries, next, rfl, allowed, found, leads⟩
      · rintro ⟨_, _, next, same, allowed, found, leads⟩
        cases same
        exact ⟨allowed, next, found, leads⟩

/-- Names that lead to a node are proper names. -/
theorem isName_of_descend? (wellFormed : node.WellFormed)
    (leads : node.descend? allows names = some last) :
    ∀ name ∈ names, IsName name := by
  induction names generalizing node with
  | nil => simp
  | cons name rest inductionHypothesis =>
      obtain ⟨access, entries, next, rfl, _, found, leadsOn⟩ :=
        (descend?_cons_eq_some_iff allows node last name rest).mp leads
      have proper := wellFormed_of_get? wellFormed found
      rw [List.forall_mem_cons]
      exact ⟨proper.1, inductionHypothesis proper.2 leadsOn⟩

theorem wellFormed_of_descend? (wellFormed : node.WellFormed)
    (leads : node.descend? allows names = some last) : last.WellFormed := by
  induction names generalizing node with
  | nil =>
      have same : node = last := by simpa using leads
      exact same ▸ wellFormed
  | cons name rest inductionHypothesis =>
      obtain ⟨access, entries, next, rfl, _, found, leadsOn⟩ :=
        (descend?_cons_eq_some_iff allows node last name rest).mp leads
      exact inductionHypothesis (wellFormed_of_get? wellFormed found).2
        leadsOn

/-- What allows two things allows each of them. -/
theorem descend?_and_iff (first second : Access → Bool) :
    node.descend? (fun access => first access && second access) names =
        some last ↔
      node.descend? first names = some last ∧
      node.descend? second names = some last := by
  induction names generalizing node with
  | nil => simp
  | cons name rest inductionHypothesis =>
      simp only [descend?_cons_eq_some_iff, inductionHypothesis,
        Bool.and_eq_true]
      constructor
      · rintro ⟨access, entries, next, rfl, ⟨isFirst, isSecond⟩, found, leads⟩
        exact ⟨⟨access, entries, next, rfl, isFirst, found, leads.1⟩,
          access, entries, next, rfl, isSecond, found, leads.2⟩
      · rintro ⟨⟨access, entries, next, rfl, isFirst, found, leadsFirst⟩,
          _, _, other, same, isSecond, otherFound, leadsSecond⟩
        cases same
        cases found.symm.trans otherFound
        exact ⟨access, entries, next, rfl, ⟨isFirst, isSecond⟩, found,
          leadsFirst, leadsSecond⟩

/-- Names that lead to a node do so as well if nothing has to be allowed. -/
theorem descend?_of_allowed (leads : node.descend? allows names = some last) :
    node.descend? (fun _ => true) names = some last := by
  induction names generalizing node with
  | nil => exact leads
  | cons name rest inductionHypothesis =>
      rw [descend?_cons_eq_some_iff] at leads ⊢
      obtain ⟨access, entries, next, rfl, _, found, leadsOn⟩ := leads
      exact ⟨access, entries, next, rfl, rfl, found,
        inductionHypothesis leadsOn⟩

/-- Names lead to one node at most, whatever has to be allowed. -/
theorem descend?_unique {first second : Access → Bool} {other : Node}
    (leads : node.descend? first names = some last)
    (leadsOther : node.descend? second names = some other) :
    last = other := by
  induction names generalizing node with
  | nil =>
      rw [descend?_nil] at leads leadsOther
      exact Option.some.inj (leads.symm.trans leadsOther)
  | cons name rest inductionHypothesis =>
      rw [descend?_cons_eq_some_iff] at leads leadsOther
      obtain ⟨access, entries, next, rfl, _, found, leadsOn⟩ := leads
      obtain ⟨_, _, otherNext, same, _, otherFound, leadsOtherOn⟩ :=
        leadsOther
      cases same
      cases found.symm.trans otherFound
      exact inductionHypothesis leadsOn leadsOtherOn

theorem descend?_append (allows : Access → Bool) (node : Node)
    (front back : List Path) :
    node.descend? allows (front ++ back) =
      (node.descend? allows front).bind (descend? allows back) := by
  induction front generalizing node with
  | nil => rfl
  | cons name rest inductionHypothesis =>
      cases node with
      | file content mode => rfl
      | link target => rfl
      | directory access entries =>
          rw [List.cons_append, descend?, descend?]
          split
          · rw [Option.bind_assoc]
            exact Option.bind_congr fun next _ => inductionHypothesis next
          · rfl

end Descending

/-! ## The walk by names -/

mutual

/-- The walk tests the paths of the leaves, in their order. -/
theorem pathsBelow_eq (keep : Path → Bool) :
    ∀ (path : Path) (node : Node),
      node.pathsBelow keep path =
        (node.leaves.map (Path.below path)).filter keep
  | path, .file _ _ => by
      rw [pathsBelow, leaves]
      by_cases kept : keep path = true <;> simp [kept]
  | path, .link _ => by
      rw [pathsBelow, leaves]
      by_cases kept : keep path = true <;> simp [kept]
  | path, .directory access entries => by
      rw [pathsBelow, leaves]
      by_cases listed : access.listed = true
      · rw [if_pos listed, if_pos listed]
        exact visiblePaths_eq keep path entries
      · rw [if_neg listed, if_neg listed]
        rfl

theorem visiblePaths_eq (keep : Path → Bool) :
    ∀ (base : Path) (entries : List (Path × Node)),
      visiblePaths keep base entries =
        ((visibleLeaves entries).map (Path.below base)).filter keep
  | base, [] => by simp [visibleLeaves]
  | base, (name, node) :: rest => by
      have nodePaths := pathsBelow_eq keep (Path.join base name) node
      have restPaths := visiblePaths_eq keep base rest
      rw [visiblePaths, visibleLeaves, nodePaths, restPaths,
        List.map_append, List.filter_append]
      by_cases hidden : isHidden name = true
      · simp [hidden]
      · simp [hidden, Function.comp_def]

end

/-! ## What the walk meets -/

theorem mem_visibleLeaves_iff (entries : List (Path × Node))
    (names : List Path) :
    names ∈ visibleLeaves entries ↔
      ∃ name node rest,
        names = name :: rest ∧ (name, node) ∈ entries ∧
        isHidden name = false ∧ rest ∈ node.leaves := by
  induction entries with
  | nil => simp [visibleLeaves]
  | cons head tail inductionHypothesis =>
      obtain ⟨name, node⟩ := head
      rw [visibleLeaves, List.mem_append, inductionHypothesis]
      constructor
      · rintro (atHead | ⟨other, below, rest, equality, member, visible,
          inBelow⟩)
        · split at atHead
          · cases atHead
          · next visible =>
              obtain ⟨rest, inNode, equality⟩ := List.mem_map.mp atHead
              exact ⟨name, node, rest, equality.symm, List.mem_cons_self,
                by simpa using visible, inNode⟩
        · exact ⟨other, below, rest, equality,
            List.mem_cons_of_mem _ member, visible, inBelow⟩
      · rintro ⟨other, below, rest, equality, member, visible, inBelow⟩
        rcases List.mem_cons.mp member with atHead | inTail
        · cases atHead
          left
          rw [if_neg (by simp [visible]), equality]
          exact List.mem_map_of_mem inBelow
        · right
          exact ⟨other, below, rest, equality, inTail, visible, inBelow⟩

theorem mem_leaves_iff {node : Node} (wellFormed : node.WellFormed)
    (names : List Path) :
    names ∈ node.leaves ↔
      (∀ name ∈ names, isHidden name = false) ∧
      ∃ last, node.descend? Access.listed names = some last ∧
        (last.isLeaf = true) := by
  induction names generalizing node with
  | nil =>
      cases node with
      | file content mode => simp [leaves, isLeaf]
      | link target => simp [leaves, isLeaf]
      | directory access entries =>
          by_cases listed : access.listed = true <;>
            simp [leaves, listed, mem_visibleLeaves_iff, isLeaf]
  | cons name rest inductionHypothesis =>
      cases node with
      | file content mode => simp [leaves, descend?]
      | link target => simp [leaves, descend?]
      | directory access entries =>
          have increasing := ((wellFormed_directory_iff access entries).mp
            wellFormed).1
          rw [leaves, List.mem_ite_nil_right, mem_visibleLeaves_iff,
            List.forall_mem_cons]
          constructor
          · rintro ⟨listed, _, node, _, equality, member, visible, inNode⟩
            cases equality
            have found := NameMap.get?_of_mem increasing member
            have nodeWellFormed := (wellFormed_of_get? wellFormed found).2
            obtain ⟨restVisible, last, leads, leaf⟩ :=
              (inductionHypothesis nodeWellFormed).mp inNode
            refine ⟨⟨visible, restVisible⟩, last, ?_, leaf⟩
            rw [descend?_cons_eq_some_iff]
            exact ⟨access, entries, node, rfl, listed, found, leads⟩
          · rintro ⟨⟨visible, restVisible⟩, last, leads, leaf⟩
            rw [descend?_cons_eq_some_iff] at leads
            obtain ⟨_, _, node, equality, listed, found, leadsOn⟩ := leads
            cases equality
            have nodeWellFormed := (wellFormed_of_get? wellFormed found).2
            refine ⟨listed, name, node, rest, rfl, NameMap.mem_of_get? found,
              visible, ?_⟩
            exact (inductionHypothesis nodeWellFormed).mpr
              ⟨restVisible, last, leadsOn, leaf⟩

/-! ## The order of what it meets -/

mutual

theorem pairwise_leaves :
    ∀ (node : Node), node.WellFormed → node.leaves.Pairwise (· < ·)
  | .file _ _, _ => by
      rw [leaves]
      exact List.pairwise_singleton _ _
  | .link _, _ => by
      rw [leaves]
      exact List.pairwise_singleton _ _
  | .directory access entries, wellFormed => by
      rw [leaves]
      rw [WellFormed] at wellFormed
      split
      · exact pairwise_visibleLeaves entries wellFormed.1 wellFormed.2
      · exact List.Pairwise.nil

theorem pairwise_visibleLeaves :
    ∀ (entries : List (Path × Node)),
      NameMap.Increasing entries → AllWellFormed entries →
        (visibleLeaves entries).Pairwise (· < ·)
  | [], _, _ => by
      rw [visibleLeaves]
      exact List.Pairwise.nil
  | (name, node) :: rest, increasing, wellFormed => by
      have parts := List.pairwise_cons.mp increasing
      rw [AllWellFormed] at wellFormed
      have inNode := pairwise_leaves node wellFormed.2.1
      have inRest := pairwise_visibleLeaves rest parts.2 wellFormed.2.2
      rw [visibleLeaves, List.pairwise_append]
      refine ⟨?_, inRest, ?_⟩
      · split
        · exact List.Pairwise.nil
        · rw [List.pairwise_map]
          exact inNode.imp fun smaller =>
            List.cons_lt_cons_iff.mpr (.inr ⟨rfl, smaller⟩)
      · intro left atHead right inTail
        obtain ⟨other, below, names, equality, member, _, _⟩ :=
          (mem_visibleLeaves_iff rest right).mp inTail
        have smaller : name < other := parts.1 _ member
        split at atHead
        · cases atHead
        · obtain ⟨leftRest, _, leftEquality⟩ := List.mem_map.mp atHead
          rw [← leftEquality, equality]
          exact List.cons_lt_cons_iff.mpr (.inl smaller)

end

end Node

end TemplateLint
