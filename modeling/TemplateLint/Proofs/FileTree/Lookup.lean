import TemplateLint.Proofs.FileTree.Walk

/-!
# Looking up what is below a directory

A path that leads to a directory, with names behind it, leads to the node that
the names lead to from that directory, if every directory on the way may be
entered.  What has been followed of a path does not depend on what stands
behind it.
-/

namespace TemplateLint

/-! ## Following parts -/

namespace Progress

/-- Follow more parts from where a path has been followed to. -/
def resume (parts : List Path) : Progress → Except LookupFault Progress
  | .arrived position => position.advance parts
  | .atLink position target rest =>
      .ok (.atLink position target (rest ++ parts))

/-- Where a path has been followed to. -/
def position : Progress → Position
  | .arrived position => position
  | .atLink position _ _ => position

end Progress

namespace Position

theorem advance_append (position : Position) (front back : List Path) :
    position.advance (front ++ back) =
      (position.advance front).bind (Progress.resume back) := by
  fun_induction position.advance front with
  | case1 => rfl
  | case3 | case6 | case7 | case8 | case10 =>
      -- the first part ends the way
      simp_all [advance, Except.bind, Progress.resume]
  | case2 | case4 | case5 =>
      simp_all [advance]
  | case9 position part rest access entries isDirectory filled enters notVoid
      notUpwards notLong node notLink found inductionHypothesis =>
      rw [← inductionHypothesis]
      simp [advance, isDirectory, filled, enters, notVoid, notUpwards,
        notLong, found]

/-- A part that says nothing leaves a position as it is. -/
theorem advance_void {position : Position} {progress : Progress}
    {part : Path} (isVoid : Path.isVoid part = true)
    (advanced : position.advance [part] = .ok progress) :
    progress = .arrived position := by
  obtain ⟨node, above⟩ := position
  cases node with
  | file content mode => simp [advance] at advanced
  | link target => simp [advance] at advanced
  | directory access entries =>
      simp only [advance, isVoid, if_true] at advanced
      split at advanced
      · cases advanced
        rfl
      · split at advanced
        · cases advanced
        · cases advanced
          rfl

/-- Where a proper name leads from a directory that may be entered. -/
theorem advance_cons_name {access : Access} {entries : List (Path × Node)}
    {name : Path} (proper : IsName name) (enters : access.entered = true)
    (above : List Node) (rest : List Path) :
    advance ⟨.directory access entries, above⟩ (name :: rest) =
      match NameMap.get? name entries with
      | none => .error .notFound
      | some (.link target) =>
          .ok (.atLink ⟨.directory access entries, above⟩ target rest)
      | some node =>
          advance ⟨node, .directory access entries :: above⟩ rest := by
  have notLong : ¬ longestName < name.length := Nat.not_lt.mpr proper.short
  rcases found : NameMap.get? name entries with _ | (_ | _ | _) <;>
    simp only [advance, Path.ne_nil_of_isName proper, if_false, enters,
      Bool.true_eq_false, proper.not_void, Bool.false_eq_true,
      proper.not_upwards, notLong, found]

/-- Proper names lead to the node that they descend to. -/
theorem advance_of_descend? {node last : Node} {names : List Path}
    (above : List Node) (proper : ∀ name ∈ names, IsName name)
    (descends : node.descend? Access.entered names = some last)
    (noLink : ∀ target, last ≠ .link target) :
    ∃ around, advance ⟨node, above⟩ names = .ok (.arrived ⟨last, around⟩) := by
  induction names generalizing node above with
  | nil =>
      have equal : node = last := by simpa using descends
      exact ⟨above, by rw [equal]; rfl⟩
  | cons name rest inductionHypothesis =>
      obtain ⟨access, entries, next, rfl, enters, found, descendsOn⟩ :=
        (Node.descend?_cons_eq_some_iff _ node last name rest).mp descends
      rw [List.forall_mem_cons] at proper
      obtain ⟨nameProper, restProper⟩ := proper
      obtain ⟨around, arrives⟩ := inductionHypothesis
        (.directory access entries :: above) restProper descendsOn
      refine ⟨around, ?_⟩
      rw [advance_cons_name nameProper enters, found, ← arrives]
      cases next with
      | link target =>
          cases rest with
          | nil => exact absurd (by simpa using descendsOn.symm) (noLink target)
          | cons second others => simp [Node.descend?] at descendsOn
      | file _ _ | directory _ _ => rfl

/-- Names that a directory which may not be entered stands before lead
nowhere. -/
theorem advance_of_closed {allows : Access → Bool} {node last : Node}
    {names : List Path} (above : List Node)
    (proper : ∀ name ∈ names, IsName name)
    (descends : node.descend? allows names = some last)
    (closed : node.descend? Access.entered names = none) :
    advance ⟨node, above⟩ names = .error .permissionDenied := by
  induction names generalizing node above with
  | nil => simp at closed
  | cons name rest inductionHypothesis =>
      obtain ⟨access, entries, next, rfl, _, found, descendsOn⟩ :=
        (Node.descend?_cons_eq_some_iff _ node last name rest).mp descends
      rw [List.forall_mem_cons] at proper
      obtain ⟨nameProper, restProper⟩ := proper
      by_cases enters : access.entered = true
      · rw [Node.descend?, if_pos enters, found, Option.bind_some] at closed
        rw [advance_cons_name nameProper enters, found,
          ← inductionHypothesis (.directory access entries :: above)
            restProper descendsOn closed]
        cases next with
        | link target =>
            cases rest with
            | nil => simp at closed
            | cons second others => simp [Node.descend?] at descendsOn
        | file _ _ | directory _ _ => rfl
      · simp [advance, Path.ne_nil_of_isName nameProper, enters]

/-! ## Following links -/

/-- The parts lead from one position to another, over so many links at most:
they arrive there, or they stop at a link that leads on from where it
stands. -/
inductive LeadsTo : Nat → Position → List Path → Position → Prop
  | arrives {links : Nat} {position last : Position} {parts : List Path} :
      position.advance parts = .ok (.arrived last) →
        LeadsTo links position parts last
  | overLink {links : Nat} {position stopped last : Position}
      {parts rest : List Path} {target : Path} :
      position.advance parts = .ok (.atLink stopped target rest) →
      LeadsTo links (stopped.origin target) (Path.parts target ++ rest)
        last →
        LeadsTo (links + 1) position parts last

theorem follow_of_leadsTo {links : Nat} {position last : Position}
    {parts : List Path} (leads : LeadsTo links position parts last) :
    position.follow links parts = .ok last := by
  induction leads with
  | arrives arrives =>
      rw [follow, arrives]
      rfl
  | overLink stops _ inductionHypothesis =>
      rw [follow, stops, ← inductionHypothesis]
      rfl

theorem leadsTo_of_follow (links : Nat) {position last : Position}
    {parts : List Path}
    (followed : position.follow links parts = .ok last) :
    LeadsTo links position parts last := by
  rw [follow] at followed
  cases advanced : position.advance parts with
  | error fault =>
      rw [advanced] at followed
      cases followed
  | ok progress =>
      rw [advanced] at followed
      cases progress with
      | arrived reached =>
          cases followed
          exact .arrives advanced
      | atLink stopped target rest =>
          cases links with
          | zero => cases followed
          | succ fewer =>
              exact .overLink advanced (leadsTo_of_follow fewer followed)

theorem leadsTo_iff_follow (links : Nat) (position last : Position)
    (parts : List Path) :
    LeadsTo links position parts last ↔
      position.follow links parts = .ok last :=
  ⟨follow_of_leadsTo, leadsTo_of_follow links⟩

/-- Parts that are followed without a link can be put behind others. -/
theorem LeadsTo.append {links : Nat} {position middle last : Position}
    {front back : List Path}
    (before : LeadsTo links position front middle)
    (behind : middle.advance back = .ok (.arrived last)) :
    LeadsTo links position (front ++ back) last := by
  induction before with
  | arrives arrives =>
      apply LeadsTo.arrives
      rw [advance_append, arrives]
      exact behind
  | @overLink links position stopped middle front rest target stops _
      inductionHypothesis =>
      have stopsLonger : position.advance (front ++ back) =
          .ok (.atLink stopped target (rest ++ back)) := by
        rw [advance_append, stops]
        rfl
      apply LeadsTo.overLink stopsLonger
      rw [← List.append_assoc]
      exact inductionHypothesis behind

/-- Parts that fail without a link fail behind others as well. -/
theorem LeadsTo.fails {links : Nat} {position middle : Position}
    {front back : List Path} {fault : LookupFault}
    (before : LeadsTo links position front middle)
    (behind : middle.advance back = .error fault) :
    position.follow links (front ++ back) = .error fault := by
  induction before with
  | arrives arrives =>
      rw [follow, advance_append, arrives]
      simp only [Except.bind, Progress.resume, behind, bind]
  | overLink stops _ inductionHypothesis =>
      have behindLink := inductionHypothesis behind
      rw [List.append_assoc] at behindLink
      rw [follow, advance_append, stops]
      simp only [Except.bind, Progress.resume, behindLink, bind]

/-- On the way to the end of some parts lies the end of those in front. -/
theorem LeadsTo.split {links : Nat} {position last : Position}
    {front back : List Path}
    (leads : LeadsTo links position (front ++ back) last) :
    ∃ middle fewer, LeadsTo links position front middle ∧
      LeadsTo fewer middle back last := by
  generalize whole : front ++ back = parts at leads
  induction leads generalizing front with
  | @arrives links position last parts arrives =>
      subst whole
      rw [advance_append] at arrives
      cases advanced : position.advance front with
      | error fault =>
          rw [advanced] at arrives
          cases arrives
      | ok progress =>
          rw [advanced] at arrives
          cases progress with
          | arrived middle =>
              exact ⟨middle, links, .arrives advanced, .arrives arrives⟩
          | atLink stopped target rest => cases arrives
  | @overLink links position stopped last parts rest target stops leads
      inductionHypothesis =>
      subst whole
      rw [advance_append] at stops
      cases advanced : position.advance front with
      | error fault =>
          rw [advanced] at stops
          cases stops
      | ok progress =>
          rw [advanced] at stops
          cases progress with
          | arrived middle =>
              exact ⟨middle, links + 1, .arrives advanced,
                .overLink stops leads⟩
          | atLink stoppedAt other before =>
              cases stops
              obtain ⟨middle, fewer, leadsBefore, leadsBehind⟩ :=
                inductionHypothesis (List.append_assoc _ _ _)
              exact ⟨middle, fewer, .overLink advanced leadsBefore,
                leadsBehind⟩

/-- A part at the end that says nothing can be left out. -/
theorem LeadsTo.dropVoid {links : Nat} {position last : Position}
    {front : List Path} {part : Path}
    (isVoid : Path.isVoid part = true)
    (leads : LeadsTo links position (front ++ [part]) last) :
    LeadsTo links position front last := by
  obtain ⟨middle, fewer, leadsBefore, leadsBehind⟩ := leads.split
  cases leadsBehind with
  | arrives arrives =>
      cases advance_void isVoid arrives
      exact leadsBefore
  | overLink stops _ =>
      -- a part that says nothing does not stop at a link
      cases advance_void isVoid stops

/-! ## Well-formed positions -/

/-- The node and all directories around it are well-formed. -/
structure WellFormed (position : Position) : Prop where
  node : position.node.WellFormed
  above : ∀ outer ∈ position.above, outer.WellFormed

theorem WellFormed.parent {position : Position}
    (wellFormed : position.WellFormed) : position.parent.WellFormed := by
  obtain ⟨node, above⟩ := position
  cases above with
  | nil => exact wellFormed
  | cons outer above =>
      have around := wellFormed.above
      rw [List.forall_mem_cons] at around
      exact ⟨around.1, around.2⟩

theorem WellFormed.root {position : Position}
    (wellFormed : position.WellFormed) : position.root.WellFormed := by
  refine ⟨?_, by simp [Position.root]⟩
  cases outermost : position.above.getLast? with
  | none => simpa [Position.root, outermost] using wellFormed.node
  | some outer =>
      simpa [Position.root, outermost] using
        wellFormed.above outer (List.mem_of_getLast? outermost)

theorem WellFormed.origin {position : Position}
    (wellFormed : position.WellFormed) (path : Path) :
    (position.origin path).WellFormed := by
  unfold Position.origin
  split
  · exact wellFormed.root
  · exact wellFormed

theorem wellFormed_advance {position : Position} {parts : List Path}
    {progress : Progress} (wellFormed : position.WellFormed)
    (advanced : position.advance parts = .ok progress) :
    progress.position.WellFormed := by
  fun_induction position.advance parts with
  | case1 position =>
      cases advanced
      exact wellFormed
  | case2 | case4 =>
      rename_i inductionHypothesis
      exact inductionHypothesis wellFormed advanced
  | case5 =>
      rename_i inductionHypothesis
      exact inductionHypothesis wellFormed.parent advanced
  | case3 | case6 | case7 | case10 => cases advanced
  | case8 =>
      cases advanced
      exact wellFormed
  | case9 position part rest access entries isDirectory _ _ _ _ _ node
      notLink found inductionHypothesis =>
      have directoryWellFormed := isDirectory ▸ wellFormed.node
      refine inductionHypothesis ⟨?_, ?_⟩ advanced
      · exact (Node.wellFormed_of_get? directoryWellFormed found).2
      · rw [List.forall_mem_cons]
        exact ⟨wellFormed.node, wellFormed.above⟩

theorem LeadsTo.wellFormed {links : Nat} {position last : Position}
    {parts : List Path} (leads : LeadsTo links position parts last)
    (wellFormed : position.WellFormed) : last.WellFormed := by
  induction leads with
  | arrives arrives => exact wellFormed_advance wellFormed arrives
  | @overLink _ _ _ _ _ _ target stops _ inductionHypothesis =>
      exact inductionHypothesis
        ((wellFormed_advance wellFormed stops).origin target)

end Position

/-! ## Looking up a path -/

/-- A path that can be followed if it is short enough. -/
structure Path.CanFollow (path : Path) : Prop where
  filled : path ≠ []
  no_nul : 0 ∉ path

theorem Path.CanFollow.join {base name : Path}
    (canFollow : Path.CanFollow base) (proper : IsName name) :
    Path.CanFollow (Path.join base name) where
  filled := Path.join_ne_nil canFollow.filled
    (Path.isAbsolute_of_isName proper)
  no_nul := by
    rw [Path.mem_join_iff (by decide) (Path.isAbsolute_of_isName proper),
      not_or]
    exact ⟨canFollow.no_nul, proper.no_nul⟩

theorem Path.CanFollow.append_slash {path : Path}
    (canFollow : Path.CanFollow path) :
    Path.CanFollow (path ++ [Path.slash]) where
  filled := by simp
  no_nul := by
    rw [List.mem_append]
    rintro (inPath | isSlash)
    · exact canFollow.no_nul inPath
    · exact absurd isSlash (by decide)

theorem Path.CanFollow.below {root : Path}
    (canFollow : Path.CanFollow root) {names : List Path}
    (proper : ∀ name ∈ names, IsName name) :
    Path.CanFollow (Path.below root names) := by
  induction names generalizing root with
  | nil => exact canFollow
  | cons name rest inductionHypothesis =>
      rw [List.forall_mem_cons] at proper
      rw [Path.below_cons]
      exact inductionHypothesis (canFollow.join proper.1) proper.2

/-- A path and what is below it begin at the same place. -/
theorem Position.origin_below (position : Position) {root : Path}
    (filled : root ≠ []) {names : List Path}
    (proper : ∀ name ∈ names, IsName name) :
    position.origin (Path.below root names) = position.origin root := by
  obtain ⟨rest, whole⟩ := Path.exists_below_eq_append filled proper
  rw [origin, origin, whole, Path.isAbsolute_append filled]

namespace FileTree

theorem wellFormed_around {outer : Outer} (proper : IsName outer.name)
    (wellFormed : (Node.directory outer.access outer.others).WellFormed)
    {within : Node} (withinWellFormed : within.WellFormed) :
    (outer.around within).WellFormed :=
  Node.wellFormed_set proper withinWellFormed wellFormed

theorem wellFormed_enclosing {outers : List Outer}
    (wellFormed : ∀ outer ∈ outers, IsName outer.name ∧
      (Node.directory outer.access outer.others).WellFormed)
    {within : Node} (withinWellFormed : within.WellFormed) :
    ∀ node ∈ enclosing within outers, node.WellFormed := by
  induction outers generalizing within with
  | nil => simp [enclosing]
  | cons outer outers inductionHypothesis =>
      rw [List.forall_mem_cons] at wellFormed
      have around := wellFormed_around wellFormed.1.1 wellFormed.1.2
        withinWellFormed
      rw [enclosing, List.forall_mem_cons]
      exact ⟨around, inductionHypothesis wellFormed.2 around⟩

theorem wellFormed_position (tree : FileTree) : tree.position.WellFormed where
  node := tree.wellFormed
  above := wellFormed_enclosing tree.outersWellFormed tree.wellFormed

/-- A path is found if it can be followed and is not too long. -/
theorem lookup_eq_ok_iff (tree : FileTree) (path : Path) (node : Node) :
    tree.lookup path = .ok node ↔
      Path.CanFollow path ∧ path.length ≤ longestPath ∧
      ∃ above, Position.LeadsTo mostLinks (tree.position.origin path)
        (Path.parts path) ⟨node, above⟩ := by
  constructor
  · intro found
    unfold lookup at found
    by_cases nul : 0 ∈ path
    · simp [nul] at found
    by_cases empty : path = []
    · simp [empty] at found
    by_cases long : longestPath < path.length
    · simp [nul, empty, long] at found
    simp only [nul, if_false, List.isEmpty_iff, empty, long] at found
    cases followed : (tree.position.origin path).follow mostLinks
        (Path.parts path) with
    | error fault =>
        rw [followed] at found
        cases found
    | ok position =>
        rw [followed] at found
        cases found
        exact ⟨⟨empty, nul⟩, Nat.not_lt.mp long, position.above,
          Position.leadsTo_of_follow mostLinks followed⟩
  · rintro ⟨canFollow, short, above, leads⟩
    rw [lookup, if_neg canFollow.no_nul,
      if_neg (by simp [canFollow.filled]), if_neg (Nat.not_lt.mpr short),
      Position.follow_of_leadsTo leads]
    rfl

/-- A path that is found is short enough. -/
theorem short_of_lookup {tree : FileTree} {path : Path} {node : Node}
    (found : tree.lookup path = .ok node) : path.length ≤ longestPath :=
  ((lookup_eq_ok_iff tree path node).mp found).2.1

theorem wellFormed_of_lookup {tree : FileTree} {path : Path} {node : Node}
    (found : tree.lookup path = .ok node) : node.WellFormed := by
  obtain ⟨_, _, above, leads⟩ := (lookup_eq_ok_iff tree path node).mp found
  exact (leads.wellFormed (tree.wellFormed_position.origin path)).node

theorem canFollow_of_lookup {tree : FileTree} {path : Path} {node : Node}
    (found : tree.lookup path = .ok node) : Path.CanFollow path :=
  ((lookup_eq_ok_iff tree path node).mp found).1

/-- A slash behind the path of a directory leads to the same directory. -/
theorem lookup_append_slash {tree : FileTree} {path : Path}
    {access : Access} {entries : List (Path × Node)}
    (found : tree.lookup path = .ok (.directory access entries))
    (short : path.length < longestPath) :
    tree.lookup (path ++ [Path.slash]) = .ok (.directory access entries) := by
  obtain ⟨canFollow, _, above, leads⟩ :=
    (lookup_eq_ok_iff tree path _).mp found
  have stays : Position.advance ⟨.directory access entries, above⟩ [[]] =
      .ok (.arrived ⟨.directory access entries, above⟩) := by
    simp [Position.advance]
  have sameOrigin : tree.position.origin (path ++ [Path.slash]) =
      tree.position.origin path := by
    rw [Position.origin, Position.origin,
      Path.isAbsolute_append canFollow.filled]
  rw [lookup_eq_ok_iff, Path.parts_append_slash, sameOrigin]
  refine ⟨canFollow.append_slash, ?_, above, leads.append stays⟩
  rw [List.length_append]
  exact short

theorem lookup_append_slashes {tree : FileTree} {path : Path}
    {access : Access} {entries : List (Path × Node)}
    (found : tree.lookup path = .ok (.directory access entries)) (count : Nat)
    (short : path.length + count ≤ longestPath) :
    tree.lookup (path ++ List.replicate count Path.slash) =
      .ok (.directory access entries) := by
  induction count with
  | zero => simpa using found
  | succ count inductionHypothesis =>
      have before := inductionHypothesis (by omega)
      rw [List.replicate_succ', ← List.append_assoc]
      apply lookup_append_slash before
      rw [List.length_append, List.length_replicate]
      omega

/-- The parts of a path without the empty one behind a slash at its end lead
to the same node. -/
theorem leadsTo_stem {tree : FileTree} {path : Path} {node : Node}
    (found : tree.lookup path = .ok node) :
    ∃ above, Position.LeadsTo mostLinks (tree.position.origin path)
      (Path.stem path) ⟨node, above⟩ := by
  obtain ⟨_, _, above, leads⟩ := (lookup_eq_ok_iff tree path node).mp found
  refine ⟨above, ?_⟩
  by_cases slashed : path.getLast? = some Path.slash
  · rw [Path.parts_of_slash slashed] at leads
    exact leads.dropVoid (by decide)
  · rw [Path.stem, if_neg slashed]
    exact leads

/-- Names below a directory lead from its path to where they descend to, if
all directories on the way may be entered, the whole path is short enough and
no link is at its end. -/
theorem lookup_below {tree : FileTree} {root : Path} {directory node : Node}
    {names : List Path}
    (found : tree.lookup root = .ok directory)
    (descends : directory.descend? Access.entered names = some node)
    (noLink : ∀ target, node ≠ .link target)
    (short : (Path.below root names).length ≤ longestPath) :
    tree.lookup (Path.below root names) = .ok node := by
  by_cases none : names = []
  · subst none
    have equal : directory = node := by simpa using descends
    rw [Path.below_nil, found, equal]
  · have proper := Node.isName_of_descend? (wellFormed_of_lookup found)
      descends
    have canFollow := canFollow_of_lookup found
    obtain ⟨above, leads⟩ := leadsTo_stem found
    obtain ⟨around, arrives⟩ := Position.advance_of_descend? above proper
      descends noLink
    rw [lookup_eq_ok_iff, Path.parts_below canFollow.filled none proper,
      Position.origin_below _ canFollow.filled proper]
    exact ⟨canFollow.below proper, short, around, leads.append arrives⟩

/-- Names below a directory lead nowhere if a directory on the way may not be
entered. -/
theorem lookup_below_of_closed {tree : FileTree} {allows : Access → Bool}
    {root : Path} {directory node : Node} {names : List Path}
    (found : tree.lookup root = .ok directory)
    (descends : directory.descend? allows names = some node)
    (closed : directory.descend? Access.entered names = none)
    (other : Node) : tree.lookup (Path.below root names) ≠ .ok other := by
  have some : names ≠ [] := by
    rintro rfl
    simp at closed
  have proper := Node.isName_of_descend? (wellFormed_of_lookup found)
    descends
  have filled := (canFollow_of_lookup found).filled
  obtain ⟨above, leads⟩ := leadsTo_stem found
  have fails := leads.fails
    (Position.advance_of_closed above proper descends closed)
  intro opened
  obtain ⟨_, _, around, arrives⟩ := (lookup_eq_ok_iff tree _ _).mp opened
  rw [Path.parts_below filled some proper,
    Position.origin_below _ filled proper,
    Position.leadsTo_iff_follow, fails] at arrives
  cases arrives

/-- What can be looked up below a path stands behind a path that can be looked
up itself. -/
theorem exists_lookup_of_below {tree : FileTree} {root : Path} {node : Node}
    {names : List Path} (filled : root ≠ [])
    (noSlash : root.getLast? ≠ some Path.slash)
    (proper : ∀ name ∈ names, IsName name)
    (found : tree.lookup (Path.below root names) = .ok node) :
    ∃ before, tree.lookup root = .ok before := by
  by_cases none : names = []
  · subst none
    exact ⟨node, found⟩
  · obtain ⟨canFollow, short, above, leads⟩ :=
      (lookup_eq_ok_iff tree _ node).mp found
    obtain ⟨rest, whole⟩ := Path.exists_below_eq_append filled proper
    rw [Path.parts_below filled none proper, Path.stem, if_neg noSlash,
      Position.origin_below _ filled proper] at leads
    obtain ⟨middle, _, leadsBefore, _⟩ := leads.split
    refine ⟨middle.node, (lookup_eq_ok_iff tree root _).mpr
      ⟨⟨filled, fun nul => canFollow.no_nul ?_⟩, ?_, middle.above,
        leadsBefore⟩⟩
    · rw [whole]
      exact List.mem_append_left rest nul
    · rw [whole, List.length_append] at short
      omega

end FileTree

end TemplateLint
