import AiEnterpriseOs.Company.Hierarchy

/-!
# Levels along the reporting lines

The pass over the guessed levels is a breadth-first search from the roots, so the levels
respect the reporting lines where these are graded.
-/

namespace AiEnterpriseOs.Company

open Library

namespace OrgGraph

variable {graph : OrgGraph}

/-- What the pass makes of a node taken from its queue. -/
def deepen (graph : OrgGraph) (item : String × Nat) : OrgGraph :=
  match graph.getNode item.1 with
  | some node =>
    if (item.2 : Int) > node.level then graph.addNode { node with level := item.2 } else graph
  | none => graph

def levelOf (graph : OrgGraph) (nodeId : String) : Int :=
  ((graph.getNode nodeId).map OrgNode.level).getD 0

theorem deepen_edges (graph : OrgGraph) (item : String × Nat) :
    (graph.deepen item).edges = graph.edges ∧
      (graph.deepen item).reverseAdj = graph.reverseAdj := by
  unfold deepen
  split
  · split <;> exact ⟨rfl, rfl⟩
  · exact ⟨rfl, rfl⟩

theorem deepen_node (graph : OrgGraph) (item : String × Nat) (nodeId : String) :
    (graph.deepen item).getNode nodeId = (graph.getNode nodeId).map fun node =>
      if nodeId = item.1 then { node with level := max node.level item.2 } else node := by
  unfold deepen
  split
  next node found =>
    have named := graph.keyed _ _ found
    by_cases here : nodeId = item.1
    · rw [here, found, Option.map_some, if_pos rfl]
      split
      next deeper =>
        rw [max_eq_right (le_of_lt deeper), getNode, addNode, ← named]
        exact OrderedDict.get_set_self _ _ _
      next level =>
        rw [found, max_eq_left (not_lt.mp level)]
    · simp only [if_neg here, Option.map_id']
      split
      · exact OrderedDict.get_set_other _ _ (named ▸ here)
      · rfl
  next absent =>
    by_cases here : nodeId = item.1
    · rw [here, absent, Option.map_none]
    · simp only [if_neg here, Option.map_id']

theorem mem_child_ids_iff (lower upper : String) :
    lower ∈ graph.childIds upper ↔ lower ∈ graph.nodes.keys ∧
      ∃ edge ∈ graph.edges, edge.sourceId = lower ∧ edge.targetId = upper :=
  mem_children_iff lower upper

theorem child_ids_eq (graph : OrgGraph) (nodeId : String) : graph.childIds nodeId =
    (graph.reverseAdj.listed nodeId).filter fun child => (graph.getNode child).isSome := by
  rw [childIds, childrenOf]
  induction graph.reverseAdj.listed nodeId with
  | nil => rfl
  | cons child rest ih =>
    rw [List.filterMap_cons, List.filter_cons, ← ih, getNode]
    cases found : graph.nodes.get? child with
    | none => rfl
    | some node => exact congrArg (· :: _) (graph.keyed child node found)

theorem deepen_child_ids (graph : OrgGraph) (item : String × Nat) :
    (graph.deepen item).childIds = graph.childIds := by
  funext nodeId
  simp only [child_ids_eq, (deepen_edges graph item).2, deepen_node, Option.isSome_map]

theorem resolve_from_search (rounds : Nat) (graph : OrgGraph) (visited : Finset String)
    (queue : List (String × Nat))
    (present : ∀ item ∈ queue, (graph.getNode item.1).isSome = true) :
    resolveFrom rounds graph visited queue =
      (BreadthFirst.search graph.childIds rounds visited queue).map fun entries =>
        entries.foldl deepen graph := by
  induction rounds generalizing graph visited queue with
  | zero =>
    cases queue with
    | nil => rfl
    | cons item queue => rfl
  | succ rounds ih =>
    cases queue with
    | nil => rfl
    | cons item queue =>
      obtain ⟨node, found⟩ := Option.isSome_iff_exists.mp (present item List.mem_cons_self)
      obtain ⟨fresh, folded, _, member⟩ :=
        BreadthFirst.enqueue_all (item.2 + 1) (graph.childIds item.1) visited queue
      have updated : graph.deepen item =
          if (item.2 : Int) > node.level then graph.addNode { node with level := item.2 }
          else graph := by
        rw [deepen, found]
      have later := ih (graph.deepen item) (visited ∪ fresh.toFinset)
        (queue ++ fresh.map fun name => (name, item.2 + 1)) (by
          intro other entered
          rw [deepen_node, Option.isSome_map]
          rcases List.mem_append.mp entered with old | new
          · exact present other (List.mem_cons_of_mem _ old)
          · obtain ⟨name, isFresh, rfl⟩ := List.mem_map.mp new
            have child := ((member name).mp isFresh).1
            rw [child_ids_eq] at child
            exact (List.mem_filter.mp child).2)
      rw [resolveFrom, found]
      dsimp only
      rw [← updated, deepen_child_ids, folded, BreadthFirst.search, folded]
      dsimp only
      rw [later, deepen_child_ids, Option.map_map]
      rfl

theorem resolve_levels_searched (graph : OrgGraph) : ∃ entries,
    graph.resolveLevels = some (entries.foldl deepen graph) ∧
      BreadthFirst.Searched graph.childIds graph.roots entries := by
  have rooted : ∀ nodeId ∈ graph.roots, nodeId ∈ graph.nodes.keys := fun nodeId member =>
    (List.filter_sublist.map Prod.fst).subset member
  have once : graph.roots.Nodup := (List.filter_sublist.map Prod.fst).nodup graph.nodes.distinct
  have inside : ∀ parent, ∀ child ∈ graph.childIds parent, child ∈ graph.nodes.keys :=
    fun parent child member => ((mem_child_ids_iff child parent).mp member).1
  obtain ⟨entries, found, searched⟩ := BreadthFirst.search_searched inside once rooted
  refine ⟨entries, ?_, searched⟩
  rw [resolveLevels, resolve_from_search, found]
  · rfl
  · intro item member
    obtain ⟨nodeId, root, rfl⟩ := List.mem_map.mp member
    exact Option.isSome_iff_exists.mpr ((OrderedDict.mem_keys_iff _ _).mp (rooted nodeId root))

theorem deepened_edges (graph : OrgGraph) (entries : List (String × Nat)) :
    (entries.foldl deepen graph).edges = graph.edges := by
  induction entries generalizing graph with
  | nil => rfl
  | cons item rest ih => exact (ih _).trans (deepen_edges graph item).1

theorem deepened_node (graph : OrgGraph) (entries : List (String × Nat))
    (once : (entries.map Prod.fst).Nodup) (nodeId : String) :
    (entries.foldl deepen graph).getNode nodeId = (graph.getNode nodeId).map fun node =>
      { node with
        level := (entries.find? fun item => item.1 = nodeId).elim node.level fun item =>
          max node.level item.2 } := by
  induction entries generalizing graph with
  | nil => exact Option.map_id'.symm
  | cons item rest ih =>
    obtain ⟨fresh, once⟩ := List.nodup_cons.mp once
    rw [List.foldl_cons, ih _ once, deepen_node, Option.map_map, List.find?_cons]
    congr 1
    funext node
    by_cases here : item.1 = nodeId
    · have none_later : rest.find? (fun item => item.1 = nodeId) = none := by
        rw [List.find?_eq_none]
        intro other listed same
        exact fresh (List.mem_map.mpr ⟨other, listed, (of_decide_eq_true same).trans here.symm⟩)
      simp [here, none_later]
    · simp [here, Ne.symm here]

end OrgGraph

/-! ## What the builder enters -/

def Change.node? : Change → Option OrgNode
  | .node added => some added
  | .edge _ => none

def Change.edge? : Change → Option OrgEdge
  | .node _ => none
  | .edge added => some added

/-- The nodes of some changes under their ids. -/
def entered (changes : List Change) : List (String × OrgNode) :=
  (changes.filterMap Change.node?).map fun node => (node.id, node)

theorem applied (changes : List Change) :
    (changes.foldl Change.apply OrgGraph.empty).edges = changes.filterMap Change.edge? ∧
      (changes.foldl Change.apply OrgGraph.empty).nodes =
        OrderedDict.empty.setAll (entered changes) := by
  induction changes using List.reverseRecOn with
  | nil => exact ⟨rfl, rfl⟩
  | append_singleton changes change ih =>
    rw [List.foldl_append, entered, List.filterMap_append, List.filterMap_append, List.map_append,
      OrderedDict.setAll_append]
    rw [← ih.1, ← entered, ← ih.2]
    cases change with
    | node node => exact ⟨(List.append_nil _).symm, rfl⟩
    | edge edge => exact ⟨rfl, rfl⟩

theorem mem_entered_iff {changes : List Change} {nodeId : String} {node : OrgNode} :
    (nodeId, node) ∈ entered changes ↔ .node node ∈ changes ∧ node.id = nodeId := by
  simp only [entered, List.mem_map, List.mem_filterMap, Prod.mk.injEq]
  constructor
  · rintro ⟨_, ⟨change, member, isNode⟩, same, rfl⟩
    cases change with
    | node added =>
      cases isNode
      exact ⟨member, same⟩
    | edge added => cases isNode
  · rintro ⟨member, same⟩
    exact ⟨node, ⟨.node node, member, rfl⟩, same, rfl⟩

theorem entered_append (first second : List Change) :
    entered (first ++ second) = entered first ++ entered second := by
  rw [entered, List.filterMap_append, List.map_append]
  rfl

section Registry

variable (lower : String → String) (reg : CompanyRegistry)

theorem make_id_head {kind : String} (spelled : kind.toList ≠ []) (name : String) :
    (makeId lower kind name).toList.head? = kind.toList.head? := by
  obtain ⟨first, rest, same⟩ := List.exists_cons_of_ne_nil spelled
  simp [makeId, same]

def ofExecutive (nodeId : String) : Prop := nodeId.toList.head? = some 'e'

/-- The board, or an executive whose last entry has the title of a CEO. -/
def CompanyRegistry.Heads (nodeId : String) : Prop :=
  nodeId = boardId lower ∨
    ((reg.namedExecutives.reverse.find? fun person => makeId lower "exec" person.1 = nodeId).any
      fun person => isCeo lower person.2.title) = true

/-- After the build every `reports_to` edge leads to a node of a smaller level. -/
def CompanyRegistry.LevelsRespect : Prop :=
  ∃ graph, reg.build lower = some graph ∧
    ∀ edge ∈ graph.edges, edge.edgeType = "reports_to" →
      ∃ worker manager, graph.getNode edge.sourceId = some worker ∧
        graph.getNode edge.targetId = some manager ∧ manager.level < worker.level

/-- Of the board, a department, a role or a specialist. -/
def Change.Outside : Change → Prop
  | .node added => ¬ofExecutive added.id ∧ (added.id = boardId lower → added.level = 0)
  | .edge added => ¬ofExecutive added.sourceId ∧ added.edgeType ≠ "reports_to"

theorem exec_of_executive (name : String) : ofExecutive (makeId lower "exec" name) :=
  make_id_head lower (by decide) name

variable {lower reg}

theorem not_executive {kind : String} (spelled : kind.toList ≠ [])
    (other : kind.toList.head? ≠ some 'e') (name : String) :
    ¬ofExecutive (makeId lower kind name) := by
  rw [ofExecutive, make_id_head lower spelled]
  exact other

theorem not_board {kind : String} (spelled : kind.toList ≠ [])
    (other : kind.toList.head? ≠ some 'b') (name : String) :
    makeId lower kind name ≠ boardId lower := by
  intro same
  have heads := make_id_head lower spelled name
  rw [same, boardId, make_id_head lower (by decide)] at heads
  exact other heads.symm

theorem board_outside {change : Change} (member : change ∈ reg.boardLevel lower) :
    change.Outside lower := by
  have board : ∀ name, ¬ofExecutive (makeId lower "board" name) :=
    not_executive (by decide) (by decide)
  simp only [CompanyRegistry.boardLevel, List.mem_cons, List.mem_append, List.mem_flatMap,
    List.not_mem_nil, or_false] at member
  rcases member with rfl | ⟨entry, _, rfl | rfl⟩ | ⟨entry, _, rfl | rfl⟩
  · exact ⟨board _, fun _ => rfl⟩
  · exact ⟨board _, fun _ => rfl⟩
  · exact ⟨board _, (by decide : "member_of" ≠ _)⟩
  · exact ⟨board _, fun _ => rfl⟩
  · exact ⟨board _, (by decide : "member_of" ≠ _)⟩

theorem others_outside {change : Change}
    (member : change ∈ reg.departmentLevel lower ++ reg.roleLevel lower ++
      reg.specialistLevel lower) : change.Outside lower := by
  simp only [CompanyRegistry.departmentLevel, CompanyRegistry.roleLevel,
    CompanyRegistry.specialistLevel, List.mem_append, List.mem_flatMap, List.mem_cons,
    Option.mem_toList, Option.map_eq_some_iff, List.mem_filterMap, List.not_mem_nil,
    or_false] at member
  rcases member with (⟨_, _, rfl | ⟨_, _, rfl⟩⟩ | ⟨_, _, _, _, rfl | rfl⟩) | ⟨_, _, _, _, rfl⟩
  · exact ⟨not_executive (by decide) (by decide) _,
      fun same => absurd same (not_board (by decide) (by decide) _)⟩
  · exact ⟨not_executive (by decide) (by decide) _, (by decide : "leads" ≠ _)⟩
  · exact ⟨not_executive (by decide) (by decide) _,
      fun same => absurd same (not_board (by decide) (by decide) _)⟩
  · exact ⟨not_executive (by decide) (by decide) _, (by decide : "member_of" ≠ _)⟩
  · exact ⟨not_executive (by decide) (by decide) _,
      fun same => absurd same (not_board (by decide) (by decide) _)⟩

theorem change_cases {change : Change} (member : change ∈ reg.changes lower) :
    change ∈ reg.executiveLevel lower ∨ change.Outside lower := by
  rw [CompanyRegistry.changes, List.append_assoc, List.append_assoc, List.append_assoc,
    List.mem_append, List.mem_append] at member
  rcases member with board | executive | others
  · exact Or.inr (board_outside board)
  · exact Or.inl executive
  · rw [← List.append_assoc] at others
    exact Or.inr (others_outside others)

theorem edge_entered_iff (edge : OrgEdge) :
    edge ∈ (reg.guessed lower).edges ↔ .edge edge ∈ reg.changes lower := by
  rw [CompanyRegistry.guessed, (applied _).1, List.mem_filterMap]
  constructor
  · rintro ⟨change, member, isEdge⟩
    cases change with
    | node added => cases isEdge
    | edge added =>
      cases isEdge
      exact member
  · exact fun member => ⟨_, member, rfl⟩

theorem line_edge_iff {edge : OrgEdge}
    (kind : ofExecutive edge.sourceId ∨ edge.edgeType = "reports_to") :
    edge ∈ (reg.guessed lower).edges ↔
      (edge.sourceId, edge.targetId) ∈ reg.reportingLines lower ∧
        edge.edgeType = "reports_to" := by
  have executive : .edge edge ∈ reg.executiveLevel lower ↔
      (edge.sourceId, edge.targetId) ∈ reg.reportingLines lower ∧
        edge.edgeType = "reports_to" := by
    simp only [CompanyRegistry.executiveLevel, List.mem_append, List.mem_map, reduceCtorEq,
      and_false, exists_false, false_or, Change.edge.injEq]
    constructor
    · rintro ⟨line, member, rfl⟩
      exact ⟨member, rfl⟩
    · rintro ⟨member, typed⟩
      exact ⟨_, member, by rw [← typed]⟩
  rw [edge_entered_iff, ← executive]
  constructor
  · intro member
    rcases change_cases member with inside | outside
    · exact inside
    · exact absurd kind (not_or.mpr outside)
  · intro member
    simp only [CompanyRegistry.changes, List.mem_append]
    tauto

/-- The board and the executives. -/
def Known (lower : String → String) (reg : CompanyRegistry) (nodeId : String) : Prop :=
  nodeId = boardId lower ∨ ∃ person ∈ reg.namedExecutives, makeId lower "exec" person.1 = nodeId

theorem exec_ids_known {name nodeId : String}
    (found : (reg.execIds lower).get? name = some nodeId) : Known lower reg nodeId := by
  rcases OrderedDict.get_setAll_cases found with entry | none
  · obtain ⟨person, member, same⟩ := List.mem_map.mp entry
    exact Or.inr ⟨person, member, congrArg Prod.snd same⟩
  · cases none

theorem ceo_known {ceo : String} (found : reg.ceoId lower = some ceo) : Known lower reg ceo := by
  have titled : ∀ persons : List (String × ExecutiveEntry), persons.foldl (fun ceo person =>
      if isCeo lower person.2.title then some (makeId lower "exec" person.1) else ceo) none =
        some ceo → ∃ person ∈ persons, makeId lower "exec" person.1 = ceo := by
    intro persons
    induction persons using List.reverseRecOn with
    | nil => nofun
    | append_singleton persons person ih =>
      rw [List.foldl_append, List.foldl_cons, List.foldl_nil]
      split
      next => exact fun same => ⟨person, by simp, Option.some.inj same⟩
      next =>
        intro same
        obtain ⟨other, member, named⟩ := ih same
        exact ⟨other, List.mem_append_left _ member, named⟩
  exact Or.inr (titled _ found)

theorem line_known {name upper : String} (line : (name, upper) ∈ reg.reportingLines lower) :
    Known lower reg name ∧ Known lower reg upper ∧ ofExecutive name := by
  obtain ⟨person, member, managed⟩ := List.mem_filterMap.mp line
  obtain ⟨target, found, same⟩ := Option.map_eq_some_iff.mp managed
  cases same
  refine ⟨Or.inr ⟨person, member, rfl⟩, ?_, exec_of_executive lower _⟩
  unfold CompanyRegistry.managerId at found
  split at found
  · cases listed : (reg.execIds lower).get? person.2.reportsTo with
    | some nodeId =>
      rw [listed] at found
      exact Option.some.inj found ▸ exec_ids_known listed
    | none =>
      rw [listed] at found
      exact Or.inl (Option.some.inj found).symm
  · split at found
    next ceo isCeo =>
      dsimp only at found
      split at found
      · exact Option.some.inj found ▸ ceo_known isCeo
      · cases found
    next => cases found

theorem executive_node {nodeId : String} (executive : ofExecutive nodeId) :
    (reg.guessed lower).getNode nodeId =
      (reg.namedExecutives.reverse.find? fun person =>
        makeId lower "exec" person.1 = nodeId).map (CompanyRegistry.executiveNode lower) := by
  have outside : ∀ changes : List Change, (∀ change ∈ changes, change.Outside lower) →
      (entered changes).reverse.find? (fun item => item.1 = nodeId) = none := by
    intro changes others
    rw [List.find?_eq_none]
    intro item member same
    rw [List.mem_reverse] at member
    obtain ⟨change, named⟩ := mem_entered_iff.mp member
    rw [of_decide_eq_true same] at named
    exact (others _ change).1 (named ▸ executive)
  have own : entered (reg.executiveLevel lower) = reg.namedExecutives.map fun person =>
      (makeId lower "exec" person.1, CompanyRegistry.executiveNode lower person) := by
    rw [CompanyRegistry.executiveLevel, entered_append]
    simp [entered, List.filterMap_map, Function.comp_def, Change.node?,
      CompanyRegistry.executiveNode]
  rw [OrgGraph.getNode, CompanyRegistry.guessed, (applied _).2, OrderedDict.get_setAll_find,
    CompanyRegistry.changes, List.append_assoc, List.append_assoc, List.append_assoc,
    entered_append, entered_append, ← List.append_assoc (reg.departmentLevel lower)]
  rw [List.reverse_append, List.reverse_append, List.find?_append, List.find?_append,
    outside _ fun _ => others_outside, outside _ fun _ => board_outside, own, ← List.map_reverse,
    List.find?_map, Option.none_or, Option.or_none, Option.map_map]
  rfl

theorem board_node : ∃ node, (reg.guessed lower).getNode (boardId lower) = some node ∧
    node.level = 0 := by
  have start : ∃ node, (boardId lower, node) ∈ entered (reg.changes lower) :=
    ⟨_, mem_entered_iff.mpr ⟨by
      simp only [CompanyRegistry.changes, List.append_assoc]
      exact List.mem_append_left _ List.mem_cons_self, rfl⟩⟩
  obtain ⟨first, listed⟩ := start
  obtain ⟨node, found⟩ := OrderedDict.get_setAll_present OrderedDict.empty listed
  refine ⟨node, by rw [OrgGraph.getNode, CompanyRegistry.guessed, (applied _).2, found], ?_⟩
  rcases OrderedDict.get_setAll_cases found with entry | none
  · obtain ⟨change, named⟩ := mem_entered_iff.mp entry
    rcases change_cases change with inside | outside
    · simp only [CompanyRegistry.executiveLevel, List.mem_append, List.mem_map, reduceCtorEq,
        and_false, exists_false, or_false, Change.node.injEq] at inside
      obtain ⟨person, _, rfl⟩ := inside
      exact absurd named (not_board (by decide) (by decide) _)
    · exact outside.2 named
  · cases none

theorem known_node {nodeId : String} (known : Known lower reg nodeId) :
    ∃ node, (reg.guessed lower).getNode nodeId = some node ∧
      (reg.Heads lower nodeId → node.level = 0) ∧ (¬reg.Heads lower nodeId → node.level = 1) := by
  by_cases board : nodeId = boardId lower
  · obtain ⟨node, found, level⟩ := @board_node lower reg
    exact ⟨node, board ▸ found, fun _ => level, fun below => absurd (Or.inl board) below⟩
  · obtain ⟨person, member, rfl⟩ := known.resolve_left board
    have found : (reg.guessed lower).getNode _ = _ :=
      executive_node (exec_of_executive lower person.1)
    rw [CompanyRegistry.Heads, or_iff_right board]
    cases last : reg.namedExecutives.reverse.find? fun other =>
        makeId lower "exec" other.1 = makeId lower "exec" person.1 with
    | none =>
      exact absurd (decide_eq_true rfl) (List.find?_eq_none.mp last person
        (List.mem_reverse.mpr member))
    | some last =>
      rw [last] at found
      exact ⟨_, found, fun titled => if_pos titled, fun plain => if_neg plain⟩

theorem mem_roots_iff {nodeId : String} (known : Known lower reg nodeId) :
    nodeId ∈ (reg.guessed lower).roots ↔ reg.Heads lower nodeId ∨
      ∀ upper, (nodeId, upper) ∉ reg.reportingLines lower := by
  obtain ⟨node, found, high, low⟩ := known_node known
  have entry : nodeId ∈ (reg.guessed lower).roots ↔
      node.level = 0 ∨ (reg.guessed lower).parentsOf nodeId = [] := by
    simp only [OrgGraph.roots, List.mem_map, List.mem_filter, Bool.or_eq_true, decide_eq_true_eq,
      List.isEmpty_iff]
    constructor
    · rintro ⟨⟨_, other⟩, ⟨listed, root⟩, rfl⟩
      have same := (OrderedDict.get_eq_some_iff _ _ _).mpr listed
      rw [OrgGraph.getNode, same] at found
      exact Option.some.inj found ▸ root
    · intro root
      exact ⟨(nodeId, node), ⟨(OrderedDict.get_eq_some_iff _ _ _).mp found, root⟩, rfl⟩
  rw [entry]
  by_cases head : reg.Heads lower nodeId
  · exact iff_of_true (Or.inl (high head)) (Or.inl head)
  · rw [or_iff_right head, low head, or_iff_right one_ne_zero, ← List.map_eq_nil_iff,
      List.eq_nil_iff_forall_not_mem]
    have executive : ofExecutive nodeId := by
      obtain ⟨person, _, same⟩ := known.resolve_left fun board => head (Or.inl board)
      exact same ▸ exec_of_executive lower person.1
    apply forall_congr'
    intro upper
    rw [not_iff_not, OrgGraph.mem_parents_iff]
    constructor
    · rintro ⟨_, edge, member, rfl, rfl⟩
      exact ((line_edge_iff (Or.inl executive)).mp member).1
    · intro line
      obtain ⟨above, present, _⟩ := known_node (line_known line).2.1
      refine ⟨(OrderedDict.mem_keys_iff _ _).mpr ⟨above, present⟩,
        { sourceId := nodeId, targetId := upper }, ?_, rfl, rfl⟩
      exact (line_edge_iff (Or.inr rfl)).mpr ⟨line, rfl⟩

theorem build_deepens {entries : List (String × Nat)}
    (searched : BreadthFirst.Searched (reg.guessed lower).childIds (reg.guessed lower).roots
      entries) :
    BreadthFirst.Deepened (reg.guessed lower).childIds (reg.guessed lower).roots entries
      (fun name upper => (name, upper) ∈ reg.reportingLines lower) (reg.Heads lower)
      (entries.foldl OrgGraph.deepen (reg.guessed lower)).levelOf := by
  have known : ∀ name, (∃ other, (name, other) ∈ reg.reportingLines lower ∨
      (other, name) ∈ reg.reportingLines lower) → Known lower reg name := by
    rintro name ⟨other, up | down⟩
    · exact (line_known up).1
    · exact (line_known down).2.1
  have level : ∀ name node, (reg.guessed lower).getNode name = some node →
      (entries.foldl OrgGraph.deepen (reg.guessed lower)).levelOf name =
        (entries.find? fun item => item.1 = name).elim node.level fun item =>
          max node.level item.2 := by
    intro name node found
    rw [OrgGraph.levelOf, OrgGraph.deepened_node _ _ searched.once, found]
    rfl
  constructor
  · intro name upper line
    obtain ⟨node, found, _⟩ := known_node (line_known line).1
    exact (OrgGraph.mem_child_ids_iff name upper).mpr
      ⟨(OrderedDict.mem_keys_iff _ _).mpr ⟨node, found⟩, { sourceId := name, targetId := upper },
        (line_edge_iff (Or.inr rfl)).mpr ⟨line, rfl⟩, rfl, rfl⟩
  · intro name lined low parent child
    obtain ⟨_, edge, member, rfl, rfl⟩ := (OrgGraph.mem_child_ids_iff name parent).mp child
    obtain ⟨person, _, same⟩ := (known _ lined).resolve_left fun board => low (Or.inl board)
    exact ((line_edge_iff (Or.inl (same ▸ exec_of_executive lower person.1))).mp member).1
  · exact fun name lined => mem_roots_iff (known name lined)
  · intro name lined depth entered
    obtain ⟨node, found, high, low⟩ := known_node (known name lined)
    have taken : entries.find? (fun item => item.1 = name) = some (name, depth) := by
      cases first : entries.find? fun item => item.1 = name with
      | none => exact absurd (decide_eq_true rfl) (List.find?_eq_none.mp first _ entered)
      | some item =>
        have same : item.1 = name := of_decide_eq_true (List.find?_some first :)
        obtain ⟨_, _⟩ := item
        subst same
        rw [searched.unique (List.mem_of_find?_eq_some first) entered]
    rw [level name node found, taken, Option.elim_some]
    refine ⟨fun head => ?_, fun below => ?_⟩
    · rw [high head]
      exact max_eq_right (Int.natCast_nonneg depth)
    · rw [low below]
      dsimp only
      omega
  · intro name lined never
    obtain ⟨node, found, high, low⟩ := known_node (known name lined)
    have missed : entries.find? (fun item => item.1 = name) = none := by
      rw [List.find?_eq_none]
      rintro ⟨other, depth⟩ entered same
      exact never depth (of_decide_eq_true same ▸ entered)
    rw [level name node found, missed, Option.elim_none]
    exact ⟨high, low⟩

end Registry

/-- The pass returns for every registry, changes nothing but levels and lowers none. -/
theorem build_raises_levels (lower : String → String) (reg : CompanyRegistry) :
    ∃ graph, reg.build lower = some graph ∧ graph.edges = (reg.guessed lower).edges ∧
      ∀ nodeId, Option.Rel
        (fun before after => before.level ≤ after.level ∧
          after = { before with level := after.level })
        ((reg.guessed lower).getNode nodeId) (graph.getNode nodeId) := by
  obtain ⟨entries, built, searched⟩ := OrgGraph.resolve_levels_searched (reg.guessed lower)
  refine ⟨_, built, OrgGraph.deepened_edges _ _, fun nodeId => ?_⟩
  rw [OrgGraph.deepened_node _ _ searched.once]
  cases (reg.guessed lower).getNode nodeId with
  | none => exact .none
  | some node =>
    refine .some ⟨?_, rfl⟩
    cases entries.find? fun item => item.1 = nodeId with
    | none => exact le_rfl
    | some item => exact le_max_left _ _

def asciiLower (text : String) : String := String.ofList (text.toList.map Char.toLower)

/-- A chief executive who reports to the board. -/
def ledByBoard : CompanyRegistry where
  executives := [{ name := some "Ada", title := some "CEO", reportsTo := "Board" }]

end AiEnterpriseOs.Company
