import AiEnterpriseOs.Company.OrgGraph
import AiEnterpriseOs.Library.BreadthFirst
import AiEnterpriseOs.Library.TextSearch

/-!
# The hierarchy builder

Nodes and edges come from the registry, each with a level guessed from its kind
and title. A breadth-first pass then makes the levels deeper.
-/

namespace AiEnterpriseOs.Company

open Library

structure Role where
  title : String
  description : String := ""

structure DepartmentData where
  name : String
  roles : List Role := []

structure BoardEntry where
  name : Option String := none
  role : Option String := none

structure BoardMember where
  name : String
  role : String := ""

structure ExecutiveEntry where
  name : Option String := none
  title : Option String := none
  department : String := ""
  directReports : List String := []
  reportsTo : String := ""

structure SpecialistEntry where
  name : Option String := none
  expertise : Option String := none

/-- What the organization is built from. -/
structure CompanyRegistry where
  departments : OrderedDict String DepartmentData := OrderedDict.empty
  board : List BoardEntry := []
  executives : List ExecutiveEntry := []
  specialists : List SpecialistEntry := []
  boardMembers : List BoardMember := []

/-- `text or fallback`. -/
def orElse (text : Option String) (fallback : String) : String :=
  match text with
  | some text => if text = "" then fallback else text
  | none => fallback

/-- The name of an entry that has one. -/
def given (name : Option String) : Option String := name.filter fun text => text ≠ ""

/-- A call of `_add_node` or `_add_edge`. -/
inductive Change where
  | node (node : OrgNode)
  | edge (edge : OrgEdge)

def Change.apply (graph : OrgGraph) : Change → OrgGraph
  | .node added => graph.addNode added
  | .edge added => graph.addEdge added

section Build

variable (lower : String → String)

def makeId (kind name : String) : String :=
  let stripped := String.ofList (TextLines.strip name.toList)
  let safe := (lower stripped).toList.map fun char => if char = ' ' then '_' else char
  kind ++ ":" ++ String.ofList (safe.filter fun char => char ≠ '.')

def boardId : String := makeId lower "board" "board_of_directors"

/-- `title.split()`. -/
def words (text : List Char) : List (List Char) :=
  (text.splitOnP TextLines.isSpace).filter fun word => word ≠ []

def isCeo (title : Option String) : Bool :=
  let titleLower := (lower (title.getD "")).toList
  titleLower ≠ [] && (titleLower = "ceo".toList ||
      (TextSearch.cut "chief executive officer".toList titleLower).isSome ||
      "ceo".toList.isPrefixOf titleLower || (words titleLower).contains "ceo".toList)

namespace CompanyRegistry

variable (reg : CompanyRegistry)

/-- `_build_board_level`. -/
def boardLevel : List Change :=
  let member (name role : String) : List Change :=
    [.node
      { id := makeId lower "board" name
        name := name
        title := orElse (some role) "Board Member"
        nodeType := "board"
        level := 0
        parentId := some (boardId lower) },
      .edge
        { sourceId := makeId lower "board" name
          targetId := boardId lower
          edgeType := "member_of" }]
  .node
      { id := boardId lower
        name := "Board of Directors"
        title := "Board of Directors"
        nodeType := "board"
        level := 0 } ::
    (reg.board.flatMap (fun entry => member (orElse entry.name "unnamed") (entry.role.getD "")) ++
      reg.boardMembers.flatMap fun entry => member entry.name entry.role)

def namedExecutives : List (String × ExecutiveEntry) :=
  reg.executives.filterMap fun entry => (given entry.name).map fun name => (name, entry)

/-- `exec_ids` after the first pass. -/
def execIds : OrderedDict String String :=
  OrderedDict.empty.setAll
    (reg.namedExecutives.map fun person => (person.1, makeId lower "exec" person.1))

/-- `ceo_id` after the first pass. -/
def ceoId : Option String :=
  reg.namedExecutives.foldl (fun ceo person =>
    if isCeo lower person.2.title then some (makeId lower "exec" person.1) else ceo) none

def executiveNode (person : String × ExecutiveEntry) : OrgNode where
  id := makeId lower "exec" person.1
  name := person.1
  title := orElse person.2.title "Executive"
  nodeType := "executive"
  level := if isCeo lower person.2.title then 0 else 1
  department := person.2.department

/-- Whom an executive's node reports to, by the second pass. -/
def managerId (person : String × ExecutiveEntry) : Option String :=
  let sourceId := makeId lower "exec" person.1
  if person.2.reportsTo ≠ "" then
    some (((reg.execIds lower).get? person.2.reportsTo).getD (boardId lower))
  else
    match reg.ceoId lower with
    | some ceo => if sourceId ≠ ceo then some ceo else none
    | none => none

/-- The ends of the edges of type `reports_to`. -/
def reportingLines : List (String × String) :=
  reg.namedExecutives.filterMap fun person =>
    (reg.managerId lower person).map fun target => (makeId lower "exec" person.1, target)

/-- `_build_executive_level`. -/
def executiveLevel : List Change :=
  reg.namedExecutives.map (fun person => .node (executiveNode lower person)) ++
    (reg.reportingLines lower).map fun line =>
      .edge { sourceId := line.1, targetId := line.2, edgeType := "reports_to" }

def deptToExec : OrderedDict String String :=
  OrderedDict.empty.setAll
    ((reg.namedExecutives.filter fun person => person.2.department ≠ "").map fun person =>
      (person.2.department, makeId lower "exec" person.1))

/-- `_build_department_level`. -/
def departmentLevel : List Change :=
  reg.departments.entries.flatMap fun department =>
    let deptId := makeId lower "dept" department.1
    let parentId := (reg.deptToExec lower).get? department.1
    .node
        { id := deptId
          name := department.2.name
          title := "Department: " ++ department.2.name
          nodeType := "department"
          level := 1
          parentId := parentId } ::
      (parentId.map fun parent => Change.edge
        { sourceId := deptId, targetId := parent, edgeType := "leads" }).toList

/-- `_build_role_level`. -/
def roleLevel : List Change :=
  reg.departments.entries.flatMap fun department =>
    let deptId := makeId lower "dept" department.1
    department.2.roles.flatMap fun role =>
      let roleId := makeId lower "role" (department.1 ++ "/" ++ role.title)
      [.node
        { id := roleId
          name := role.title
          title := orElse (some role.description) role.title
          nodeType := "role"
          level := 2
          department := department.1
          parentId := some deptId },
        .edge { sourceId := roleId, targetId := deptId, edgeType := "member_of" }]

/-- `_build_specialist_level`. -/
def specialistLevel : List Change :=
  reg.specialists.filterMap fun entry =>
    (given entry.name).map fun name => .node
      { id := makeId lower "specialist" name
        name := name
        title := orElse entry.expertise "Specialist"
        nodeType := "specialist"
        level := 3 }

def changes : List Change :=
  reg.boardLevel lower ++ reg.executiveLevel lower ++ reg.departmentLevel lower ++
    reg.roleLevel lower ++ reg.specialistLevel lower

/-- The graph before its levels are resolved. -/
def guessed : OrgGraph := (reg.changes lower).foldl Change.apply OrgGraph.empty

end CompanyRegistry

end Build

namespace OrgGraph

variable (graph : OrgGraph)

/-- The nodes that the pass starts from. -/
def roots : List String :=
  (graph.nodes.entries.filter fun entry =>
    entry.2.level = 0 || (graph.parentsOf entry.1).isEmpty).map Prod.fst

def childIds (nodeId : String) : List String := (graph.childrenOf nodeId).map OrgNode.id

/-- The loop of `_resolve_levels`. -/
def resolveFrom : Nat → OrgGraph → Finset String → List (String × Nat) → Option OrgGraph
  | _, graph, _, [] => some graph
  | 0, _, _, _ :: _ => none
  | rounds + 1, graph, visited, (nodeId, level) :: queue =>
    match graph.getNode nodeId with
    | none => resolveFrom rounds graph visited queue
    | some node =>
      let updated :=
        if (level : Int) > node.level then graph.addNode { node with level := level }
        else graph
      let (seen, longer) :=
        (updated.childIds nodeId).foldl (BreadthFirst.enqueue (level + 1)) (visited, queue)
      resolveFrom rounds updated seen longer

def resolveLevels : Option OrgGraph :=
  resolveFrom graph.nodes.keys.length graph graph.roots.toFinset
    (graph.roots.map fun nodeId => (nodeId, 0))

end OrgGraph

/-- `build`; `none` where the rounds of its loop do not suffice. -/
def CompanyRegistry.build (lower : String → String) (reg : CompanyRegistry) : Option OrgGraph :=
  (reg.guessed lower).resolveLevels

end AiEnterpriseOs.Company
