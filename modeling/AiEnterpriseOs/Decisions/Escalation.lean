import AiEnterpriseOs.Decisions.Engine
import AiEnterpriseOs.Library.ParentChain
import AiEnterpriseOs.Library.Runs

/-!
# Escalation

The path of a decision starts with its owner, and an escalation takes the element
after the owner. The owner stays, so every escalation takes the same element.
-/

namespace AiEnterpriseOs.Decisions

open Library Library.ParentChain

structure ApprovalRouter where
  approvalHierarchy : OrderedDict String String

/-- `decision.owner or "requester"`. -/
def firstRole (owner : String) : String := if owner = "" then "requester" else owner

namespace ApprovalRouter

def superior (router : ApprovalRouter) : String → Option String :=
  router.approvalHierarchy.get?

/-- A path for each decision; `none` where the loop does not end. -/
def determinePath (router : ApprovalRouter) (decision : Decision) : Option (List String) :=
  (walk router.superior (router.approvalHierarchy.keys.length + 1)
    (firstRole decision.owner)).map fun visited =>
      if visited.2 = "" then visited.1 else visited.1 ++ [visited.2]

def Acyclic (router : ApprovalRouter) : Prop := TopologicalSort.Acyclic (Above router.superior)

end ApprovalRouter

/-- The arguments of `escalate` besides the decision. -/
structure EscalationCall where
  now : Int
  escalationNote : String

/-- The engine and the decision after a call whose write to the history succeeds. -/
def escalateStep (state : DecisionEngine × Decision) (call : EscalationCall) :
    DecisionEngine × Decision :=
  let outcome := state.1.escalate call.now state.2 call.escalationNote none
  (outcome.1,
    match outcome.2 with
    | .ok decision => decision
    | .error _ => state.2)

/-- The role that the last call routed the decision to. -/
def routedTo (decision : Decision) : Option String := decision.escalationPath.getLast?

/-- The calls route the decision up the hierarchy, one superior after the other, and to
the topmost role from there on. -/
def ClimbsHierarchy (router : ApprovalRouter) (engine : DecisionEngine) (decision : Decision) :
    Prop :=
  ∀ calls : List EscalationCall, calls ≠ [] →
    routedTo (runInputs escalateStep (engine, decision) calls).2 =
      some ((up router.superior)^[calls.length] (firstRole decision.owner))

/-- The owner has no superior, or a topmost one, and both have a name. -/
def ApprovalRouter.OneLevel (router : ApprovalRouter) (owner : String) : Prop :=
  ∀ superior, router.superior (firstRole owner) = some superior →
    owner ≠ "" ∧ superior ≠ "" ∧ router.superior superior = none

section Stalling

variable (decision : Decision)

theorem escalate_path (state : DecisionEngine × Decision) (call : EscalationCall) :
    (escalateStep state call).2.escalationPath =
      state.2.escalationPath ++ [nextLevel state.2] := rfl

theorem escalate_owner (state : DecisionEngine × Decision) (call : EscalationCall) :
    (escalateStep state call).2.owner = state.2.owner := rfl

theorem next_level_owned (owned : decision.owner ∈ decision.escalationPath) : nextLevel decision =
      (decision.escalationPath[decision.escalationPath.idxOf decision.owner + 1]?).getD
        (decision.escalationPath.getLast?.getD "board") := by
  rw [nextLevel]
  rw [if_pos owned]

theorem next_level_unowned (unowned : decision.owner ∉ decision.escalationPath) :
    nextLevel decision = decision.escalationPath.head?.getD "board" := by
  rw [nextLevel]
  rw [if_neg unowned]
  cases decision.escalationPath with
  | nil => rfl
  | cons first rest => rfl

theorem next_level_stalls {before after : Decision} (owner : after.owner = before.owner)
    (path : after.escalationPath = before.escalationPath ++ [nextLevel before]) :
    nextLevel after = nextLevel before := by
  by_cases owned : before.owner ∈ before.escalationPath
  · have still : after.owner ∈ after.escalationPath := by
      rw [owner, path]
      exact List.mem_append_left _ owned
    have inside := List.idxOf_lt_length_of_mem owned
    rw [next_level_owned after still, owner, path, List.idxOf_append, if_pos owned]
    by_cases more : before.escalationPath.idxOf before.owner + 1 < before.escalationPath.length
    · rw [List.getElem?_append_left more, next_level_owned before owned,
        List.getElem?_eq_getElem more]
      rfl
    · have last : before.escalationPath.idxOf before.owner + 1 =
          before.escalationPath.length := by omega
      rw [last, List.getElem?_append_right (Nat.le_refl _), Nat.sub_self]
      rfl
  · have first := next_level_unowned before owned
    by_cases taken : after.owner ∈ after.escalationPath
    · -- then the path was empty and the owner is the board
      have same : before.owner = nextLevel before := by
        rw [owner, path] at taken
        exact List.mem_singleton.mp ((List.mem_append.mp taken).resolve_left owned)
      cases steps : before.escalationPath with
      | nil =>
        rw [next_level_owned after taken, owner, path, steps, same]
        simp
      | cons head rest =>
        rw [steps] at first owned
        rw [same, first] at owned
        exact absurd List.mem_cons_self owned
    · rw [next_level_unowned after taken, path]
      cases steps : before.escalationPath with
      | nil => rfl
      | cons head rest =>
        rw [first, steps]
        rfl

theorem routed_to (state : DecisionEngine × Decision) (calls : List EscalationCall)
    (called : calls ≠ []) :
    routedTo (runInputs escalateStep state calls).2 = some (nextLevel state.2) := by
  induction calls generalizing state with
  | nil => exact absurd rfl called
  | cons call rest ih =>
    rw [run_inputs_cons]
    cases rest with
    | nil =>
      rw [run_inputs_nil, routedTo, escalate_path]
      exact List.getLast?_concat
    | cons next rest =>
      rw [ih (escalateStep state call) nofun]
      exact congrArg some (next_level_stalls (escalate_owner state call) (escalate_path state call))

end Stalling

section Path

variable {router : ApprovalRouter} {decision : Decision} {path : List String}

theorem first_role_named (owner : String) : firstRole owner ≠ "" := by
  rw [firstRole]
  split
  · decide
  next named => exact named

theorem determine_path_shape (found : router.determinePath decision = some path) :
    (router.superior (firstRole decision.owner) = none ∧ path = [firstRole decision.owner]) ∨
      ∃ superior, router.superior (firstRole decision.owner) = some superior ∧
        ((router.superior superior = none ∧
            path = firstRole decision.owner :: if superior = "" then [] else [superior]) ∨
          router.superior superior ≠ none) := by
  rw [ApprovalRouter.determinePath, walk] at found
  cases above : router.superior (firstRole decision.owner) with
  | none =>
    left
    rw [above] at found
    refine ⟨rfl, ?_⟩
    simpa [first_role_named] using found.symm
  | some superior =>
    right
    rw [above] at found
    refine ⟨superior, rfl, ?_⟩
    cases higher : router.superior superior with
    | some top => exact .inr (Option.some_ne_none top)
    | none =>
      left
      refine ⟨rfl, ?_⟩
      cases rounds : router.approvalHierarchy.keys.length with
      | zero =>
        simp only [rounds, walk, Option.map_none] at found
        cases found
      | succ rounds =>
        simp only [rounds, walk, higher, Option.map_some] at found
        rw [← Option.some.inj found]
        split <;> rfl

theorem next_level_single {role : String} (path : decision.escalationPath = [role]) :
    nextLevel decision = role := by
  by_cases owned : decision.owner ∈ decision.escalationPath
  · rw [next_level_owned decision owned, path]
    rw [path] at owned
    rw [List.mem_singleton.mp owned]
    simp
  · rw [next_level_unowned decision owned, path]
    rfl

theorem next_level_pair {superior : String}
    (path : decision.escalationPath = [decision.owner, superior]) :
    nextLevel decision = superior := by
  have owned : decision.owner ∈ decision.escalationPath := by
    rw [path]
    exact List.mem_cons_self
  rw [next_level_owned decision owned, path]
  simp

end Path

namespace ApprovalRouter

variable (router : ApprovalRouter)

theorem determine_path_ends (acyclic : router.Acyclic) (decision : Decision) :
    ∃ path, router.determinePath decision = some path := by
  have covers : ∀ role superior, router.superior role = some superior →
      role ∈ router.approvalHierarchy.keys.toFinset := by
    intro role superior above
    exact List.mem_toFinset.mpr
      ((OrderedDict.mem_keys_iff router.approvalHierarchy role).mpr ⟨superior, above⟩)
  obtain ⟨visited, walked⟩ := walk_some acyclic _ covers (firstRole decision.owner)
    (Nat.lt_succ_of_le (List.toFinset_card_le router.approvalHierarchy.keys))
  exact ⟨_, by rw [determinePath, walked]; rfl⟩

end ApprovalRouter

/-- Escalations climb the hierarchy exactly if there is at most one level to climb. -/
theorem escalation_climbs_iff (router : ApprovalRouter) (acyclic : router.Acyclic)
    (engine : DecisionEngine) (decision : Decision) :
    ∃ path, router.determinePath decision = some path ∧ (decision.escalationPath = path →
        (ClimbsHierarchy router engine decision ↔ router.OneLevel decision.owner)) := by
  obtain ⟨path, found⟩ := router.determine_path_ends acyclic decision
  refine ⟨path, found, ?_⟩
  intro computed
  have shape := determine_path_shape found
  rw [← computed] at shape
  constructor
  · intro climbs superior above
    have first := climbs [⟨0, ""⟩] (List.cons_ne_nil _ _)
    have second := climbs [⟨0, ""⟩, ⟨0, ""⟩] (List.cons_ne_nil _ _)
    rw [routed_to _ _ (List.cons_ne_nil _ _), Option.some.injEq] at first second
    have reached : nextLevel decision = superior := first.trans (up_above above)
    have stays : up router.superior superior = superior := by
      have again : nextLevel decision =
          up router.superior (up router.superior (firstRole decision.owner)) := second
      rw [up_above above, reached] at again
      exact again.symm
    have top := (up_fixed_iff acyclic superior).mp stays
    have apart := above_ne acyclic above
    rcases shape with ⟨none, _⟩ | ⟨other, same, ends⟩
    · rw [above] at none
      cases none
    · rw [above] at same
      cases same
      obtain ⟨_, steps⟩ := ends.resolve_right (not_not.mpr top)
      have named : superior ≠ "" := by
        intro empty
        rw [if_pos empty] at steps
        exact apart (reached.symm.trans (next_level_single steps))
      refine ⟨?_, named, top⟩
      intro anonymous
      rw [if_neg named] at steps
      have unowned : decision.owner ∉ decision.escalationPath := by
        rw [steps, anonymous]
        intro member
        rcases List.mem_cons.mp member with first | second
        · exact first_role_named "" first.symm
        · exact named (List.mem_singleton.mp second).symm
      rw [next_level_unowned decision unowned, steps] at reached
      exact apart reached.symm
  · intro oneLevel calls called
    rw [routed_to _ _ called, Option.some.injEq]
    rcases shape with ⟨root, steps⟩ | ⟨superior, above, ends⟩
    · rw [iterate_up_root root, next_level_single steps]
    · obtain ⟨owned, named, top⟩ := oneLevel superior above
      obtain ⟨_, steps⟩ := ends.resolve_right (not_not.mpr top)
      rw [if_neg named, firstRole, if_neg owned] at steps
      rw [next_level_pair steps]
      cases calls with
      | nil => exact absurd rfl called
      | cons call rest =>
        rw [List.length_cons, Function.iterate_succ_apply, up_above above, iterate_up_root top]

/-- An officer below the topmost role is escalated to it every time. -/
theorem one_level_climbs :
    let router : ApprovalRouter := { approvalHierarchy := OrderedDict.empty.set "cto" "ceo" }
    let engine : DecisionEngine :=
      { policyEngine := PolicyEngine.empty, decisionHistory := DecisionHistory.empty }
    let decision : Decision :=
      { Decision.created "d1" with owner := "cto", escalationPath := ["cto", "ceo"] }
    ClimbsHierarchy router engine decision := by
  intro router engine decision
  have superior : ∀ role, router.superior role = if role = "cto" then some "ceo" else none :=
    fun role => OrderedDict.get_set OrderedDict.empty "cto" role "ceo"
  have acyclic : router.Acyclic := by
    apply TopologicalSort.acyclic_of_rank fun role => if role = "cto" then 1 else 0
    intro role higher above
    rw [Above, superior] at above
    split at above
    next same =>
      cases above
      rw [if_pos same]
      decide
    next => cases above
  obtain ⟨path, found, climbs⟩ := escalation_climbs_iff router acyclic engine decision
  have determined : router.determinePath decision = some ["cto", "ceo"] := by decide +kernel
  rw [determined] at found
  apply (climbs (Option.some.inj found)).mpr
  intro higher above
  have isTop : higher = "ceo" := by
    rw [show firstRole decision.owner = "cto" from rfl, superior] at above
    exact (Option.some.inj above).symm
  rw [isTop]
  exact ⟨by decide, by decide, by rw [superior]; decide⟩

/-- The second escalation of a lead's decision goes to the officer again. -/
theorem second_escalation_stalls :
    let router : ApprovalRouter :=
      { approvalHierarchy := (OrderedDict.empty.set "lead" "cto").set "cto" "ceo" }
    let engine : DecisionEngine :=
      { policyEngine := PolicyEngine.empty, decisionHistory := DecisionHistory.empty }
    let decision : Decision :=
      { Decision.created "d1" with
        owner := "lead"
        escalationPath := ["lead", "cto", "ceo"] }
    let calls : List EscalationCall := [⟨0, "first"⟩, ⟨1, "second"⟩]
    router.Acyclic ∧ router.determinePath decision = some decision.escalationPath ∧
      routedTo (runInputs escalateStep (engine, decision) calls).2 = some "cto" ∧
      (up router.superior)^[2] (firstRole decision.owner) = "ceo" ∧
      ¬ClimbsHierarchy router engine decision := by
  intro router engine decision calls
  have superior : ∀ role, router.superior role =
      if role = "cto" then some "ceo" else if role = "lead" then some "cto" else none := by
    intro role
    refine (OrderedDict.get_set _ "cto" role "ceo").trans ?_
    rw [OrderedDict.get_set, OrderedDict.get_empty]
  have acyclic : router.Acyclic := by
    apply TopologicalSort.acyclic_of_rank fun role =>
      if role = "lead" then 2 else if role = "cto" then 1 else 0
    intro role higher above
    rw [Above, superior] at above
    split at above
    next same =>
      cases above
      rw [same]
      decide
    next =>
      split at above
      next same =>
        cases above
        rw [same]
        decide
      next => cases above
  have routed : routedTo (runInputs escalateStep (engine, decision) calls).2 = some "cto" := by
    decide +kernel
  have second : (up router.superior)^[2] (firstRole decision.owner) = "ceo" := by
    decide +kernel
  refine ⟨acyclic, by decide +kernel, routed, second, ?_⟩
  intro climbs
  have expected := climbs calls (List.cons_ne_nil _ _)
  rw [routed, show calls.length = 2 from rfl, second] at expected
  exact absurd expected (by decide)

end AiEnterpriseOs.Decisions

/-!
## The loop of the approval path

The loop climbs from role to role while the role is a key of the hierarchy. Nothing
in it notices a role that it has met before.
-/

namespace AiEnterpriseOs.Decisions

open Library Library.ParentChain

namespace ApprovalRouter

variable (router : ApprovalRouter)

/-- The loop of `determine_path` from its variables `path` and `current_role`, and what
follows it; `none` where the rounds do not suffice. -/
def pathLoop : Nat → List String → String → Option (List String)
  | 0, _, _ => none
  | rounds + 1, path, currentRole =>
    match router.superior currentRole with
    | some superior => pathLoop rounds (path ++ [currentRole]) superior
    | none => some (if currentRole = "" then path else path ++ [currentRole])

/-- The loop ends after some number of rounds, with the path. -/
def ReturnsPath (decision : Decision) (path : List String) : Prop :=
  ∃ rounds, router.pathLoop rounds [] (firstRole decision.owner) = some path

/-- The path of a finished walk. -/
def pathOf (visited : List String × String) : List String :=
  if visited.2 = "" then visited.1 else visited.1 ++ [visited.2]

variable {router}

theorem path_loop_walk (rounds : Nat) (path : List String) (role : String) :
    router.pathLoop rounds path role =
      (walk router.superior rounds role).map fun visited => path ++ pathOf visited := by
  induction rounds generalizing path role with
  | zero => rfl
  | succ rounds ih =>
    rw [pathLoop]
    cases above : router.superior role with
    | none =>
      rw [walk_root above, Option.map_some, pathOf]
      dsimp only
      split <;> simp
    | some superior =>
      dsimp only
      rw [ih, walk_above above, Option.map_map]
      congr 1
      funext visited
      simp only [Function.comp, pathOf]
      split <;> simp

theorem superior_is_key (role superior : String) (above : router.superior role = some superior) :
    role ∈ router.approvalHierarchy.keys.toFinset :=
  List.mem_toFinset.mpr
    ((OrderedDict.mem_keys_iff router.approvalHierarchy role).mpr ⟨superior, above⟩)

theorem returns_path_iff_walk (decision : Decision) (path : List String) :
    router.ReturnsPath decision path ↔
      ∃ rounds visited, walk router.superior rounds (firstRole decision.owner) = some visited ∧
        path = pathOf visited := by
  constructor
  · intro returns
    obtain ⟨rounds, found⟩ := returns
    rw [path_loop_walk] at found
    obtain ⟨visited, walked, same⟩ := Option.map_eq_some_iff.mp found
    exact ⟨rounds, visited, walked, by rw [← same, List.nil_append]⟩
  · intro walks
    obtain ⟨rounds, visited, walked, same⟩ := walks
    refine ⟨rounds, ?_⟩
    rw [path_loop_walk, walked, Option.map_some, same, List.nil_append]

theorem determine_path_iff (decision : Decision) (path : List String) :
    router.determinePath decision = some path ↔ router.ReturnsPath decision path := by
  rw [returns_path_iff_walk]
  constructor
  · intro found
    obtain ⟨visited, walked, same⟩ := Option.map_eq_some_iff.mp found
    exact ⟨_, visited, walked, same.symm⟩
  · intro walks
    obtain ⟨rounds, visited, walked, same⟩ := walks
    obtain ⟨enough, again⟩ := walk_some_of_no_cycle _ superior_is_key (no_cycle_of_walk walked)
      (Nat.lt_succ_of_le (List.toFinset_card_le router.approvalHierarchy.keys))
    rw [determinePath, again, walk_unique again walked, same]
    rfl

theorem path_of_nodup {rounds : Nat} {role : String} {visited : List String × String}
    (walked : walk router.superior rounds role = some visited) : (pathOf visited).Nodup := by
  have distinct := walk_nodup walked
  rw [pathOf]
  split
  · exact distinct.sublist (List.sublist_append_left _ _)
  · exact distinct

/-- The loop returns a path without repeated roles exactly if no role from the owner
upwards, or from the requester where there is no owner, reports to itself through others
or at once. -/
theorem approval_path_returns_iff (router : ApprovalRouter) (decision : Decision) :
    (∃ path, router.ReturnsPath decision path ∧ path.Nodup) ↔
      NoCycleFrom router.superior (firstRole decision.owner) := by
  rw [← walk_ends_iff _ superior_is_key]
  constructor
  · intro returns
    obtain ⟨path, found, _⟩ := returns
    obtain ⟨rounds, visited, walked, _⟩ := (returns_path_iff_walk decision path).mp found
    exact ⟨rounds, visited, walked⟩
  · intro ends
    obtain ⟨rounds, visited, walked⟩ := ends
    exact ⟨pathOf visited,
      (returns_path_iff_walk decision _).mpr ⟨rounds, visited, walked, rfl⟩, path_of_nodup walked⟩

/-- The head reports to itself, so the loop never returns. -/
theorem self_report_never_returns : ¬∀ (router : ApprovalRouter) (decision : Decision),
      ∃ path, router.ReturnsPath decision path ∧ path.Nodup := by
  intro claim
  obtain ⟨path, found, _⟩ := claim ⟨OrderedDict.empty.set "ceo" "ceo"⟩
    { Decision.created "d1" with owner := "ceo" }
  obtain ⟨rounds, visited, walked, _⟩ := (returns_path_iff_walk _ path).mp found
  have reports : Above (OrderedDict.empty.set "ceo" "ceo").get? "ceo" "ceo" :=
    OrderedDict.get_set_self _ _ _
  exact no_cycle_of_walk walked "ceo" .refl (.single reports)

end ApprovalRouter

end AiEnterpriseOs.Decisions
