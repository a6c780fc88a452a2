import Mathlib.Data.List.Induction

/-!
# Binary heaps in a list

The heap queue algorithm: the children of position `n` are at `2n + 1` and
`2n + 2`. An item sifted up first goes all the way to a leaf and from there
back to its place, so most comparisons are between siblings.
-/

namespace AiEnterpriseOs.Library

namespace BinaryHeap

section Algorithm

variable {Item : Type*} [Inhabited Item] (less : Item → Item → Bool)

def item (heap : List Item) (pos : Nat) : Item := heap.getD pos default

def parent (pos : Nat) : Nat := (pos - 1) / 2

theorem parent_lt {pos : Nat} (inner : 0 < pos) : parent pos < pos := by
  unfold parent
  omega

/-- `_siftdown`: move a new item towards the root, from a hole at `pos`. -/
def siftdown (newitem : Item) (heap : List Item) (pos : Nat) : List Item :=
  if 0 < pos then
    if less newitem (item heap (parent pos)) then
      siftdown newitem (heap.set pos (item heap (parent pos))) (parent pos)
    else heap.set pos newitem
  else heap.set pos newitem
termination_by pos
decreasing_by exact parent_lt (by assumption)

/-- The child that moves up; of two that are level the right one. -/
def smallerChild (heap : List Item) (pos : Nat) : Nat :=
  let childpos := 2 * pos + 1
  let rightpos := childpos + 1
  if rightpos < heap.length && !less (item heap childpos) (item heap rightpos) then rightpos
  else childpos

theorem smaller_child_cases (heap : List Item) (pos : Nat) :
    smallerChild less heap pos = 2 * pos + 1 ∨
      (smallerChild less heap pos = 2 * pos + 2 ∧ 2 * pos + 2 < heap.length) := by
  unfold smallerChild
  by_cases right : (2 * pos + 1 + 1 < heap.length &&
      !less (item heap (2 * pos + 1)) (item heap (2 * pos + 1 + 1))) = true
  · rw [if_pos right]
    exact .inr ⟨rfl, by simpa using (Bool.and_eq_true_iff.mp right).1⟩
  · rw [if_neg right]
    exact .inl rfl

/-- The loop of `_siftup`: children move up until the hole is at a leaf. -/
def siftupLoop (heap : List Item) (pos : Nat) : List Item × Nat :=
  if 2 * pos + 1 < heap.length then
    siftupLoop (heap.set pos (item heap (smallerChild less heap pos))) (smallerChild less heap pos)
  else (heap, pos)
termination_by heap.length - pos
decreasing_by
  rw [List.length_set]
  have := smaller_child_cases less heap pos
  omega

/-- `_siftup` of a new item at the root. -/
def siftup (newitem : Item) (heap : List Item) : List Item :=
  siftdown less newitem (siftupLoop less heap 0).1 (siftupLoop less heap 0).2

def heappush (heap : List Item) (newitem : Item) : List Item :=
  siftdown less newitem (heap ++ [newitem]) heap.length

/-- The root and the heap without it. -/
def heappop (heap : List Item) : Option (Item × List Item) :=
  match heap.getLast? with
  | none => none
  | some lastelt =>
    match heap.dropLast with
    | [] => some (lastelt, [])
    | root :: rest => some (root, siftup less lastelt (root :: rest))

end Algorithm

section Items

variable {Item : Type*} [Inhabited Item]

@[simp] theorem item_set_self {heap : List Item} {pos : Nat} (inside : pos < heap.length)
    (value : Item) : item (heap.set pos value) pos = value := by
  simp [item, List.getD_eq_getElem?_getD, inside]

theorem item_set_other (heap : List Item) {pos other : Nat} (different : other ≠ pos)
    (value : Item) : item (heap.set pos value) other = item heap other := by
  simp [item, List.getD_eq_getElem?_getD, List.getElem?_set_ne (Ne.symm different)]

theorem item_eq {heap : List Item} {pos : Nat} (inside : pos < heap.length) :
    item heap pos = heap[pos] := by
  simp [item, List.getD_eq_getElem?_getD, inside]

theorem item_mem {heap : List Item} {pos : Nat} (inside : pos < heap.length) :
    item heap pos ∈ heap := by
  rw [item_eq inside]
  exact List.getElem_mem inside

theorem move_hole {heap : List Item} {hole other : Nat} (inside : hole < heap.length)
    (otherInside : other < heap.length) (different : other ≠ hole) (value : Item) :
    ((heap.set hole (item heap other)).set other value).Perm (heap.set hole value) := by
  have filledInside : hole < (heap.set hole value).length := by simpa using inside
  have filledOther : other < (heap.set hole value).length := by simpa using otherInside
  have swapped := List.set_set_perm filledInside filledOther
  rw [← item_eq filledInside, ← item_eq filledOther, item_set_self inside,
    item_set_other heap different, List.set_set] at swapped
  exact swapped

end Items

section Permutation

variable {Item : Type*} [Inhabited Item] {less : Item → Item → Bool}

theorem siftdown_perm (newitem : Item) {heap : List Item} {pos : Nat} (inside : pos < heap.length) :
    (siftdown less newitem heap pos).Perm (heap.set pos newitem) := by
  induction heap, pos using siftdown.induct less newitem with
  | case1 heap pos inner smaller ih =>
    rw [siftdown, if_pos inner, if_pos smaller]
    have lower := parent_lt inner
    have moved := ih (by rw [List.length_set]; omega)
    exact moved.trans (move_hole inside (by omega) (by omega) newitem)
  | case2 heap pos inner notSmaller => rw [siftdown, if_pos inner, if_neg notSmaller]
  | case3 heap pos root => rw [siftdown, if_neg root]

theorem smaller_child_inside {heap : List Item} {pos : Nat}
    (inner : 2 * pos + 1 < heap.length) : smallerChild less heap pos < heap.length := by
  have := smaller_child_cases less heap pos
  omega

/-- The hole ends at a leaf, and only moved through the heap. -/
theorem siftup_loop_hole {heap : List Item} {pos : Nat} (inside : pos < heap.length) :
    (siftupLoop less heap pos).1.length = heap.length ∧ (siftupLoop less heap pos).2 < heap.length ∧
      heap.length ≤ 2 * (siftupLoop less heap pos).2 + 1 ∧
      ∀ value, ((siftupLoop less heap pos).1.set (siftupLoop less heap pos).2 value).Perm
        (heap.set pos value) := by
  induction heap, pos using siftupLoop.induct less with
  | case1 heap pos inner ih =>
    rw [siftupLoop, if_pos inner]
    have childInside := @smaller_child_inside _ _ less _ _ inner
    have below := smaller_child_cases less heap pos
    obtain ⟨length, hole, leaf, perm⟩ := ih (by rw [List.length_set]; exact childInside)
    rw [List.length_set] at length hole leaf
    refine ⟨length, hole, leaf, fun value => (perm value).trans ?_⟩
    exact move_hole inside childInside (by omega) value
  | case2 heap pos leaf =>
    rw [siftupLoop, if_neg leaf]
    exact ⟨rfl, inside, by omega, fun _ => .refl _⟩

theorem siftup_perm (newitem : Item) {heap : List Item} (nonempty : 0 < heap.length) :
    (siftup less newitem heap).Perm (heap.set 0 newitem) := by
  obtain ⟨length, hole, _, perm⟩ := @siftup_loop_hole _ _ less _ _ nonempty
  exact (siftdown_perm newitem (by rw [length]; exact hole)).trans (perm newitem)

theorem heappush_perm (heap : List Item) (newitem : Item) :
    (heappush less heap newitem).Perm (heap ++ [newitem]) := by
  have inside : heap.length < (heap ++ [newitem]).length := by simp
  have pushed := @siftdown_perm _ _ less newitem _ _ inside
  have same : (heap ++ [newitem]).set heap.length newitem = heap ++ [newitem] := by
    rw [List.set_append_right _ _ (Nat.le_refl _), Nat.sub_self, List.set_cons_zero]
  rwa [same] at pushed

theorem heappop_cases (heap : List Item) : (heap = [] ∧ heappop less heap = none) ∨
      (∃ only, heap = [only] ∧ heappop less heap = some (only, [])) ∨
      ∃ root rest lastelt, heap = root :: (rest ++ [lastelt]) ∧
        heappop less heap = some (root, siftup less lastelt (root :: rest)) := by
  cases heap using List.reverseRecOn with
  | nil => exact .inl ⟨rfl, rfl⟩
  | append_singleton front lastelt =>
    cases front with
    | nil => exact .inr (.inl ⟨lastelt, rfl, rfl⟩)
    | cons root rest =>
      refine .inr (.inr ⟨root, rest, lastelt, rfl, ?_⟩)
      rw [heappop, List.getLast?_concat, List.dropLast_concat]

theorem heappop_perm {heap next : List Item} {popped : Item}
    (result : heappop less heap = some (popped, next)) :
    heap.Perm (popped :: next) ∧ popped = item heap 0 := by
  rcases @heappop_cases _ _ less heap with ⟨_, absent⟩ | ⟨only, rfl, single⟩ |
    ⟨root, rest, lastelt, rfl, several⟩
  · rw [absent] at result
    cases result
  · rw [single] at result
    cases result
    exact ⟨.refl _, rfl⟩
  · rw [several] at result
    cases result
    have nonempty : 0 < (popped :: rest).length := by simp
    have sifted := @siftup_perm _ _ less lastelt (popped :: rest) nonempty
    rw [List.set_cons_zero] at sifted
    exact ⟨.cons popped (List.perm_append_comm.trans sifted.symm), rfl⟩

end Permutation

section Order

variable {Item : Type*} [Inhabited Item]

/-- A strict order up to items that are level. -/
structure Strict (less : Item → Item → Bool) : Prop where
  asymm : ∀ first second, less first second = true → less second first = false
  level_trans : ∀ first second third, less second first = false →
    less third second = false → less third first = false

def Ordered (less : Item → Item → Bool) (heap : List Item) : Prop :=
  ∀ pos, 0 < pos → pos < heap.length → less (item heap pos) (item heap (parent pos)) = false

/-- The order of a heap around a hole, with what its children may not precede. -/
structure HoleOrder (less : Item → Item → Bool) (heap : List Item) (hole : Nat) : Prop where
  except : ∀ pos, 0 < pos → pos < heap.length → pos ≠ hole → parent pos ≠ hole →
    less (item heap pos) (item heap (parent pos)) = false
  grand : 0 < hole → ∀ pos, 0 < pos → pos < heap.length → parent pos = hole →
    less (item heap pos) (item heap (parent hole)) = false

variable {less : Item → Item → Bool}

theorem Ordered.hole {heap : List Item} (strict : Strict less) (ordered : Ordered less heap)
    {hole : Nat} (inside : hole < heap.length) : HoleOrder less heap hole where
  except pos inner posInside _ _ := ordered pos inner posInside
  grand holeInner pos inner posInside below := by
    have first := ordered pos inner posInside
    rw [below] at first
    exact strict.level_trans _ _ _ (ordered hole holeInner inside) first

theorem HoleOrder.fill {heap : List Item} {hole : Nat} {newitem : Item}
    (inside : hole < heap.length) (order : HoleOrder less heap hole)
    (above : 0 < hole → less newitem (item heap (parent hole)) = false)
    (below : ∀ pos, 0 < pos → pos < heap.length → parent pos = hole →
      less (item heap pos) newitem = false) : Ordered less (heap.set hole newitem) := by
  intro pos inner posInside
  rw [List.length_set] at posInside
  by_cases here : pos = hole
  · subst here
    have lower := parent_lt inner
    rw [item_set_self inside, item_set_other heap (by omega)]
    exact above inner
  · rw [item_set_other heap here]
    by_cases child : parent pos = hole
    · rw [child, item_set_self inside]
      exact below pos inner posInside child
    · rw [item_set_other heap child]
      exact order.except pos inner posInside here child

theorem HoleOrder.up {heap : List Item} {hole : Nat} (strict : Strict less)
    (inner : 0 < hole) (inside : hole < heap.length) (order : HoleOrder less heap hole) :
    HoleOrder less (heap.set hole (item heap (parent hole))) (parent hole) := by
  have lower := parent_lt inner
  have upper : 0 < parent hole →
      less (item heap (parent hole)) (item heap (parent (parent hole))) = false := by
    intro parentInner
    have := parent_lt parentInner
    exact order.except (parent hole) parentInner (by omega) (by omega) (by omega)
  constructor
  · intro pos posInner posInside notParent child
    rw [List.length_set] at posInside
    have notHole : pos ≠ hole := fun same => child (by rw [same])
    rw [item_set_other heap notHole]
    by_cases below : parent pos = hole
    · rw [below, item_set_self inside]
      exact order.grand inner pos posInner posInside below
    · rw [item_set_other heap below]
      exact order.except pos posInner posInside notHole below
  · intro parentInner pos posInner posInside sibling
    rw [List.length_set] at posInside
    have := parent_lt parentInner
    rw [@item_set_other _ _ heap hole (parent (parent hole)) (by omega)]
    by_cases here : pos = hole
    · rw [here, item_set_self inside]
      exact upper parentInner
    · rw [item_set_other heap here]
      have first := order.except pos posInner posInside here (by rw [sibling]; omega)
      rw [sibling] at first
      exact strict.level_trans _ _ _ (upper parentInner) first

theorem siftdown_ordered (strict : Strict less) {newitem : Item} {heap : List Item}
    {pos : Nat} (inside : pos < heap.length) (order : HoleOrder less heap pos)
    (below : ∀ child, 0 < child → child < heap.length → parent child = pos →
      less (item heap child) newitem = false) :
    Ordered less (siftdown less newitem heap pos) := by
  induction heap, pos using siftdown.induct less newitem with
  | case1 heap pos inner smaller ih =>
    rw [siftdown, if_pos inner, if_pos smaller]
    have lower := parent_lt inner
    apply ih (by rw [List.length_set]; omega) (order.up strict inner inside)
    intro child childInner childInside sibling
    rw [List.length_set] at childInside
    have later : less (item heap (parent pos)) newitem = false := strict.asymm _ _ smaller
    by_cases here : child = pos
    · rw [here, item_set_self inside]
      exact later
    · rw [item_set_other heap here]
      have first := order.except child childInner childInside here (by rw [sibling]; omega)
      rw [sibling] at first
      exact strict.level_trans _ _ _ later first
  | case2 heap pos inner notSmaller =>
    rw [siftdown, if_pos inner, if_neg notSmaller]
    exact order.fill inside (fun _ => by simpa using notSmaller) below
  | case3 heap pos root =>
    rw [siftdown, if_neg root]
    exact order.fill inside (fun inner => absurd inner root) below

theorem children {pos child : Nat} (inner : 0 < child) (below : parent child = pos) :
    child = 2 * pos + 1 ∨ child = 2 * pos + 2 := by
  unfold parent at below
  omega

theorem smaller_child_first (strict : Strict less) {heap : List Item} {pos child : Nat}
    (inner : 0 < child) (inside : child < heap.length) (below : parent child = pos) :
    less (item heap child) (item heap (smallerChild less heap pos)) = false := by
  have irreflexive : ∀ value, less value value = false := by
    intro value
    cases smaller : less value value with
    | false => rfl
    | true => exact smaller.symm.trans (strict.asymm _ _ smaller)
  unfold smallerChild
  by_cases right : (2 * pos + 1 + 1 < heap.length &&
      !less (item heap (2 * pos + 1)) (item heap (2 * pos + 1 + 1))) = true
  · rw [if_pos right]
    obtain ⟨_, level⟩ := Bool.and_eq_true_iff.mp right
    rcases children inner below with rfl | rfl
    · simpa using level
    · exact irreflexive _
  · rw [if_neg right]
    rcases children inner below with rfl | rfl
    · exact irreflexive _
    · have smaller : less (item heap (2 * pos + 1)) (item heap (2 * pos + 2)) = true := by
        by_contra level
        exact right (by simp [inside, level])
      exact strict.asymm _ _ smaller

theorem HoleOrder.down {heap : List Item} {hole : Nat} (strict : Strict less)
    (inner : 2 * hole + 1 < heap.length) (order : HoleOrder less heap hole) :
    HoleOrder less (heap.set hole (item heap (smallerChild less heap hole)))
      (smallerChild less heap hole) := by
  have inside : hole < heap.length := by omega
  have chosen := smaller_child_cases less heap hole
  have chosenInside := @smaller_child_inside _ _ less _ _ inner
  have first := fun child childInner childInside below =>
    @smaller_child_first _ _ less strict heap hole child childInner childInside below
  generalize smallerChild less heap hole = child at chosen chosenInside first
  have childParent : parent child = hole := by
    unfold parent
    omega
  constructor
  · intro pos posInner posInside notChild notBelow
    rw [List.length_set] at posInside
    by_cases here : pos = hole
    · subst here
      have lower := parent_lt posInner
      rw [item_set_self inside, item_set_other heap (by omega)]
      exact order.grand posInner child (by omega) chosenInside childParent
    · rw [item_set_other heap here]
      by_cases sibling : parent pos = hole
      · rw [sibling, item_set_self inside]
        exact first pos posInner posInside sibling
      · rw [item_set_other heap sibling]
        exact order.except pos posInner posInside here sibling
  · intro childInner pos posInner posInside below
    rw [List.length_set] at posInside
    have lower := parent_lt posInner
    rw [childParent, item_set_self inside, item_set_other heap (by omega)]
    have kept := order.except pos posInner posInside (by omega) (by omega)
    rwa [below] at kept

theorem siftup_loop_order (strict : Strict less) {heap : List Item} {pos : Nat}
    (order : HoleOrder less heap pos) :
    HoleOrder less (siftupLoop less heap pos).1 (siftupLoop less heap pos).2 := by
  induction heap, pos using siftupLoop.induct less with
  | case1 heap pos inner ih =>
    rw [siftupLoop, if_pos inner]
    exact ih (order.down strict inner)
  | case2 heap pos leaf =>
    rw [siftupLoop, if_neg leaf]
    exact order

theorem siftup_ordered (strict : Strict less) (newitem : Item) {heap : List Item}
    (nonempty : 0 < heap.length) (order : HoleOrder less heap 0) :
    Ordered less (siftup less newitem heap) := by
  obtain ⟨length, hole, leaf, _⟩ := @siftup_loop_hole _ _ less _ _ nonempty
  apply siftdown_ordered strict (by rw [length]; exact hole) (siftup_loop_order strict order)
  intro child inner inside below
  rw [length] at inside
  have := children inner below
  omega

theorem heappush_ordered (strict : Strict less) {heap : List Item}
    (ordered : Ordered less heap) (newitem : Item) :
    Ordered less (heappush less heap newitem) := by
  have old : ∀ pos, pos < heap.length → item (heap ++ [newitem]) pos = item heap pos := by
    intro pos inside
    simp [item, List.getD_eq_getElem?_getD, List.getElem?_append_left inside]
  apply siftdown_ordered strict (by simp)
  · constructor
    · intro pos inner inside notHole _
      have posInside : pos < heap.length := by
        rw [List.length_append, List.length_singleton] at inside
        omega
      have := parent_lt inner
      rw [old pos posInside, old (parent pos) (by omega)]
      exact ordered pos inner posInside
    · intro _ pos inner inside below
      have := children inner below
      rw [List.length_append, List.length_singleton] at inside
      omega
  · intro child inner inside below
    have := children inner below
    rw [List.length_append, List.length_singleton] at inside
    omega

theorem heappop_ordered (strict : Strict less) {heap next : List Item} {popped : Item}
    (ordered : Ordered less heap) (result : heappop less heap = some (popped, next)) :
    Ordered less next := by
  rcases @heappop_cases _ _ less heap with ⟨_, absent⟩ | ⟨only, rfl, single⟩ |
    ⟨root, rest, lastelt, rfl, several⟩
  · rw [absent] at result
    cases result
  · rw [single] at result
    cases result
    intro pos _ inside
    cases inside
  · rw [several] at result
    cases result
    have old : ∀ pos, pos < (popped :: rest).length →
        item (popped :: (rest ++ [lastelt])) pos = item (popped :: rest) pos := by
      intro pos inside
      rw [← List.cons_append]
      simp only [item, List.getD_eq_getElem?_getD, List.getElem?_append_left inside]
    have front : Ordered less (popped :: rest) := by
      intro pos inner inside
      have := parent_lt inner
      have kept := ordered pos inner (by simp at inside ⊢; omega)
      rwa [old pos inside, old (parent pos) (by omega)] at kept
    exact siftup_ordered strict lastelt (by simp) (front.hole strict (by simp))

theorem Ordered.root_first (strict : Strict less) {heap : List Item} (ordered : Ordered less heap) :
    ∀ value ∈ heap, less value (item heap 0) = false := by
  have atPosition : ∀ pos, pos < heap.length → less (item heap pos) (item heap 0) = false := by
    intro pos
    induction pos using Nat.strongRecOn with
    | ind pos ih =>
      intro inside
      by_cases inner : 0 < pos
      · have lower := parent_lt inner
        exact strict.level_trans _ _ _ (ih (parent pos) lower (by omega)) (ordered pos inner inside)
      · have root : pos = 0 := by omega
        rw [root]
        cases smaller : less (item heap 0) (item heap 0) with
        | false => rfl
        | true => exact smaller.symm.trans (strict.asymm _ _ smaller)
  intro value member
  obtain ⟨pos, inside, rfl⟩ := List.mem_iff_getElem.mp member
  rw [← item_eq inside]
  exact atPosition pos inside

end Order

section Comparisons

variable {Item : Type*} [Inhabited Item] (less : Item → Item → Bool)

/-- The comparisons that `siftdown` makes. -/
def siftdownAsks (newitem : Item) (heap : List Item) (pos : Nat) : List (Item × Item) :=
  if 0 < pos then
    (newitem, item heap (parent pos)) ::
      if less newitem (item heap (parent pos)) then
        siftdownAsks newitem (heap.set pos (item heap (parent pos))) (parent pos)
      else []
  else []
termination_by pos
decreasing_by exact parent_lt (by assumption)

/-- The comparison between the children of a position, where it has two. -/
def childAsks (heap : List Item) (pos : Nat) : List (Item × Item) :=
  if 2 * pos + 2 < heap.length then
    [(item heap (2 * pos + 1), item heap (2 * pos + 2))]
  else []

def siftupLoopAsks (heap : List Item) (pos : Nat) : List (Item × Item) :=
  if 2 * pos + 1 < heap.length then
    childAsks heap pos ++ siftupLoopAsks (heap.set pos (item heap (smallerChild less heap pos)))
        (smallerChild less heap pos)
  else []
termination_by heap.length - pos
decreasing_by
  rw [List.length_set]
  have := smaller_child_cases less heap pos
  omega

/-- The comparisons that `heappop` makes. -/
def heappopAsks (heap : List Item) : List (Item × Item) :=
  match heap.getLast? with
  | none => []
  | some lastelt =>
    match heap.dropLast with
    | [] => []
    | root :: rest =>
      siftupLoopAsks less (root :: rest) 0 ++
        siftdownAsks less lastelt (siftupLoop less (root :: rest) 0).1
          (siftupLoop less (root :: rest) 0).2

/-- Two orders answer some comparisons alike. -/
def Agree (other : Item → Item → Bool) (asked : List (Item × Item)) : Prop :=
  ∀ pair ∈ asked, other pair.1 pair.2 = less pair.1 pair.2

variable {less} {other : Item → Item → Bool}

theorem siftdown_asks (newitem : Item) (heap : List Item) (pos : Nat) :
    ∀ pair ∈ siftdownAsks less newitem heap pos,
      pair.1 = newitem ∧ ∃ above < pos, pair.2 = item heap above := by
  induction heap, pos using siftdown.induct less newitem with
  | case1 heap pos inner smaller ih =>
    intro pair member
    have lower := parent_lt inner
    rw [siftdownAsks, if_pos inner, if_pos smaller, List.mem_cons] at member
    rcases member with rfl | later
    · exact ⟨rfl, parent pos, lower, rfl⟩
    · obtain ⟨first, above, higher, second⟩ := ih pair later
      rw [item_set_other heap (by omega)] at second
      exact ⟨first, above, by omega, second⟩
  | case2 heap pos inner notSmaller =>
    intro pair member
    rw [siftdownAsks, if_pos inner, if_neg notSmaller, List.mem_singleton] at member
    rw [member]
    exact ⟨rfl, parent pos, parent_lt inner, rfl⟩
  | case3 heap pos root =>
    intro pair member
    rw [siftdownAsks, if_neg root] at member
    cases member

theorem siftdown_agrees {newitem : Item} {heap : List Item} {pos : Nat}
    (agree : Agree less other (siftdownAsks less newitem heap pos)) :
    siftdown other newitem heap pos = siftdown less newitem heap pos := by
  induction heap, pos using siftdown.induct less newitem with
  | case1 heap pos inner smaller ih =>
    rw [siftdownAsks, if_pos inner, if_pos smaller] at agree
    obtain ⟨head, rest⟩ := List.forall_mem_cons.mp agree
    rw [siftdown.eq_def other newitem heap pos, siftdown.eq_def less newitem heap pos,
      if_pos inner, if_pos (head.trans smaller), if_pos inner, if_pos smaller]
    exact ih rest
  | case2 heap pos inner notSmaller =>
    rw [siftdownAsks, if_pos inner, if_neg notSmaller] at agree
    have head : other newitem (item heap (parent pos)) =
        less newitem (item heap (parent pos)) := agree _ List.mem_cons_self
    have alike : ¬other newitem (item heap (parent pos)) = true := by
      rw [head]
      exact notSmaller
    rw [siftdown, if_pos inner, if_neg alike, siftdown, if_pos inner, if_neg notSmaller]
  | case3 heap pos root => rw [siftdown, if_neg root, siftdown, if_neg root]

theorem smaller_child_agrees {heap : List Item} {pos : Nat}
    (agree : Agree less other (childAsks heap pos)) :
    smallerChild other heap pos = smallerChild less heap pos := by
  by_cases two : 2 * pos + 2 < heap.length
  · rw [childAsks, if_pos two] at agree
    have alike := agree _ List.mem_cons_self
    unfold smallerChild
    simp only [show 2 * pos + 1 + 1 = 2 * pos + 2 from rfl, alike]
  · unfold smallerChild
    simp only [show 2 * pos + 1 + 1 = 2 * pos + 2 from rfl, two, decide_false, Bool.false_and]

theorem siftup_loop_agrees {heap : List Item} {pos : Nat}
    (agree : Agree less other (siftupLoopAsks less heap pos)) :
    siftupLoop other heap pos = siftupLoop less heap pos := by
  induction heap, pos using siftupLoop.induct less with
  | case1 heap pos inner ih =>
    rw [siftupLoopAsks, if_pos inner] at agree
    obtain ⟨here, rest⟩ := List.forall_mem_append.mp agree
    rw [siftupLoop.eq_def other heap pos, siftupLoop.eq_def less heap pos, if_pos inner,
      if_pos inner, smaller_child_agrees here]
    exact ih rest
  | case2 heap pos leaf => rw [siftupLoop, if_neg leaf, siftupLoop, if_neg leaf]

theorem heappop_agrees {heap : List Item} (agree : Agree less other (heappopAsks less heap)) :
    heappop other heap = heappop less heap := by
  cases heap using List.reverseRecOn with
  | nil => rfl
  | append_singleton front lastelt =>
    cases front with
    | nil => rfl
    | cons root rest =>
      rw [heappopAsks, List.getLast?_concat, List.dropLast_concat] at agree
      obtain ⟨loop, sifted⟩ := List.forall_mem_append.mp agree
      have sameLoop := siftup_loop_agrees loop
      rw [heappop, heappop, List.getLast?_concat, List.dropLast_concat]
      simp only [siftup, sameLoop]
      rw [siftdown_agrees sifted]

end Comparisons

end BinaryHeap

end AiEnterpriseOs.Library
