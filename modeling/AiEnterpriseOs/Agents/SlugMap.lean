import AiEnterpriseOs.Library.FreshName
import AiEnterpriseOs.Library.OrderedDict
import AiEnterpriseOs.Library.Runs
import AiEnterpriseOs.Library.TextSearch
import Mathlib.Data.List.Sort

/-!
# Slugs of personas

Each persona gets a slug in the order of the list; one whose slug another person has
gets its own name appended. What is reported as a duplicate is the same name with the
same slug before anything is appended.
-/

namespace AiEnterpriseOs.Agents

open Library

def executiveSlugs : List (String × String) :=
  [("Chief Executive Officer", "ceo"), ("Chief Technology Officer", "cto"),
    ("Chief Financial Officer", "cfo"),
    ("Chief Operating Officer", "coo"),
    ("Chief Marketing Officer", "cmo"),
    ("Chief AI Officer", "caio"),
    ("Chief Human Resources Officer", "chro"),
    ("Chief Legal Officer", "clo"),
    ("Chief Information Security Officer", "ciso"),
    ("Chief Information Officer", "cio"),
    ("Chief Data Officer", "cdo"),
    ("Chief Strategy Officer", "cso"),
    ("Chief of Staff", "chief-of-staff")]

def builtinAgentSlugs : List String :=
  ["build", "plan", "explore", "general", "architect", "builder", "compaction", "title", "summary"]

/-- What the slugs use of Python's strings. -/
structure PyText where
  isAlnum : Char → Bool
  lower : String → String

def PyText.ascii : PyText :=
  { isAlnum := Char.isAlphanum
    lower := String.toLower }

def slugify (text : PyText) (titleOrName : String) : String :=
  String.ofList
    (slug text.isAlnum (text.lower (String.ofList (TextLines.strip titleOrName.toList))).toList)

structure AgentSlugItem where
  name : String
  title : String
  role : String
  deriving DecidableEq

structure AgentSlugIndex where
  items : List AgentSlugItem
  reservedSlugs : List String

/-- The slugs assigned so far, each with the name of its persona, and the pairs. -/
structure Assignment where
  taken : OrderedDict String String
  pairs : List (AgentSlugItem × String)
  deriving DecidableEq

namespace Assignment

def start : Assignment := { taken := OrderedDict.empty, pairs := [] }

def slugs (state : Assignment) : List String := state.pairs.map Prod.snd

/-- The slugs that count as taken are those of the pairs. -/
def Recorded (state : Assignment) : Prop := ∀ slug, slug ∈ state.slugs ↔ slug ∈ state.taken.keys

end Assignment

namespace AgentSlugIndex

variable (text : PyText) (index : AgentSlugIndex)

def slugFor (item : AgentSlugItem) : String :=
  match executiveSlugs.lookup item.title with
  | some known => known
  | none =>
    if item.title ≠ "" then slugify text item.title
    else if item.role ≠ "" then slugify text item.role
    else slugify text item.name

/-- The slug of a later person, `while candidate in taken`. -/
def candidate (taken : OrderedDict String String) (base name : String) : String :=
  firstFree (fun known => decide (known ∈ taken.keys)) (base ++ "-" ++ slugify text name)
    (taken.keys.length + 1) 0

/-- The round of `_assign` for an item. -/
def assignStep (state : Assignment) (item : AgentSlugItem) : Assignment :=
  let base := slugFor text item
  let kept := { state with pairs := state.pairs ++ [(item, base)] }
  if base = "" ∨ base ∈ index.reservedSlugs then kept
  else
    match state.taken.get? base with
    | none => { kept with taken := state.taken.set base item.name }
    | some owner =>
      if owner = item.name then kept
      else
        let candidate := candidate text state.taken base item.name
        { taken := state.taken.set candidate item.name
          pairs := state.pairs ++ [(item, candidate)] }

def assign : Assignment := runInputs (assignStep text index) Assignment.start index.items

def resolvedSlugs : List String := (assign text index).slugs

/-- The message about a slug, if it is empty or reserved. -/
def slugMessage (pair : AgentSlugItem × String) : Option String :=
  if pair.2 = "" then
    some ("  - \"" ++ pair.1.name ++ "\" resolves to an empty slug — " ++
      "give it a title, role, or non-empty name")
  else if pair.2 ∈ index.reservedSlugs then
    some ("  - slug \"" ++ pair.2 ++ "\" for \"" ++ pair.1.name ++ "\" collides with a " ++
      "built-in opencode agent name — rename the persona")
  else none

/-- `base_counts`, for the items with a base slug. -/
def countStep (counts : OrderedDict (String × String) Nat) (item : AgentSlugItem) :
    OrderedDict (String × String) Nat :=
  let base := slugFor text item
  if base = "" then counts
  else counts.set (item.name, base) (counts.getD (item.name, base) 0 + 1)

def baseCounts : OrderedDict (String × String) Nat :=
  runInputs (countStep text) OrderedDict.empty index.items

def duplicateMessage (count : (String × String) × Nat) : Option String :=
  if 1 < count.2 then
    some ("  - slug \"" ++ count.1.2 ++ "\" is assigned to \"" ++ count.1.1 ++ "\" " ++
      Nat.repr count.2 ++ " times — duplicate persona entry")
  else none

/-- The order of `sorted(base_counts.items())`, whose keys differ. -/
def keyOrder (left right : (String × String) × Nat) : Prop :=
  left.1.1 < right.1.1 ∨ (left.1.1 = right.1.1 ∧ left.1.2 ≤ right.1.2)

instance : DecidableRel keyOrder := fun left right =>
  inferInstanceAs (Decidable (left.1.1 < right.1.1 ∨ (left.1.1 = right.1.1 ∧ left.1.2 ≤ right.1.2)))

/-- The descriptions of the collisions; `raise_for_collisions` raises if there are any. -/
def collisions : List String :=
  (assign text index).pairs.filterMap (slugMessage index) ++
    ((baseCounts text index).entries.insertionSort keyOrder).filterMap duplicateMessage

/-- What `raise_for_collisions` is to make sure of. -/
def Distinct : Prop :=
  (∀ slug ∈ resolvedSlugs text index, slug ≠ "" ∧ slug ∉ index.reservedSlugs) ∧
    (resolvedSlugs text index).Nodup

/-- No persona finds its base slug taken under its own name. -/
def Separates : Prop :=
  StepsMeet (assignStep text index)
    (fun state item => state.taken.get? (slugFor text item) ≠ some item.name)
    Assignment.start index.items

variable {text index}

theorem slug_message_none_iff (pair : AgentSlugItem × String) :
    slugMessage index pair = none ↔ pair.2 ≠ "" ∧ pair.2 ∉ index.reservedSlugs := by
  rw [slugMessage]
  split
  next empty => simp [empty]
  next named =>
    split
    next reserved => simp [reserved]
    next free => simp [named, free]

theorem duplicate_message_none_iff (count : (String × String) × Nat) :
    duplicateMessage count = none ↔ count.2 ≤ 1 := by
  rw [duplicateMessage]
  split
  next many => simp [many]
  next few => simp [Nat.not_lt.mp few]

theorem collisions_nil_iff : collisions text index = [] ↔
      (∀ pair ∈ (assign text index).pairs, pair.2 ≠ "" ∧ pair.2 ∉ index.reservedSlugs) ∧
        ∀ count ∈ (baseCounts text index).entries, count.2 ≤ 1 := by
  rw [collisions, List.append_eq_nil_iff, List.filterMap_eq_nil_iff, List.filterMap_eq_nil_iff]
  apply and_congr
  · exact forall₂_congr fun pair _ => slug_message_none_iff pair
  · simp only [List.mem_insertionSort, duplicate_message_none_iff]

/-- The base slug of the item is neither empty nor reserved. -/
def BaseUsable (text : PyText) (index : AgentSlugIndex) (item : AgentSlugItem) : Prop :=
  slugFor text item ≠ "" ∧ slugFor text item ∉ index.reservedSlugs

theorem candidate_free (taken : OrderedDict String String) (base name : String) :
    candidate text taken base name ∉ taken.keys :=
  first_free_not_taken taken.keys _

theorem assign_step_cases {item : AgentSlugItem} (usable : BaseUsable text index item)
    (state : Assignment) :
    (state.taken.get? (slugFor text item) ≠ some item.name ∧ ∃ slug, slug ∉ state.taken.keys ∧
      assignStep text index state item =
        { taken := state.taken.set slug item.name, pairs := state.pairs ++ [(item, slug)] }) ∨
      (state.taken.get? (slugFor text item) = some item.name ∧ assignStep text index state item =
          { state with pairs := state.pairs ++ [(item, slugFor text item)] }) := by
  have skips : ¬(slugFor text item = "" ∨ slugFor text item ∈ index.reservedSlugs) :=
    not_or.mpr usable
  simp only [assignStep, if_neg skips]
  cases owned : state.taken.get? (slugFor text item) with
  | none =>
    left
    refine ⟨by simp, slugFor text item, ?_, rfl⟩
    intro listed
    obtain ⟨owner, found⟩ := (OrderedDict.mem_keys_iff state.taken _).mp listed
    rw [owned] at found
    cases found
  | some owner =>
    by_cases same : owner = item.name
    · right
      simp only [same, if_true, and_self]
    · left
      simp only [if_neg same]
      exact ⟨fun equal => same (Option.some.inj equal), _, candidate_free _ _ _, rfl⟩

theorem assign_step_recorded {item : AgentSlugItem} (usable : BaseUsable text index item)
    {state : Assignment} (recorded : state.Recorded) :
    (assignStep text index state item).Recorded := by
  intro slug
  rcases assign_step_cases usable state with fresh | repeated
  · obtain ⟨_, new, _, step⟩ := fresh
    rw [step, OrderedDict.mem_keys_set, ← recorded slug]
    simp [Assignment.slugs, or_comm]
  · obtain ⟨owned, step⟩ := repeated
    have listed : slugFor text item ∈ state.taken.keys :=
      (OrderedDict.mem_keys_iff state.taken _).mpr ⟨_, owned⟩
    rw [step, ← recorded slug]
    rw [← recorded] at listed
    simp only [Assignment.slugs, List.map_append, List.map_cons, List.map_nil, List.mem_append,
      List.mem_singleton] at listed ⊢
    constructor
    · intro either
      rcases either with old | same
      · exact old
      · rw [same]
        exact listed
    · exact Or.inl

theorem assign_step_adds (text : PyText) (index : AgentSlugIndex) (state : Assignment)
    (item : AgentSlugItem) :
    ∃ slug, (assignStep text index state item).slugs = state.slugs ++ [slug] := by
  rw [assignStep]
  dsimp only
  split
  · exact ⟨_, List.map_append⟩
  · split
    · exact ⟨_, List.map_append⟩
    · split
      · exact ⟨_, List.map_append⟩
      · exact ⟨_, List.map_append⟩

theorem run_pairs_prefix (text : PyText) (index : AgentSlugIndex) (state : Assignment)
    (items : List AgentSlugItem) :
    ∃ later, (runInputs (assignStep text index) state items).slugs = state.slugs ++ later := by
  induction items generalizing state with
  | nil => exact ⟨[], (List.append_nil _).symm⟩
  | cons item rest ih =>
    obtain ⟨later, after⟩ := ih (assignStep text index state item)
    obtain ⟨slug, first⟩ := assign_step_adds text index state item
    refine ⟨slug :: later, ?_⟩
    rw [run_inputs_cons, after, first, List.append_assoc, List.singleton_append]

theorem resolved_slugs_length (text : PyText) (index : AgentSlugIndex) :
    (resolvedSlugs text index).length = index.items.length := by
  have run : ∀ (items : List AgentSlugItem) (state : Assignment),
      (runInputs (assignStep text index) state items).slugs.length =
        state.slugs.length + items.length := by
    intro items
    induction items with
    | nil => exact fun state => rfl
    | cons item rest ih =>
      intro state
      obtain ⟨slug, first⟩ := assign_step_adds text index state item
      rw [run_inputs_cons, ih, first, List.length_append, List.length_cons, List.length_cons,
        List.length_nil]
      omega
  rw [resolvedSlugs, assign, run]
  exact Nat.zero_add _

theorem slugs_nodup_iff (state : Assignment) (items : List AgentSlugItem)
    (usable : ∀ item ∈ items, BaseUsable text index item) (recorded : state.Recorded)
    (distinct : state.slugs.Nodup) :
    (runInputs (assignStep text index) state items).slugs.Nodup ↔ StepsMeet (assignStep text index)
        (fun state item => state.taken.get? (slugFor text item) ≠ some item.name) state items := by
  induction items generalizing state with
  | nil => exact iff_of_true distinct trivial
  | cons item rest ih =>
    have here := usable item List.mem_cons_self
    have later := fun other member => usable other (List.mem_cons_of_mem item member)
    have kept := assign_step_recorded here recorded
    rw [run_inputs_cons, StepsMeet]
    rcases assign_step_cases here state with fresh | repeated
    · obtain ⟨apart, slug, new, step⟩ := fresh
      have still : (assignStep text index state item).slugs.Nodup := by
        rw [← recorded] at new
        rw [step, Assignment.slugs, List.map_append]
        exact List.nodup_append.mpr ⟨distinct, List.nodup_singleton _, by
          intro old listed last member same
          rw [same, List.mem_singleton.mp member] at listed
          exact new listed⟩
      rw [ih _ later kept still]
      exact ⟨fun meets => ⟨apart, meets⟩, And.right⟩
    · obtain ⟨owned, step⟩ := repeated
      refine iff_of_false ?_ fun meets => meets.1 owned
      intro all
      obtain ⟨more, after⟩ := run_pairs_prefix text index (assignStep text index state item) rest
      rw [after, step, Assignment.slugs, List.map_append] at all
      have listed : slugFor text item ∈ state.slugs :=
        (recorded _).mpr ((OrderedDict.mem_keys_iff state.taken _).mpr ⟨_, owned⟩)
      have twice := (List.nodup_append.mp all).1
      exact (List.nodup_append.mp twice).2.2 _ listed _ (List.mem_singleton_self _) rfl

theorem start_recorded : Assignment.start.Recorded := by
  intro slug
  exact Iff.rfl

theorem run_keeps_unusable (state : Assignment) (items : List AgentSlugItem)
    {item : AgentSlugItem} (member : item ∈ items) (unusable : ¬BaseUsable text index item) :
    (item, slugFor text item) ∈ (runInputs (assignStep text index) state items).pairs := by
  have stays : ∀ (state : Assignment) (rest : List AgentSlugItem) (pair : AgentSlugItem × String),
      pair ∈ state.pairs → pair ∈ (runInputs (assignStep text index) state rest).pairs := by
    intro state rest pair listed
    have keeps : ∀ (state : Assignment) (other : AgentSlugItem), pair ∈ state.pairs →
        pair ∈ (assignStep text index state other).pairs := by
      intro state other before
      rw [assignStep]
      dsimp only
      split
      · exact List.mem_append_left _ before
      · split
        · exact List.mem_append_left _ before
        · split
          · exact List.mem_append_left _ before
          · exact List.mem_append_left _ before
    exact invariant_of_steps (assignStep text index) keeps state rest listed
  induction items generalizing state with
  | nil => cases member
  | cons head rest ih =>
    rw [run_inputs_cons]
    rcases List.mem_cons.mp member with here | later
    · apply stays
      have kept : slugFor text item = "" ∨ slugFor text item ∈ index.reservedSlugs := by
        by_contra usable
        exact unusable (not_or.mp usable)
      rw [← here, assignStep]
      simp only [if_pos kept]
      exact List.mem_append_right _ (List.mem_singleton_self _)
    · exact ih _ later

theorem usable_of_no_collisions (clear : collisions text index = []) :
    ∀ item ∈ index.items, BaseUsable text index item := by
  intro item member
  by_contra unusable
  have listed := run_keeps_unusable Assignment.start index.items member unusable
  exact unusable ((collisions_nil_iff.mp clear).1 _ listed)

/-- Without a reported collision the slugs differ exactly if no persona's base slug is one
that an earlier persona of its name has been given. -/
theorem distinct_iff (clear : collisions text index = []) :
    Distinct text index ↔ Separates text index := by
  have fine : ∀ slug ∈ resolvedSlugs text index, slug ≠ "" ∧ slug ∉ index.reservedSlugs := by
    intro slug member
    obtain ⟨pair, listed, same⟩ := List.mem_map.mp member
    rw [← same]
    exact (collisions_nil_iff.mp clear).1 pair listed
  rw [Distinct, and_iff_right fine]
  exact slugs_nodup_iff Assignment.start index.items (usable_of_no_collisions clear)
    start_recorded List.nodup_nil

/-! ## Base slugs that are no appended names -/

/-- The base slug of a persona is none that an earlier persona of the same name can get by
its own name. -/
def NoExtension (text : PyText) (items : List AgentSlugItem) : Prop :=
  items.Pairwise fun earlier later => earlier.name = later.name → ∀ count, slugFor text later ≠
      withNumber (slugFor text earlier ++ "-" ++ slugify text earlier.name) count

/-- A slug that counts as taken is the base slug of an item of its name, or extends one. -/
def Explained (text : PyText) (seen : List AgentSlugItem) (state : Assignment) : Prop :=
  ∀ slug owner, state.taken.get? slug = some owner → ∃ item ∈ seen, item.name = owner ∧
    (slug = slugFor text item ∨
      ∃ count, slug = withNumber (slugFor text item ++ "-" ++ slugify text item.name) count)

theorem assign_step_explained (index : AgentSlugIndex) {seen : List AgentSlugItem}
    {state : Assignment} (explained : Explained text seen state) (item : AgentSlugItem) :
    Explained text (seen ++ [item]) (assignStep text index state item) := by
  have earlier : Explained text (seen ++ [item]) state := by
    intro slug owner taken
    obtain ⟨other, member, reason⟩ := explained slug owner taken
    exact ⟨other, List.mem_append_left _ member, reason⟩
  have added : ∀ slug, (slug = slugFor text item ∨
        ∃ count, slug = withNumber (slugFor text item ++ "-" ++ slugify text item.name) count) →
      ∀ pairs, Explained text (seen ++ [item])
        { taken := state.taken.set slug item.name, pairs := pairs } := by
    intro slug reason pairs other owner taken
    dsimp only at taken
    rw [OrderedDict.get_set] at taken
    split at taken
    next same =>
      rw [same]
      exact ⟨item, List.mem_append_right _ (List.mem_singleton_self _),
        Option.some.inj taken, reason⟩
    next => exact earlier other owner taken
  rw [assignStep]
  dsimp only
  split
  · exact earlier
  · split
    · exact added _ (.inl rfl) _
    · split
      · exact earlier
      · exact added _ (.inr (first_free_form _ _ _ _)) _

theorem base_counts_get (counts : OrderedDict (String × String) Nat)
    (items : List AgentSlugItem) (key : String × String) (named : key.2 ≠ "") :
    (runInputs (countStep text) counts items).getD key 0 =
      counts.getD key 0 + items.countP fun item => (item.name, slugFor text item) = key := by
  induction items generalizing counts with
  | nil => rfl
  | cons item rest ih =>
    rw [run_inputs_cons, ih, countStep, List.countP_cons]
    by_cases here : (item.name, slugFor text item) = key
    · have used : slugFor text item ≠ "" := by
        rw [← here] at named
        exact named
      rw [if_neg used, OrderedDict.getD_set, here]
      simp only [if_true, decide_true]
      omega
    · have other : decide ((item.name, slugFor text item) = key) = false := decide_eq_false here
      rw [other, if_neg Bool.false_ne_true]
      split
      · rfl
      · have kept := OrderedDict.getD_set counts (item.name, slugFor text item) key
          (counts.getD (item.name, slugFor text item) 0 + 1) 0
        rw [if_neg fun same => here same.symm] at kept
        omega

theorem run_explained (index : AgentSlugIndex) {seen : List AgentSlugItem} {state : Assignment}
    (explained : Explained text seen state) (items : List AgentSlugItem) :
    Explained text (seen ++ items) (runInputs (assignStep text index) state items) := by
  induction items generalizing seen state with
  | nil =>
    rw [List.append_nil]
    exact explained
  | cons item rest ih =>
    have after := ih (assign_step_explained index explained item)
    rw [List.append_assoc, List.singleton_append] at after
    exact after

theorem twice_reported {early late : List AgentSlugItem} {first second : AgentSlugItem}
    (items : index.items = early ++ second :: late) (member : first ∈ early)
    (name : first.name = second.name) (base : slugFor text first = slugFor text second)
    (named : slugFor text second ≠ "") : collisions text index ≠ [] := by
  intro clear
  have counted : (baseCounts text index).getD (second.name, slugFor text second) 0 =
      0 + index.items.countP fun item =>
        (item.name, slugFor text item) = (second.name, slugFor text second) :=
    base_counts_get OrderedDict.empty index.items (second.name, slugFor text second) named
  have many : 2 ≤ index.items.countP fun item =>
      (item.name, slugFor text item) = (second.name, slugFor text second) := by
    have once : 0 < early.countP fun item =>
        (item.name, slugFor text item) = (second.name, slugFor text second) :=
      List.countP_pos_iff.mpr ⟨first, member, by rw [name, base]; exact decide_eq_true rfl⟩
    rw [items, List.countP_append, List.countP_cons]
    simp only [decide_true, if_true]
    omega
  cases found : (baseCounts text index).get? (second.name, slugFor text second) with
  | none =>
    rw [OrderedDict.getD, found, Option.getD_none] at counted
    omega
  | some count =>
    have listed := (OrderedDict.get_eq_some_iff _ _ _).mp found
    have few : count ≤ 1 := (collisions_nil_iff.mp clear).2 _ listed
    rw [OrderedDict.getD, found, Option.getD_some] at counted
    omega

theorem separates_of_no_extension (clear : collisions text index = [])
    (apart : NoExtension text index.items) : Separates text index := by
  apply (steps_meet_iff _ _ _ _).mpr
  intro early item late items owned
  have nothing : Explained text [] Assignment.start := nofun
  have explained := run_explained index nothing early
  obtain ⟨other, member, name, reason⟩ := explained _ _ owned
  rw [List.nil_append] at member
  rcases reason with base | extends_base
  · have usable := usable_of_no_collisions clear item (by rw [items]; simp)
    exact twice_reported items member name base.symm usable.1 clear
  · obtain ⟨count, same⟩ := extends_base
    rw [items] at apart
    have between := (List.pairwise_append.mp apart).2.2 other member item List.mem_cons_self
    exact between name count same

theorem distinct_of_no_extension (clear : collisions text index = [])
    (apart : NoExtension text index.items) : Distinct text index :=
  (distinct_iff clear).mpr (separates_of_no_extension clear apart)

theorem two_offices_distinct :
    Distinct .ascii
      { items := [⟨"Ada", "Chief Executive Officer", ""⟩, ⟨"Ada", "Director", ""⟩]
        reservedSlugs := builtinAgentSlugs } := by
  apply distinct_of_no_extension (by decide +kernel)
  rw [NoExtension, List.pairwise_pair]
  intro _ count same
  have heads : (withNumber "ceo-ada" count).toList.head? = some 'c' := by
    cases count with
    | zero => decide +kernel
    | succ count => simp [withNumber]
  rw [show slugFor .ascii ⟨"Ada", "Chief Executive Officer", ""⟩ ++ "-" ++ slugify .ascii "Ada" =
    "ceo-ada" by decide +kernel] at same
  rw [← same] at heads
  revert heads
  decide +kernel

end AgentSlugIndex

end AiEnterpriseOs.Agents
