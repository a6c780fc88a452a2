import AiEnterpriseOs.Library.OrderedDict
import Mathlib.Data.List.Sort

/-!
# The command line contract

Two trees of commands are compared in one walk down both, which visits each common command
from the contract and again from the surface. What it finds is read off the paths.
-/

namespace AiEnterpriseOs.Integrity

open Library

/-- What is read of a click parameter. -/
structure Parameter where
  name : String
  opts : List String
  required : Bool := false

/-- What is read of a click command; a plain command has no subcommands. -/
inductive Command where
  | mk (params : List Parameter) (commands : List (String × Command))

structure ParamEntry where
  opts : List String
  required : Bool

inductive CommandEntry where
  | mk (params : List (String × ParamEntry)) (commands : Option (List (String × CommandEntry)))

def paramEntry (param : Parameter) : ParamEntry where
  opts := param.opts.insertionSort (· ≤ ·)
  required := param.required

/-- `sorted(commands.items())`, for distinct names. -/
def sortedItems {Item : Type} (items : List (String × Item)) : List (String × Item) :=
  items.insertionSort fun left right => left.1 ≤ right.1

mutual

def describeCommand : Command → CommandEntry
  | .mk params commands =>
    .mk (OrderedDict.empty.setAll (params.map fun param => (param.name, paramEntry param))).entries
      (if commands.isEmpty then none
      else some (OrderedDict.empty.setAll (sortedItems (describeCommands commands))).entries)

def describeCommands : List (String × Command) → List (String × CommandEntry)
  | [] => []
  | (name, command) :: rest => (name, describeCommand command) :: describeCommands rest

end

namespace CommandEntry

def params : CommandEntry → List (String × ParamEntry)
  | .mk params _ => params

/-- `entry.get("commands", {})`. -/
def commandMap : CommandEntry → List (String × CommandEntry)
  | .mk _ commands => commands.getD []

/-- The entry of a command below another, `[]` for the command itself. -/
def sub (entry : CommandEntry) : List String → Option CommandEntry
  | [] => some entry
  | name :: path => (OrderedDict.lookup name entry.commandMap).bind fun below => below.sub path

mutual

/-- The levels of a tree. -/
def depth : CommandEntry → Nat
  | .mk _ none => 1
  | .mk _ (some commands) => depths commands + 1

def depths : List (String × CommandEntry) → Nat
  | [] => 0
  | (_, entry) :: rest => max entry.depth (depths rest)

end

end CommandEntry

inductive Finding where
  | error (text : String)
  | addition (text : String)

def Finding.isError : Finding → Bool
  | .error _ => true
  | .addition _ => false

/-- The parameters of a contract command looked up in the surface. -/
def compareParams (full : String) (expected actual : CommandEntry) : List Finding :=
  expected.params.flatMap fun param =>
    let named := "command '" ++ full ++ "': option/argument '" ++ param.1
    match OrderedDict.lookup param.1 actual.params with
    | none =>
      [.error (named ++ "' was REMOVED or RENAMED (in contract, missing from CLI)")]
    | some actualParam =>
      if actualParam.opts.insertionSort (· ≤ ·) ≠ param.2.opts.insertionSort (· ≤ ·) ∨
          actualParam.required ≠ param.2.required then
        [.error (named ++ "' CHANGED (flags or required-ness differ from contract) - not additive")]
      else []

/-- The parameters of the surface that the contract lacks. -/
def newParams (full : String) (expected actual : CommandEntry) : List Finding :=
  (actual.params.filter fun param => (OrderedDict.lookup param.1 expected.params).isNone).map
    fun param => .addition ("command '" ++ full ++ "': new option/argument '" ++ param.1 ++
      "' (additive - accept with --update)")

/-- `_compare_commands`, down to some levels of the contract. -/
def compareCommands : Nat → CommandEntry → CommandEntry → String → List Finding
  | 0, _, _, _ => []
  | levels + 1, contract, surface, path =>
    let below (full : String) (expected actual : CommandEntry) : List Finding :=
      if !expected.commandMap.isEmpty || !actual.commandMap.isEmpty then
        compareCommands levels expected actual (full ++ " ")
      else []
    (sortedItems contract.commandMap).flatMap (fun item =>
      let full := path ++ item.1
      match OrderedDict.lookup item.1 surface.commandMap with
      | none => [.error ("command '" ++ full ++ "' was REMOVED (in contract, missing from CLI)")]
      | some actual => compareParams full item.2 actual ++ below full item.2 actual) ++
    (sortedItems surface.commandMap).flatMap fun item =>
      let full := path ++ item.1
      match OrderedDict.lookup item.1 contract.commandMap with
      | none => [.addition ("new command '" ++ full ++ "' (additive - accept with --update)")]
      | some expected => newParams full expected item.2 ++ below full expected item.2

/-- What `compare_surface` appends to its two lists, in the order of the walk. -/
def compareSurface (contract surface : CommandEntry) : List Finding × List Finding :=
  (compareCommands contract.depth contract surface "").partition Finding.isError

/-! ## What the findings say -/

/-- The dictionaries of a tree have distinct keys. -/
def CommandEntry.Distinct (entry : CommandEntry) : Prop :=
  ∀ path below, entry.sub path = some below →
    (below.params.map Prod.fst).Nodup ∧ (below.commandMap.map Prod.fst).Nodup

structure CommandTree where
  entry : CommandEntry
  distinct : entry.Distinct

theorem mem_described {name : String} {entry : CommandEntry} {commands : List (String × Command)}
    (member : (name, entry) ∈ describeCommands commands) :
    ∃ command, entry = describeCommand command := by
  induction commands with
  | nil => cases member
  | cons item rest ih =>
    rcases List.mem_cons.mp member with same | later
    · exact ⟨item.2, congrArg Prod.snd same⟩
    · exact ih later

def describedTree (command : Command) : CommandTree where
  entry := describeCommand command
  distinct := by
    intro path
    induction path generalizing command with
    | nil =>
      intro below there
      cases there
      obtain ⟨params, commands⟩ := command
      refine ⟨OrderedDict.distinct _, ?_⟩
      cases commands with
      | nil => exact List.nodup_nil
      | cons item rest => exact OrderedDict.distinct _
    | cons name path ih =>
      intro below there
      obtain ⟨params, commands⟩ := command
      obtain ⟨child, found, deeper⟩ := Option.bind_eq_some_iff.mp there
      cases commands with
      | nil => cases found
      | cons item rest =>
        rcases OrderedDict.get_setAll_cases found with listed | none
        · obtain ⟨other, rfl⟩ := mem_described
            ((List.perm_insertionSort _ _).mem_iff.mp listed)
          exact ih other below deeper
        · cases none

/-- The same flags, however ordered, and as much required. -/
def ParamEntry.Same (expected actual : ParamEntry) : Prop :=
  expected.opts.Perm actual.opts ∧ expected.required = actual.required

/-- Every parameter of the contract command is one of the surface command. -/
def ParamsKept (expected actual : CommandEntry) : Prop :=
  ∀ name param, OrderedDict.lookup name expected.params = some param →
    ∃ other, OrderedDict.lookup name actual.params = some other ∧ param.Same other

def ParamsAlike (expected actual : CommandEntry) : Prop :=
  ParamsKept expected actual ∧ ∀ name, OrderedDict.lookup name expected.params = none →
    OrderedDict.lookup name actual.params = none

/-- Every command of the contract is at its path in the surface, with its parameters. -/
def Covers (contract surface : CommandEntry) : Prop :=
  ∀ name path expected, contract.sub (name :: path) = some expected →
    ∃ actual, surface.sub (name :: path) = some actual ∧ ParamsKept expected actual

/-- The trees have the same commands at the same paths with the same parameters. -/
def AgreeBelow (contract surface : CommandEntry) : Prop :=
  ∀ name path, Option.Rel ParamsAlike (contract.sub (name :: path)) (surface.sub (name :: path))

section Trees

variable {contract surface expected actual : CommandEntry} {name : String}

theorem CommandEntry.Distinct.below (distinct : contract.Distinct)
    (found : OrderedDict.lookup name contract.commandMap = some expected) :
    expected.Distinct := by
  intro path below there
  apply distinct (name :: path) below
  rw [CommandEntry.sub, found]
  exact there

theorem CommandEntry.Distinct.listed_iff (distinct : contract.Distinct) :
    OrderedDict.lookup name contract.commandMap = some expected ↔
      (name, expected) ∈ contract.commandMap :=
  OrderedDict.lookup_eq_some_iff (distinct [] contract rfl).2

theorem depth_lt (listed : (name, expected) ∈ contract.commandMap) :
    expected.depth < contract.depth := by
  obtain ⟨params, commands⟩ := contract
  cases commands with
  | none => cases listed
  | some commands =>
    change (name, expected) ∈ commands at listed
    rw [CommandEntry.depth, Nat.lt_succ_iff]
    induction commands with
    | nil => cases listed
    | cons item rest ih =>
      rw [CommandEntry.depths]
      rcases List.mem_cons.mp listed with same | later
      · rw [← same]
        exact le_max_left _ _
      · exact (ih later).trans (le_max_right _ _)

theorem covers_step_iff : Covers contract surface ↔
    ∀ name expected, OrderedDict.lookup name contract.commandMap = some expected →
      ∃ actual, OrderedDict.lookup name surface.commandMap = some actual ∧
        ParamsKept expected actual ∧ Covers expected actual := by
  constructor
  · intro covers name expected found
    obtain ⟨actual, there, kept⟩ := covers name [] expected (by rw [CommandEntry.sub, found]; rfl)
    cases lookup : OrderedDict.lookup name surface.commandMap with
    | none =>
      rw [CommandEntry.sub, lookup] at there
      cases there
    | some other =>
      rw [CommandEntry.sub, lookup] at there
      cases there
      refine ⟨_, rfl, kept, ?_⟩
      intro below path deeper at_
      obtain ⟨other, same, keeps⟩ := covers name (below :: path) deeper (by
        rw [CommandEntry.sub, found]
        exact at_)
      rw [CommandEntry.sub, lookup] at same
      exact ⟨other, same, keeps⟩
  · intro steps name path deeper at_
    rw [CommandEntry.sub] at at_
    obtain ⟨expected, found, at_⟩ := Option.bind_eq_some_iff.mp at_
    obtain ⟨actual, there, kept, covers⟩ := steps name expected found
    rw [CommandEntry.sub, there, Option.bind_some]
    cases path with
    | nil =>
      cases at_
      exact ⟨actual, rfl, kept⟩
    | cons below path => exact covers below path deeper at_

theorem agree_step_iff : AgreeBelow contract surface ↔ ∀ name,
    Option.Rel (fun expected actual => ParamsAlike expected actual ∧ AgreeBelow expected actual)
      (OrderedDict.lookup name contract.commandMap)
      (OrderedDict.lookup name surface.commandMap) := by
  simp only [AgreeBelow, CommandEntry.sub]
  apply forall_congr'
  intro name
  cases OrderedDict.lookup name contract.commandMap with
  | none =>
    cases OrderedDict.lookup name surface.commandMap with
    | none => simp
    | some actual => exact iff_of_false (fun agree => nomatch agree []) nofun
  | some expected =>
    cases OrderedDict.lookup name surface.commandMap with
    | none => exact iff_of_false (fun agree => nomatch agree []) nofun
    | some actual =>
      simp only [Option.bind_some, Option.rel_some_some]
      constructor
      · exact fun agree =>
          ⟨Option.rel_some_some.mp (agree []), fun below path => agree (below :: path)⟩
      · rintro ⟨alike, agree⟩ path
        cases path with
        | nil => exact Option.rel_some_some.mpr alike
        | cons below path => exact agree below path

theorem mem_sorted_iff {Item : Type} (items : List (String × Item)) (item : String × Item) :
    item ∈ sortedItems items ↔ item ∈ items :=
  (List.perm_insertionSort _ items).mem_iff

theorem same_flags_iff (left right : List String) :
    left.insertionSort (· ≤ ·) = right.insertionSort (· ≤ ·) ↔ right.Perm left := by
  constructor
  · intro same
    have sorted := List.perm_insertionSort (· ≤ ·) right
    rw [← same] at sorted
    exact sorted.symm.trans (List.perm_insertionSort (· ≤ ·) left)
  · intro perm
    exact ((List.perm_insertionSort _ left).trans
      (perm.symm.trans (List.perm_insertionSort _ right).symm)).eq_of_pairwise'
        (List.pairwise_insertionSort _ left) (List.pairwise_insertionSort _ right)

theorem params_kept_iff (distinct : expected.Distinct) (full : String) :
    compareParams full expected actual = [] ↔ ParamsKept expected actual := by
  rw [compareParams, List.flatMap_eq_nil_iff, ParamsKept]
  simp only [OrderedDict.lookup_eq_some_iff (distinct [] expected rfl).1, Prod.forall]
  apply forall_congr'
  intro name
  apply forall_congr'
  intro param
  apply imp_congr_right
  intro _
  cases OrderedDict.lookup name actual.params with
  | none => simp
  | some other =>
    dsimp only
    rw [ite_eq_right_iff]
    simp only [List.cons_ne_self, imp_false, not_or, not_not, same_flags_iff, ParamEntry.Same,
      Option.some.injEq, exists_eq_left']
    exact and_congr_right fun _ => eq_comm

theorem compare_params_errors (full : String) : ∀ finding ∈ compareParams full expected actual,
    finding.isError = true := by
  intro finding found
  obtain ⟨param, _, here⟩ := List.mem_flatMap.mp found
  dsimp only at here
  split at here
  · rw [List.mem_singleton.mp here]
    rfl
  · split at here
    · rw [List.mem_singleton.mp here]
      rfl
    · cases here

theorem new_params_iff (distinct : actual.Distinct) (full : String) :
    newParams full expected actual = [] ↔ ∀ name,
      OrderedDict.lookup name expected.params = none →
        OrderedDict.lookup name actual.params = none := by
  rw [newParams, List.map_eq_nil_iff, List.filter_eq_nil_iff]
  constructor
  · intro known name absent
    rw [Option.eq_none_iff_forall_ne_some]
    intro param found
    have listed := (OrderedDict.lookup_eq_some_iff (distinct [] actual rfl).1).mp found
    exact known _ listed (by rw [absent]; rfl)
  · intro known param listed absent
    have found := (OrderedDict.lookup_eq_some_iff (distinct [] actual rfl).1).mpr listed
    rw [known param.1 (Option.isNone_iff_eq_none.mp absent)] at found
    cases found

theorem compare_commands_iff (levels : Nat) {contract surface : CommandEntry}
    (enough : contract.depth ≤ levels) (ours : contract.Distinct) (theirs : surface.Distinct)
    (path : String) :
    ((∀ finding ∈ compareCommands levels contract surface path, finding.isError = false) ↔
      Covers contract surface) ∧
    (compareCommands levels contract surface path = [] ↔ AgreeBelow contract surface) := by
  induction levels generalizing contract surface path with
  | zero =>
    obtain ⟨params, commands⟩ := contract
    cases commands <;> simp [CommandEntry.depth] at enough
  | succ levels ih =>
    -- the walk below a common command, from either side
    have below : ∀ {name : String} {expected actual : CommandEntry} (full : String),
        OrderedDict.lookup name contract.commandMap = some expected →
        OrderedDict.lookup name surface.commandMap = some actual →
        let found := if !expected.commandMap.isEmpty || !actual.commandMap.isEmpty then
          compareCommands levels expected actual (full ++ " ") else []
        ((∀ finding ∈ found, finding.isError = false) ↔ Covers expected actual) ∧
          (found = [] ↔ AgreeBelow expected actual) := by
      intro name expected actual full common there found
      by_cases plain : expected.commandMap = [] ∧ actual.commandMap = []
      · have nothing : found = [] := by simp [found, plain.1, plain.2]
        rw [nothing, covers_step_iff, agree_step_iff, plain.1, plain.2]
        exact ⟨iff_of_true nofun nofun, iff_of_true rfl fun _ => .none⟩
      · have walked : found = compareCommands levels expected actual (full ++ " ") := if_pos (by
          simpa [imp_iff_not_or] using plain)
        have shallower := depth_lt (ours.listed_iff.mp common)
        rw [walked]
        exact ih (by omega) (ours.below common) (theirs.below there) _
    constructor
    · rw [compareCommands, covers_step_iff]
      constructor
      · intro clean name expected common
        have here := fun finding member => clean finding (List.mem_append_left _
          (List.mem_flatMap.mpr ⟨(name, expected),
            (mem_sorted_iff _ _).mpr (ours.listed_iff.mp common), member⟩))
        dsimp only at here
        cases there : OrderedDict.lookup name surface.commandMap with
        | none =>
          rw [there] at here
          exact absurd (here _ List.mem_cons_self) Bool.true_eq_false_eq_False
        | some actual =>
          rw [there] at here
          refine ⟨actual, rfl, (params_kept_iff (ours.below common) (path ++ name)).mp ?_, ?_⟩
          · rw [List.eq_nil_iff_forall_not_mem]
            intro finding member
            have raised := compare_params_errors _ finding member
            rw [here finding (List.mem_append_left _ member)] at raised
            cases raised
          · exact (below (path ++ name) common there).1.mp fun finding member =>
              here finding (List.mem_append_right _ member)
      · intro covers finding member
        rcases List.mem_append.mp member with ours_ | theirs_
        · obtain ⟨⟨name, expected⟩, listed, here⟩ := List.mem_flatMap.mp ours_
          have common := ours.listed_iff.mpr ((mem_sorted_iff _ _).mp listed)
          obtain ⟨actual, there, kept, deeper⟩ := covers name expected common
          rw [there] at here
          dsimp only at here
          rw [(params_kept_iff (ours.below common) _).mpr kept] at here
          exact (below (path ++ name) common there).1.mpr deeper finding here
        · obtain ⟨⟨name, actual⟩, listed, here⟩ := List.mem_flatMap.mp theirs_
          have there := theirs.listed_iff.mpr ((mem_sorted_iff _ _).mp listed)
          dsimp only at here
          cases common : OrderedDict.lookup name contract.commandMap with
          | none =>
            rw [common] at here
            rw [List.mem_singleton.mp here]
            rfl
          | some expected =>
            rw [common] at here
            rcases List.mem_append.mp here with fresh | deeper
            · obtain ⟨param, _, same⟩ := List.mem_map.mp fresh
              rw [← same]
              rfl
            · obtain ⟨other, same, _, covered⟩ := covers name expected common
              cases there.symm.trans same
              exact (below (path ++ name) common there).1.mpr covered finding deeper
    · rw [compareCommands, agree_step_iff, List.append_eq_nil_iff, List.flatMap_eq_nil_iff,
        List.flatMap_eq_nil_iff]
      simp only [mem_sorted_iff, Prod.forall, ← ours.listed_iff, ← theirs.listed_iff]
      constructor
      · rintro ⟨first, second⟩ name
        cases common : OrderedDict.lookup name contract.commandMap with
        | none =>
          cases there : OrderedDict.lookup name surface.commandMap with
          | none => exact .none
          | some actual =>
            have here := second name actual there
            rw [common] at here
            cases here
        | some expected =>
          cases there : OrderedDict.lookup name surface.commandMap with
          | none =>
            have here := first name expected common
            rw [there] at here
            cases here
          | some actual =>
            have here := first name expected common
            have back := second name actual there
            rw [there, List.append_eq_nil_iff] at here
            rw [common, List.append_eq_nil_iff] at back
            exact .some ⟨⟨(params_kept_iff (ours.below common) _).mp here.1,
              (new_params_iff (theirs.below there) _).mp back.1⟩,
              (below (path ++ name) common there).2.mp here.2⟩
      · intro agree
        constructor
        · intro name expected common
          have both := agree name
          rw [common] at both
          cases there : OrderedDict.lookup name surface.commandMap with
          | none =>
            rw [there] at both
            cases both
          | some actual =>
            rw [there, Option.rel_some_some] at both
            dsimp only
            rw [(params_kept_iff (ours.below common) _).mpr both.1.1, List.nil_append]
            exact (below (path ++ name) common there).2.mpr both.2
        · intro name actual there
          have both := agree name
          rw [there] at both
          cases common : OrderedDict.lookup name contract.commandMap with
          | none =>
            rw [common] at both
            cases both
          | some expected =>
            rw [common, Option.rel_some_some] at both
            dsimp only
            rw [(new_params_iff (theirs.below there) _).mpr both.1.2, List.nil_append]
            exact (below (path ++ name) common there).2.mpr both.2

end Trees

theorem no_error_iff (contract surface : CommandTree) :
    (compareSurface contract.entry surface.entry).1 = [] ↔
      Covers contract.entry surface.entry := by
  rw [← (compare_commands_iff contract.entry.depth le_rfl contract.distinct surface.distinct
    "").1, compareSurface, List.partition_eq_filter_filter]
  simp [List.filter_eq_nil_iff]

/-- No error is found exactly if the surface covers the contract, and nothing at all exactly
if the trees agree below their roots. -/
theorem compare_surface_iff (contract surface : CommandTree) :
    ((compareSurface contract.entry surface.entry).1 = [] ↔
      Covers contract.entry surface.entry) ∧
    (compareSurface contract.entry surface.entry = ([], []) ↔
      AgreeBelow contract.entry surface.entry) := by
  refine ⟨no_error_iff contract surface, ?_⟩
  rw [← (compare_commands_iff contract.entry.depth le_rfl contract.distinct surface.distinct
    "").2, compareSurface, List.partition_eq_filter_filter]
  generalize compareCommands _ _ _ _ = findings
  constructor
  · intro neither
    obtain ⟨errors, additions⟩ := Prod.mk.inj neither
    rw [List.eq_nil_iff_forall_not_mem]
    intro finding member
    have notError := List.filter_eq_nil_iff.mp errors finding member
    have notAddition := List.filter_eq_nil_iff.mp additions finding member
    simp_all
  · rintro rfl
    rfl

theorem Covers.trans {first second third : CommandEntry} (early : Covers first second)
    (late : Covers second third) : Covers first third := by
  intro name path expected found
  obtain ⟨between, there, kept⟩ := early name path expected found
  obtain ⟨actual, last, keeps⟩ := late name path between there
  refine ⟨actual, last, ?_⟩
  intro param entry listed
  obtain ⟨other, same, alike⟩ := kept param entry listed
  obtain ⟨final, holds, again⟩ := keeps param other same
  exact ⟨final, holds, alike.1.trans again.1, alike.2.trans again.2⟩

/-- Releases without a violation, each against the one before, violate none of the earlier
contracts. -/
theorem releases_keep_contract (first : CommandTree) (releases : List CommandTree)
    (checked : (first :: releases).IsChain fun contract surface =>
      (compareSurface contract.entry surface.entry).1 = []) :
    ∀ release ∈ releases, (compareSurface first.entry release.entry).1 = [] := by
  simp only [no_error_iff] at checked ⊢
  let Passes (contract surface : CommandTree) : Prop := Covers contract.entry surface.entry
  have : Trans Passes Passes Passes := ⟨Covers.trans⟩
  have all : (first :: releases).Pairwise Passes := List.IsChain.pairwise checked
  exact (List.pairwise_cons.mp all).1

/-- A command that gets an option and then a subcommand. -/
theorem two_releases_keep :
    let app (params : List Parameter) (commands : List (String × Command)) : CommandTree :=
      describedTree (.mk [] [("run", .mk params commands)])
    let later := [app [⟨"fast", ["--fast"], false⟩] [],
      app [⟨"fast", ["--fast"], false⟩] [("all", .mk [] [])]]
    ∀ release ∈ later, (compareSurface (app [] []).entry release.entry).1 = [] := by
  intro app later
  exact releases_keep_contract (app [] []) later (.cons_cons rfl (.cons_cons rfl (.singleton _)))

/-- An option of the root itself is not compared. -/
theorem root_option_unseen :
    let contract := describedTree (.mk [⟨"verbose", ["--verbose"], false⟩] [])
    let surface := describedTree (.mk [] [])
    compareSurface contract.entry surface.entry = ([], []) ∧
      ¬Option.Rel ParamsAlike (contract.entry.sub []) (surface.entry.sub []) := by
  refine ⟨rfl, fun alike => ?_⟩
  obtain ⟨other, found, _⟩ := (Option.rel_some_some.mp alike).1 "verbose" _ rfl
  cases found

end AiEnterpriseOs.Integrity
