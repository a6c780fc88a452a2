import AiEnterpriseOs.Library.MutualLinks
import AiEnterpriseOs.Library.OptionFold
import AiEnterpriseOs.Library.Runs
import AiEnterpriseOs.Memory.Knowledge
import AiEnterpriseOs.Memory.Summary

/-!
# Runs of a knowledge base

Indices, relationships and file follow the entries through every operation. An
index keeps a bucket whose last id has left it; a new knowledge base on the file
does not have it.
-/

namespace AiEnterpriseOs.Memory

open Library

variable {Value : Type}

namespace KnowledgeEntry

def domains (entry : KnowledgeEntry Value) : List String := [entry.domain]

/-- An entry under its own id, within its bounds, that JSON gives back as it is;
its relationships are to ids that have been in use, none twice. -/
structure Kept (env : MemoryEnv Value) (used : List String) (id : String)
    (entry : KnowledgeEntry Value) : Prop where
  named : entry.id = id
  valid : entry.validates = true
  content : env.StableDict entry.content
  metadata : env.StableDict entry.metadata
  distinct : entry.relationships.Nodup
  known : ∀ other ∈ entry.relationships, other ∈ used
  inUse : id ∈ used

end KnowledgeEntry

namespace KnowledgeBase

/-- The bucket of every domain and of every tag has exactly the ids of the
entries carrying it; relationships between entries are symmetric, none is there
twice. -/
structure Sound (base : KnowledgeBase Value) : Prop where
  domains : SecondaryIndex.Exact KnowledgeEntry.domains base.domainIndex base.entries
  tags : SecondaryIndex.Exact KnowledgeEntry.tags base.tagIndex base.entries
  symmetric : Mutual KnowledgeEntry.relationships base.entries
  distinct : ∀ id entry, base.entries.get? id = some entry → entry.relationships.Nodup

/-- A new knowledge base has the same entries, the same buckets, and no others
than those that are not empty. -/
structure ReopensAs (base again : KnowledgeBase Value) : Prop where
  entries : again.entries = base.entries
  domains : ∀ domain id, id ∈ (again.domainIndex.bucket domain).ids ↔
    id ∈ (base.domainIndex.bucket domain).ids
  tags : ∀ tag id, id ∈ (again.tagIndex.bucket tag).ids ↔ id ∈ (base.tagIndex.bucket tag).ids
  domainKeys : ∀ domain, domain ∈ again.domainIndex.buckets.keys ↔
    ∃ id, id ∈ (base.domainIndex.bucket domain).ids
  tagKeys : ∀ tag, tag ∈ again.tagIndex.buckets.keys ↔ ∃ id, id ∈ (base.tagIndex.bucket tag).ids

/-- What the operations keep, whatever the file. -/
structure Kept (env : MemoryEnv Value) (used : List String) (base : KnowledgeBase Value) :
    Prop where
  domains : SecondaryIndex.Exact KnowledgeEntry.domains base.domainIndex base.entries
  tags : SecondaryIndex.Exact KnowledgeEntry.tags base.tagIndex base.entries
  symmetric : Mutual KnowledgeEntry.relationships base.entries
  each : ∀ id entry, base.entries.get? id = some entry → entry.Kept env used id

/-- The file has the entries, if there is a path. -/
def Filed (base : KnowledgeBase Value) : Prop :=
  match base.storage with
  | none => True
  | some none => base.entries = OrderedDict.empty
  | some (some .malformed) => False
  | some (some (.saved records)) => records = base.entries

variable {env : MemoryEnv Value} {used : List String} {base : KnowledgeBase Value}

theorem Kept.sound (kept : base.Kept env used) : base.Sound where
  domains := kept.domains
  tags := kept.tags
  symmetric := kept.symmetric
  distinct id entry stored := (kept.each id entry stored).distinct

/-! ## Saving and loading -/

theorem Kept.dump_entries (kept : base.Kept env used) :
    dumpEntries env base.entries = some base.entries := by
  have dumped : ∀ item ∈ base.entries.entries, dumpItem env item = some (id item) := by
    intro item member
    have entryKept := kept.each item.1 item.2 ((OrderedDict.get_eq_some_iff _ _ _).mpr member)
    rw [dumpItem, KnowledgeEntry.dump, entryKept.content.round_trip, entryKept.metadata.round_trip]
    rfl
  rw [dumpEntries, mapM_eq_map dumped, List.map_id, Option.map_some, OrderedDict.setAll_entries]

theorem Kept.save (kept : base.Kept env used) {Result : Type} (result : Result) :
    (base.saveAndReturn env result).1.Kept env used ∧ (base.saveAndReturn env result).1.Filed := by
  rw [saveAndReturn, KnowledgeBase.save, kept.dump_entries]
  cases path : base.storage with
  | none =>
    refine ⟨kept, ?_⟩
    simp only [Outcome.returning_state, Filed, path]
  | some _ => exact ⟨⟨kept.domains, kept.tags, kept.symmetric, kept.each⟩, rfl⟩

theorem load_entries (items : List (String × KnowledgeEntry Value)) (start : KnowledgeBase Value)
    (fit : ∀ item ∈ items, item.2.id = item.1 ∧ item.2.validates = true) :
    loadEntries items start =
      { start with
        entries := start.entries.setAll items
        domainIndex := items.foldl (fun index item => index.addAll item.1 item.2.domains)
          start.domainIndex
        tagIndex := items.foldl (fun index item => index.addAll item.1 item.2.tags)
          start.tagIndex } := by
  induction items generalizing start with
  | nil => rfl
  | cons item rest ih =>
    obtain ⟨named, valid⟩ := fit item List.mem_cons_self
    have later := fun other member => fit other (List.mem_cons_of_mem _ member)
    rw [loadEntries, if_pos valid, ih _ later, indexEntry, named]
    rfl

theorem Kept.open_base (kept : base.Kept env used) (filed : base.Filed)
    (path : base.storage.isSome = true) :
    openBase base.storage =
      { storage := base.storage
        entries := base.entries
        domainIndex := SecondaryIndex.collect KnowledgeEntry.domains base.entries.entries
        tagIndex := SecondaryIndex.collect KnowledgeEntry.tags base.entries.entries } := by
  unfold Filed at filed
  split at filed
  next none_there =>
    rw [none_there] at path
    cases path
  next file =>
    rw [file, filed]
    rfl
  · cases filed
  next records file =>
    have fit : ∀ item ∈ base.entries.entries, item.2.id = item.1 ∧ item.2.validates = true := by
      intro item member
      have entryKept := kept.each item.1 item.2 ((OrderedDict.get_eq_some_iff _ _ _).mpr member)
      exact ⟨entryKept.named, entryKept.valid⟩
    rw [file, filed, openBase, load]
    dsimp only
    rw [load_entries _ _ fit, OrderedDict.setAll_entries]
    rfl

theorem Kept.reload (kept : base.Kept env used) (filed : base.Filed) :
    (openBase base.storage).Kept env used ∧ (openBase base.storage).Filed := by
  cases path : base.storage with
  | none =>
    refine ⟨⟨SecondaryIndex.exact_empty, SecondaryIndex.exact_empty, Mutual.empty, ?_⟩, trivial⟩
    intro id entry stored
    cases stored
  | some file =>
    have opened := kept.open_base filed (by rw [path]; rfl)
    rw [← path, opened]
    refine ⟨⟨?_, ?_, kept.symmetric, kept.each⟩, filed⟩
    · exact SecondaryIndex.exact_collect_entries base.entries
    · exact SecondaryIndex.exact_collect_entries base.entries

theorem Kept.reopens_as (kept : base.Kept env used) (filed : base.Filed)
    (path : base.storage.isSome = true) : base.ReopensAs (openBase base.storage) := by
  have again := (kept.reload filed).1
  have opened := kept.open_base filed path
  have same : (openBase base.storage).entries = base.entries := by rw [opened]
  refine { entries := same, domains := ?_, tags := ?_, domainKeys := ?_, tagKeys := ?_ }
  · intro domain id
    rw [again.domains, kept.domains, same]
  · intro tag id
    rw [again.tags, kept.tags, same]
  · intro domain
    rw [opened]
    exact kept.domains.mem_keys_collect_iff domain
  · intro tag
    rw [opened]
    exact kept.tags.mem_keys_collect_iff tag

end KnowledgeBase

/-! ## Operations -/

namespace KnowledgeEntry

variable {env : MemoryEnv Value} {used : List String}

theorem Kept.widen {id : String} {entry : KnowledgeEntry Value} (kept : entry.Kept env used id)
    (more : List String) : entry.Kept env (used ++ more) id :=
  { kept with
    known := fun other member => List.mem_append_left _ (kept.known other member)
    inUse := List.mem_append_left _ kept.inUse }

theorem mem_relate (id : String) (entry : KnowledgeEntry Value) (other : String) :
    other ∈ (entry.relate id).relationships ↔ other ∈ entry.relationships ∨ other = id := by
  unfold relate
  split
  next listed =>
    constructor
    · exact Or.inl
    · rintro (member | rfl)
      · exact member
      · exact listed
  · simp

theorem Kept.relate {id : String} {entry : KnowledgeEntry Value} (kept : entry.Kept env used id)
    {other : String} (inUse : other ∈ used) : (entry.relate other).Kept env used id := by
  unfold KnowledgeEntry.relate
  split
  · exact kept
  next unlisted =>
    refine { kept with distinct := ?_, known := ?_ }
    · apply List.nodup_append.mpr
      refine ⟨kept.distinct, List.nodup_singleton other, ?_⟩
      intro first member last single same
      rw [List.mem_singleton.mp single] at same
      rw [same] at member
      exact unlisted member
    · intro third member
      rcases List.mem_append.mp member with early | single
      · exact kept.known third early
      · rw [List.mem_singleton.mp single]
        exact inUse

end KnowledgeEntry

namespace KnowledgeInput

/-- The id that the operation gives to a new entry. -/
def added : KnowledgeInput Value → List String
  | .add id _ _ => [id]
  | _ => []

/-- Contents that JSON gives back as they are, and confidences between zero and
one. -/
def Proper (env : MemoryEnv Value) : KnowledgeInput Value → Prop
  | .add _ _ details =>
    env.StableDict details.content ∧ 0 ≤ details.confidence ∧ details.confidence ≤ 1
  | .update _ _ changes =>
    (∀ content, changes.content = some content → env.StableDict content) ∧
      ∀ confidence, changes.confidence = some confidence → 0 ≤ confidence ∧ confidence ≤ 1
  | _ => True

end KnowledgeInput

namespace KnowledgeBase

variable {env : MemoryEnv Value} {used : List String} {base : KnowledgeBase Value}

theorem Kept.widen (kept : base.Kept env used) (more : List String) :
    base.Kept env (used ++ more) where
  domains := kept.domains
  tags := kept.tags
  symmetric := kept.symmetric
  each id entry stored := (kept.each id entry stored).widen more

theorem Kept.unused (kept : base.Kept env used) {id : String} (fresh : id ∉ used) :
    base.entries.get? id = none := by
  cases found : base.entries.get? id with
  | none => rfl
  | some entry => exact absurd (kept.each id entry found).inUse fresh

theorem Kept.place (kept : base.Kept env used) {entry : KnowledgeEntry Value}
    (fresh : entry.id ∉ used) (alone : entry.relationships = [])
    (fits : entry.Kept env (used ++ [entry.id]) entry.id) :
    (indexEntry entry { base with entries := base.entries.set entry.id entry }).Kept env
      (used ++ [entry.id]) := by
  have absent := kept.unused fresh
  refine { domains := ?_, tags := ?_, symmetric := ?_, each := ?_ }
  · apply kept.domains.replace entry.id entry []
    intro old found
    rw [absent] at found
    cases found
  · apply kept.tags.replace entry.id entry []
    intro old found
    rw [absent] at found
    cases found
  · apply kept.symmetric.enter alone
    intro other stored found listed
    exact fresh ((kept.each other stored found).known entry.id listed)
  · apply OrderedDict.forall_set fits
    intro id stored found
    exact (kept.each id stored found).widen _

theorem Kept.add_knowledge (kept : base.Kept env used) {id : String} (fresh : id ∉ used)
    (now : Time) {details : KnowledgeDetails Value} (content : env.StableDict details.content)
    (low : 0 ≤ details.confidence) (high : details.confidence ≤ 1) :
    (base.addKnowledge env id now details).1.Kept env (used ++ [id]) ∧
      (base.addKnowledge env id now details).1.Filed := by
  have valid : (details.entry id now).validates = true := by
    rw [KnowledgeEntry.validates, Bool.and_eq_true]
    exact ⟨decide_eq_true low, decide_eq_true high⟩
  have fits : (details.entry id now).Kept env (used ++ [id]) id :=
    { named := rfl
      valid := valid
      content := content
      metadata := env.stable_dict_empty
      distinct := List.nodup_nil
      known := fun other member => by cases member
      inUse := List.mem_append_right _ (List.mem_singleton_self id) }
  have placed := @Kept.place _ env used base kept (details.entry id now) fresh rfl fits
  rw [addKnowledge, if_pos valid]
  exact placed.save (details.entry id now)

theorem Kept.assigned (kept : base.Kept env used) {id : String} {entry : KnowledgeEntry Value}
    (found : base.entries.get? id = some entry) {changes : KnowledgeChanges Value} (now : Time)
    (contents : ∀ content, changes.content = some content → env.StableDict content)
    (bounds : ∀ confidence, changes.confidence = some confidence →
      0 ≤ confidence ∧ confidence ≤ 1) :
    (entry.assigned changes now).Kept env used id := by
  have before := kept.each id entry found
  refine { before with valid := ?_, content := ?_ }
  · cases given : changes.confidence with
    | none =>
      have same : (entry.assigned changes now).validates = entry.validates := by
        simp only [KnowledgeEntry.validates, KnowledgeEntry.assigned, given, Option.getD_none]
      rw [same]
      exact before.valid
    | some confidence =>
      obtain ⟨low, high⟩ := bounds confidence given
      simp only [KnowledgeEntry.validates, KnowledgeEntry.assigned, given, Option.getD_some,
        low, high, decide_true, Bool.and_self]
  · change env.StableDict (changes.content.getD entry.content)
    cases given : changes.content with
    | none => exact before.content
    | some content => exact contents content given

theorem Kept.update (kept : base.Kept env used) (filed : base.Filed) (id : String) (now : Time)
    {changes : KnowledgeChanges Value}
    (contents : ∀ content, changes.content = some content → env.StableDict content)
    (bounds : ∀ confidence, changes.confidence = some confidence →
      0 ≤ confidence ∧ confidence ≤ 1) :
    (base.update env id now changes).1.Kept env used ∧
      (base.update env id now changes).1.Filed := by
  rw [KnowledgeBase.update]
  cases found : base.entries.get? id with
  | none => exact ⟨kept, filed⟩
  | some entry =>
    have fits := kept.assigned found now contents bounds
    apply Kept.save
    refine { domains := ?_, tags := ?_, symmetric := ?_, each := ?_ }
    · exact kept.domains.replace_same found rfl
    · cases given : changes.tags with
      | none =>
        apply kept.tags.replace_same found
        rw [KnowledgeEntry.assigned, given]
        rfl
      | some tags =>
        have same : tags = (entry.assigned changes now).tags := by
          rw [KnowledgeEntry.assigned, given]
          rfl
        dsimp only
        rw [same]
        apply kept.tags.replace id _ entry.tags
        intro old stored tag had
        rw [found] at stored
        cases stored
        exact Or.inl had
    · exact kept.symmetric.replace found rfl
    · exact OrderedDict.forall_set fits kept.each

theorem Kept.delete (kept : base.Kept env used) (filed : base.Filed) (id : String) :
    (base.delete env id).1.Kept env used ∧ (base.delete env id).1.Filed := by
  rw [KnowledgeBase.delete]
  cases found : base.entries.get? id with
  | none => exact ⟨kept, filed⟩
  | some entry =>
    apply Kept.save
    refine { domains := ?_, tags := ?_, symmetric := kept.symmetric.erase id, each := ?_ }
    · apply kept.domains.erase id [entry.domain]
      intro old stored domain had
      rw [found] at stored
      cases stored
      exact had
    · apply kept.tags.erase id entry.tags
      intro old stored tag had
      rw [found] at stored
      cases stored
      exact had
    · exact OrderedDict.forall_erase id kept.each

theorem each_related {entries : OrderedDict String (KnowledgeEntry Value)}
    (each : ∀ id entry, entries.get? id = some entry → entry.Kept env used id)
    {source target : String} (inUse : target ∈ used) :
    ∀ id entry, (entries.modify source (KnowledgeEntry.relate target)).get? id = some entry →
      entry.Kept env used id := by
  apply OrderedDict.forall_modify
  · intro old found
    exact (each source old found).relate inUse
  · exact each

theorem relate_same_keys (id : String) (entry : KnowledgeEntry Value) :
    (entry.relate id).domains = entry.domains ∧ (entry.relate id).tags = entry.tags := by
  unfold KnowledgeEntry.relate
  split
  · exact ⟨rfl, rfl⟩
  · exact ⟨rfl, rfl⟩

theorem Kept.add_relationship (kept : base.Kept env used) (filed : base.Filed)
    (sourceId targetId : String) :
    (base.addRelationship env sourceId targetId).1.Kept env used ∧
      (base.addRelationship env sourceId targetId).1.Filed := by
  rw [addRelationship]
  cases sourceFound : base.entries.get? sourceId with
  | none => exact ⟨kept, filed⟩
  | some source =>
    cases targetFound : base.entries.get? targetId with
    | none => exact ⟨kept, filed⟩
    | some target =>
      apply Kept.save
      refine { domains := ?_, tags := ?_, symmetric := ?_, each := ?_ }
      · apply (kept.domains.modify sourceId _ ?_).modify targetId _ ?_
        · exact fun entry _ => (relate_same_keys targetId entry).1
        · exact fun entry _ => (relate_same_keys sourceId entry).1
      · apply (kept.tags.modify sourceId _ ?_).modify targetId _ ?_
        · exact fun entry _ => (relate_same_keys targetId entry).2
        · exact fun entry _ => (relate_same_keys sourceId entry).2
      · exact kept.symmetric.linked KnowledgeEntry.mem_relate sourceId targetId
      · apply each_related
        · exact each_related kept.each (kept.each targetId target targetFound).inUse
        · exact (kept.each sourceId source sourceFound).inUse

theorem clear_kept (env : MemoryEnv Value) (used : List String) (base : KnowledgeBase Value) :
    base.clear.Kept env used ∧ base.clear.Filed := by
  constructor
  · refine ⟨SecondaryIndex.exact_empty, SecondaryIndex.exact_empty, Mutual.empty, ?_⟩
    intro id entry stored
    cases stored
  · unfold Filed clear
    cases base.storage with
    | none => trivial
    | some _ => rfl

/-! ## Runs -/

theorem Kept.step (kept : base.Kept env used) (filed : base.Filed) {input : KnowledgeInput Value}
    (fresh : ∀ id ∈ input.added, id ∉ used) (proper : input.Proper env) :
    (base.step env input).Kept env (used ++ input.added) ∧ (base.step env input).Filed := by
  cases input with
  | add id now details =>
    exact kept.add_knowledge (fresh id (List.mem_singleton_self id)) now proper.1
      proper.2.1 proper.2.2
  | update id now changes =>
    have after := kept.update filed id now proper.1 proper.2
    exact ⟨after.1.widen [], after.2⟩
  | delete id =>
    have after := kept.delete filed id
    exact ⟨after.1.widen [], after.2⟩
  | addRelationship sourceId targetId =>
    have after := kept.add_relationship filed sourceId targetId
    exact ⟨after.1.widen [], after.2⟩
  | clear => exact clear_kept env _ base
  | reload =>
    have after := kept.reload filed
    exact ⟨after.1.widen [], after.2⟩

theorem Kept.run (kept : base.Kept env used) (filed : base.Filed)
    {inputs : List (KnowledgeInput Value)}
    (fresh : (used ++ inputs.flatMap KnowledgeInput.added).Nodup)
    (proper : ∀ input ∈ inputs, input.Proper env) :
    (runInputs (KnowledgeBase.step env) base inputs).Kept env
        (used ++ inputs.flatMap KnowledgeInput.added) ∧
      (runInputs (KnowledgeBase.step env) base inputs).Filed := by
  induction inputs generalizing base used with
  | nil =>
    rw [List.flatMap_nil, List.append_nil]
    exact ⟨kept, filed⟩
  | cons input rest ih =>
    rw [List.flatMap_cons, ← List.append_assoc] at fresh ⊢
    have unused : ∀ id ∈ input.added, id ∉ used := by
      intro id member early
      exact (List.nodup_append.mp (List.nodup_append.mp fresh).1).2.2 id early id member rfl
    obtain ⟨nextKept, nextFiled⟩ := kept.step filed unused (proper input List.mem_cons_self)
    exact ih nextKept nextFiled fresh fun other member =>
      proper other (List.mem_cons_of_mem _ member)

theorem load_entries_storage (items : List (String × KnowledgeEntry Value))
    (start : KnowledgeBase Value) : (loadEntries items start).storage = start.storage := by
  induction items generalizing start with
  | nil => rfl
  | cons item rest ih =>
    rw [loadEntries]
    split
    · rw [ih]
      rfl
    · rfl

theorem open_base_storage (storage : Option (Option (KnowledgeFile Value))) :
    (openBase storage).storage = storage := by
  rw [openBase, load]
  split
  · exact load_entries_storage _ _
  · rfl

theorem save_path {Result : Type} (result : Result) (base : KnowledgeBase Value) :
    (base.saveAndReturn env result).1.storage.isSome = base.storage.isSome := by
  rw [saveAndReturn, KnowledgeBase.save]
  cases path : base.storage with
  | none => exact congrArg Option.isSome path
  | some _ =>
    cases dumpEntries env base.entries with
    | none => exact congrArg Option.isSome path
    | some _ => rfl

theorem step_path (base : KnowledgeBase Value) (input : KnowledgeInput Value) :
    (base.step env input).storage.isSome = base.storage.isSome := by
  cases input with
  | add id now details =>
    change (base.addKnowledge env id now details).1.storage.isSome = _
    rw [addKnowledge]
    split
    · exact save_path _ _
    · rfl
  | update id now changes =>
    change (base.update env id now changes).1.storage.isSome = _
    rw [KnowledgeBase.update]
    split
    · rfl
    · exact save_path _ _
  | delete id =>
    change (base.delete env id).1.storage.isSome = _
    rw [KnowledgeBase.delete]
    split
    · rfl
    · exact save_path _ _
  | addRelationship sourceId targetId =>
    change (base.addRelationship env sourceId targetId).1.storage.isSome = _
    rw [addRelationship]
    split
    · exact save_path _ _
    · rfl
  | clear => exact Option.isSome_map
  | reload => exact congrArg Option.isSome (open_base_storage base.storage)

theorem run_path (base : KnowledgeBase Value) (inputs : List (KnowledgeInput Value)) :
    (runInputs (KnowledgeBase.step env) base inputs).storage.isSome = base.storage.isSome := by
  induction inputs generalizing base with
  | nil => rfl
  | cons input rest ih => rw [run_inputs_cons, ih, step_path]

theorem open_kept (env : MemoryEnv Value) {storage : Option (Option (KnowledgeFile Value))}
    (unsaved : storage.join = none) :
    (openBase storage).Kept env [] ∧ (openBase storage).Filed := by
  rcases storage with _ | _ | file
  · exact clear_kept env [] (openBase none)
  · exact clear_kept env [] (openBase (some none))
  · cases unsaved

/-- Along every run the indices are exact, relationships symmetric and without
duplicates, and a new knowledge base on the same path has the same entries and
the buckets that are not empty. -/
theorem knowledge_base_sound (env : MemoryEnv Value)
    (storage : Option (Option (KnowledgeFile Value))) (unsaved : storage.join = none)
    (inputs : List (KnowledgeInput Value))
    (fresh : (inputs.flatMap KnowledgeInput.added).Nodup)
    (proper : ∀ input ∈ inputs, input.Proper env) :
    (runInputs (KnowledgeBase.step env) (openBase storage) inputs).Sound ∧ (storage.isSome = true →
        (runInputs (KnowledgeBase.step env) (openBase storage) inputs).ReopensAs
          (openBase (runInputs (KnowledgeBase.step env) (openBase storage) inputs).storage)) := by
  obtain ⟨kept, filed⟩ := open_kept env unsaved
  obtain ⟨runKept, runFiled⟩ := kept.run filed fresh proper
  refine ⟨runKept.sound, ?_⟩
  intro onPath
  apply runKept.reopens_as runFiled
  rw [run_path, open_base_storage]
  exact onPath

/-- A note with a tag, related to itself, and its removal. -/
def removedNote : List (KnowledgeInput PyValue) :=
  [.add "know_1" 0
      { title := "Note"
        content := OrderedDict.empty.set "text" (.str "draft")
        tags := some ["law", "law"] },
    .addRelationship "know_1" "know_1",
    .delete "know_1"]

theorem removed_note_proper : (removedNote.flatMap KnowledgeInput.added).Nodup ∧
    ∀ input ∈ removedNote, input.Proper textEnv := by
  refine ⟨List.nodup_singleton "know_1", ?_⟩
  intro input member
  simp only [removedNote, List.mem_cons, List.not_mem_nil, or_false] at member
  rcases member with rfl | rfl | rfl
  · exact ⟨fun _ _ => rfl, by decide +kernel, by decide +kernel⟩
  · trivial
  · trivial

theorem removed_note_sound :
    (runInputs (KnowledgeBase.step textEnv) (openBase (some none)) removedNote).Sound ∧
      (runInputs (KnowledgeBase.step textEnv) (openBase (some none)) removedNote).ReopensAs
        (openBase (runInputs (KnowledgeBase.step textEnv) (openBase (some none))
          removedNote).storage) := by
  have sound := knowledge_base_sound textEnv (some none) rfl removedNote
    removed_note_proper.1 removed_note_proper.2
  exact ⟨sound.1, sound.2 rfl⟩

/-- The tag of a deleted note stays in the index, with an empty bucket, and is
not in that of a new knowledge base. -/
theorem emptied_bucket_not_reloaded : (removedNote.flatMap KnowledgeInput.added).Nodup ∧
      (∀ input ∈ removedNote, input.Proper textEnv) ∧
        (runInputs (KnowledgeBase.step textEnv) (openBase (some none))
          removedNote).tagIndex.buckets.keys = ["law"] ∧
        (openBase (runInputs (KnowledgeBase.step textEnv) (openBase (some none))
          removedNote).storage).tagIndex.buckets.keys = [] :=
  ⟨removed_note_proper.1, removed_note_proper.2, by decide +kernel, by decide +kernel⟩

end KnowledgeBase

end AiEnterpriseOs.Memory
