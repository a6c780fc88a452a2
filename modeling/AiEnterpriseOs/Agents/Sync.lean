import AiEnterpriseOs.Agents.SlugMap
import AiEnterpriseOs.Library.OptionFold

/-!
# Contexts of the agent files

The personas of a registry, in its order, and what their files are rendered from. The
entries of executives and specialists are looked up by their names again.
-/

namespace AiEnterpriseOs.Agents

open Library

/-- The fields of the agent configuration that a file shows. -/
structure ExecutiveAgentConfig where
  instructions : String
  tools : List String
  temperature : Rat
  deriving DecidableEq

structure ExecutiveEntry where
  name : Option String
  title : Option String
  bio : String
  responsibilities : List String
  kpis : List String
  agentConfig : ExecutiveAgentConfig

structure SpecialistEntry where
  name : Option String
  expertise : Option String
  department : Option String
  bio : Option String
  deriving DecidableEq

structure BoardEntry where
  name : Option String
  role : Option String

structure CompanyRegistry where
  visionName : String
  companyName : Option String
  executives : List ExecutiveEntry
  specialists : List SpecialistEntry
  board : List BoardEntry

inductive PersonaKind where
  | executive
  | specialist
  | board
  deriving DecidableEq

structure PersonaSource where
  name : String
  title : String
  role : String
  kind : PersonaKind

structure AgentRenderContext where
  slug : String
  name : String
  title : String
  trigger : String
  temperature : Rat
  instructions : String
  kind : PersonaKind
  bio : String
  responsibilities : List String
  kpis : List String
  tools : List String

/-- `text or fallback`. -/
def textOr (text : Option String) (fallback : String) : String :=
  match text with
  | some text => if text = "" then fallback else text
  | none => fallback

/-- The entries with a name, by their names. -/
def named {Entry : Type} (name : Entry → Option String) (entries : List Entry) :
    List (String × Entry) :=
  entries.filterMap fun entry =>
    match name entry with
    | some text => if text = "" then none else some (text, entry)
    | none => none

def executiveTriggers : List (String × String) :=
  [("ceo", "Invoke for company-wide vision, strategy, and executive leadership."),
    ("cto", "Invoke for technical architecture, engineering, and platform decisions."),
    ("cfo", "Invoke for financial planning, budgeting, and fiscal strategy."),
    ("coo", "Invoke for operational execution, process optimization, and scaling."),
    ("cmo", "Invoke for brand, marketing, and go-to-market strategy."),
    ("caio", "Invoke for AI research, model strategy, and responsible AI decisions."),
    ("chro", "Invoke for talent, culture, and people operations."),
    ("clo", "Invoke for legal, compliance, and governance matters."),
    ("ciso", "Invoke for security strategy, risk, and incident response."),
    ("cio", "Invoke for enterprise IT strategy and internal technology."),
    ("cdo", "Invoke for data strategy, pipelines, and analytics."),
    ("cso", "Invoke for corporate strategy, market analysis, and M&A."),
    ("chief-of-staff", "Invoke for executive office operations and cross-functional coordination.")]

def buildTrigger (kind : PersonaKind) (slug title : String) : String :=
  match kind with
  | .executive =>
    (executiveTriggers.lookup slug).getD ("Invoke for " ++ title ++ " domain decisions.")
  | .specialist => "Invoke for expert guidance on " ++ title ++ "."
  | .board => "Invoke for board-level oversight and governance as " ++ title ++ "."

def defaultPersonaTemperature : Rat := 1 / 5

namespace CompanyRegistry

variable (text : PyText) (reg : CompanyRegistry)

def namedExecutives : List (String × ExecutiveEntry) := named ExecutiveEntry.name reg.executives

def namedSpecialists : List (String × SpecialistEntry) :=
  named SpecialistEntry.name reg.specialists

def namedBoard : List (String × BoardEntry) := named BoardEntry.name reg.board

def executiveSource (person : String × ExecutiveEntry) : PersonaSource :=
  { name := person.1
    title := textOr person.2.title "Executive"
    role := "executive"
    kind := .executive }

def specialistSource (person : String × SpecialistEntry) : PersonaSource :=
  { name := person.1
    title := textOr person.2.expertise "Specialist"
    role := textOr person.2.department "specialist"
    kind := .specialist }

def boardSource (person : String × BoardEntry) : PersonaSource :=
  { name := person.1
    title := textOr person.2.role "Director"
    role := "board"
    kind := .board }

def personaSources : List PersonaSource :=
  reg.namedExecutives.map executiveSource ++ reg.namedSpecialists.map specialistSource ++
    reg.namedBoard.map boardSource

def slugIndex : AgentSlugIndex :=
  { items := reg.personaSources.map fun source =>
      { name := source.name, title := source.title, role := source.role }
    reservedSlugs := builtinAgentSlugs }

/-- `_executive_context` with the entry that is found. -/
def executiveContext (entry : ExecutiveEntry) (source : PersonaSource) (slug : String) :
    AgentRenderContext :=
  { slug := slug
    name := source.name
    title := source.title
    trigger := buildTrigger .executive slug source.title
    temperature := entry.agentConfig.temperature
    instructions := entry.agentConfig.instructions
    kind := .executive
    bio := entry.bio
    responsibilities := entry.responsibilities
    kpis := entry.kpis
    tools := entry.agentConfig.tools }

/-- `_specialist_context` with the entry that is found. -/
def specialistContext (entry : SpecialistEntry) (source : PersonaSource) (slug : String) :
    AgentRenderContext :=
  { slug := slug
    name := source.name
    title := source.title
    trigger := buildTrigger .specialist slug source.title
    temperature := defaultPersonaTemperature
    instructions := "As the company's " ++ source.title ++ " specialist, provide expert, " ++
      "actionable guidance on " ++ source.title ++ " across the organization."
    kind := .specialist
    bio := textOr entry.bio ""
    responsibilities := []
    kpis := []
    tools := [] }

def boardContext (source : PersonaSource) (slug : String) : AgentRenderContext :=
  { slug := slug
    name := source.name
    title := source.title
    trigger := buildTrigger .board slug source.title
    temperature := defaultPersonaTemperature
    instructions := "Provide independent board-level oversight and governance as " ++
      source.title ++ ", advising the executive team and representing shareholder interests."
    kind := .board
    bio := ""
    responsibilities := []
    kpis := []
    tools := [] }

/-- `exec_by_name`; the later entry of a name replaces the earlier. -/
def execByName : OrderedDict String ExecutiveEntry := OrderedDict.empty.setAll reg.namedExecutives

def specByName : OrderedDict String SpecialistEntry :=
  OrderedDict.empty.setAll reg.namedSpecialists

/-- The round of `_render_contexts` for a persona; `none` where it raises. -/
def renderContext (source : PersonaSource) (slug : String) : Option AgentRenderContext :=
  match source.kind with
  | .executive =>
    (reg.execByName.get? source.name).map fun entry => executiveContext entry source slug
  | .specialist =>
    (reg.specByName.get? source.name).map fun entry => specialistContext entry source slug
  | .board => some (boardContext source slug)

/-- `_render_contexts`; `none` where it raises. -/
def renderContexts : Option (List AgentRenderContext) :=
  if (reg.slugIndex.collisions text).isEmpty then
    (reg.personaSources.zip (reg.slugIndex.resolvedSlugs text)).mapM fun persona =>
      reg.renderContext persona.1 persona.2
  else none

/-- The contexts that the personas' own entries give, with the slugs that they have. -/
def ownContexts (slugs : List String) : List AgentRenderContext :=
  let own : List (String → AgentRenderContext) :=
    reg.namedExecutives.map (fun person => executiveContext person.2 (executiveSource person)) ++
      reg.namedSpecialists.map
        (fun person => specialistContext person.2 (specialistSource person)) ++
      reg.namedBoard.map fun person => boardContext (boardSource person)
  own.zipWith (fun context slug => context slug) slugs

/-- The last executive of a name has what the files of all of that name show. -/
def ExecutivesAgree : Prop :=
  ∀ person ∈ reg.namedExecutives, ∀ last,
    (reg.namedExecutives.reverse.find? fun other => other.1 = person.1) = some last →
      last.2.bio = person.2.bio ∧ last.2.responsibilities = person.2.responsibilities ∧
        last.2.kpis = person.2.kpis ∧ last.2.agentConfig = person.2.agentConfig

def SpecialistsAgree : Prop :=
  ∀ person ∈ reg.namedSpecialists, ∀ last,
    (reg.namedSpecialists.reverse.find? fun other => other.1 = person.1) = some last →
      textOr last.2.bio "" = textOr person.2.bio ""

/-- Every persona's file is rendered from its own entry. -/
def OwnEntries : Prop :=
  ∀ contexts, reg.renderContexts text = some contexts →
    contexts = reg.ownContexts (reg.slugIndex.resolvedSlugs text)

inductive Persona where
  | executive (person : String × ExecutiveEntry)
  | specialist (person : String × SpecialistEntry)
  | board (person : String × BoardEntry)

namespace Persona

def source : Persona → PersonaSource
  | executive person => executiveSource person
  | specialist person => specialistSource person
  | board person => boardSource person

def ownContext : Persona → String → AgentRenderContext
  | executive person => executiveContext person.2 (executiveSource person)
  | specialist person => specialistContext person.2 (specialistSource person)
  | board person => boardContext (boardSource person)

end Persona

def personas : List Persona :=
  reg.namedExecutives.map .executive ++ reg.namedSpecialists.map .specialist ++
    reg.namedBoard.map .board

/-- The entry that is found under the name of the persona shows what its own entry does. -/
def Agrees : Persona → Prop
  | .executive person => ∀ last,
      (reg.namedExecutives.reverse.find? fun other => other.1 = person.1) = some last →
        last.2.bio = person.2.bio ∧ last.2.responsibilities = person.2.responsibilities ∧
          last.2.kpis = person.2.kpis ∧ last.2.agentConfig = person.2.agentConfig
  | .specialist person => ∀ last,
      (reg.namedSpecialists.reverse.find? fun other => other.1 = person.1) = some last →
        textOr last.2.bio "" = textOr person.2.bio ""
  | .board _ => True

variable {text reg}

theorem persona_sources_eq : reg.personaSources = reg.personas.map Persona.source := by
  simp only [personaSources, personas, List.map_append, List.map_map]
  rfl

theorem own_contexts_eq (slugs : List String) : reg.ownContexts slugs =
      (reg.personas.zip slugs).map fun persona => persona.1.ownContext persona.2 := by
  have own : (reg.namedExecutives.map (fun person =>
          executiveContext person.2 (executiveSource person)) ++
        reg.namedSpecialists.map
          (fun person => specialistContext person.2 (specialistSource person)) ++
        reg.namedBoard.map fun person => boardContext (boardSource person)) =
      reg.personas.map Persona.ownContext := by
    simp only [personas, List.map_append, List.map_map]
    rfl
  rw [ownContexts, own, List.zipWith_map_left, List.zip, List.map_zipWith]

theorem exists_zip_mem {First Second : Type} {firsts : List First} {seconds : List Second}
    (enough : firsts.length ≤ seconds.length) {first : First} (member : first ∈ firsts) :
    ∃ second, (first, second) ∈ firsts.zip seconds := by
  rw [← List.map_fst_zip enough] at member
  obtain ⟨pair, listed, same⟩ := List.mem_map.mp member
  exact ⟨pair.2, by rw [← same]; exact listed⟩

theorem found_last {Entry : Type} {people : List (String × Entry)} {person : String × Entry}
    (member : person ∈ people) :
    ∃ last, (people.reverse.find? fun other => other.1 = person.1) = some last ∧
      ((OrderedDict.empty : OrderedDict String Entry).setAll people).get? person.1 =
        some last.2 := by
  have there : ((people.reverse.find? fun other => other.1 = person.1)).isSome = true := by
    rw [List.find?_isSome]
    exact ⟨person, List.mem_reverse.mpr member, decide_eq_true rfl⟩
  obtain ⟨last, found⟩ := Option.isSome_iff_exists.mp there
  exact ⟨last, found, by rw [OrderedDict.get_setAll_find, found]; rfl⟩

theorem executive_context_eq_iff (found own : ExecutiveEntry) (source : PersonaSource)
    (slug : String) :
    executiveContext found source slug = executiveContext own source slug ↔
      found.bio = own.bio ∧ found.responsibilities = own.responsibilities ∧
        found.kpis = own.kpis ∧ found.agentConfig = own.agentConfig := by
  have config : found.agentConfig = own.agentConfig ↔
      found.agentConfig.instructions = own.agentConfig.instructions ∧
        found.agentConfig.tools = own.agentConfig.tools ∧
        found.agentConfig.temperature = own.agentConfig.temperature := by
    cases found.agentConfig
    cases own.agentConfig
    simp
  rw [config, executiveContext, executiveContext, AgentRenderContext.mk.injEq]
  tauto

theorem specialist_context_eq_iff (found own : SpecialistEntry) (source : PersonaSource)
    (slug : String) :
    specialistContext found source slug = specialistContext own source slug ↔
      textOr found.bio "" = textOr own.bio "" := by
  simp [specialistContext]

theorem render_context_found {persona : Persona} (member : persona ∈ reg.personas) (slug : String) :
    (reg.renderContext persona.source slug).isSome = true ∧
      (reg.renderContext persona.source slug = some (persona.ownContext slug) ↔
        reg.Agrees persona) := by
  simp only [personas, List.mem_append, List.mem_map] at member
  rcases member with (⟨person, listed, same⟩ | ⟨person, listed, same⟩) | ⟨person, _, same⟩
  · rw [← same]
    obtain ⟨last, found, entry⟩ := found_last listed
    have looked : reg.renderContext (Persona.executive person).source slug =
        some (executiveContext last.2 (executiveSource person) slug) := by
      simp only [renderContext, Persona.source, executiveSource, execByName, entry]
      rfl
    rw [looked, Agrees, found]
    refine ⟨rfl, ?_⟩
    rw [Option.some.injEq, Persona.ownContext, executive_context_eq_iff]
    exact ⟨fun agree last same => Option.some.inj same ▸ agree, fun agree => agree last rfl⟩
  · rw [← same]
    obtain ⟨last, found, entry⟩ := found_last listed
    have looked : reg.renderContext (Persona.specialist person).source slug =
        some (specialistContext last.2 (specialistSource person) slug) := by
      simp only [renderContext, Persona.source, specialistSource, specByName, entry]
      rfl
    rw [looked, Agrees, found]
    refine ⟨rfl, ?_⟩
    rw [Option.some.injEq, Persona.ownContext, specialist_context_eq_iff]
    exact ⟨fun agree last same => Option.some.inj same ▸ agree, fun agree => agree last rfl⟩
  · rw [← same]
    exact ⟨rfl, iff_of_true rfl trivial⟩

theorem agrees_iff : (∀ persona ∈ reg.personas, reg.Agrees persona) ↔
      reg.ExecutivesAgree ∧ reg.SpecialistsAgree := by
  simp only [personas, List.forall_mem_append, List.forall_mem_map, Agrees, ExecutivesAgree,
    SpecialistsAgree]
  simp

theorem own_entries_iff (clear : reg.slugIndex.collisions text = []) :
    reg.OwnEntries text ↔ reg.ExecutivesAgree ∧ reg.SpecialistsAgree := by
  have accepted : (reg.slugIndex.collisions text).isEmpty = true := by
    rw [clear]
    rfl
  have pairs : (reg.personaSources.zip (reg.slugIndex.resolvedSlugs text)) =
      (reg.personas.zip (reg.slugIndex.resolvedSlugs text)).map
        fun persona => (persona.1.source, persona.2) := by
    rw [persona_sources_eq, List.zip_map_left]
    rfl
  have rounds : reg.renderContexts text =
      (reg.personas.zip (reg.slugIndex.resolvedSlugs text)).mapM fun persona =>
        reg.renderContext persona.1.source persona.2 := by
    rw [renderContexts, if_pos accepted, pairs, List.mapM_map]
    rfl
  have count : reg.personas.length ≤ (reg.slugIndex.resolvedSlugs text).length := by
    rw [AgentSlugIndex.resolved_slugs_length, slugIndex, List.length_map, persona_sources_eq,
      List.length_map]
  rw [← agrees_iff]
  constructor
  · intro own persona member
    have all : ((reg.personas.zip (reg.slugIndex.resolvedSlugs text)).mapM fun persona =>
        reg.renderContext persona.1.source persona.2).isSome = true := by
      rw [mapM_is_some_iff]
      intro pair listed
      exact (render_context_found (List.of_mem_zip listed).1 pair.2).1
    obtain ⟨contexts, rendered⟩ := Option.isSome_iff_exists.mp all
    have same := own contexts (rounds.trans rendered)
    rw [own_contexts_eq] at same
    have agree := mapM_agree_iff.mp ⟨contexts, rendered,
      (mapM_eq_map fun pair _ => rfl).trans (congrArg some same.symm)⟩
    obtain ⟨slug, listed⟩ := exists_zip_mem count member
    obtain ⟨context, left, right⟩ := agree (persona, slug) listed
    exact (render_context_found member slug).2.mp (left.trans right.symm)
  · intro agree contexts rendered
    rw [rounds, mapM_eq_map fun pair listed =>
      (render_context_found (List.of_mem_zip listed).1 pair.2).2.mpr
        (agree pair.1 (List.of_mem_zip listed).1)] at rendered
    rw [own_contexts_eq]
    exact (Option.some.inj rendered).symm

/-- Accepted personas get files of their own, with their own contents, exactly if no persona's
base slug is one that an earlier persona of its name has been given, and the entries of one
name agree on what the files show. -/
theorem one_file_per_persona_iff (text : PyText) (index : AgentSlugIndex) (reg : CompanyRegistry) :
    ((index.collisions text = [] → index.Distinct text) ↔
        (index.collisions text = [] → index.Separates text)) ∧
      (reg.OwnEntries text ↔ (reg.slugIndex.collisions text = [] →
          reg.ExecutivesAgree ∧ reg.SpecialistsAgree)) := by
  constructor
  · exact forall_congr' fun clear => AgentSlugIndex.distinct_iff clear
  · by_cases clear : reg.slugIndex.collisions text = []
    · rw [own_entries_iff clear]
      exact ⟨fun agree _ => agree, fun agree => agree clear⟩
    · refine iff_of_true ?_ fun equal => absurd equal clear
      intro contexts rendered
      rw [renderContexts, if_neg fun empty => clear (List.isEmpty_iff.mp empty)] at rendered
      cases rendered

/-- Two directors, of whom the second has another entry under the slug that he is given. -/
def directors : CompanyRegistry :=
  { visionName := "Acme"
    companyName := none
    executives := []
    specialists :=
      [{ name := some "Ann", expertise := some "Director", department := none, bio := none },
        { name := some "Bo", expertise := some "Director", department := none
          bio := some "Joined first." },
        { name := some "Bo", expertise := some "Director Bo", department := none
          bio := some "Joined last." }]
    board := [] }

theorem directors_assigned : directors.slugIndex.assign .ascii =
      { taken := (OrderedDict.empty.set "director" "Ann").set "director-bo" "Bo"
        pairs :=
          [(⟨"Ann", "Director", "specialist"⟩, "director"),
            (⟨"Bo", "Director", "specialist"⟩, "director-bo"),
            (⟨"Bo", "Director Bo", "specialist"⟩, "director-bo")] } := by
  have items : directors.slugIndex.items =
      [⟨"Ann", "Director", "specialist"⟩, ⟨"Bo", "Director", "specialist"⟩,
        ⟨"Bo", "Director Bo", "specialist"⟩] := by decide +kernel
  have first : AgentSlugIndex.assignStep .ascii directors.slugIndex Assignment.start
      ⟨"Ann", "Director", "specialist"⟩ =
        { taken := OrderedDict.empty.set "director" "Ann"
          pairs := [(⟨"Ann", "Director", "specialist"⟩, "director")] } := by decide +kernel
  have second : AgentSlugIndex.assignStep .ascii directors.slugIndex
      { taken := OrderedDict.empty.set "director" "Ann"
        pairs := [(⟨"Ann", "Director", "specialist"⟩, "director")] }
      ⟨"Bo", "Director", "specialist"⟩ =
        { taken := (OrderedDict.empty.set "director" "Ann").set "director-bo" "Bo"
          pairs :=
            [(⟨"Ann", "Director", "specialist"⟩, "director"),
              (⟨"Bo", "Director", "specialist"⟩, "director-bo")] } := by decide +kernel
  rw [AgentSlugIndex.assign, items, run_inputs_cons, first, run_inputs_cons, second,
    run_inputs_cons, run_inputs_nil]
  decide +kernel

theorem directors_clear : directors.slugIndex.collisions .ascii = [] := by
  rw [AgentSlugIndex.collisions_nil_iff, directors_assigned]
  constructor
  · decide +kernel
  · decide +kernel

theorem directors_slugs : directors.slugIndex.resolvedSlugs .ascii =
    ["director", "director-bo", "director-bo"] := by
  rw [AgentSlugIndex.resolvedSlugs, directors_assigned]
  rfl

/-- No collision is reported; two personas share a slug, and one file has the bio of another
entry. -/
theorem directors_share_a_file : directors.slugIndex.collisions .ascii = [] ∧
      directors.slugIndex.resolvedSlugs .ascii = ["director", "director-bo", "director-bo"] ∧
      ¬directors.slugIndex.Distinct .ascii ∧ ¬directors.OwnEntries .ascii := by
  refine ⟨directors_clear, directors_slugs, ?_, ?_⟩
  · intro distinct
    have apart := distinct.2
    rw [directors_slugs] at apart
    exact absurd apart (by decide +kernel)
  · intro own
    have agree := ((own_entries_iff directors_clear).mp own).2
    have last := agree
      ("Bo", ⟨some "Bo", some "Director", none, some "Joined first."⟩) (by decide +kernel)
      ("Bo", ⟨some "Bo", some "Director Bo", none, some "Joined last."⟩) (by decide +kernel)
    exact absurd last (by decide +kernel)

end CompanyRegistry

end AiEnterpriseOs.Agents
