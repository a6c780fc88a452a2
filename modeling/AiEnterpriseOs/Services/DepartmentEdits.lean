import AiEnterpriseOs.Library.TextSearch

/-!
# Department edits

Two files list the departments: a mapping from the names and the manifest, whose
departments are mappings of their own. An edit writes a name into both.
-/

namespace AiEnterpriseOs.Services

open Library

/-- What `yaml.safe_load` makes of a text. Dates and binary data are other scalars. -/
inductive YamlValue where
  | null
  | bool (value : Bool)
  | int (value : Int)
  | float (value : Rat)
  | str (value : String)
  | other (scalar : String)
  | list (items : List YamlValue)
  | set (scalars : List String)
  | mapping (entries : List (YamlValue × YamlValue))

/-- The outcome of `yaml.safe_load`; some texts raise another error than `yaml.YAMLError`. -/
inductive YamlLoad where
  | value (value : YamlValue)
  | yamlError
  | raises

/-- The YAML library, with the contents of a file as `Text`. -/
structure Yaml (Text : Type) where
  safeLoad : Text → YamlLoad
  safeDump : YamlValue → Text
  round_trip : ∀ value, safeLoad (safeDump value) = .value value

abbrev Entries : Type := List (YamlValue × YamlValue)

namespace YamlValue

/-- `value == text` for a string. -/
def isText (text : String) : YamlValue → Bool
  | str value => value = text
  | _ => false

end YamlValue

namespace Mapping

def get? (entries : Entries) (key : String) : Option YamlValue :=
  (entries.find? fun entry => entry.1.isText key).map Prod.snd

def hasKey (entries : Entries) (key : String) : Bool :=
  entries.any fun entry => entry.1.isText key

/-- `del entries[key]`. -/
def erase (entries : Entries) (key : String) : Entries :=
  entries.filter fun entry => !entry.1.isText key

/-- The value of a key that is there. -/
def replace : Entries → String → YamlValue → Entries
  | [], _, _ => []
  | entry :: rest, key, value =>
    if entry.1.isText key then (entry.1, value) :: rest else entry :: replace rest key value

end Mapping

structure CompanyFiles (Text : Type) where
  departments : Option Text
  manifest : Option Text

section Loading

variable {Text : Type} (yaml : Yaml Text)

/-- `_load_yaml`; `none` where it raises. -/
def loadYaml : Option Text → Option Entries
  | none => some []
  | some text =>
    match yaml.safeLoad text with
    | .value (.mapping entries) => some entries
    | .value _ => some []
    | .yamlError => some []
    | .raises => none

structure ManifestDepartment where
  name : String
  displayName : Option String
  description : Option String

structure CompanyManifest where
  name : String
  description : Option String
  companyName : Option String
  version : Option String
  departments : List ManifestDepartment

/-- A `str` field that is required. -/
def requiredText : Option YamlValue → Option String
  | some (.str text) => some text
  | _ => none

/-- A `str | None` field. -/
def optionalText : Option YamlValue → Option (Option String)
  | none => some none
  | some .null => some none
  | some (.str text) => some (some text)
  | some _ => none

def ManifestDepartment.validate : YamlValue → Option ManifestDepartment
  | .mapping entries => do
      let name ← requiredText (Mapping.get? entries "name")
      let displayName ← optionalText (Mapping.get? entries "display_name")
      let description ← optionalText (Mapping.get? entries "description")
      some { name := name, displayName := displayName, description := description }
  | _ => none

/-- A `list[ManifestDepartment]` field; an empty set is taken for an empty list. -/
def departmentList : Option YamlValue → Option (List ManifestDepartment)
  | none => some []
  | some (.list items) => items.mapM ManifestDepartment.validate
  | some (.set []) => some []
  | some _ => none

def isTextKey : YamlValue → Bool
  | .str _ => true
  | _ => false

/-- `cls(**data)`. -/
def CompanyManifest.validate (entries : Entries) : Option CompanyManifest :=
  if entries.all fun entry => isTextKey entry.1 then do
    let name ← requiredText (Mapping.get? entries "name")
    let description ← optionalText (Mapping.get? entries "description")
    let companyName ← optionalText (Mapping.get? entries "company_name")
    let version ← optionalText (Mapping.get? entries "version")
    let departments ← departmentList (Mapping.get? entries "departments")
    some
      { name := name
        description := description
        companyName := companyName
        version := version
        departments := departments }
  else none

/-- `CompanyManifest.load`; `none` where it raises, as it does for an empty file. -/
def CompanyManifest.load : Option Text → Option CompanyManifest
  | none => none
  | some text =>
    match yaml.safeLoad text with
    | .value (.mapping entries) => CompanyManifest.validate entries
    | _ => none

end Loading

section Edits

variable {Text : Type} (yaml : Yaml Text) (lower : String → String)

/-- `re.sub(r"[^a-z0-9]+", "-", name.strip().lower()).strip("-")`. -/
def departmentSlug (name : String) : String :=
  String.ofList (slug (fun char => char.isLower || char.isDigit)
      (lower (String.ofList (TextLines.strip name.toList))).toList)

/-- `text.title()` of a text in lower case, for the letters from `a` to `z`. -/
def titleCase : Bool → List Char → List Char
  | _, [] => []
  | afterLetter, char :: rest =>
    (if afterLetter then char else char.toUpper) :: titleCase char.isAlpha rest

/-- `(text or "").strip() or fallback`. -/
def stripOr (text : Option String) (fallback : String) : String :=
  let stripped := String.ofList (TextLines.strip (text.getD "").toList)
  if stripped = "" then fallback else stripped

inductive EditAnswer where
  | errors (errors : List String)
  | added (department role : String)
  | removed (department : String)
  deriving DecidableEq

def departmentRole (slug : String) (title : Option String) : String :=
  let spaced := slug.toList.map fun char => if char = '-' then ' ' else char
  stripOr title (String.ofList (titleCase false spaced))

/-- The new entry of `departments.yaml`. -/
def departmentEntry (slug role : String) (description : Option String) : YamlValue × YamlValue :=
  (.str slug, .list [.mapping [(.str role, .str (stripOr description role))]])

/-- The files after `company_department_add` and its answer; `none` where it raises. -/
def companyDepartmentAdd (files : CompanyFiles Text) (name : String)
    (title description : Option String) : CompanyFiles Text × Option EditAnswer :=
  let slug := departmentSlug lower name
  if slug = "" then (files, some (.errors ["invalid department name"]))
  else
    match loadYaml yaml files.departments with
    | none => (files, none)
    | some data =>
      if Mapping.hasKey data slug then (files, some (.errors ["department exists: " ++ slug]))
      else
        let role := departmentRole slug title
        let entry := departmentEntry slug role description
        let saved :=
          { files with departments := some (yaml.safeDump (.mapping (data ++ [entry]))) }
        match loadYaml yaml files.manifest with
        | none => (saved, none)
        | some manifest =>
          match Mapping.get? manifest "departments" with
          | some (.list departments) =>
            if departments.any (YamlValue.isText slug) then
              (saved, some (.added slug role))
            else
              let listed := YamlValue.list (departments ++ [.str slug])
              ({ saved with
                  manifest :=
                    some (yaml.safeDump
                      (.mapping (Mapping.replace manifest "departments" listed))) },
                some (.added slug role))
          | _ => (saved, some (.added slug role))

/-- The files after `company_department_remove` and its answer; `none` where it raises. -/
def companyDepartmentRemove (files : CompanyFiles Text) (name : String) :
    CompanyFiles Text × Option EditAnswer :=
  let slug := departmentSlug lower name
  if slug = "" then (files, some (.errors ["invalid department name"]))
  else
    match loadYaml yaml files.departments with
    | none => (files, none)
    | some data =>
      if Mapping.hasKey data slug = false then
        (files, some (.errors ["department not found: " ++ slug]))
      else
        let saved :=
          { files with departments := some (yaml.safeDump (.mapping (Mapping.erase data slug))) }
        match loadYaml yaml files.manifest with
        | none => (saved, none)
        | some manifest =>
          match Mapping.get? manifest "departments" with
          | some (.list departments) =>
            if departments.any (YamlValue.isText slug) then
              let kept := YamlValue.list
                (departments.filter fun department => !department.isText slug)
              ({ saved with
                  manifest :=
                    some (yaml.safeDump (.mapping (Mapping.replace manifest "departments" kept))) },
                some (.removed slug))
            else (saved, some (.removed slug))
          | _ => (saved, some (.removed slug))

end Edits

namespace Mapping

variable {entries : Entries} {key : String}

theorem get_replace {old : YamlValue} (found : get? entries key = some old) (value : YamlValue) :
    get? (replace entries key value) key = some value := by
  induction entries with
  | nil => cases found
  | cons entry rest ih =>
    rw [get?, List.find?_cons] at found
    rw [replace]
    cases here : entry.1.isText key with
    | true => simp [get?, here]
    | false =>
      rw [here] at found
      rw [if_neg Bool.false_ne_true, get?, List.find?_cons, here]
      exact ih found

theorem replace_replace (first second : YamlValue) :
    replace (replace entries key first) key second = replace entries key second := by
  induction entries with
  | nil => rfl
  | cons entry rest ih =>
    rw [replace, replace]
    cases here : entry.1.isText key with
    | true => simp [replace, here]
    | false => simp [replace, here, ih]

theorem replace_get {value : YamlValue} (found : get? entries key = some value) :
    replace entries key value = entries := by
  induction entries with
  | nil => rfl
  | cons entry rest ih =>
    rw [get?, List.find?_cons] at found
    rw [replace]
    cases here : entry.1.isText key with
    | true =>
      rw [here] at found
      rw [if_pos rfl, ← Option.some.inj found]
    | false =>
      rw [here] at found
      rw [if_neg Bool.false_ne_true, ih found]

theorem erase_missing (missing : hasKey entries key = false) : erase entries key = entries := by
  rw [erase, List.filter_eq_self]
  intro entry member
  rw [List.any_eq_false.mp missing entry member |> Bool.eq_false_iff.mpr]
  rfl

theorem erase_added (missing : hasKey entries key = false) (value : YamlValue) :
    erase (entries ++ [(.str key, value)]) key = entries := by
  have kept := erase_missing missing
  rw [erase] at kept ⊢
  rw [List.filter_append, kept]
  simp [YamlValue.isText]

theorem has_key_added (value : YamlValue) : hasKey (entries ++ [(.str key, value)]) key = true := by
  simp [hasKey, YamlValue.isText]

end Mapping

section Effects

variable {Text : Type} {yaml : Yaml Text} {lower : String → String} {files : CompanyFiles Text}
  {name : String} {data manifest : Entries} {title description : Option String}

theorem load_dumped (entries : Entries) :
    loadYaml yaml (some (yaml.safeDump (.mapping entries))) = some entries := by
  rw [loadYaml, yaml.round_trip]

theorem manifest_entries {file : Option Text} {old : CompanyManifest}
    (loads : CompanyManifest.load yaml file = some old) :
    ∃ manifest, loadYaml yaml file = some manifest ∧
      CompanyManifest.load yaml file = CompanyManifest.validate manifest ∧
      departmentList (Mapping.get? manifest "departments") = some old.departments := by
  cases file with
  | none => cases loads
  | some text =>
    rw [CompanyManifest.load] at loads ⊢
    rw [loadYaml]
    split at loads
    next manifest parsed =>
      rw [parsed]
      refine ⟨manifest, rfl, rfl, ?_⟩
      rw [CompanyManifest.validate] at loads
      split at loads
      · simp only [bind, Option.bind_eq_some_iff] at loads
        obtain ⟨_, _, _, _, _, _, _, _, departments, listed, same⟩ := loads
        rw [listed, ← Option.some.inj same]
      · cases loads
    next => cases loads

theorem map_validate_text {items : List YamlValue} {slug : String}
    (listed : items.any (YamlValue.isText slug) = true) :
    items.mapM ManifestDepartment.validate = none := by
  induction items with
  | nil => cases listed
  | cons item rest ih =>
    rw [List.mapM_cons]
    rw [List.any_cons, Bool.or_eq_true] at listed
    rcases listed with here | later
    · cases item with
      | str text => rfl
      | _ => cases here
    · rw [ih later]
      cases ManifestDepartment.validate item <;> rfl

/-- The manifest after the name is appended to its departments. -/
def listed (yaml : Yaml Text) (file : Option Text) (manifest : Entries) (slug : String) :
    Option Text :=
  match Mapping.get? manifest "departments" with
  | some (.list departments) =>
    if departments.any (YamlValue.isText slug) then file
    else
      some (yaml.safeDump (.mapping
        (Mapping.replace manifest "departments" (.list (departments ++ [.str slug])))))
  | _ => file

theorem add_writes_entry (named : departmentSlug lower name ≠ "")
    (parsed : loadYaml yaml files.departments = some data)
    (new : Mapping.hasKey data (departmentSlug lower name) = false) :
    (companyDepartmentAdd yaml lower files name title description).1.departments =
      some (yaml.safeDump (.mapping (data ++ [departmentEntry (departmentSlug lower name)
        (departmentRole (departmentSlug lower name) title) description]))) := by
  simp only [companyDepartmentAdd, if_neg named, parsed, new, Bool.false_eq_true, if_false]
  cases loadYaml yaml files.manifest with
  | none => rfl
  | some manifest =>
    dsimp only
    split
    · split <;> rfl
    · rfl

theorem add_new (title description : Option String) (named : departmentSlug lower name ≠ "")
    (parsed : loadYaml yaml files.departments = some data)
    (new : Mapping.hasKey data (departmentSlug lower name) = false)
    (loaded : loadYaml yaml files.manifest = some manifest) :
    companyDepartmentAdd yaml lower files name title description =
      ({ departments :=
          some (yaml.safeDump (.mapping (data ++ [departmentEntry (departmentSlug lower name)
            (departmentRole (departmentSlug lower name) title) description])))
         manifest := listed yaml files.manifest manifest (departmentSlug lower name) },
        some (.added (departmentSlug lower name)
          (departmentRole (departmentSlug lower name) title))) := by
  simp only [companyDepartmentAdd, if_neg named, parsed, new, Bool.false_eq_true, if_false,
    loaded, listed]
  split
  · split <;> rfl
  · rfl

theorem add_refused (title description : Option String)
    (parsed : loadYaml yaml files.departments = some data)
    (refused : departmentSlug lower name = "" ∨
      Mapping.hasKey data (departmentSlug lower name) = true) :
    ∃ errors, companyDepartmentAdd yaml lower files name title description =
      (files, some (.errors errors)) := by
  rw [companyDepartmentAdd]
  by_cases named : departmentSlug lower name = ""
  · rw [if_pos named]
    exact ⟨_, rfl⟩
  · rcases refused with empty | there
    · exact absurd empty named
    · simp only [if_neg named, parsed, there, if_true]
      exact ⟨_, rfl⟩

theorem remove_missing (parsed : loadYaml yaml files.departments = some data)
    (missing : departmentSlug lower name = "" ∨
      Mapping.hasKey data (departmentSlug lower name) = false) :
    ∃ errors, companyDepartmentRemove yaml lower files name = (files, some (.errors errors)) := by
  rw [companyDepartmentRemove]
  by_cases named : departmentSlug lower name = ""
  · rw [if_pos named]
    exact ⟨_, rfl⟩
  · rcases missing with empty | absent
    · exact absurd empty named
    · simp only [if_neg named, parsed, absent, if_true]
      exact ⟨_, rfl⟩

theorem listed_not_loaded {old : CompanyManifest} {slug : String}
    (loads : CompanyManifest.load yaml files.manifest = some old)
    (loaded : loadYaml yaml files.manifest = some manifest) :
    ¬∃ new, CompanyManifest.load yaml (listed yaml files.manifest manifest slug) = some new ∧
      new.departments.countP (fun department => department.name = slug) = 1 := by
  intro found
  obtain ⟨new, again, once⟩ := found
  obtain ⟨entries, same, _, departments⟩ := manifest_entries loads
  rw [loaded] at same
  rw [← Option.some.inj same] at departments
  have unchanged : listed yaml files.manifest manifest slug = files.manifest →
      old.departments ≠ [] := by
    intro stays empty
    rw [stays, loads] at again
    rw [← Option.some.inj again, empty] at once
    cases once
  rw [listed] at again unchanged
  cases field : Mapping.get? manifest "departments" with
  | none =>
    rw [field] at departments unchanged
    exact unchanged rfl (Option.some.inj departments).symm
  | some value =>
    rw [field] at departments unchanged again
    cases value with
    | list items =>
      cases inside : items.any (YamlValue.isText slug) with
      | true =>
        rw [departmentList, map_validate_text inside] at departments
        cases departments
      | false =>
        simp only [inside, Bool.false_eq_true, if_false] at again
        obtain ⟨written, parsed, _, bad⟩ := manifest_entries again
        have textual : (items ++ [YamlValue.str slug]).any (YamlValue.isText slug) = true := by
          simp [YamlValue.isText]
        rw [load_dumped] at parsed
        rw [← Option.some.inj parsed, Mapping.get_replace field, departmentList,
          map_validate_text textual] at bad
        cases bad
    | set scalars =>
      cases scalars with
      | nil => exact unchanged rfl (Option.some.inj departments).symm
      | cons scalar rest => cases departments
    | _ => cases departments

/-- The manifest after the name is taken out of its departments. -/
def unlisted (yaml : Yaml Text) (file : Option Text) (manifest : Entries) (slug : String) :
    Option Text :=
  match Mapping.get? manifest "departments" with
  | some (.list departments) =>
    if departments.any (YamlValue.isText slug) then
      some (yaml.safeDump (.mapping (Mapping.replace manifest "departments"
          (.list (departments.filter fun department => !department.isText slug)))))
    else file
  | _ => file

theorem remove_present (named : departmentSlug lower name ≠ "")
    (parsed : loadYaml yaml files.departments = some data)
    (there : Mapping.hasKey data (departmentSlug lower name) = true)
    (loaded : loadYaml yaml files.manifest = some manifest) :
    companyDepartmentRemove yaml lower files name =
      ({ departments :=
          some (yaml.safeDump (.mapping (Mapping.erase data (departmentSlug lower name))))
         manifest := unlisted yaml files.manifest manifest (departmentSlug lower name) },
        some (.removed (departmentSlug lower name))) := by
  simp only [companyDepartmentRemove, if_neg named, parsed, there, Bool.true_eq_false, if_false,
    loaded, unlisted]
  split
  · split <;> rfl
  · rfl

theorem unlisted_listed {old : CompanyManifest} (slug : String)
    (loads : CompanyManifest.load yaml files.manifest = some old)
    (loaded : loadYaml yaml files.manifest = some manifest) :
    ∃ between, loadYaml yaml (listed yaml files.manifest manifest slug) = some between ∧
      loadYaml yaml (unlisted yaml (listed yaml files.manifest manifest slug) between slug) =
        some manifest := by
  obtain ⟨entries, same, _, departments⟩ := manifest_entries loads
  rw [loaded] at same
  rw [← Option.some.inj same] at departments
  by_cases textual : ∃ items, Mapping.get? manifest "departments" = some (.list items)
  · obtain ⟨items, field⟩ := textual
    cases inside : items.any (YamlValue.isText slug) with
    | true =>
      rw [field, departmentList, map_validate_text inside] at departments
      cases departments
    | false =>
      refine ⟨Mapping.replace manifest "departments" (.list (items ++ [.str slug])), ?_, ?_⟩
      · simp only [listed, field, inside, Bool.false_eq_true, if_false, load_dumped]
      · have back : (items ++ [YamlValue.str slug]).filter
            (fun department => !department.isText slug) = items := by
          rw [List.filter_append, List.filter_eq_self.mpr]
          · simp [YamlValue.isText]
          · intro item member
            rw [Bool.eq_false_iff.mpr (List.any_eq_false.mp inside item member)]
            rfl
        have again : (items ++ [YamlValue.str slug]).any (YamlValue.isText slug) = true := by
          simp [YamlValue.isText]
        simp only [unlisted, Mapping.get_replace field, again, if_true, back, load_dumped,
          Mapping.replace_replace, Mapping.replace_get field]
  · have stays : listed yaml files.manifest manifest slug = files.manifest := by
      rw [listed]
      split
      next items field => exact absurd ⟨items, field⟩ textual
      next => rfl
    refine ⟨manifest, by rw [stays, loaded], ?_⟩
    rw [stays, unlisted]
    split
    next items field => exact absurd ⟨items, field⟩ textual
    next => exact loaded

theorem remove_undoes_add {old : CompanyManifest} (named : departmentSlug lower name ≠ "")
    (parsed : loadYaml yaml files.departments = some data)
    (new : Mapping.hasKey data (departmentSlug lower name) = false)
    (loads : CompanyManifest.load yaml files.manifest = some old) :
    let added := (companyDepartmentAdd yaml lower files name title description).1
    let restored := (companyDepartmentRemove yaml lower added name).1
    loadYaml yaml restored.departments = loadYaml yaml files.departments ∧
      loadYaml yaml restored.manifest = loadYaml yaml files.manifest := by
  intro added restored
  obtain ⟨manifest, loaded, _⟩ := manifest_entries loads
  obtain ⟨between, relisted, back⟩ := unlisted_listed (departmentSlug lower name) loads loaded
  have after : added = _ := congrArg Prod.fst (add_new title description named parsed new loaded)
  have removed : restored = _ := congrArg Prod.fst
    (remove_present named (by rw [after]; exact load_dumped _) (Mapping.has_key_added _)
      (by rw [after]; exact relisted))
  rw [removed, after, load_dumped, departmentEntry, Mapping.erase_added new, parsed, loaded]
  exact ⟨rfl, back⟩

/-- Texts that are known by what they load as. -/
def plainYaml : Yaml YamlLoad where
  safeLoad := id
  safeDump := .value
  round_trip := fun _ => rfl

theorem data_science_undone :
    let files : CompanyFiles YamlLoad :=
      { departments := some (.value (.mapping [(.str "executive", .list [])]))
        manifest := some (.value (.mapping [(.str "name", .str "Acme")])) }
    let added := (companyDepartmentAdd plainYaml String.toLower files "Data Science" none none).1
    let restored := (companyDepartmentRemove plainYaml String.toLower added "Data Science").1
    loadYaml plainYaml restored.departments = loadYaml plainYaml files.departments ∧
      loadYaml plainYaml restored.manifest = loadYaml plainYaml files.manifest := by
  intro files
  have loads : (CompanyManifest.load plainYaml files.manifest).isSome = true := by decide +kernel
  obtain ⟨old, loads⟩ := Option.isSome_iff_exists.mp loads
  have named : departmentSlug String.toLower "Data Science" ≠ "" := by decide +kernel
  have parsed : loadYaml plainYaml files.departments = some [(.str "executive", .list [])] := rfl
  have new : Mapping.hasKey [(.str "executive", .list [])]
      (departmentSlug String.toLower "Data Science") = false := by
    decide +kernel
  exact remove_undoes_add named parsed new loads

end Effects

section Safety

variable {Text : Type} (yaml : Yaml Text) (lower : String → String)

def HoldsMapping (file : Option Text) (data : Entries) : Prop :=
  ∃ text, file = some text ∧ yaml.safeLoad text = .value (.mapping data)

def Unparsable (file : Option Text) : Prop :=
  ∃ text, file = some text ∧ (yaml.safeLoad text = .yamlError ∨ yaml.safeLoad text = .raises)

/-- What a successful addition of the department, and its removal, promise. -/
structure KeepsLoadable (files added restored : CompanyFiles Text) (slug : String) : Prop where
  loads : ∃ new, CompanyManifest.load yaml added.manifest = some new ∧
    new.departments.countP (fun department => department.name = slug) = 1
  others : ∀ old new, CompanyManifest.load yaml files.manifest = some old →
    CompanyManifest.load yaml added.manifest = some new →
    new.departments.filter (fun department => department.name ≠ slug) =
      old.departments.filter fun department => department.name ≠ slug
  entries : ∀ old new, loadYaml yaml files.departments = some old →
    loadYaml yaml added.departments = some new →
    Mapping.erase new slug = Mapping.erase old slug
  restores : loadYaml yaml restored.departments = loadYaml yaml files.departments ∧
    loadYaml yaml restored.manifest = loadYaml yaml files.manifest

/-- Department edits keep the company loadable and lose nothing that they cannot read. -/
def EditsKeepLoadable (files : CompanyFiles Text) (name : String)
    (title description : Option String) : Prop :=
  let added := companyDepartmentAdd yaml lower files name title description
  let restored := companyDepartmentRemove yaml lower added.1 name
  (∀ data old department role, HoldsMapping yaml files.departments data →
    CompanyManifest.load yaml files.manifest = some old →
    added.2 = some (.added department role) →
    KeepsLoadable yaml files added.1 restored.1 (departmentSlug lower name)) ∧
  (Unparsable yaml files.departments → added.1.departments = files.departments ∧
      (companyDepartmentRemove yaml lower files name).1.departments = files.departments)

variable {yaml lower} {files : CompanyFiles Text} {name : String} {data : Entries}
  {title description : Option String}

theorem load_held (holds : HoldsMapping yaml files.departments data) :
    loadYaml yaml files.departments = some data := by
  obtain ⟨text, file, parsed⟩ := holds
  rw [file, loadYaml, parsed]

theorem unparsable_kept_iff (text : Text) (file : files.departments = some text)
    (broken : yaml.safeLoad text = .yamlError) :
    ((companyDepartmentAdd yaml lower files name title description).1.departments =
        files.departments ∧
      (companyDepartmentRemove yaml lower files name).1.departments = files.departments) ↔
      departmentSlug lower name = "" := by
  have empty : loadYaml yaml files.departments = some [] := by
    rw [file, loadYaml, broken]
  constructor
  · intro kept
    by_contra named
    have written := kept.1
    rw [add_writes_entry named empty rfl, file] at written
    have parsed := yaml.round_trip (.mapping ([] ++ [departmentEntry (departmentSlug lower name)
      (departmentRole (departmentSlug lower name) title) description]))
    rw [Option.some.inj written, broken] at parsed
    cases parsed
  · intro unnamed
    obtain ⟨_, added⟩ := add_refused title description empty (.inl unnamed)
    obtain ⟨_, removed⟩ := remove_missing empty (.inl unnamed)
    rw [added, removed]
    exact ⟨rfl, rfl⟩

theorem raising_kept (text : Text) (file : files.departments = some text)
    (broken : yaml.safeLoad text = .raises) :
    (companyDepartmentAdd yaml lower files name title description).1.departments =
        files.departments ∧
      (companyDepartmentRemove yaml lower files name).1.departments = files.departments := by
  have raises : loadYaml yaml files.departments = none := by
    rw [file, loadYaml, broken]
  simp only [companyDepartmentAdd, companyDepartmentRemove, raises]
  constructor
  · split <;> rfl
  · split <;> rfl

theorem not_keeps_loadable {old : CompanyManifest} (named : departmentSlug lower name ≠ "")
    (holds : HoldsMapping yaml files.departments data)
    (new : Mapping.hasKey data (departmentSlug lower name) = false)
    (loads : CompanyManifest.load yaml files.manifest = some old)
    {restored : CompanyFiles Text} :
    ¬KeepsLoadable yaml files (companyDepartmentAdd yaml lower files name title description).1
      restored (departmentSlug lower name) := by
  intro keeps
  obtain ⟨manifest, loaded, _⟩ := manifest_entries loads
  have listed := keeps.loads
  rw [add_new title description named (load_held holds) new loaded] at listed
  exact listed_not_loaded loads loaded listed

/-- The edits are safe exactly where they do nothing: the department is refused wherever both
files can be read, and a file that is no YAML is met with a name that makes no slug. -/
theorem department_edits_safe_iff (yaml : Yaml Text) (lower : String → String)
    (files : CompanyFiles Text) (name : String) (title description : Option String) :
    EditsKeepLoadable yaml lower files name title description ↔
      (∀ data old, HoldsMapping yaml files.departments data →
        CompanyManifest.load yaml files.manifest = some old →
        departmentSlug lower name = "" ∨ Mapping.hasKey data (departmentSlug lower name) = true) ∧
      (∀ text, files.departments = some text → yaml.safeLoad text = .yamlError →
        departmentSlug lower name = "") := by
  constructor
  · intro safe
    refine ⟨?_, fun text file broken =>
      (unparsable_kept_iff text file broken).mp (safe.2 ⟨text, file, .inl broken⟩)⟩
    intro data old holds loads
    by_contra accepted
    rw [not_or, Bool.not_eq_true] at accepted
    obtain ⟨manifest, loaded, _⟩ := manifest_entries loads
    have answer := congrArg Prod.snd (add_new title description accepted.1 (load_held holds)
        accepted.2 loaded)
    exact not_keeps_loadable accepted.1 holds accepted.2 loads
      (safe.1 data old _ _ holds loads answer)
  · intro condition
    constructor
    · intro data old department role holds loads answer
      obtain ⟨_, refused⟩ := add_refused title description
        (load_held holds) (condition.1 data old holds loads)
      rw [refused] at answer
      cases answer
    · intro unparsable
      obtain ⟨text, file, broken | raising⟩ := unparsable
      · exact (unparsable_kept_iff text file broken).mpr (condition.2 text file broken)
      · exact raising_kept text file raising

/-- An added department is a string among mappings, and the manifest no longer loads. -/
theorem added_department_breaks_manifest :
    let files : CompanyFiles YamlLoad :=
      { departments := some (.value (.mapping [(.str "executive", .list [])]))
        manifest :=
          some (.value (.mapping [(.str "name", .str "Acme"),
              (.str "departments", .list [.mapping [(.str "name", .str "executive")]])])) }
    let added := companyDepartmentAdd plainYaml String.toLower files "Data Science" none none
    (CompanyManifest.load plainYaml files.manifest).isSome = true ∧
      added.2 = some (.added "data-science" "Data Science") ∧
      (CompanyManifest.load plainYaml added.1.manifest).isSome = false ∧
      ¬EditsKeepLoadable plainYaml String.toLower files "Data Science" none none := by
  intro files added
  have accepted : (CompanyManifest.load plainYaml files.manifest).isSome = true := by
    decide +kernel
  have answer : added.2 = some (.added "data-science" "Data Science") := by
    decide +kernel
  have broken : (CompanyManifest.load plainYaml added.1.manifest).isSome = false := by
    decide +kernel
  refine ⟨accepted, answer, broken, ?_⟩
  intro safe
  obtain ⟨old, loads⟩ := Option.isSome_iff_exists.mp accepted
  obtain ⟨new, loaded, _⟩ := (safe.1 _ old _ _ ⟨_, rfl, rfl⟩ loads answer).loads
  rw [loaded] at broken
  cases broken

end Safety

end AiEnterpriseOs.Services
