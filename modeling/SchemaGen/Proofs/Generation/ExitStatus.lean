import SchemaGen.Proofs.Generation.Faults
import SchemaGen.Proofs.Text.Split

/-!
# What the exit status of a run tells

A run over one schema file goes through phases, and each of them may fail (`FailsIn`). Its status
does not say which did: it is computed from the class of the fault and from how its message begins.
The failed preconditions of the version check and of the catalog begin otherwise than a report of a
cycle, whatever names stand in them (`Fault.IsRefusal.exitStatus_eq`), and no other phase but the
ordering of declarations has any.
-/

set_option autoImplicit false

namespace SchemaGen

open SchemaGen.Text (trim namespaceName)

/-! ## Statuses -/

namespace Fault

theorem exitStatus_of_code {fault : Fault} (h : fault.code = some .failedPrecondition) :
    fault.exitStatus = if Text.startsWith fault.message cycleText then 3 else 4 := by
  unfold Fault.exitStatus SchemaGen.exitStatus
  rw [h]

theorem exitStatus_declarationCycle (names : List String) :
    (declarationCycle names).exitStatus = 3 := by
  have hmessage : (declarationCycle names).message =
      cycleText ++ " involving: " ++ ", ".intercalate names := rfl
  rw [exitStatus_of_code rfl, hmessage, if_pos]
  rw [Text.startsWith, Text.isSome_stripStart?_iff]
  simp

/-- A message that begins with another letter is none of a cycle. -/
theorem not_startsWith_cycleText {text : String} (h : text.toList.head? ≠ some 'd') :
    Text.startsWith text cycleText = false := by
  rw [Bool.eq_false_iff, Ne, Text.startsWith, Text.isSome_stripStart?_iff]
  rintro ⟨rest, hrest⟩
  rw [← hrest] at h
  exact h rfl

theorem IsRefusal.exitStatus_eq {fault : Fault} (h : fault.IsRefusal) : fault.exitStatus = 4 := by
  have hletter : fault.message.toList.head? ≠ some 'd' := by
    cases h with
    | noVersion schema constraint =>
      show ("schema " ++ schema ++ " declares no version but " ++ constraint
        ++ " is required").toList.head? ≠ _
      simp
    | versionRefused schema version constraint =>
      show ("schema " ++ schema ++ " version " ++ version ++ " does not satisfy "
        ++ constraint).toList.head? ≠ _
      simp
    | ambiguousReference name kept repeated =>
      show ("ambiguous reference: " ++ name ++ " is exported by both " ++ kept ++ " and "
        ++ repeated).toList.head? ≠ _
      simp
  have hcode : fault.code = some .failedPrecondition := by
    cases h <;> rfl
  rw [exitStatus_of_code hcode, not_startsWith_cycleText hletter, if_neg Bool.false_ne_true]

/-- Only a failed precondition can be a cycle. -/
theorem code_of_exitStatus_eq_three {fault : Fault} (h : fault.exitStatus = 3) :
    fault.code = some .failedPrecondition := by
  unfold Fault.exitStatus SchemaGen.exitStatus at h
  split at h
  next => cases h
  next => cases h
  next hcode => exact hcode
  next => cases h
  next => cases h
  next => cases h

end Fault

variable {fault : Fault}

/-! ## Phases -/

/-- The phases of a run over one schema file. -/
inductive Phase where
  | selection
  | loading
  | version
  | catalog
  | types
  | order
  | definitions
  | plugins
  | writing
deriving Repr, DecidableEq

section Phases

variable (registry : Registry) (request : Request) (s : FileStore)

/-- Plugins are chosen and the schema is loaded. -/
structure Loads (plugins : Registry) (schema : Schema) : Prop where
  select : registry.select request.plugins = .ok plugins
  load : s.loadSchema (trim request.schemaPath) = .ok schema

/-- The schema is accepted and its catalog is built. -/
structure Catalogs (plugins : Registry) (schema : Schema) (c : Catalog) : Prop extends
    Loads registry request s plugins schema where
  version : (checkVersion schema request.version).result = .ok ()
  catalog : (Catalog.build s.loader request.strict schema).result = .ok c

/-- The types of its elements are resolved, and these are the declarations to be put in order. -/
structure Declares (plugins : Registry) (schema : Schema) (c : Catalog)
    (trees : List (Tree Decl)) : Prop extends Catalogs registry request s plugins schema c where
  groups : ∃ groups headers,
    buildGroups request.withDefaults.options.decls ⟨c, schema⟩ schema.rootGroup schema.groups =
      .ok (groups, headers) ∧ trees = leadingTrees schema ++ groups

/-- A run over one schema file fails in a phase, with all earlier phases behind it. -/
inductive FailsIn : Phase → Fault → Prop where
  | selection {fault : Fault} (h : registry.select request.plugins = .error fault) :
    FailsIn .selection fault
  | loading {plugins : Registry} {fault : Fault}
    (hselect : registry.select request.plugins = .ok plugins)
    (h : s.loadSchema (trim request.schemaPath) = .error fault) : FailsIn .loading fault
  | version {plugins : Registry} {schema : Schema} {fault : Fault}
    (hloads : Loads registry request s plugins schema)
    (h : (checkVersion schema request.version).result = .error fault) : FailsIn .version fault
  | catalog {plugins : Registry} {schema : Schema} {fault : Fault}
    (hloads : Loads registry request s plugins schema)
    (hversion : (checkVersion schema request.version).result = .ok ())
    (h : (Catalog.build s.loader request.strict schema).result = .error fault) :
    FailsIn .catalog fault
  | types {plugins : Registry} {schema : Schema} {c : Catalog} {fault : Fault}
    (hcatalogs : Catalogs registry request s plugins schema c)
    (h : buildGroups request.withDefaults.options.decls ⟨c, schema⟩ schema.rootGroup
      schema.groups = .error fault) : FailsIn .types fault
  | order {plugins : Registry} {schema : Schema} {c : Catalog} {trees : List (Tree Decl)}
    {fault : Fault} (hdeclares : Declares registry request s plugins schema c trees)
    (h : (orderTrees (namespaceName schema.name) trees).result = .error fault) :
    FailsIn .order fault
  | definitions {plugins : Registry} {schema : Schema} {c : Catalog} {d : Declarations}
    {fault : Fault} (hcatalogs : Catalogs registry request s plugins schema c)
    (hdecls : (buildDeclarations c schema request.withDefaults.options.decls).result = .ok d)
    (h : (buildDefinitions c schema.name (d.container.map Prod.fst) d.scope).result =
      .error fault) : FailsIn .definitions fault
  | plugins {plugins : Registry} {schema : Schema} {unit : CodeUnit} {fault : Fault}
    (hloads : Loads registry request s plugins schema)
    (hbuilt : (buildTrees s.loader request.withDefaults.options schema).result = .ok unit)
    (h : (unit.extend plugins).result = .error fault) : FailsIn .plugins fault
  | writing {plugins : Registry} {schema : Schema} {built unit : CodeUnit} {fault : Fault}
    (hloads : Loads registry request s plugins schema)
    (hbuilt : (buildTrees s.loader request.withDefaults.options schema).result = .ok built)
    (hextend : (built.extend plugins).result = .ok unit)
    (h : (s.writeUnit request.withDefaults.outputDir unit.render).fault = some fault) :
    FailsIn .writing fault

end Phases

variable {registry : Registry} {request : Request} {s : FileStore}

theorem result_compile (l : Loader) (plugins : Registry) (o : UnitOptions) (schema : Schema) :
    (compile l (some plugins) o schema).result =
      (buildTrees l o schema).result.bind fun built => (built.extend plugins).result := by
  rw [compile, Report.result_inSchema, Report.result_andThen]
  cases (buildTrees l o schema).result with
  | error fault => rfl
  | ok built =>
    dsimp only [Except.bind]
    rw [Report.result_andThen]
    cases hextend : (built.extend plugins).result with
    | error fault => simp [hextend, Except.bind]
    | ok unit => simp [hextend, Except.bind, Report.say]

/-- **A run over one schema file**, phase by phase. -/
theorem result_generate_single (hpath : trim request.schemaPath ≠ "")
    (hdir : trim request.schemaDir = "") :
    ((generate registry request).outcome s).2 =
      (registry.select request.plugins).bind fun plugins =>
      (s.loadSchema (trim request.schemaPath)).bind fun schema =>
      (buildTrees s.loader request.withDefaults.options schema).result.bind fun built =>
      (built.extend plugins).result.bind fun unit =>
      match (s.writeUnit request.withDefaults.outputDir unit.render).fault with
      | some fault => .error fault
      | none => .ok
          { outputDir := request.withDefaults.outputDir
            units := [⟨unit.render.schema,
              (s.writeUnit request.withDefaults.outputDir unit.render).paths⟩] } := by
  have hinputs : request.withDefaults.inputs s = .ok [trim request.schemaPath] := by
    have hpath' : trim request.withDefaults.schemaPath = trim request.schemaPath := rfl
    have hdir' : trim request.withDefaults.schemaDir = "" := hdir
    simp [Request.inputs, hpath', hdir', hpath]
  rw [outcome_generate, hinputs, show request.withDefaults.plugins = request.plugins from rfl]
  dsimp only
  cases registry.select request.plugins with
  | error fault => rfl
  | ok plugins =>
    dsimp only [Except.bind]
    rw [outcome_generateAll_cons, outcome_generateOne_writeUnit, renderedAt]
    cases s.loadSchema (trim request.schemaPath) with
    | error fault => rfl
    | ok schema =>
      dsimp only [Except.bind]
      rw [result_compile]
      cases (buildTrees s.loader request.withDefaults.options schema).result with
      | error fault => rfl
      | ok built =>
        dsimp only [Except.bind]
        cases (built.extend plugins).result with
        | error fault => rfl
        | ok unit =>
          dsimp only [Except.map]
          cases hfault :
              (s.writeUnit request.withDefaults.outputDir unit.render).fault <;> rfl

theorem buildDeclarations_eq_error_iff {c : Catalog} {schema : Schema} {o : DeclOptions} :
    (buildDeclarations c schema o).result = .error fault ↔
      buildGroups o ⟨c, schema⟩ schema.rootGroup schema.groups = .error fault ∨
        ∃ groups headers,
          buildGroups o ⟨c, schema⟩ schema.rootGroup schema.groups = .ok (groups, headers) ∧
          (orderTrees (namespaceName schema.name) (leadingTrees schema ++ groups)).result =
            .error fault := by
  unfold buildDeclarations
  cases buildGroups o ⟨c, schema⟩ schema.rootGroup schema.groups with
  | error fault' => simp
  | ok built =>
    obtain ⟨groups, headers⟩ := built
    simp only [Report.result_andThen, Report.say, Except.bind]
    cases horder :
        (orderTrees (namespaceName schema.name) (leadingTrees schema ++ groups)).result with
    | error fault' => simp [horder]
    | ok ordered => simp [horder, finishScope_result]

theorem buildTrees_eq_error_iff {l : Loader} {o : UnitOptions} {schema : Schema} :
    (buildTrees l o schema).result = .error fault ↔
      (checkVersion schema o.version).result = .error fault ∨
      (checkVersion schema o.version).result = .ok () ∧
        ((Catalog.build l o.strict schema).result = .error fault ∨
        ∃ c, (Catalog.build l o.strict schema).result = .ok c ∧
          ((buildDeclarations c schema o.decls).result = .error fault ∨
          ∃ d, (buildDeclarations c schema o.decls).result = .ok d ∧
            (buildDefinitions c schema.name (d.container.map Prod.fst) d.scope).result =
              .error fault)) := by
  simp only [buildTrees, Report.result_andThen, bind_eq_error_iff, Report.result_done, reduceCtorEq,
    and_false, exists_false, or_false, Unique.exists_iff, PUnit.default_eq_unit]

/-- **A run over one schema file fails in a phase**, or does not fail. -/
theorem failsIn_iff (hpath : trim request.schemaPath ≠ "") (hdir : trim request.schemaDir = "") :
    ((generate registry request).outcome s).2 = .error fault ↔
      ∃ phase, FailsIn registry request s phase fault := by
  rw [result_generate_single hpath hdir]
  simp only [bind_eq_error_iff, buildTrees_eq_error_iff, buildDeclarations_eq_error_iff]
  constructor
  · rintro (hselect | ⟨plugins, hselect, hload | ⟨schema, hload, hrest⟩⟩)
    · exact ⟨.selection, .selection hselect⟩
    · exact ⟨.loading, .loading hselect hload⟩
    have hloads : Loads registry request s plugins schema := ⟨hselect, hload⟩
    rcases hrest with hbuilding | ⟨built, hbuilt, hextend | ⟨unit, hextend, hwrite⟩⟩
    · rcases hbuilding with hversion | ⟨hversion, hcatalog | ⟨c, hcatalog, hrest⟩⟩
      · exact ⟨.version, .version hloads hversion⟩
      · exact ⟨.catalog, .catalog hloads hversion hcatalog⟩
      have hcatalogs : Catalogs registry request s plugins schema c := ⟨hloads, hversion, hcatalog⟩
      rcases hrest with (hgroups | ⟨groups, headers, hgroups, horder⟩) | ⟨d, hdecls, hdefns⟩
      · exact ⟨.types, .types hcatalogs hgroups⟩
      · exact ⟨.order, .order ⟨hcatalogs, groups, headers, hgroups, rfl⟩ horder⟩
      · exact ⟨.definitions, .definitions hcatalogs hdecls hdefns⟩
    · exact ⟨.plugins, .plugins hloads hbuilt hextend⟩
    · refine ⟨.writing, .writing hloads hbuilt hextend ?_⟩
      split at hwrite
      next hfault =>
        cases hwrite
        exact hfault
      next => cases hwrite
  · rintro ⟨phase, hfails⟩
    cases hfails with
    | selection h => exact .inl h
    | loading hselect h => exact .inr ⟨_, hselect, .inl h⟩
    | version hloads h => exact .inr ⟨_, hloads.select, .inr ⟨_, hloads.load, .inl (.inl h)⟩⟩
    | catalog hloads hversion h =>
      exact .inr ⟨_, hloads.select, .inr ⟨_, hloads.load, .inl (.inr ⟨hversion, .inl h⟩)⟩⟩
    | types hc h =>
      exact .inr ⟨_, hc.select, .inr ⟨_, hc.load,
        .inl (.inr ⟨hc.version, .inr ⟨_, hc.catalog, .inl (.inl h)⟩⟩)⟩⟩
    | order hd h =>
      obtain ⟨groups, headers, hgroups, rfl⟩ := hd.groups
      exact .inr ⟨_, hd.select, .inr ⟨_, hd.load, .inl (.inr ⟨hd.version, .inr ⟨_, hd.catalog,
        .inl (.inr ⟨groups, headers, hgroups, h⟩)⟩⟩)⟩⟩
    | definitions hc hdecls h =>
      exact .inr ⟨_, hc.select, .inr ⟨_, hc.load,
        .inl (.inr ⟨hc.version, .inr ⟨_, hc.catalog, .inr ⟨_, hdecls, h⟩⟩⟩)⟩⟩
    | plugins hloads hbuilt h =>
      exact .inr ⟨_, hloads.select, .inr ⟨_, hloads.load, .inr ⟨_, hbuilt, .inl h⟩⟩⟩
    | writing hloads hbuilt hextend h =>
      refine .inr ⟨_, hloads.select, .inr ⟨_, hloads.load, .inr ⟨_, hbuilt, .inr ⟨_, hextend, ?_⟩⟩⟩⟩
      rw [h]

/-- **The class of a fault tells little of its phase**: a failed precondition is a cycle, or the
schema was refused. -/
theorem FailsIn.of_failedPrecondition {phase : Phase} (h : FailsIn registry request s phase fault)
    (hcode : fault.code = some .failedPrecondition) :
    phase = .order ∧ (∃ names, fault = .declarationCycle names) ∨
      (phase = .version ∨ phase = .catalog) ∧ fault.IsRefusal := by
  cases h with
  | selection h => exact absurd hcode (Registry.code_of_pickInto h)
  | loading _ h => exact absurd hcode (FileStore.code_of_loadSchema h)
  | version _ h => exact .inr ⟨.inl rfl, refuses_of_checkVersion h hcode⟩
  | catalog _ _ h => exact .inr ⟨.inr rfl, Catalog.refuses_of_build h hcode⟩
  | types _ h =>
    rw [code_of_buildGroups h] at hcode
    cases hcode
  | order _ h => exact .inl ⟨rfl, eq_declarationCycle_of_orderTrees h⟩
  | definitions _ _ h =>
    rw [code_of_buildDefinitions h] at hcode
    cases hcode
  | plugins _ _ h =>
    obtain ⟨plugin, struct, cause, rfl⟩ := CodeUnit.eq_pluginFailed_of_extend h
    cases hcode
  | writing _ _ _ h => exact absurd hcode (FileStore.code_of_writeUnit h)

/-- Only what cannot be ordered gives the status of a cycle. -/
theorem FailsIn.exitStatus_eq_three_iff {phase : Phase}
    (h : FailsIn registry request s phase fault) : fault.exitStatus = 3 ↔ phase = .order := by
  constructor
  · intro hthree
    rcases h.of_failedPrecondition (Fault.code_of_exitStatus_eq_three hthree) with
      ⟨horder, -⟩ | ⟨-, hrefusal⟩
    · exact horder
    · rw [hrefusal.exitStatus_eq] at hthree
      cases hthree
  · rintro rfl
    cases h with
    | order _ h =>
      obtain ⟨names, rfl⟩ := eq_declarationCycle_of_orderTrees h
      exact Fault.exitStatus_declarationCycle names

/-- Declarations cannot be put in order exactly if some of them mention each other in a circle. -/
theorem exists_orderTrees_error_iff {scope : String} {trees : List (Tree Decl)} :
    (∃ fault, (orderTrees scope trees).result = .error fault) ↔
      ∃ i, Relation.TransGen (MustPrecede trees) i i := by
  have hiff : (∃ ordered, (orderTrees scope trees).result = .ok ordered) ↔
      Acyclic (MustPrecede trees) := exists_orderTrees_iff
  rw [Acyclic, ← not_iff_not, not_forall_not] at hiff
  rw [← hiff]
  cases (orderTrees scope trees).result <;> simp

/-- **What the exit status of a run over one schema file tells.** It is 3 exactly if the plugins
are chosen, the schema is loaded, its version accepted, its catalog built and the types of all its
elements resolved, and then the declarations in its namespace mention each other in a circle. It is
4 for every other failed precondition, and these are the ones of a schema that is refused for its
version or for an ambiguous reference. It is 6 if plugins make the run fail, whatever a hook itself
fails with. -/
theorem exit_status_of_single (registry : Registry) (s : FileStore)
    (hpath : trim request.schemaPath ≠ "") (hdir : trim request.schemaDir = "") :
    ((∃ fault, ((generate registry request).outcome s).2 = .error fault ∧ fault.exitStatus = 3) ↔
      ∃ plugins schema c trees, Declares registry request s plugins schema c trees ∧
        (∀ group ∈ schema.groups, ∀ e ∈ group.elements,
          ∃ type, TypeExpr.Resolver.resolve ⟨c, schema⟩ group e = .ok type) ∧
        ∃ i, Relation.TransGen (MustPrecede trees) i i) ∧
    (∀ fault, ((generate registry request).outcome s).2 = .error fault ↔
      ∃ phase, FailsIn registry request s phase fault) ∧
    (∀ phase fault, FailsIn registry request s phase fault →
      (fault.code = some .failedPrecondition →
        phase = .order ∧ fault.exitStatus = 3 ∨
          (phase = .version ∨ phase = .catalog) ∧ fault.IsRefusal ∧ fault.exitStatus = 4) ∧
      (phase = .plugins → fault.exitStatus = 6)) ∧
    ∀ plugins schema unit, Loads registry request s plugins schema →
      (buildTrees s.loader request.withDefaults.options schema).result = .ok unit →
      ∀ made ∈ plugins.madeCalls unit.roots unit.world, ∀ cause,
        (made.1.hook made.2).2 = .error cause →
        ∃ fault, ((generate registry request).outcome s).2 = .error fault ∧
          fault = .pluginFailed made.1.plugin.name made.1.struct cause ∧ fault.exitStatus = 6 := by
  refine ⟨?_, fun fault => failsIn_iff hpath hdir, fun phase fault hfails => ⟨fun hcode => ?_, ?_⟩,
    fun plugins schema unit hloads hbuilt made hmade cause hcause => ?_⟩
  · constructor
    · rintro ⟨fault, hfault, hthree⟩
      obtain ⟨phase, hfails⟩ := (failsIn_iff hpath hdir).mp hfault
      obtain rfl := hfails.exitStatus_eq_three_iff.mp hthree
      cases hfails with
      | @order plugins schema c trees _ hdeclares horder =>
        obtain ⟨groups, headers, hgroups, -⟩ := hdeclares.groups
        exact ⟨plugins, schema, c, trees, hdeclares, exists_buildGroups_iff.mp ⟨_, hgroups⟩,
          exists_orderTrees_error_iff.mp ⟨fault, horder⟩⟩
    · rintro ⟨plugins, schema, c, trees, hdeclares, -, hcycle⟩
      obtain ⟨fault, horder⟩ :
          ∃ fault, (orderTrees (namespaceName schema.name) trees).result = .error fault :=
        exists_orderTrees_error_iff.mpr hcycle
      have hfails := FailsIn.order hdeclares horder
      exact ⟨fault, (failsIn_iff hpath hdir).mpr ⟨_, hfails⟩,
        hfails.exitStatus_eq_three_iff.mpr rfl⟩
  · rcases hfails.of_failedPrecondition hcode with ⟨rfl, -⟩ | ⟨hphase, hrefusal⟩
    · exact .inl ⟨rfl, hfails.exitStatus_eq_three_iff.mpr rfl⟩
    · exact .inr ⟨hphase, hrefusal, hrefusal.exitStatus_eq⟩
  · rintro rfl
    cases hfails with
    | plugins _ _ hextend =>
      obtain ⟨plugin, struct, cause, rfl⟩ := CodeUnit.eq_pluginFailed_of_extend hextend
      rfl
  · refine ⟨_, (failsIn_iff hpath hdir).mpr ⟨.plugins, .plugins hloads hbuilt ?_⟩, rfl, rfl⟩
    rw [CodeUnit.extend_eq_error_iff]
    rw [Registry.madeCalls_eq_callsMade] at hmade
    exact runCalls_of_hook_error hmade hcause

/-! ### Two groups that need each other -/

/-- A schema file with two groups that have a member of each other's type. -/
def tangledStore : FileStore where
  files := [(["w", "K.schema.yaml"],
    "G:\n  Object Type: Data Group\n  Data Elements:\n    h:\n      Data Type: '\x7bH\x7d'\n" ++
    "H:\n  Object Type: Data Group\n  Data Elements:\n    g:\n      Data Type: '\x7bG\x7d'\n")]
  cwd := ["w"]

/-- That file. -/
def tangledRequest : Request := { schemaPath := "K.schema.yaml", outputDir := "out" }

theorem exit_status_of_single_tangled :
    trim tangledRequest.schemaPath ≠ "" ∧ trim tangledRequest.schemaDir = "" ∧
    ∃ fault, ((generate defaultRegistry tangledRequest).outcome tangledStore).2 = .error fault ∧
      fault.exitStatus = 3 ∧ fault.message = "declaration cycle detected involving: G, H" ∧
      ∃ plugins schema c trees,
        Declares defaultRegistry tangledRequest tangledStore plugins schema c trees ∧
        ∃ i, Relation.TransGen (MustPrecede trees) i i := by
  have hpath : trim tangledRequest.schemaPath ≠ "" := by decide
  have hdir : trim tangledRequest.schemaDir = "" := by decide
  have hview : (match ((generate defaultRegistry tangledRequest).outcome tangledStore).2 with
      | .ok _ => (0, "")
      | .error fault => (fault.exitStatus, fault.message)) =
        (3, "declaration cycle detected involving: G, H") := by
    decide +kernel
  split at hview
  next => cases hview
  next fault hfault =>
    obtain ⟨hthree, hmessage⟩ := Prod.mk.inj hview
    obtain ⟨plugins, schema, c, trees, hdeclares, -, hcycle⟩ :=
      (exit_status_of_single defaultRegistry tangledStore hpath hdir).1.mp ⟨fault, hfault, hthree⟩
    exact ⟨hpath, hdir, fault, hfault, hthree, hmessage, plugins, schema, c, trees, hdeclares,
      hcycle⟩

end SchemaGen
