import Mathlib.Data.List.Forall2
import SchemaGen.Proofs.Forest.Links
import SchemaGen.Proofs.Plugin.Additivity
import SchemaGen.Proofs.Tree.Outermost

/-!
# Which calls a run of plugins makes

The classes that plugins are called on are those that are not inside another class, and the bodies
those that are not inside another body, each kind in the order in which its tree is written. A
`Due` is a call as this order asks for it, and `Registry.schedule` the list of them.

The list is made twice. Classes are looked for before any call, and bodies when the classes are
done. So what a class hook does to the definitions counts for the bodies, although it is handed no
definition; where class hooks leave them alone, as the hooks of plugins do, all calls are fixed on
entry, and nothing that is added in the run is called on.

`calls_follow_schedule` is what can be relied on. A body inside a body is never called on:
`body_in_body_not_called`.
-/

set_option autoImplicit false

namespace SchemaGen

/-! ## Targets -/

/-- The nodes of a kind at and below a root that are not inside another of that kind. -/
def Forest.outermost {α : Type} (f : Forest α) (p : α → Bool) (root : NodeId) : List (Placed α) :=
  ((f.outline? root).map (Tree.outermost fun l => p l.value)).getD []

theorem Forest.of_mem_outermost {α : Type} {f : Forest α} {p : α → Bool} {root : NodeId}
    {l : Placed α} (h : l ∈ f.outermost p root) :
    f.value? l.id = some l.value ∧ p l.value = true := by
  unfold outermost at h
  cases ht : f.outline? root with
  | none =>
    rw [ht] at h
    cases h
  | some t =>
    rw [ht, Option.map_some, Option.getD_some] at h
    have hl : l ∈ t.labels := (Tree.outermost_sublist _ t).subset h
    exact ⟨(mem_outline_iff.mp ⟨t, ht, l, hl, rfl, rfl⟩).2,
      Tree.of_mem_outermost (p := fun l : Placed α => p l.value) h⟩

theorem Forest.isSome_find?_of_mem_outermost {α : Type} {f : Forest α} {p : α → Bool}
    {root : NodeId} {l : Placed α} (h : l ∈ f.outermost p root) : (f.find? l.id).isSome := by
  obtain ⟨e, he, -⟩ := exists_find?_of_value? (of_mem_outermost h).1
  exact Option.isSome_of_mem he

namespace World

mutual

theorem classesIn_eq_outermost : ∀ t : Tree (Placed Decl),
    classesIn t = t.outermost fun l => l.value.struct?.isSome
  | .node l cs => by rw [classesIn, Tree.outermost_node, classesInAll_eq_outermost cs]

theorem classesInAll_eq_outermost : ∀ ts : List (Tree (Placed Decl)),
    classesInAll ts = ts.flatMap (Tree.outermost fun l => l.value.struct?.isSome)
  | [] => rfl
  | t :: ts => by
    rw [classesInAll, List.flatMap_cons, classesIn_eq_outermost t, classesInAll_eq_outermost ts]

end

mutual

theorem functionsIn_eq_outermost : ∀ t : Tree (Placed Defn),
    functionsIn t = t.outermost fun l => l.value.isFunction
  | .node l cs => by rw [functionsIn, Tree.outermost_node, functionsInAll_eq_outermost cs]

theorem functionsInAll_eq_outermost : ∀ ts : List (Tree (Placed Defn)),
    functionsInAll ts = ts.flatMap (Tree.outermost fun l => l.value.isFunction)
  | [] => rfl
  | t :: ts => by
    rw [functionsInAll, List.flatMap_cons, functionsIn_eq_outermost t,
      functionsInAll_eq_outermost ts]

end

theorem classesBelow_eq (w : World) (root : NodeId) :
    w.classesBelow root = w.decls.outermost (·.struct?.isSome) root := by
  rw [classesBelow, Forest.outermost, funext classesIn_eq_outermost]

theorem functionsBelow_eq (w : World) (root : NodeId) :
    w.functionsBelow root = w.defns.outermost (·.isFunction) root := by
  rw [functionsBelow, Forest.outermost, funext functionsIn_eq_outermost]

/-- The role of the class at a node, if there is one. -/
def roleOf? (w : World) (node : NodeId) : Option Role :=
  ((w.decls.value? node).bind Decl.struct?).map (·.role)

/-- Classes keep their roles. -/
def KeepsRoles (w w' : World) : Prop :=
  ∀ node role, w.roleOf? node = some role → w'.roleOf? node = some role

theorem KeepsRoles.refl (w : World) : w.KeepsRoles w :=
  fun _ _ h => h

theorem KeepsRoles.trans {w w' w'' : World} (h : w.KeepsRoles w') (h' : w'.KeepsRoles w'') :
    w.KeepsRoles w'' :=
  fun node role hrole => h' node role (h node role hrole)

end World

/-! ## Calls that are due -/

/-- A call of a plugin that is due: on a class, or on a body of one of its functions. -/
structure Due where
  plugin : Plugin
  struct : NodeId
  body : Option NodeId

namespace Due

/-- The node that the call is to extend. -/
def target (d : Due) : TreeSide × NodeId :=
  match d.body with
  | none => (.declaration, d.struct)
  | some definition => (.implementation, definition)

/-- What the call does. -/
def hook (d : Due) : World → Act :=
  match d.body with
  | none => d.plugin.extendClass d.struct
  | some definition => d.plugin.extendFunction d.struct definition

/-- A call is the one that is due. -/
structure IsCall (d : Due) (call : HookCall) : Prop where
  plugin : call.plugin = d.plugin
  side : call.side = d.target.1
  hook : call.hook = d.hook

/-- The call that is due is made, and its class still has the role that the plugin is for. -/
structure MadeAs (d : Due) (made : HookCall × World) : Prop where
  isCall : d.IsCall made.1
  role : made.2.roleOf? d.struct = some d.plugin.role

end Due

/-- The call that is due, for a call on a class. -/
def ClassCall.due (call : ClassCall) : Due :=
  ⟨call.plugin, call.target, none⟩

/-- The call that is due, for a call on a body. -/
def FunctionCall.due (call : FunctionCall) : Due :=
  ⟨call.plugin, call.owner, some call.definition⟩

theorem ClassCall.isCall_due (call : ClassCall) : call.due.IsCall call.hookCall :=
  ⟨rfl, rfl, rfl⟩

theorem FunctionCall.isCall_due (call : FunctionCall) : call.due.IsCall call.hookCall :=
  ⟨rfl, rfl, rfl⟩

namespace Registry

/-- The plugins for the class at a node, in the order in which they were accepted. -/
def pluginsFor (r : Registry) (w : World) (node : NodeId) : List Plugin :=
  r.plugins.filter fun p => w.roleOf? node = some p.role

/-- The calls on classes. -/
def classDue (r : Registry) (roots : Roots) (w : World) : List Due :=
  (roots.decls.toList.flatMap (w.decls.outermost (·.struct?.isSome))).flatMap fun c =>
    (r.pluginsFor w c.id).map fun p => ⟨p, c.id, none⟩

/-- The calls on the bodies that have an owner. -/
def bodyDue (r : Registry) (roots : Roots) (w : World) : List Due :=
  (roots.defns.toList.flatMap (w.defns.outermost (·.isFunction))).flatMap fun b =>
    b.value.owner?.toList.flatMap fun owner =>
      (r.pluginsFor w owner).map fun p => ⟨p, owner, some b.id⟩

/-- All calls that are due, for the classes of one world and the bodies of another. -/
def schedule (r : Registry) (roots : Roots) (w w' : World) : List Due :=
  r.classDue roots w ++ r.bodyDue roots w'

theorem pluginsFor_struct (r : Registry) {w : World} {node : NodeId} {s : StructDecl}
    (h : w.decls.value? node = some (.struct s)) : r.pluginsFor w node = r.forRole s.role := by
  refine List.filter_congr fun p _ => ?_
  simp only [World.roleOf?, h, Option.bind_some, Decl.struct?, Option.map_some, Option.some.injEq]
  exact decide_eq_decide.mpr eq_comm

/-- What is no class has no plugins. -/
theorem pluginsFor_not_struct (r : Registry) {w : World} {node : NodeId}
    (h : ∀ s, w.decls.value? node ≠ some (.struct s)) : r.pluginsFor w node = [] := by
  have hrole : w.roleOf? node = none := by
    unfold World.roleOf?
    cases hvalue : w.decls.value? node with
    | none => rfl
    | some d =>
      cases d with
      | struct s => exact absurd hvalue (h s)
      | _ => rfl
  rw [pluginsFor, List.filter_eq_nil_iff]
  intro p _
  simp [hrole]

theorem map_due_classCalls (r : Registry) (roots : Roots) (w : World) :
    (r.classCalls w roots.decls).map ClassCall.due = r.classDue roots w := by
  have htargets : (roots.decls.map w.classesBelow).getD [] =
      roots.decls.toList.flatMap (w.decls.outermost (·.struct?.isSome)) := by
    rw [funext w.classesBelow_eq]
    cases roots.decls <;> simp
  rw [classCalls, classDue, htargets, List.map_flatMap]
  refine List.flatMap_congr fun c hc => ?_
  obtain ⟨root, -, hc⟩ := List.mem_flatMap.mp hc
  obtain ⟨hvalue, hclass⟩ := Forest.of_mem_outermost hc
  obtain ⟨s, hs⟩ := Option.isSome_iff_exists.mp hclass
  cases hdecl : c.value with
  | struct s' =>
    rw [hdecl] at hvalue
    rw [r.pluginsFor_struct hvalue, List.map_map]
    rfl
  | _ =>
    rw [hdecl] at hs
    cases hs

theorem map_due_functionCalls (r : Registry) (roots : Roots) (w : World) :
    (roots.defns.toList.flatMap (r.functionCalls w)).map FunctionCall.due = r.bodyDue roots w := by
  rw [bodyDue, List.flatMap_assoc, List.map_flatMap]
  refine List.flatMap_congr fun root _ => ?_
  rw [functionCalls, List.map_flatMap, World.functionsBelow_eq]
  refine List.flatMap_congr fun b _ => ?_
  cases b.value.owner? with
  | none => rfl
  | some owner =>
    rw [Option.toList_some, List.flatMap_singleton]
    dsimp only
    split
    next s hs =>
      rw [r.pluginsFor_struct hs, List.map_map]
      rfl
    next hother =>
      rw [r.pluginsFor_not_struct fun s hs => hother s hs]
      rfl

/-- **The calls of a run are those of the schedule.** -/
theorem isCall_hooks (r : Registry) (roots : Roots) (w : World) :
    List.Forall₂ Due.IsCall (r.classDue roots w) (r.classHooks roots w) ∧
      List.Forall₂ Due.IsCall (r.bodyDue roots w) (r.functionHooks roots w) := by
  rw [← map_due_classCalls, ← map_due_functionCalls, classHooks, functionHooks]
  simp only [List.forall₂_map_left_iff, List.forall₂_map_right_iff, List.forall₂_same]
  exact ⟨fun call _ => call.isCall_due, fun call _ => call.isCall_due⟩

theorem of_mem_pluginsFor {r : Registry} {w : World} {node : NodeId} {p : Plugin}
    (h : p ∈ r.pluginsFor w node) : p ∈ r.plugins ∧ w.roleOf? node = some p.role :=
  (List.mem_filter.mp h).imp_right of_decide_eq_true

theorem exists_of_mem_classDue {r : Registry} {roots : Roots} {w : World} {d : Due}
    (h : d ∈ r.classDue roots w) :
    ∃ root, ∃ c ∈ w.decls.outermost (·.struct?.isSome) root, ∃ p ∈ r.pluginsFor w c.id,
      d = ⟨p, c.id, none⟩ := by
  obtain ⟨c, hc, hd⟩ := List.mem_flatMap.mp h
  obtain ⟨root, -, hc⟩ := List.mem_flatMap.mp hc
  obtain ⟨p, hp, rfl⟩ := List.mem_map.mp hd
  exact ⟨root, c, hc, p, hp, rfl⟩

theorem exists_of_mem_bodyDue {r : Registry} {roots : Roots} {w : World} {d : Due}
    (h : d ∈ r.bodyDue roots w) :
    ∃ root, ∃ b ∈ w.defns.outermost (·.isFunction) root, ∃ owner, ∃ p ∈ r.pluginsFor w owner,
      d = ⟨p, owner, some b.id⟩ := by
  obtain ⟨b, hb, hd⟩ := List.mem_flatMap.mp h
  obtain ⟨root, -, hb⟩ := List.mem_flatMap.mp hb
  obtain ⟨owner, -, hd⟩ := List.mem_flatMap.mp hd
  obtain ⟨p, hp, rfl⟩ := List.mem_map.mp hd
  exact ⟨root, b, hb, owner, p, hp, rfl⟩

/-- A call is due for the plugins of a registry only, and only on a class of their role. -/
theorem of_mem_classDue {r : Registry} {roots : Roots} {w : World} {d : Due}
    (h : d ∈ r.classDue roots w) :
    d.plugin ∈ r.plugins ∧ w.roleOf? d.struct = some d.plugin.role := by
  obtain ⟨_, c, -, p, hp, rfl⟩ := exists_of_mem_classDue h
  exact of_mem_pluginsFor hp

theorem of_mem_bodyDue {r : Registry} {roots : Roots} {w : World} {d : Due}
    (h : d ∈ r.bodyDue roots w) :
    d.plugin ∈ r.plugins ∧ w.roleOf? d.struct = some d.plugin.role := by
  obtain ⟨_, b, -, owner, p, hp, rfl⟩ := exists_of_mem_bodyDue h
  exact of_mem_pluginsFor hp

end Registry

/-! ## The calls of a run -/

/-- The hooks of a plugin leave every class its role. -/
structure Plugin.KeepsRoles (p : Plugin) : Prop where
  onClass : ∀ target (w : World), w.KeepsRoles (p.extendClass target w).1
  onBody : ∀ owner definition (w : World), w.KeepsRoles (p.extendFunction owner definition w).1

theorem Due.keepsRoles_hook {d : Due} (h : d.plugin.KeepsRoles) (w : World) :
    w.KeepsRoles (d.hook w).1 := by
  unfold Due.hook
  cases d.body with
  | none => exact h.onClass d.struct w
  | some definition => exact h.onBody d.struct definition w

/-- **What a run makes of the calls that are due**: the first of them, in order, and all of them if
it succeeds. Roles that hold when the run begins hold when each call is made. -/
theorem exists_madeAs_callsMade (roots : Roots) {due : List Due} {calls : List HookCall}
    (h : List.Forall₂ Due.IsCall due calls) : ∀ {w : World},
      (∀ d ∈ due, d.plugin.KeepsRoles ∧ w.roleOf? d.struct = some d.plugin.role) →
        ∃ start rest, due = start ++ rest ∧
          List.Forall₂ Due.MadeAs start (callsMade roots calls w) ∧
          ((runCalls roots calls w).2 = .ok () → rest = []) := by
  induction h with
  | nil => exact fun _ => ⟨[], [], rfl, .nil, fun _ => rfl⟩
  | @cons d call due calls hcall hrest ih =>
    intro w hdue
    obtain ⟨hkeeps, hrole⟩ := hdue d List.mem_cons_self
    have hmade : d.MadeAs (call, w) := ⟨hcall, hrole⟩
    by_cases hwell : call.GoesWell roots w
    · obtain ⟨hrun, hcalls⟩ := run_cons_of_goesWell hwell calls
      obtain ⟨start, rest, rfl, hstart, hall⟩ := ih (w := (call.hook w).1) fun d' hd' => by
        obtain ⟨hkeeps', hrole'⟩ := hdue d' (List.mem_cons_of_mem d hd')
        rw [hcall.hook]
        exact ⟨hkeeps', Due.keepsRoles_hook hkeeps w _ _ hrole'⟩
      rw [hrun, hcalls]
      exact ⟨d :: start, rest, rfl, .cons hmade hstart, hall⟩
    · obtain ⟨⟨cause, hrun⟩, hcalls⟩ := run_cons_of_not_goesWell hwell calls
      rw [hrun, hcalls]
      exact ⟨[d], due, rfl, .cons hmade .nil, fun hok => by cases hok⟩

/-- A run that fails does so at the last call that it makes. -/
theorem exists_last_of_runCalls_eq_error {roots : Roots} : ∀ {calls : List HookCall} {w : World}
    {fault : Fault}, (runCalls roots calls w).2 = .error fault →
      ∃ earlier last cause, callsMade roots calls w = earlier ++ [last] ∧
        (∀ made ∈ earlier, made.1.GoesWell roots made.2) ∧
        ¬ last.1.GoesWell roots last.2 ∧
        fault = .pluginFailed last.1.plugin.name last.1.struct cause
  | [], _, _, h => by cases h
  | call :: rest, w, fault, h => by
    by_cases hwell : call.GoesWell roots w
    · obtain ⟨hrun, hcalls⟩ := run_cons_of_goesWell hwell rest
      rw [hrun] at h
      obtain ⟨earlier, last, cause, hmade, hearlier, hlast, hfault⟩ :=
        exists_last_of_runCalls_eq_error h
      refine ⟨(call, w) :: earlier, last, cause, by rw [hcalls, hmade]; rfl, ?_, hlast, hfault⟩
      intro made hmem
      rcases List.mem_cons.mp hmem with rfl | hmem
      · exact hwell
      · exact hearlier made hmem
    · obtain ⟨⟨cause, hrun⟩, hcalls⟩ := run_cons_of_not_goesWell hwell rest
      rw [hrun] at h
      exact ⟨[], (call, w), cause, hcalls, List.forall_mem_nil _, hwell, (Except.error.inj h).symm⟩

namespace Registry

/-- All calls that a run comes to are those of the schedule. -/
theorem isCall_schedule (r : Registry) (roots : Roots) (w : World) :
    List.Forall₂ Due.IsCall (r.schedule roots w (r.afterClasses roots w)) (r.hooks roots w) :=
  List.rel_append (r.isCall_hooks roots w).1 (r.isCall_hooks roots (r.afterClasses roots w)).2

theorem exists_due_of_mem_hooks {r : Registry} {roots : Roots} {w : World} {call : HookCall}
    (h : call ∈ r.hooks roots w) :
    ∃ d ∈ r.schedule roots w (r.afterClasses roots w), d.IsCall call := by
  obtain ⟨i, hi, rfl⟩ := List.getElem_of_mem h
  have hcalls := List.forall₂_iff_get.mp (r.isCall_schedule roots w)
  have hi' : i < (r.schedule roots w (r.afterClasses roots w)).length := hcalls.1 ▸ hi
  exact ⟨_, List.getElem_mem hi', hcalls.2 i hi' hi⟩

theorem plugin_mem_of_mem_schedule {r : Registry} {roots : Roots} {w w' : World} {d : Due}
    (h : d ∈ r.schedule roots w w') : d.plugin ∈ r.plugins := by
  rcases List.mem_append.mp h with h | h
  · exact (of_mem_classDue h).1
  · exact (of_mem_bodyDue h).1

/-- The world that the classes are left in keeps what every class hook keeps. -/
theorem rel_afterClasses {R : World → World → Prop} (hrefl : ∀ w, R w w)
    (htrans : ∀ {w w' w''}, R w w' → R w' w'' → R w w'') {r : Registry} (roots : Roots)
    (hplugins : ∀ p ∈ r.plugins, ∀ target w, R w (p.extendClass target w).1) (w : World) :
    R w (r.afterClasses roots w) := by
  refine rel_runCalls hrefl htrans fun made hmade => ?_
  obtain ⟨call, hcall, hmake⟩ := List.mem_map.mp (mem_of_mem_callsMade hmade)
  have hdue : call.due ∈ r.classDue roots w :=
    r.map_due_classCalls roots w ▸ List.mem_map_of_mem hcall
  rw [← hmake]
  exact hplugins call.plugin (of_mem_classDue hdue).1 call.target made.2

end Registry

/-- **What a run of a registry makes of its schedule.** -/
theorem exists_madeAs_madeCalls {r : Registry} (hroles : ∀ p ∈ r.plugins, p.KeepsRoles)
    (roots : Roots) (w : World) :
    ∃ start rest, r.schedule roots w (r.afterClasses roots w) = start ++ rest ∧
      List.Forall₂ Due.MadeAs start (r.madeCalls roots w) ∧
      ((r.apply roots.decls roots.defns w).2.result = .ok () → rest = []) := by
  obtain ⟨start, rest, hdue, hstart, hall⟩ :=
    exists_madeAs_callsMade roots (r.isCall_hooks roots w).1 (w := w) fun d hd =>
      (Registry.of_mem_classDue hd).imp_left (hroles d.plugin)
  rw [apply_result, Registry.hooks, runCalls_append, Registry.madeCalls, Registry.schedule, hdue]
  cases hclasses : (runCalls roots (r.classHooks roots w) w).2 with
  | error fault =>
    rw [List.append_nil, List.append_assoc]
    exact ⟨start, _, rfl, hstart, fun hok => by cases hok⟩
  | ok u =>
    obtain ⟨start', rest', hdue', hstart', hall'⟩ :=
      exists_madeAs_callsMade roots (r.isCall_hooks roots (r.afterClasses roots w)).2
        (w := r.afterClasses roots w) fun d hd =>
          (Registry.of_mem_bodyDue hd).imp_left (hroles d.plugin)
    rw [hall hclasses, List.append_nil, hdue', ← List.append_assoc]
    exact ⟨start ++ start', rest', rfl, List.rel_append hstart hstart', hall'⟩

/-! ## A schedule that is fixed on entry -/

namespace World

/-- The children of a node of one of the two trees. -/
def childrenAt (w : World) : TreeSide × NodeId → List NodeId
  | (.declaration, id) => w.decls.children id
  | (.implementation, id) => w.defns.children id

/-- There is such a node. -/
def Has (w : World) : TreeSide × NodeId → Prop
  | (.declaration, id) => (w.decls.find? id).isSome
  | (.implementation, id) => (w.defns.find? id).isSome

instance (w : World) : (node : TreeSide × NodeId) → Decidable (w.Has node)
  | (.declaration, id) => inferInstanceAs (Decidable ((w.decls.find? id).isSome = true))
  | (.implementation, id) => inferInstanceAs (Decidable ((w.defns.find? id).isSome = true))

/-- Whatever is owned is owned by a class. -/
def OwnersAreClasses (w : World) : Prop :=
  ∀ e ∈ w.defns.entries, ∀ owner ∈ e.value.owner?, (w.roleOf? owner).isSome

instance (w : World) : Decidable w.OwnersAreClasses :=
  inferInstanceAs (Decidable (∀ e ∈ w.defns.entries, ∀ owner ∈ e.value.owner?,
    (w.roleOf? owner).isSome = true))

end World

namespace Registry

theorem pluginsFor_of_keepsRoles (r : Registry) {w w' : World} {node : NodeId}
    (hclass : (w.roleOf? node).isSome) (h : w.KeepsRoles w') :
    r.pluginsFor w' node = r.pluginsFor w node := by
  obtain ⟨role, hrole⟩ := Option.isSome_iff_exists.mp hclass
  rw [pluginsFor, pluginsFor, hrole, h node role hrole]

theorem bodyDue_of_keepsRoles (r : Registry) (roots : Roots) {w w' : World}
    (howners : w.OwnersAreClasses) (hroles : w.KeepsRoles w') (hdefns : w'.defns = w.defns) :
    r.bodyDue roots w' = r.bodyDue roots w := by
  rw [bodyDue, bodyDue, hdefns]
  refine List.flatMap_congr fun b hb => List.flatMap_congr fun owner howner => ?_
  obtain ⟨root, -, hb⟩ := List.mem_flatMap.mp hb
  obtain ⟨e, he, hvalue⟩ := Forest.exists_find?_of_value? (Forest.of_mem_outermost hb).1
  have hclass : (w.roleOf? owner).isSome :=
    howners e (List.mem_of_find?_eq_some he) owner (hvalue ▸ Option.mem_toList.mp howner)
  rw [r.pluginsFor_of_keepsRoles hclass hroles]

/-- What is called on is there when the calls are listed. -/
theorem has_target_of_mem_schedule {r : Registry} {roots : Roots} {w : World} {d : Due}
    (h : d ∈ r.schedule roots w w) : w.Has d.target := by
  rcases List.mem_append.mp h with h | h
  · obtain ⟨_, c, hc, p, -, rfl⟩ := exists_of_mem_classDue h
    exact Forest.isSome_find?_of_mem_outermost hc
  · obtain ⟨_, b, hb, owner, p, -, rfl⟩ := exists_of_mem_bodyDue h
    exact Forest.isSome_find?_of_mem_outermost hb

/-- **Where class hooks leave the definitions alone, all calls are fixed on entry.** -/
theorem schedule_of_leavesDefinitions {r : Registry} (roots : Roots) {w : World}
    (hroles : ∀ p ∈ r.plugins, p.KeepsRoles) (hreach : ∀ p ∈ r.plugins, p.LeavesDefinitions)
    (howners : w.OwnersAreClasses) :
    r.schedule roots w (r.afterClasses roots w) = r.schedule roots w w := by
  have hkeeps : w.KeepsRoles (r.afterClasses roots w) :=
    rel_afterClasses World.KeepsRoles.refl World.KeepsRoles.trans roots
      (fun p hp => (hroles p hp).onClass) w
  have hdefns : (r.afterClasses roots w).defns = w.defns :=
    rel_afterClasses (R := fun w w' => w'.defns = w.defns) (fun _ => rfl)
      (fun h h' => h'.trans h) roots hreach w
  rw [schedule, schedule, r.bodyDue_of_keepsRoles roots howners hkeeps hdefns]

end Registry

/-! ## What a run adds -/

/-- All nodes of a forest are kept with their children, and only the target, if there is one, may
have gained some, behind those that it had. -/
def Forest.GrowsAt {α : Type} (target : Option NodeId) (f f' : Forest α) : Prop :=
  ∀ id, (f.find? id).isSome → (f'.find? id).isSome ∧ f.children id <+: f'.children id ∧
    (target ≠ some id → f'.children id = f.children id)

/-- Growth is no loss. -/
theorem Forest.GrowsAt.keeps {α : Type} {target : Option NodeId} {f f' : Forest α}
    (h : f.GrowsAt target f') (root : NodeId) : Keeps root f f' := by
  intro id _
  cases hid : f.find? id with
  | none =>
    rw [children, hid]
    exact List.nil_prefix
  | some e => exact (h id (Option.isSome_of_mem hid)).2.1

/-- One of the two forests grows at the target, and nothing is added to a node of the other. -/
def World.GrowsAt : TreeSide × NodeId → World → World → Prop
  | (.declaration, id), w, w' =>
    w.decls.GrowsAt (some id) w'.decls ∧ w.defns.GrowsAt none w'.defns
  | (.implementation, id), w, w' =>
    w.decls.GrowsAt none w'.decls ∧ w.defns.GrowsAt (some id) w'.defns

theorem World.GrowsAt.keeps {target : TreeSide × NodeId} {w w' : World}
    (h : World.GrowsAt target w w') (roots : Roots) (side : TreeSide) : roots.Keeps side w w' := by
  obtain ⟨_ | _, t⟩ := target <;> cases side
  · exact fun root _ => h.1.keeps root
  · exact fun root _ => h.2.keeps root
  · exact fun root _ => h.1.keeps root
  · exact fun root _ => h.2.keeps root

theorem World.GrowsAt.node {target node : TreeSide × NodeId} {w w' : World}
    (h : World.GrowsAt target w w') (hnode : w.Has node) :
    w'.Has node ∧ w.childrenAt node <+: w'.childrenAt node ∧
      (target ≠ node → w'.childrenAt node = w.childrenAt node) := by
  have hsame (side : TreeSide) {a b : NodeId} (hne : (side, a) ≠ (side, b)) : some a ≠ some b :=
    fun heq => hne (by rw [Option.some.inj heq])
  obtain ⟨_ | _, t⟩ := target <;> obtain ⟨_ | _, id⟩ := node
  · exact (h.1 id hnode).imp_right (And.imp_right fun hold hne => hold (hsame _ hne))
  · exact (h.2 id hnode).imp_right (And.imp_right fun hold _ => hold (Option.some_ne_none id).symm)
  · exact (h.1 id hnode).imp_right (And.imp_right fun hold _ => hold (Option.some_ne_none id).symm)
  · exact (h.2 id hnode).imp_right (And.imp_right fun hold hne => hold (hsame _ hne))

/-- The hooks of a plugin only append to the target that they are handed. -/
structure Plugin.OnlyAppends (p : Plugin) : Prop where
  onClass : ∀ target w, World.GrowsAt (.declaration, target) w (p.extendClass target w).1
  onBody : ∀ owner definition w,
    World.GrowsAt (.implementation, definition) w (p.extendFunction owner definition w).1

theorem Due.growsAt_hook {d : Due} (h : d.plugin.OnlyAppends) (w : World) :
    World.GrowsAt d.target w (d.hook w).1 := by
  unfold Due.target Due.hook
  cases d.body with
  | none => exact h.onClass d.struct w
  | some definition => exact h.onBody d.struct definition w

/-- The children that a call has added to a node. -/
def addedAt (node : TreeSide × NodeId) (made : HookCall × World) : List NodeId :=
  ((made.1.hook made.2).1.childrenAt node).drop (made.2.childrenAt node).length

theorem childrenAt_hook {node : TreeSide × NodeId} {call : HookCall} {w : World}
    (h : w.childrenAt node <+: (call.hook w).1.childrenAt node) :
    (call.hook w).1.childrenAt node = w.childrenAt node ++ addedAt node (call, w) :=
  (List.prefix_iff_eq_append.mp h).symm

/-- **What a run of calls adds**: to each node what the calls on it add, one after another. -/
theorem childrenAt_runCalls {roots : Roots} {due : List Due} {calls : List HookCall}
    (h : List.Forall₂ Due.IsCall due calls) (node : TreeSide × NodeId) : ∀ {w : World},
      (∀ d ∈ due, d.plugin.OnlyAppends) → w.Has node →
        (runCalls roots calls w).1.childrenAt node = w.childrenAt node ++
          ((due.zip (callsMade roots calls w)).filter (·.1.target = node)).flatMap
            fun x => addedAt node x.2 := by
  induction h with
  | nil => exact fun _ _ => (List.append_nil _).symm
  | @cons d call due calls hcall hrest ih =>
    intro w hplugins hnode
    have hgrows : World.GrowsAt d.target w (call.hook w).1 :=
      hcall.hook ▸ Due.growsAt_hook (hplugins d List.mem_cons_self) w
    obtain ⟨hkept, hold, hothers⟩ := hgrows.node hnode
    have hfirst : (call.hook w).1.childrenAt node =
        w.childrenAt node ++ if d.target = node then addedAt node (call, w) else [] := by
      split
      next htarget => exact childrenAt_hook hold
      next htarget => rw [hothers htarget, List.append_nil]
    have hzip (made : List (HookCall × World)) :
        (((d :: due).zip ((call, w) :: made)).filter (·.1.target = node)).flatMap
            (fun x => addedAt node x.2) =
          (if d.target = node then addedAt node (call, w) else []) ++
            ((due.zip made).filter (·.1.target = node)).flatMap fun x => addedAt node x.2 := by
      rw [List.zip_cons_cons, List.filter_cons]
      by_cases htarget : d.target = node <;> simp [htarget]
    by_cases hwell : call.GoesWell roots w
    · obtain ⟨hrun, hcalls⟩ := run_cons_of_goesWell hwell calls
      rw [hrun, hcalls, hzip, ih (fun d' hd' => hplugins d' (List.mem_cons_of_mem d hd')) hkept,
        hfirst, List.append_assoc]
    · obtain ⟨⟨cause, hrun⟩, hcalls⟩ := run_cons_of_not_goesWell hwell calls
      rw [hrun, hcalls, hzip, hfirst]
      simp

/-- A run whose hooks only append fails for no other reason than that a hook fails. -/
theorem apply_eq_ok_of_onlyAppends {r : Registry} {roots : Roots} {w : World}
    (happend : ∀ p ∈ r.plugins, p.OnlyAppends)
    (hok : ∀ made ∈ r.madeCalls roots w, (made.1.hook made.2).2 = .ok ()) :
    (r.apply roots.decls roots.defns w).2.result = .ok () := by
  refine apply_eq_ok_iff.mpr fun made hmade => ⟨hok made hmade, ?_⟩
  rw [Registry.madeCalls_eq_callsMade] at hmade
  have hcall : made.1 ∈ r.hooks roots w := mem_of_mem_callsMade hmade
  obtain ⟨d, hd, hdue⟩ := Registry.exists_due_of_mem_hooks hcall
  rw [hdue.hook]
  exact (Due.growsAt_hook (happend d.plugin (Registry.plugin_mem_of_mem_schedule hd)) made.2).keeps
    roots made.1.side

/-! ## The calls that a registry makes -/

/-- **The calls that a run of a registry makes.** They are due on the classes that are not inside
another class, and then on the bodies with an owner that are not inside another body, as the class
hooks leave them: for each one call of every plugin of the role, in the order of the registry. A run
that succeeds makes all these calls, and one that fails those up to the first that does not go well.
Where class hooks leave the definitions alone, the calls are those that are due on entry, so nothing
that is added in the run is called on. Where hooks only append to their targets, every node ends
with the children that it had and behind them what the calls on it added, call by call. -/
theorem calls_follow_schedule (r : Registry) (roots : Roots) (w : World)
    (hroles : ∀ p ∈ r.plugins, p.KeepsRoles) :
    ((r.apply roots.decls roots.defns w).2.result = .ok () →
      List.Forall₂ Due.MadeAs (r.schedule roots w (r.afterClasses roots w))
        (r.madeCalls roots w)) ∧
    (∀ fault, (r.apply roots.decls roots.defns w).2.result = .error fault →
      ∃ start rest earlier last cause,
        r.schedule roots w (r.afterClasses roots w) = start ++ rest ∧
        List.Forall₂ Due.MadeAs start (r.madeCalls roots w) ∧
        r.madeCalls roots w = earlier ++ [last] ∧
        (∀ made ∈ earlier, made.1.GoesWell roots made.2) ∧
        ¬ last.1.GoesWell roots last.2 ∧
        fault = .pluginFailed last.1.plugin.name last.1.struct cause) ∧
    ((∀ p ∈ r.plugins, p.LeavesDefinitions) → w.OwnersAreClasses →
      r.schedule roots w (r.afterClasses roots w) = r.schedule roots w w ∧
      ∀ d ∈ r.schedule roots w w, w.Has d.target) ∧
    ((∀ p ∈ r.plugins, p.OnlyAppends) →
      (∀ node, w.Has node →
        (r.apply roots.decls roots.defns w).1.childrenAt node = w.childrenAt node ++
          (((r.schedule roots w (r.afterClasses roots w)).zip (r.madeCalls roots w)).filter
            (·.1.target = node)).flatMap fun x => addedAt node x.2) ∧
      ((∀ made ∈ r.madeCalls roots w, (made.1.hook made.2).2 = .ok ()) →
        (r.apply roots.decls roots.defns w).2.result = .ok ())) := by
  obtain ⟨start, rest, hdue, hstart, hall⟩ := exists_madeAs_madeCalls hroles roots w
  refine ⟨fun hok => ?_, fun fault hfault => ?_, fun hreach howners => ?_, fun happend => ?_⟩
  · rw [hdue, hall hok, List.append_nil]
    exact hstart
  · rw [apply_result] at hfault
    obtain ⟨earlier, last, cause, hmade, hlast⟩ := exists_last_of_runCalls_eq_error hfault
    rw [← Registry.madeCalls_eq_callsMade] at hmade
    exact ⟨start, rest, earlier, last, cause, hdue, hstart, hmade, hlast⟩
  · exact ⟨Registry.schedule_of_leavesDefinitions roots hroles hreach howners,
      fun d hd => Registry.has_target_of_mem_schedule hd⟩
  · refine ⟨fun node hnode => ?_, apply_eq_ok_of_onlyAppends happend⟩
    rw [apply_world, Registry.madeCalls_eq_callsMade]
    exact childrenAt_runCalls (r.isCall_schedule roots w) node
      (fun d hd => happend d.plugin (Registry.plugin_mem_of_mem_schedule hd)) hnode

/-! ## Plugins that add one node for each call -/

theorem World.keepsRoles_of_value? {w w' : World}
    (h : ∀ id, (w.decls.find? id).isSome → w'.decls.value? id = w.decls.value? id) :
    w.KeepsRoles w' := by
  intro node role hrole
  have hnode : (w.decls.find? node).isSome := by
    cases hfind : w.decls.find? node with
    | some e => rfl
    | none => simp [roleOf?, Forest.value?, hfind] at hrole
  rw [roleOf?, h node hnode]
  exact hrole

/-- A new declaration stays alone, or it becomes the last child of the target. -/
theorem appendNew_cases (target : NodeId) (d : Decl) (w : World) :
    (appendNew target d w).1 = { w with decls := (w.decls.create none d).1 } ∨
    (appendNew target d w).1 =
      { w with decls := (w.decls.create none d).1.link target w.decls.next } := by
  unfold appendNew World.append
  dsimp only
  split
  · exact Or.inl rfl
  · exact Or.inr rfl

theorem appendNewDefn_cases (definition : NodeId) (d : Defn) (w : World) :
    (PluginScript.appendNewDefn definition d w).1 =
      { w with defns := (w.defns.create none d).1 } ∨
    (PluginScript.appendNewDefn definition d w).1 =
      { w with defns := (w.defns.create none d).1.link definition w.defns.next } := by
  unfold PluginScript.appendNewDefn World.appendDefn
  dsimp only
  split
  · exact Or.inl rfl
  · split
    · exact Or.inl rfl
    · exact Or.inr rfl

namespace Forest

variable {α : Type} (f : Forest α)

theorem growsAt_refl (target : Option NodeId) : f.GrowsAt target f :=
  fun _ hid => ⟨hid, List.prefix_rfl, fun _ => rfl⟩

theorem growsAt_create (target : Option NodeId) (v : α) :
    f.GrowsAt target (f.create none v).1 := by
  intro id hid
  rw [children, children, find?_create_of_isSome hid]
  exact ⟨hid, List.prefix_rfl, fun _ => rfl⟩

theorem growsAt_link (target child : NodeId) : f.GrowsAt (some target) (f.link target child) := by
  intro id hid
  rw [children_link_of_isSome hid, find?_link, Option.isSome_map]
  refine ⟨hid, List.prefix_append _ _, fun hne => ?_⟩
  rw [if_neg fun heq => hne (congrArg some heq.symm), List.append_nil]

variable {f}

theorem GrowsAt.trans {target : Option NodeId} {f' f'' : Forest α} (h : f.GrowsAt target f')
    (h' : f'.GrowsAt target f'') : f.GrowsAt target f'' := by
  intro id hid
  obtain ⟨hkept, hprefix, hsame⟩ := h id hid
  obtain ⟨hkept', hprefix', hsame'⟩ := h' id hkept
  exact ⟨hkept', hprefix.trans hprefix', fun hne => (hsame' hne).trans (hsame hne)⟩

end Forest

theorem growsAt_appendNew (target : NodeId) (d : Decl) (w : World) :
    World.GrowsAt (.declaration, target) w (appendNew target d w).1 := by
  have hcreate := w.decls.growsAt_create (some target) d
  rcases appendNew_cases target d w with h | h
  · rw [h]
    exact ⟨hcreate, w.defns.growsAt_refl none⟩
  · rw [h]
    exact ⟨hcreate.trans (Forest.growsAt_link _ target _), w.defns.growsAt_refl none⟩

theorem growsAt_appendNewDefn (definition : NodeId) (d : Decl) (d' : Defn) (w : World) :
    World.GrowsAt (.implementation, definition) w
      (PluginScript.appendNewDefn definition d'
        { w with decls := (w.decls.create none d).1 }).1 := by
  have hcreate := w.defns.growsAt_create (some definition) d'
  rcases appendNewDefn_cases definition d' { w with decls := (w.decls.create none d).1 } with h | h
  · rw [h]
    exact ⟨w.decls.growsAt_create none d, hcreate⟩
  · rw [h]
    exact ⟨w.decls.growsAt_create none d, hcreate.trans (Forest.growsAt_link _ definition _)⟩

theorem keepsRoles_appendNew (target : NodeId) (d : Decl) (w : World) :
    w.KeepsRoles (appendNew target d w).1 := by
  refine World.keepsRoles_of_value? fun id hid => ?_
  rcases appendNew_cases target d w with h | h
  · rw [h, Forest.value?_create_of_isSome hid]
  · rw [h, Forest.value?_link, Forest.value?_create_of_isSome hid]

theorem keepsRoles_appendNewDefn (definition : NodeId) (d : Decl) (d' : Defn) (w : World) :
    w.KeepsRoles (PluginScript.appendNewDefn definition d'
      { w with decls := (w.decls.create none d).1 }).1 := by
  refine World.keepsRoles_of_value? fun id hid => ?_
  rcases appendNewDefn_cases definition d' { w with decls := (w.decls.create none d).1 } with h | h
  · rw [h, Forest.value?_create_of_isSome hid]
  · rw [h, Forest.value?_create_of_isSome hid]

/-- Each hook of a plugin adds one new node below its target; the one for bodies may make a new
declaration for it. -/
structure Plugin.AddsOne (p : Plugin) : Prop where
  onClass : ∀ target w, ∃ d, p.extendClass target w = appendNew target d w
  onBody : ∀ owner definition w, ∃ d d', p.extendFunction owner definition w =
    PluginScript.appendNewDefn definition d' { w with decls := (w.decls.create none d).1 }

namespace Plugin.AddsOne

variable {p : Plugin}

theorem keepsRoles (h : p.AddsOne) : p.KeepsRoles where
  onClass target w := by
    obtain ⟨d, hd⟩ := h.onClass target w
    exact hd ▸ keepsRoles_appendNew target d w
  onBody owner definition w := by
    obtain ⟨d, d', hd⟩ := h.onBody owner definition w
    exact hd ▸ keepsRoles_appendNewDefn definition d d' w

theorem onlyAppends (h : p.AddsOne) : p.OnlyAppends where
  onClass target w := by
    obtain ⟨d, hd⟩ := h.onClass target w
    exact hd ▸ growsAt_appendNew target d w
  onBody owner definition w := by
    obtain ⟨d, d', hd⟩ := h.onBody owner definition w
    exact hd ▸ growsAt_appendNewDefn definition d d' w

theorem leavesDefinitions (h : p.AddsOne) : p.LeavesDefinitions := by
  intro target w
  obtain ⟨d, hd⟩ := h.onClass target w
  rw [hd]
  rcases appendNew_cases target d w with h | h <;> rw [h]

end Plugin.AddsOne

theorem addsOne_markingPlugin : markingPlugin.AddsOne where
  onClass _ _ := ⟨_, rfl⟩
  onBody _ _ _ := ⟨_, _, rfl⟩

/-- A plugin that adds a class of its own role to each class. -/
def nestingPlugin : Plugin :=
  { name := "nest", role := .gridVariables, onClass := "struct", onFunction := "marker" :
    PluginScript }.plugin

theorem addsOne_nestingPlugin : nestingPlugin.AddsOne where
  onClass _ _ := ⟨_, rfl⟩
  onBody _ _ _ := ⟨_, _, rfl⟩

/-- Two plugins of one role. -/
def gridRegistry : Registry :=
  ⟨[nestingPlugin, markingPlugin]⟩

theorem addsOne_of_mem_gridRegistry : ∀ p ∈ gridRegistry.plugins, p.AddsOne := by
  simp only [gridRegistry, List.forall_mem_cons]
  exact ⟨addsOne_nestingPlugin, addsOne_markingPlugin, List.forall_mem_nil _⟩

/-- A run of two plugins, one of which adds a class of its own role. It makes four calls, none of
them on the new class, and the class and its body end with what was added to them in this order. -/
theorem calls_follow_schedule_nesting :
    (∀ p ∈ gridRegistry.plugins, p.KeepsRoles) ∧
    (gridRegistry.schedule gridRoots gridWorld gridWorld).length = 4 ∧
    List.Forall₂ Due.MadeAs (gridRegistry.schedule gridRoots gridWorld gridWorld)
      (gridRegistry.madeCalls gridRoots gridWorld) ∧
    (gridRegistry.apply gridRoots.decls gridRoots.defns gridWorld).1.childrenAt (.declaration, 1) =
      [2, 3] ++ [4] ++ [5] ∧
    (gridRegistry.apply gridRoots.decls gridRoots.defns gridWorld).1.roleOf? 4 =
      some .gridVariables := by
  have hroles : ∀ p ∈ gridRegistry.plugins, p.KeepsRoles :=
    fun p hp => (addsOne_of_mem_gridRegistry p hp).keepsRoles
  obtain ⟨hmade, -, hfixed, hadded⟩ :=
    calls_follow_schedule gridRegistry gridRoots gridWorld hroles
  obtain ⟨hchildren, hok⟩ := hadded fun p hp => (addsOne_of_mem_gridRegistry p hp).onlyAppends
  obtain ⟨hschedule, -⟩ := hfixed (fun p hp => (addsOne_of_mem_gridRegistry p hp).leavesDefinitions)
    (by decide +kernel)
  have hhooks : (gridRegistry.madeCalls gridRoots gridWorld).all
      (fun made => (made.1.hook made.2).2.toOption.isSome) = true := by
    decide +kernel
  have hresult := hok fun made hmem =>
    eq_ok_of_toOption (Option.eq_some_of_isSome (List.all_eq_true.mp hhooks made hmem))
  refine ⟨hroles, by decide +kernel, hschedule ▸ hmade hresult, ?_, by decide +kernel⟩
  rw [hchildren (.declaration, 1) (by decide +kernel), hschedule]
  decide +kernel

/-! ## Bodies without a call, and with one call more -/

/-- A function body with another body of the same owner in it. -/
def nestedDefns : Tree (Tree.Numbered Defn) :=
  .node ⟨0, .scope 0⟩ [.node ⟨1, .function 2 (some 1)⟩ [.leaf ⟨2, .function 2 (some 1)⟩]]

/-- The class of grid variables with these bodies. -/
def nestedWorld : World where
  decls := ({} : Forest Decl).plant gridDecls
  defns := ({} : Forest Defn).plant nestedDefns

/-- A plugin whose hook for classes adds a function body to the namespace. -/
def bodyAddingPlugin : Plugin where
  name := "bodies"
  role := .gridVariables
  extendClass target w := PluginScript.appendNewDefn 0 (.function 2 (some target)) w
  extendFunction _ _ w := (w, .ok ())

theorem keepsRoles_bodyAddingPlugin : bodyAddingPlugin.KeepsRoles where
  onClass target w := by
    show w.KeepsRoles (PluginScript.appendNewDefn 0 (.function 2 (some target)) w).1
    rcases appendNewDefn_cases 0 (.function 2 (some target)) w with h | h
    · exact h ▸ World.KeepsRoles.refl w
    · exact h ▸ World.KeepsRoles.refl w
  onBody _ _ w := World.KeepsRoles.refl w

/-- **A body inside a body is not called on**, although it has an owner: of two bodies one call is
made, and only the outer one gains what the plugin adds. And **a body is called on that was not
there on entry**, where a class hook adds one: of one body two calls are made. -/
theorem body_in_body_not_called :
    ((∀ p ∈ (⟨[markingPlugin]⟩ : Registry).plugins, p.KeepsRoles) ∧
      ((⟨[markingPlugin]⟩ : Registry).apply gridRoots.decls gridRoots.defns nestedWorld).2.result =
        .ok () ∧
      ((nestedWorld.defns.walk 0).filter (·.value.isFunction)).map
        (fun b => (b.id, b.value.owner?.bind nestedWorld.roleOf?)) =
          [(1, some .gridVariables), (2, some .gridVariables)] ∧
      ((⟨[markingPlugin]⟩ : Registry).madeCalls gridRoots nestedWorld).map (·.1.side) =
        [.declaration, .implementation] ∧
      nestedWorld.childrenAt (.implementation, 1) = [2] ∧
      ((⟨[markingPlugin]⟩ : Registry).apply gridRoots.decls gridRoots.defns
        nestedWorld).1.childrenAt (.implementation, 1) = [2, 3] ∧
      ((⟨[markingPlugin]⟩ : Registry).apply gridRoots.decls gridRoots.defns
        nestedWorld).1.childrenAt (.implementation, 2) = []) ∧
    ((∀ p ∈ (⟨[bodyAddingPlugin]⟩ : Registry).plugins, p.KeepsRoles) ∧
      ((⟨[bodyAddingPlugin]⟩ : Registry).apply gridRoots.decls gridRoots.defns
        gridWorld).2.result = .ok () ∧
      ((gridWorld.defns.walk 0).filter (·.value.isFunction)).map (·.id) = [1] ∧
      ((⟨[bodyAddingPlugin]⟩ : Registry).madeCalls gridRoots gridWorld).map (·.1.side) =
        [.declaration, .implementation, .implementation]) := by
  refine ⟨⟨?_, eq_ok_of_toOption (by decide +kernel), by decide +kernel, by decide +kernel,
      by decide +kernel, by decide +kernel, by decide +kernel⟩,
    ⟨?_, eq_ok_of_toOption (by decide +kernel), by decide +kernel, by decide +kernel⟩⟩
  · intro p hp
    rw [List.mem_singleton.mp hp]
    exact addsOne_markingPlugin.keepsRoles
  · intro p hp
    rw [List.mem_singleton.mp hp]
    exact keepsRoles_bodyAddingPlugin

end SchemaGen
