import SchemaGen.Proofs.Plugin.Registration

/-!
# Choosing plugins by name

A run may be given the names of the plugins it is to use. They are taken one after the other into a
new registry, so the order of the names becomes the order of the plugins, and two things can go
wrong at a name: no plugin has it, or it was taken before. The first name at which one of them does
decides what is reported (`WellFormed.pickInto_eq_error_iff`); if there is none, all names are taken
(`WellFormed.pickInto_eq_ok_iff`).

`select_picks_named` says this of every registry that registration makes. Choosing makes a new
registry; the one that is chosen from is only read.
-/

set_option autoImplicit false

namespace SchemaGen.Registry

variable {r chosen start : Registry} {name : String} {names taken : List String} {p : Plugin}
  {fault : Fault}

/-! ## The registries that registration makes -/

/-- Some calls on a new registry make this one. -/
def Reachable (r : Registry) : Prop :=
  ∃ calls, r = registered calls

/-- Plugins that pass the checks together are all accepted. -/
theorem registerEach_some {ps : List Plugin}
    (h : WellFormed ⟨start.plugins ++ ps⟩) :
    (registerEach attempt start (ps.map some)).1 = ⟨start.plugins ++ ps⟩ := by
  induction ps generalizing start with
  | nil => simp [registerEach]
  | cons p ps ih =>
    have hmem : p ∈ start.plugins ++ p :: ps := by simp
    have hnew : p.name ∉ start.plugins.map (·.name) := by
      intro hold
      have hdistinct := h.distinct
      rw [List.map_append, List.nodup_append] at hdistinct
      exact hdistinct.2.2 _ hold _ (by simp) rfl
    have hstep : start.register (some p) = .ok ⟨start.plugins ++ [p]⟩ :=
      register_eq_ok_iff.mpr ⟨p, rfl, h.named p hmem, h.extensible p hmem, hnew, rfl⟩
    have hattempt : (start.attempt (some p)).1 = ⟨start.plugins ++ [p]⟩ := by
      simp [attempt, hstep]
    rw [List.append_cons] at h ⊢
    exact (congrArg (fun s => (registerEach attempt s (ps.map some)).1) hattempt).trans (ih h)

/-- **Registration makes exactly the registries that meet its checks.** -/
theorem reachable_iff : r.Reachable ↔ r.WellFormed := by
  constructor
  · rintro ⟨calls, rfl⟩
    exact wellFormed_registered calls
  · intro hr
    exact ⟨r.plugins.map some, (@registerEach_some {} r.plugins hr).symm⟩

theorem reachable_defaultRegistry : defaultRegistry.Reachable :=
  ⟨[some lookupCounterEnum], rfl⟩

/-! ## The plugin of a name -/

theorem mem_names_iff : name ∈ r.names ↔ name ∈ r.plugins.map (·.name) := by
  rw [names, List.mem_mergeSort]

theorem find?_eq_none_iff_names : r.find? name = none ↔ name ∉ r.names := by
  rw [find?_eq_none_iff, mem_names_iff]

theorem mem_of_find? (h : r.find? name = some p) : p ∈ r.plugins ∧ p.name = name :=
  ⟨List.mem_of_find?_eq_some h, by simpa using List.find?_some h⟩

theorem WellFormed.find?_eq_some_iff (hr : r.WellFormed) :
    r.find? name = some p ↔ p ∈ r.plugins ∧ p.name = name :=
  Text.find?_key_eq_some_iff hr.distinct

theorem WellFormed.forRole (hr : r.WellFormed) (role : Role) : WellFormed ⟨r.forRole role⟩ where
  named p hp := hr.named p (List.mem_filter.mp hp).1
  extensible p hp := hr.extensible p (List.mem_filter.mp hp).1
  distinct := hr.distinct.sublist (List.filter_sublist.map _)

/-- A name finds the same plugin among those of its role. -/
theorem WellFormed.filter_find? (hr : r.WellFormed) (role : Role) (name : String) :
    (r.find? name).filter (·.role = role) = (r.forRole role).find? (·.name = name) := by
  ext p
  have hrole : (r.forRole role).find? (·.name = name) = some p ↔
      p ∈ r.forRole role ∧ p.name = name := (hr.forRole role).find?_eq_some_iff
  rw [hrole, Option.filter_eq_some_iff, hr.find?_eq_some_iff, Registry.forRole, List.mem_filter]
  tauto

/-- The plugins of these names, in the order of the names. -/
def pick (r : Registry) (names : List String) : List Plugin :=
  names.filterMap r.find?

theorem pick_cons (r : Registry) (name : String) (names : List String) :
    r.pick (name :: names) = r.pick [name] ++ r.pick names :=
  List.filterMap_append (l := [name])

theorem map_name_pick (h : ∀ n ∈ names, n ∈ r.names) : (r.pick names).map (·.name) = names := by
  induction names with
  | nil => rfl
  | cons n names ih =>
    obtain ⟨hn, hrest⟩ := List.forall_mem_cons.mp h
    obtain ⟨p, hp⟩ := Option.ne_none_iff_exists'.mp (mt find?_eq_none_iff_names.mp (not_not.mpr hn))
    rw [pick, List.filterMap_cons_some hp, List.map_cons, (mem_of_find? hp).2]
    exact congrArg _ (ih hrest)

theorem mem_plugins_of_mem_pick (h : p ∈ r.pick names) : p ∈ r.plugins := by
  obtain ⟨n, -, hp⟩ := List.mem_filterMap.mp h
  exact (mem_of_find? hp).1

/-- All names together pick all plugins. -/
theorem WellFormed.pick_names (hr : r.WellFormed) : r.pick (r.plugins.map (·.name)) = r.plugins := by
  rw [pick, List.filterMap_map]
  refine (List.filterMap_congr fun p hp => ?_).trans List.filterMap_some
  exact hr.find?_eq_some_iff.mpr ⟨hp, rfl⟩

/-- The plugins that were picked, role by role. -/
theorem WellFormed.forRole_pick (hr : r.WellFormed) (role : Role) :
    (r.pick names).filter (·.role = role) =
      names.filterMap fun n => (r.forRole role).find? (·.name = n) := by
  rw [pick, List.filter_filterMap]
  exact List.filterMap_congr fun n _ => hr.filter_find? role n

/-! ## One name after the other -/

/-- These names can be taken when those are: plugins have them, and none is taken twice. -/
structure Choosable (r : Registry) (taken names : List String) : Prop where
  known : ∀ n ∈ names, n ∈ r.names
  distinct : names.Nodup
  fresh : ∀ n ∈ names, n ∉ taken

/-- What is wrong at a name when those were taken. -/
inductive Offends (r : Registry) (taken : List String) (name : String) : Fault → Prop
  | unknown (h : name ∉ r.names) : Offends r taken name (.unknownPlugin name)
  | repeated (h : name ∈ r.names) (ht : name ∈ taken) : Offends r taken name (.repeatedPlugin name)

theorem offends_iff :
    Offends r taken name fault ↔
      (name ∉ r.names ∧ fault = .unknownPlugin name ∧ fault.code = some .notFound) ∨
        (name ∈ r.names ∧ name ∈ taken ∧
          fault = .repeatedPlugin name ∧ fault.code = some .alreadyExists) := by
  constructor
  · rintro (h | ⟨h, ht⟩)
    · exact .inl ⟨h, rfl, rfl⟩
    · exact .inr ⟨h, ht, rfl, rfl⟩
  · rintro (⟨h, rfl, -⟩ | ⟨h, ht, rfl, -⟩)
    · exact .unknown h
    · exact .repeated h ht

theorem offends_iff_of_not_mem (h : name ∉ r.names) :
    Offends r taken name fault ↔ fault = .unknownPlugin name := by
  constructor
  · rintro (_ | ⟨hmem, -⟩)
    · rfl
    · exact absurd hmem h
  · rintro rfl
    exact .unknown h

theorem offends_iff_of_mem (h : name ∈ r.names) (ht : name ∈ taken) :
    Offends r taken name fault ↔ fault = .repeatedPlugin name := by
  constructor
  · rintro (hnot | -)
    · exact absurd h hnot
    · rfl
  · rintro rfl
    exact .repeated h ht

theorem not_offends (h : name ∈ r.names) (ht : name ∉ taken) : ¬ Offends r taken name fault := by
  rintro (hnot | ⟨-, hmem⟩)
  · exact hnot h
  · exact ht hmem

theorem choosable_nil : Choosable r taken [] :=
  ⟨by simp, .nil, by simp⟩

theorem choosable_cons :
    Choosable r taken (name :: names) ↔
      (name ∈ r.names ∧ name ∉ taken) ∧ Choosable r (taken ++ [name]) names := by
  constructor
  · rintro ⟨hknown, hdistinct, hfresh⟩
    obtain ⟨hnew, hdistinct⟩ := List.nodup_cons.mp hdistinct
    obtain ⟨hname, hknown⟩ := List.forall_mem_cons.mp hknown
    obtain ⟨hfree, hfresh⟩ := List.forall_mem_cons.mp hfresh
    refine ⟨⟨hname, hfree⟩, hknown, hdistinct, fun n hn => ?_⟩
    rw [List.mem_append, List.mem_singleton]
    rintro (ht | rfl)
    · exact hfresh n hn ht
    · exact hnew hn
  · rintro ⟨⟨hname, hfree⟩, hknown, hdistinct, hfresh⟩
    simp only [List.mem_append, List.mem_singleton, not_or] at hfresh
    refine ⟨List.forall_mem_cons.mpr ⟨hname, hknown⟩, List.nodup_cons.mpr ⟨?_, hdistinct⟩,
      List.forall_mem_cons.mpr ⟨hfree, fun n hn => (hfresh n hn).1⟩⟩
    exact fun hmem => (hfresh name hmem).2 rfl

/-- A plugin of the registry that is chosen from is refused for its name only. -/
theorem WellFormed.register_of_mem (hr : r.WellFormed) (hmem : p ∈ r.plugins) (start : Registry) :
    start.register (some p) =
      if p.name ∈ start.plugins.map (·.name) then .error (.repeatedPlugin p.name)
      else .ok ⟨start.plugins ++ [p]⟩ := by
  have hrole : p.role.extensible = true := by
    simpa [Role.extensible] using hr.extensible p hmem
  have htaken : (start.find? p.name).isSome = true ↔ p.name ∈ start.plugins.map (·.name) := by
    rw [← not_iff_not, Bool.not_eq_true, Option.isSome_eq_false_iff, Option.isNone_iff_eq_none,
      find?_eq_none_iff]
  simp only [Registry.register, hr.named p hmem, hrole, htaken, if_false, Bool.not_true,
    Bool.false_eq_true]

/-- One step: what a name does. -/
theorem WellFormed.pickInto_cons (hr : r.WellFormed) :
    r.pickInto (name :: names) start =
      if name ∉ r.names then .error (.unknownPlugin name)
      else if name ∈ start.plugins.map (·.name) then .error (.repeatedPlugin name)
      else r.pickInto names ⟨start.plugins ++ r.pick [name]⟩ := by
  simp only [pickInto, ← find?_eq_none_iff_names]
  cases hfind : r.find? name with
  | none => rfl
  | some p =>
    obtain ⟨hmem, rfl⟩ := mem_of_find? hfind
    have hpick : r.pick [p.name] = [p] := by simp [pick, hfind]
    simp only [hr.register_of_mem hmem, reduceCtorEq, hpick]
    by_cases ht : p.name ∈ start.plugins.map (·.name)
    · simp only [if_pos ht]
      rfl
    · simp only [if_neg ht]
      rfl

theorem map_name_append_pick (h : name ∈ r.names) (start : Registry) :
    (start.plugins ++ r.pick [name]).map (·.name) = start.plugins.map (·.name) ++ [name] := by
  rw [List.map_append, map_name_pick (List.forall_mem_singleton.mpr h)]

/-- **When all names are taken**, and what they make. -/
theorem WellFormed.pickInto_eq_ok_iff (hr : r.WellFormed) :
    r.pickInto names start = .ok chosen ↔
      Choosable r (start.plugins.map (·.name)) names ∧ chosen = ⟨start.plugins ++ r.pick names⟩ := by
  induction names generalizing start with
  | nil => simp [pickInto, choosable_nil, pick, eq_comm]
  | cons name names ih =>
    rw [choosable_cons, hr.pickInto_cons]
    by_cases hname : name ∈ r.names
    · by_cases ht : name ∈ start.plugins.map (·.name)
      · rw [if_neg (not_not.mpr hname), if_pos ht]
        simp [ht]
      · rw [if_neg (not_not.mpr hname), if_neg ht, ih, map_name_append_pick hname, List.append_assoc,
          ← pick_cons]
        simp only [hname, ht, not_false_eq_true, and_self, true_and]
    · rw [if_pos hname]
      simp [hname]

/-- Something holds of a place in a list if it does of the first or of one behind it. -/
theorem exists_append_cons_iff {α : Type} {x : α} {xs : List α} {P : List α → α → Prop} :
    (∃ before y after, x :: xs = before ++ y :: after ∧ P before y) ↔
      P [] x ∨ ∃ before y after, xs = before ++ y :: after ∧ P (x :: before) y := by
  constructor
  · rintro ⟨before, y, after, heq, hP⟩
    cases before with
    | nil =>
      obtain ⟨rfl, rfl⟩ := List.cons_eq_cons.mp heq
      exact .inl hP
    | cons b before =>
      obtain ⟨rfl, rfl⟩ := List.cons_eq_cons.mp heq
      exact .inr ⟨before, y, after, rfl, hP⟩
  · rintro (hP | ⟨before, y, after, rfl, hP⟩)
    · exact ⟨[], x, xs, rfl, hP⟩
    · exact ⟨x :: before, y, after, rfl, hP⟩

/-- **What stops the choice** is what is wrong at the first name at which something is. -/
theorem WellFormed.pickInto_eq_error_iff (hr : r.WellFormed) :
    r.pickInto names start = .error fault ↔
      ∃ before name after, names = before ++ name :: after ∧
        Choosable r (start.plugins.map (·.name)) before ∧
        Offends r (start.plugins.map (·.name) ++ before) name fault := by
  induction names generalizing start with
  | nil => simp [pickInto]
  | cons name names ih =>
    rw [exists_append_cons_iff, hr.pickInto_cons, List.append_nil]
    simp only [choosable_cons, choosable_nil, true_and]
    by_cases hname : name ∈ r.names
    · by_cases ht : name ∈ start.plugins.map (·.name)
      · rw [if_neg (not_not.mpr hname), if_pos ht]
        simp only [ht, not_true_eq_false, and_false, false_and, exists_false, or_false,
          offends_iff_of_mem hname ht, Except.error.injEq, eq_comm]
      · rw [if_neg (not_not.mpr hname), if_neg ht, ih, map_name_append_pick hname]
        simp only [not_offends hname ht, false_or, hname, ht, not_false_eq_true, and_self, true_and,
          List.append_assoc, List.singleton_append]
    · rw [if_pos hname]
      simp only [hname, false_and, and_false, exists_false, or_false, offends_iff_of_not_mem hname,
        Except.error.injEq, eq_comm]

/-! ## Choosing -/

theorem select_cons (r : Registry) (name : String) (names : List String) :
    r.select (name :: names) = r.pickInto (name :: names) {} :=
  rfl

/-- No name chooses everything. -/
theorem WellFormed.select_nil (hr : r.WellFormed) : r.select [] = .ok r := by
  have hknown : Choosable r [] (r.plugins.map (·.name)) :=
    ⟨fun n hn => mem_names_iff.mpr hn, hr.distinct, fun n _ => List.not_mem_nil⟩
  have hall : r = ⟨[] ++ r.pick (r.plugins.map (·.name))⟩ := by rw [hr.pick_names]; rfl
  exact hr.pickInto_eq_ok_iff.mpr ⟨hknown, hall⟩

theorem choosable_start :
    Choosable r [] names ↔ (∀ n ∈ names, n ∈ r.names) ∧ names.Nodup :=
  ⟨fun h => ⟨h.known, h.distinct⟩, fun h => ⟨h.1, h.2, fun _ _ => List.not_mem_nil⟩⟩

theorem WellFormed.select_eq_ok_iff (hr : r.WellFormed) (hnames : names ≠ []) :
    r.select names = .ok chosen ↔
      ((∀ n ∈ names, n ∈ r.names) ∧ names.Nodup) ∧ chosen = ⟨r.pick names⟩ := by
  obtain ⟨name, rest, rfl⟩ := List.exists_cons_of_ne_nil hnames
  rw [select_cons, hr.pickInto_eq_ok_iff, ← choosable_start]
  exact Iff.rfl

/-- What is chosen meets the checks again. -/
theorem WellFormed.pick (hr : r.WellFormed) (hknown : ∀ n ∈ names, n ∈ r.names)
    (hdistinct : names.Nodup) : WellFormed ⟨r.pick names⟩ where
  named p hp := hr.named p (mem_plugins_of_mem_pick hp)
  extensible p hp := hr.extensible p (mem_plugins_of_mem_pick hp)
  distinct := by rwa [map_name_pick hknown]

theorem WellFormed.exists_select_iff (hr : r.WellFormed) :
    (∃ chosen, r.select names = .ok chosen) ↔ (∀ n ∈ names, n ∈ r.names) ∧ names.Nodup := by
  by_cases hnames : names = []
  · subst hnames
    simp [hr.select_nil]
  · simp [hr.select_eq_ok_iff hnames]

theorem WellFormed.select_eq_error_iff (hr : r.WellFormed) :
    r.select names = .error fault ↔
      ∃ before name after, names = before ++ name :: after ∧
        ((∀ n ∈ before, n ∈ r.names) ∧ before.Nodup) ∧ Offends r before name fault := by
  cases names with
  | nil => simp [hr.select_nil]
  | cons name names =>
    rw [select_cons, hr.pickInto_eq_error_iff]
    simp only [List.map_nil, choosable_start, List.nil_append]

/-- **Choosing plugins by name.** Take a registry that registration made. Names can be chosen exactly
if each is the name of a plugin and none is listed twice. What they make is a registry that
registration makes too; the plugins of each role come in the order of the names, and are those of
the role that were named. No names choose all plugins, role by role in their order. If the choice
fails, the fault is about the first name that no plugin has, which is not found, or that is listed
for the second time, which already exists. Registries are values: the one that is chosen from is
afterwards what it was, whatever comes of the choice. -/
theorem select_picks_named (hr : r.Reachable) (names : List String) :
    ((∃ chosen, r.select names = .ok chosen) ↔ (∀ n ∈ names, n ∈ r.names) ∧ names.Nodup) ∧
    (∀ chosen, r.select names = .ok chosen → names ≠ [] →
      chosen.Reachable ∧ chosen.plugins.map (·.name) = names ∧
      ∀ role, chosen.forRole role =
        names.filterMap fun n => (r.forRole role).find? (·.name = n)) ∧
    (∃ all, r.select [] = .ok all ∧ all.names = r.names ∧
      ∀ role, all.forRole role = r.forRole role) ∧
    ∀ fault, r.select names = .error fault ↔
      ∃ before name after, names = before ++ name :: after ∧
        ((∀ n ∈ before, n ∈ r.names) ∧ before.Nodup) ∧
        ((name ∉ r.names ∧ fault = .unknownPlugin name ∧ fault.code = some .notFound) ∨
          (name ∈ r.names ∧ name ∈ before ∧
            fault = .repeatedPlugin name ∧ fault.code = some .alreadyExists)) := by
  have hwell := reachable_iff.mp hr
  refine ⟨hwell.exists_select_iff, fun chosen hchosen hnames => ?_, ⟨r, hwell.select_nil, rfl,
    fun _ => rfl⟩, fun fault => ?_⟩
  · obtain ⟨⟨hknown, hdistinct⟩, rfl⟩ := (hwell.select_eq_ok_iff hnames).mp hchosen
    exact ⟨reachable_iff.mpr (hwell.pick hknown hdistinct), map_name_pick hknown,
      fun role => hwell.forRole_pick role⟩
  · simp only [hwell.select_eq_error_iff, offends_iff]

/-! ## A registry to choose from -/

/-- A plugin that adds nothing. -/
def idlePlugin (name : String) (role : Role) : Plugin where
  name := name
  role := role
  extendClass _ w := (w, .ok ())
  extendFunction _ _ w := (w, .ok ())

/-- Three plugins, two of one role. -/
def threePlugins : Registry :=
  ⟨[lookupCounterEnum, idlePlugin "axes" .gridVariables, idlePlugin "tables" .lookupVariables]⟩

/-- The order of the names becomes that of the plugins of a role, and what is wrong first is what is
reported. -/
theorem select_picks_named_three :
    threePlugins.Reachable ∧
    (∃ chosen, threePlugins.select ["tables", "axes", "lookup-counter-enum"] = .ok chosen ∧
      (chosen.forRole .lookupVariables).map (·.name) = ["tables", "lookup-counter-enum"]) ∧
    threePlugins.select ["axes", "axes", "none"] = .error (.repeatedPlugin "axes") ∧
    threePlugins.select ["axes", "none", "axes"] = .error (.unknownPlugin "none") := by
  have hr : threePlugins.Reachable :=
    reachable_iff.mpr ⟨by decide, by decide, by decide⟩
  have hnames (n : String) :
      n ∈ threePlugins.names ↔ n ∈ ["lookup-counter-enum", "axes", "tables"] := mem_names_iff
  refine ⟨hr, ?_, ?_, ?_⟩
  · obtain ⟨hiff, hmade, -⟩ := select_picks_named hr ["tables", "axes", "lookup-counter-enum"]
    obtain ⟨chosen, hchosen⟩ := hiff.mpr ⟨by simp [hnames], by decide⟩
    refine ⟨chosen, hchosen, ?_⟩
    rw [(hmade chosen hchosen (by simp)).2.2]
    decide
  · refine ((select_picks_named hr _).2.2.2 _).mpr
      ⟨["axes"], "axes", ["none"], rfl, ⟨by simp [hnames], by decide⟩, .inr ?_⟩
    exact ⟨(hnames _).mpr (by decide), by decide, rfl, rfl⟩
  · refine ((select_picks_named hr _).2.2.2 _).mpr
      ⟨["axes"], "none", ["axes"], rfl, ⟨by simp [hnames], by decide⟩, .inl ?_⟩
    exact ⟨mt (hnames _).mp (by decide), rfl, rfl⟩

end SchemaGen.Registry
