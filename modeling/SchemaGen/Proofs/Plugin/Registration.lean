import SchemaGen.Plugin.Builtin
import SchemaGen.Proofs.Text.ByteOrder
import Mathlib.Data.List.Basic
import Mathlib.Data.List.Nodup
import Mathlib.Logic.Function.Basic

/-!
# What a registry holds after any calls

A registry is one list of plugins here, and every question is answered from that list. A program
that keeps it for long has a table for each question instead: the plugin of a name, the plugins of a
role, the names. `Tables` are these three, entered one after the other when a plugin is accepted, and
`Tables.Agree` says that they hold what the list says. Registration keeps them in agreement, whatever
it is asked for (`Tables.Agree.register`, `Tables.Agree.registerEach`).

What a registry answers then follows from one equation: after any calls its list is that of the
plugins whose calls went well (`plugins_registered`), and from the three things that are checked
before a plugin is accepted (`Registry.WellFormed`).
-/

set_option autoImplicit false

namespace SchemaGen

/-! ## Calls -/

/-- Registrations asked for one after the other, with their outcomes. -/
def registerEach {σ : Type} (register : σ → Option Plugin → σ × Except Fault Unit) :
    σ → List (Option Plugin) → σ × List (Except Fault Unit)
  | s, [] => (s, [])
  | s, call :: rest =>
    let last := registerEach register (register s call).1 rest
    (last.1, (register s call).2 :: last.2)

/-- The plugins of the calls that went well, in the order of the calls. -/
def acceptedOf (calls : List (Option Plugin)) (outcomes : List (Except Fault Unit)) : List Plugin :=
  (calls.zip outcomes).filterMap fun call => if call.2.isOk then call.1 else none

theorem registerEach_append {σ : Type} (register : σ → Option Plugin → σ × Except Fault Unit) (s : σ)
    (calls more : List (Option Plugin)) :
    (registerEach register s (calls ++ more)).1 =
      (registerEach register (registerEach register s calls).1 more).1 := by
  induction calls generalizing s with
  | nil => rfl
  | cons call calls ih => exact ih _

/-! ## The list -/

namespace Registry

variable {r next : Registry} {call : Option Plugin}

/-- One call: if it is refused, the registry stays as it is. -/
def attempt (r : Registry) (p : Option Plugin) : Registry × Except Fault Unit :=
  match r.register p with
  | .ok next => (next, .ok ())
  | .error fault => (r, .error fault)

/-- What these calls make of a new registry, and their outcomes. -/
def after (calls : List (Option Plugin)) : Registry × List (Except Fault Unit) :=
  registerEach Registry.attempt {} calls

/-- The registry after these calls on a new one. -/
def registered (calls : List (Option Plugin)) : Registry :=
  (after calls).1

/-- The plugins that these calls on a new registry get accepted, in order. -/
def accepted (calls : List (Option Plugin)) : List Plugin :=
  acceptedOf calls (after calls).2

theorem find?_eq_none_iff {name : String} :
    r.find? name = none ↔ name ∉ r.plugins.map (·.name) := by
  simp [find?]

/-- What a registration does: a plugin that passes the three checks comes last. -/
theorem register_eq_ok_iff :
    r.register call = .ok next ↔
      ∃ p, call = some p ∧ p.name ≠ "" ∧ p.role ∈ Role.extensibleRoles ∧
        p.name ∉ r.plugins.map (·.name) ∧ next = ⟨r.plugins ++ [p]⟩ := by
  cases call with
  | none => simp [register]
  | some p =>
    have hfind : r.find? p.name = none ↔ p.name ∉ r.plugins.map (·.name) := find?_eq_none_iff
    simp only [register, Role.extensible, Option.some.injEq, exists_eq_left', ← hfind]
    by_cases hname : p.name = ""
    · simp [hname]
    by_cases hrole : p.role ∈ Role.extensibleRoles
    · cases r.find? p.name <;> simp [hname, hrole, eq_comm]
    · simp [hname, hrole]

/-- Which registrations are refused. -/
theorem refuses_iff :
    (∃ fault, r.register call = .error fault) ↔
      ∀ p ∈ call, p.name = "" ∨ p.role ∉ Role.extensibleRoles ∨ p.name ∈ r.plugins.map (·.name) := by
  constructor
  · rintro ⟨fault, hfault⟩ p rfl
    by_contra hpass
    push Not at hpass
    have hok := register_eq_ok_iff.mpr ⟨p, rfl, hpass.1, hpass.2.1, hpass.2.2, rfl⟩
    rw [hok] at hfault
    cases hfault
  · intro h
    cases hcall : r.register call with
    | error fault => exact ⟨fault, rfl⟩
    | ok next =>
      obtain ⟨p, rfl, hname, hrole, hnew, -⟩ := register_eq_ok_iff.mp hcall
      rcases h p rfl with h | h | h
      · exact absurd h hname
      · exact absurd hrole h
      · exact absurd h hnew

/-- What the checks guarantee. -/
structure WellFormed (r : Registry) : Prop where
  named : ∀ p ∈ r.plugins, p.name ≠ ""
  extensible : ∀ p ∈ r.plugins, p.role ∈ Role.extensibleRoles
  distinct : (r.plugins.map (·.name)).Nodup

theorem wellFormed_empty : WellFormed {} :=
  ⟨by simp, by simp, by simp⟩

theorem WellFormed.register (hr : r.WellFormed) (h : r.register call = .ok next) :
    next.WellFormed := by
  obtain ⟨p, rfl, hname, hrole, hnew, rfl⟩ := register_eq_ok_iff.mp h
  refine ⟨?_, ?_, ?_⟩
  · simpa [or_imp, forall_and] using ⟨hr.named, hname⟩
  · simpa [or_imp, forall_and] using ⟨hr.extensible, hrole⟩
  · rw [List.map_append, List.nodup_append]
    refine ⟨hr.distinct, List.nodup_singleton _, ?_⟩
    rintro name hmem other hother rfl
    obtain rfl : name = p.name := List.mem_singleton.mp hother
    exact hnew hmem

theorem attempt_of_refused (h : ∃ fault, r.register call = .error fault) : (r.attempt call).1 = r := by
  obtain ⟨fault, hfault⟩ := h
  simp [Registry.attempt, hfault]

/-- One step of the run: the list grows by the plugin of the call if that went well. -/
theorem plugins_attempt :
    (r.attempt call).1.plugins =
      r.plugins ++ if (r.attempt call).2.isOk then call.toList else [] := by
  cases hcall : r.register call with
  | error fault => simp [Registry.attempt, hcall, Except.isOk, Except.toBool]
  | ok next =>
    obtain ⟨p, rfl, -, -, -, rfl⟩ := register_eq_ok_iff.mp hcall
    simp [Registry.attempt, hcall, Except.isOk, Except.toBool]

theorem WellFormed.attempt (hr : r.WellFormed) : (r.attempt call).1.WellFormed := by
  cases hcall : r.register call with
  | error fault => simpa [Registry.attempt, hcall] using hr
  | ok next => simpa [Registry.attempt, hcall] using hr.register hcall

theorem acceptedOf_cons (call : Option Plugin) (calls : List (Option Plugin))
    (outcome : Except Fault Unit) (outcomes : List (Except Fault Unit)) :
    acceptedOf (call :: calls) (outcome :: outcomes) =
      (if outcome.isOk then call.toList else []) ++ acceptedOf calls outcomes := by
  cases call <;> cases outcome <;> rfl

theorem plugins_registerEach (r : Registry) (calls : List (Option Plugin)) :
    (registerEach Registry.attempt r calls).1.plugins =
      r.plugins ++ acceptedOf calls (registerEach Registry.attempt r calls).2 := by
  induction calls generalizing r with
  | nil => simp [registerEach, acceptedOf]
  | cons call calls ih =>
    simp only [registerEach]
    rw [ih, plugins_attempt, acceptedOf_cons, List.append_assoc]

theorem WellFormed.registerEach (hr : r.WellFormed) (calls : List (Option Plugin)) :
    (registerEach Registry.attempt r calls).1.WellFormed := by
  induction calls generalizing r with
  | nil => exact hr
  | cons call calls ih => exact ih hr.attempt

/-- **A registry holds the plugins whose calls went well**, in the order of the calls. -/
theorem plugins_registered (calls : List (Option Plugin)) :
    (registered calls).plugins = accepted calls :=
  plugins_registerEach {} calls

theorem wellFormed_registered (calls : List (Option Plugin)) : (registered calls).WellFormed :=
  wellFormed_empty.registerEach calls

theorem registered_concat (calls : List (Option Plugin)) (call : Option Plugin) :
    registered (calls ++ [call]) = ((registered calls).attempt call).1 :=
  registerEach_append Registry.attempt {} calls [call]

end Registry

/-! ## The tables -/

/-- The tables of a registry: the plugin of each name, the plugins of each role in the order in which
they were accepted, and the names in that order. -/
structure Tables where
  byName : String → Option Plugin := fun _ => none
  byRole : Role → List Plugin := fun _ => []
  ordered : List String := []

namespace Tables

variable {t : Tables} {r : Registry} {call : Option Plugin}

/-- Enters a plugin into each of the tables. -/
def enter (t : Tables) (p : Plugin) : Tables where
  byName := Function.update t.byName p.name (some p)
  byRole := Function.update t.byRole p.role (t.byRole p.role ++ [p])
  ordered := t.ordered ++ [p.name]

/-- One registration, checked and entered in the tables. -/
def register (t : Tables) : Option Plugin → Tables × Except Fault Unit
  | none => (t, .error .unnamedPlugin)
  | some p =>
    if p.name = "" then (t, .error .unnamedPlugin)
    else if !p.role.extensible then (t, .error (.closedRole p.name p.role))
    else if (t.byName p.name).isSome then (t, .error (.repeatedPlugin p.name))
    else (t.enter p, .ok ())

/-- What these calls make of empty tables, and their outcomes. -/
def after (calls : List (Option Plugin)) : Tables × List (Except Fault Unit) :=
  registerEach Tables.register {} calls

/-- The tables hold what the list says. -/
structure Agree (t : Tables) (r : Registry) : Prop where
  byName : ∀ name, t.byName name = r.find? name
  byRole : ∀ role, t.byRole role = r.forRole role
  ordered : t.ordered = r.plugins.map (·.name)

theorem agree_empty : Agree {} {} :=
  ⟨fun _ => rfl, fun _ => rfl, rfl⟩

/-- A plugin of a new name is entered alike. -/
theorem Agree.enter (ha : t.Agree r) {p : Plugin} (hnew : p.name ∉ r.plugins.map (·.name)) :
    (t.enter p).Agree ⟨r.plugins ++ [p]⟩ := by
  refine ⟨fun name => ?_, fun role => ?_, ?_⟩
  · have hfree : r.find? p.name = none := Registry.find?_eq_none_iff.mpr hnew
    rw [Registry.find?] at hfree
    by_cases hname : name = p.name
    · subst hname
      simp [Tables.enter, Registry.find?, hfree]
    · have hother : ¬ p.name = name := fun h => hname h.symm
      simp [Tables.enter, Function.update_of_ne hname, ha.byName, Registry.find?, hother]
  · by_cases hrole : role = p.role
    · subst hrole
      simp [Tables.enter, ha.byRole, Registry.forRole]
    · have hother : ¬ p.role = role := fun h => hrole h.symm
      simp [Tables.enter, Function.update_of_ne hrole, ha.byRole, Registry.forRole, hother]
  · simp [Tables.enter, ha.ordered]

/-- **A registration keeps the tables in agreement**, and its outcome is that of the list. -/
theorem Agree.register (ha : t.Agree r) (call : Option Plugin) :
    (t.register call).1.Agree (r.attempt call).1 ∧ (t.register call).2 = (r.attempt call).2 := by
  cases call with
  | none => exact ⟨ha, rfl⟩
  | some p =>
    simp only [Tables.register, Registry.attempt, Registry.register, ha.byName]
    split
    · exact ⟨ha, rfl⟩
    · split
      · exact ⟨ha, rfl⟩
      · split
        · exact ⟨ha, rfl⟩
        · next hfind =>
          refine ⟨ha.enter (Registry.find?_eq_none_iff.mp ?_), rfl⟩
          simpa using hfind

/-- A call that the list refuses leaves the tables as they are. -/
theorem Agree.register_of_refused (ha : t.Agree r)
    (h : ∃ fault, r.register call = .error fault) : (t.register call).1 = t := by
  obtain ⟨fault, hfault⟩ := h
  cases call with
  | none => rfl
  | some p =>
    simp only [Registry.register] at hfault
    simp only [Tables.register, ha.byName]
    split_ifs at hfault ⊢ <;> rfl

theorem Agree.registerEach (ha : t.Agree r) (calls : List (Option Plugin)) :
    (registerEach Tables.register t calls).1.Agree (registerEach Registry.attempt r calls).1 ∧
      (registerEach Tables.register t calls).2 = (registerEach Registry.attempt r calls).2 := by
  induction calls generalizing t r with
  | nil => exact ⟨ha, rfl⟩
  | cons call calls ih =>
    obtain ⟨hstep, houtcome⟩ := ha.register call
    obtain ⟨hrest, houtcomes⟩ := ih hstep
    refine ⟨hrest, ?_⟩
    simp only [SchemaGen.registerEach]
    rw [houtcome, houtcomes]

theorem agree_after (calls : List (Option Plugin)) :
    (after calls).1.Agree (Registry.registered calls) ∧ (after calls).2 = (Registry.after calls).2 :=
  agree_empty.registerEach calls

end Tables

/-! ## Answers -/

/-- Taking the values of each key in turn gives each value once. -/
theorem flatMap_filter_perm {α κ : Type} [DecidableEq κ] {key : α → κ} {keys : List κ} {xs : List α}
    (hdistinct : keys.Nodup) (hkeys : ∀ x ∈ xs, key x ∈ keys) :
    (keys.flatMap fun k => xs.filter (key · = k)).Perm xs := by
  induction keys generalizing xs with
  | nil =>
    cases xs with
    | nil => exact .nil
    | cons x xs => exact absurd (hkeys x List.mem_cons_self) List.not_mem_nil
  | cons k keys ih =>
    obtain ⟨hk, hdistinct⟩ := List.nodup_cons.mp hdistinct
    -- the values of the other keys are those of the list without the values of the first
    have hrest : (keys.flatMap fun k' => xs.filter (key · = k')) =
        keys.flatMap fun k' => (xs.filter fun x => !decide (key x = k)).filter (key · = k') := by
      refine List.flatMap_congr fun k' hk' => ?_
      rw [List.filter_filter]
      refine List.filter_congr fun x _ => ?_
      by_cases hx : key x = k'
      · have hne : k' ≠ k := fun h => hk (h ▸ hk')
        simp [hx, hne]
      · simp [hx]
    have hothers : ∀ x ∈ xs.filter (fun x => !decide (key x = k)), key x ∈ keys := by
      intro x hx
      obtain ⟨hmem, hne⟩ := List.mem_filter.mp hx
      refine (List.mem_cons.mp (hkeys x hmem)).resolve_left ?_
      simpa using hne
    rw [List.flatMap_cons, hrest]
    exact ((ih hdistinct hothers).append_left _).trans (List.filter_append_perm _ xs)

namespace Registry

variable {r : Registry}

/-- What a registry answers if these plugins were accepted, in this order. -/
structure Answers (r : Registry) (accepted : List Plugin) : Prop where
  distinct : (accepted.map (·.name)).Nodup
  named : ∀ p ∈ accepted, p.name ≠ ""
  /-- The names are those of the plugins. -/
  names_perm : r.names.Perm (accepted.map (·.name))
  /-- They go up, by the bytes. -/
  names_increasing : r.names.Pairwise fun a b => Text.utf8 a < Text.utf8 b
  /-- The plugins of a role are in the order in which they were accepted. -/
  forRole : ∀ role, r.forRole role = accepted.filter (·.role = role)
  /-- A role that is closed to plugins has none. -/
  closed : ∀ role, role ∉ Role.extensibleRoles → r.forRole role = []
  /-- The listing goes role by role. -/
  listing : r.listing = Role.extensibleRoles.flatMap fun role =>
    (accepted.filter (·.role = role)).map fun p => (role, p.name)
  /-- It has each plugin once. -/
  listing_perm : r.listing.Perm (accepted.map fun p => (p.role, p.name))

theorem WellFormed.names_increasing (hr : r.WellFormed) :
    r.names.Pairwise fun a b => a < b := by
  have hdistinct : ((r.plugins.map (·.name)).map id).Nodup := by rw [List.map_id]; exact hr.distinct
  exact Text.pairwise_mergeSort_lt hdistinct

theorem listing_eq_map (r : Registry) :
    r.listing = (Role.extensibleRoles.flatMap r.forRole).map fun p => (p.role, p.name) := by
  rw [Registry.listing, List.map_flatMap]
  refine List.flatMap_congr fun role _ => List.map_congr_left fun p hp => ?_
  have hrole : p.role = role := by simpa using (List.mem_filter.mp hp).2
  rw [hrole]

theorem WellFormed.answers (hr : r.WellFormed) : r.Answers r.plugins where
  distinct := hr.distinct
  named := hr.named
  names_perm := List.mergeSort_perm _ _
  names_increasing := hr.names_increasing.imp fun hlt => Text.lt_iff_utf8_lt.mp hlt
  forRole _ := rfl
  closed role hrole := by
    rw [Registry.forRole, List.filter_eq_nil_iff]
    intro p hp
    have hne : p.role ≠ role := fun h => hrole (h ▸ hr.extensible p hp)
    simpa using hne
  listing := rfl
  listing_perm := by
    rw [listing_eq_map]
    exact (flatMap_filter_perm (by decide) hr.extensible).map _

end Registry

/-- **Registration keeps the three tables of a registry in agreement.** Whatever a new registry is
asked to register, and whichever of the calls are refused, the tables of names, of roles and of the
order hold what the list of accepted plugins says, and every call has the outcome that it has for the
list. The names are distinct and not empty and are listed in increasing order; the plugins of a role
are those accepted for it, in order, and there are none for a role that is closed to plugins; the
listing goes role by role and has each plugin once. The next call is refused exactly if it brings no
plugin or one without a name, one of a closed role, or one whose name was accepted before, and then
it leaves the names, the plugins of each role and the tables as they are. -/
theorem registration_keeps_tables (calls : List (Option Plugin)) :
    ((Tables.after calls).1.Agree (Registry.registered calls) ∧
      (Tables.after calls).2 = (Registry.after calls).2) ∧
    (Registry.registered calls).Answers (Registry.accepted calls) ∧
    ∀ call : Option Plugin,
      ((∃ fault, (Registry.registered calls).register call = .error fault) ↔
        ∀ p ∈ call, p.name = "" ∨ p.role ∉ Role.extensibleRoles ∨
          ∃ q ∈ Registry.accepted calls, q.name = p.name) ∧
      ((∃ fault, (Registry.registered calls).register call = .error fault) →
        (Registry.registered (calls ++ [call])).names = (Registry.registered calls).names ∧
        (∀ role, (Registry.registered (calls ++ [call])).forRole role =
          (Registry.registered calls).forRole role) ∧
        (Tables.after (calls ++ [call])).1 = (Tables.after calls).1) := by
  have hagree := Tables.agree_after calls
  have hwell := Registry.wellFormed_registered calls
  refine ⟨hagree, ?_, fun call => ⟨?_, fun hrefused => ?_⟩⟩
  · rw [← Registry.plugins_registered calls]
    exact hwell.answers
  · rw [Registry.refuses_iff, Registry.plugins_registered]
    simp only [List.mem_map]
  · have hsame : Registry.registered (calls ++ [call]) = Registry.registered calls := by
      rw [Registry.registered_concat, Registry.attempt_of_refused hrefused]
    have htables : (Tables.after (calls ++ [call])).1 = (Tables.after calls).1 :=
      (registerEach_append Tables.register {} calls [call]).trans
        (hagree.1.register_of_refused hrefused)
    exact ⟨by rw [hsame], fun role => by rw [hsame], htables⟩

end SchemaGen
