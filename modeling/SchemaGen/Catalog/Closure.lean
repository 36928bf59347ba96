import SchemaGen.Catalog.Basic

/-!
# The closure of references

A catalog is built from the local schema and all it refers to, directly or through others,
breadth first and in the order in which references are listed. A path that was met before is
not loaded again, and so a cycle of references does no harm.

The traversal ends because every load uses up one of the paths that its loader names:
`pendingLoads` counts those left, and it falls by at least as much as the queue grows
(`pendingLoads_follow`).
-/

set_option autoImplicit false

namespace SchemaGen

namespace Catalog

/-- How many of the paths a loader names have not been met. -/
def pendingLoads (loader : Loader) (met : List String) : Nat :=
  (loader.paths.filter fun path => !met.contains path).length

/-- The paths met once the schema at `path` has been loaded: its own, and the one it reports. -/
def meet (path : String) (loaded : Schema) (met : List String) : List String :=
  if loaded.path = "" then path :: met else loaded.path :: path :: met

/-- Loads the references of one schema that have not been met yet. Gives the paths met then and
the schemas loaded, in order. -/
def follow (loader : Loader) (schema : Schema) :
    (references met : List String) → Except Fault (List String × List Schema)
  | [], met => .ok (met, [])
  | reference :: rest, met =>
    match loader.resolve schema.path reference with
    | .error cause => .error (.missingReference reference schema.name cause)
    | .ok path =>
      if met.contains path then follow loader schema rest met
      else match loader.load path with
        | .error cause => .error (.missingReference reference schema.name cause)
        | .ok loaded =>
          match follow loader schema rest (meet path loaded met) with
          | .error fault => .error fault
          | .ok (met, more) => .ok (met, loaded :: more)

theorem subset_meet (path : String) (loaded : Schema) (met : List String) :
    ∀ p ∈ met, p ∈ meet path loaded met := by
  intro p hp
  unfold meet
  split <;> simp [hp]

theorem mem_meet_self (path : String) (loaded : Schema) (met : List String) :
    path ∈ meet path loaded met := by
  unfold meet
  split <;> simp

/-- Dropping more of a list never leaves more of it, and leaves less if something that was kept
is dropped. -/
theorem length_filter_lt {α : Type} {p q : α → Bool} {l : List α} {a : α}
    (himp : ∀ x, q x = true → p x = true) (ha : a ∈ l) (hp : p a = true) (hq : q a = false) :
    (l.filter q).length < (l.filter p).length := by
  induction l with
  | nil => cases ha
  | cons b l ih =>
    have hle : (l.filter q).length ≤ (l.filter p).length := by
      have : (l.filter p).filter q = l.filter q := by
        rw [List.filter_filter]
        apply List.filter_congr
        intro x _
        cases hx : q x with
        | false => simp
        | true => simp [himp x hx]
      rw [← this]
      exact List.length_filter_le q _
    rcases List.mem_cons.1 ha with rfl | hmem
    · simp [hp, hq]; omega
    · have := ih hmem
      cases hqb : q b with
      | false =>
        cases hpb : p b <;> simp [hpb, hqb] <;> omega
      | true => simp [himp b hqb, hqb]; omega

/-- A load that had not been met uses up one of the loader's paths. -/
theorem pendingLoads_meet_lt {loader : Loader} {path : String} {loaded : Schema}
    {met : List String} (hload : loader.load path = .ok loaded)
    (hnew : met.contains path = false) :
    pendingLoads loader (meet path loaded met) < pendingLoads loader met := by
  unfold pendingLoads
  refine length_filter_lt (a := path) ?_ (loader.mem_paths hload) ?_ ?_
  · intro x hx
    have hnot : ¬ x ∈ meet path loaded met := by simpa using hx
    have : ¬ x ∈ met := fun h => hnot (subset_meet path loaded met x h)
    simpa using this
  · simp only [hnew, Bool.not_false]
  · simpa using mem_meet_self path loaded met

/-- What the queue gains, the paths left to load lose. -/
theorem pendingLoads_follow {loader : Loader} {schema : Schema} :
    ∀ {references met met' : List String} {more : List Schema},
      follow loader schema references met = .ok (met', more) →
        pendingLoads loader met' + more.length ≤ pendingLoads loader met
  | [], met, met', more, h => by
    simp only [follow, Except.ok.injEq, Prod.mk.injEq] at h
    obtain ⟨rfl, rfl⟩ := h
    simp
  | reference :: rest, met, met', more, h => by
    unfold follow at h
    split at h
    · cases h
    next path _ =>
      split at h
      · exact pendingLoads_follow h
      next hnew =>
        split at h
        · cases h
        next loaded hload =>
          split at h
          · cases h
          next met₁ more₁ hrest =>
            simp only [Except.ok.injEq, Prod.mk.injEq] at h
            obtain ⟨rfl, rfl⟩ := h
            have h₁ := pendingLoads_follow hrest
            have h₂ := pendingLoads_meet_lt hload (by simpa using hnew)
            simp only [List.length_cons]
            omega

/-- Adds the schemas of the queue and all they refer to, in breadth-first order. -/
def addAll (loader : Loader) (strict : Bool) (met : List String) (queue : List Schema)
    (c : Catalog) : Report Catalog :=
  match queue with
  | [] => .done c
  | schema :: rest =>
    (c.add strict schema).andThen fun c =>
      match _followed : follow loader schema schema.references met with
      | .error fault => .fail fault
      | .ok (met', more) => addAll loader strict met' (rest ++ more) c
termination_by pendingLoads loader met + queue.length
decreasing_by
  have := pendingLoads_follow _followed
  simp only [List.length_append, List.length_cons]
  omega

/-- The catalog of a schema: the schema itself as the first origin, then all it refers to. -/
def build (loader : Loader) (strict : Bool) (schema : Schema) : Report Catalog :=
  (addAll loader strict [schema.path] [schema] {}).andThen fun c =>
    (Report.say (.catalogBuilt schema.name c.origins.length c.index.length)).andThen fun _ =>
      .done c

end Catalog

end SchemaGen
