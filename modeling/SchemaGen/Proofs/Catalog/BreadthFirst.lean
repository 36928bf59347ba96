import Mathlib.Data.Prod.Lex
import Mathlib.Logic.Relation
import Mathlib.Order.Bounds.Basic
import SchemaGen.Proofs.Catalog.Index

/-!
# Which schemas a catalog has, and in which order

A traversal of references marks, loads and queues at different moments, over references that may
lead back to where they come from. What it visits is said here without a queue: the schemas that
references lead to from the local one (`Loader.Reaches`), each once, in the order of the first
references that lead to them. A reference has a `RefPlace`, the schema that lists it and its
position there, and places are compared in that order.

`Explored` is what holds when all references up to some place have been followed. One reference more
finds a known schema or a new one, and either keeps it (`Explored.known`, `Explored.discover`); so
does the step from the last reference of a schema to the first of the next (`Explored.turn`). The
two loops only repeat these steps: `follow_explores` for the references of one schema,
`addAll_explores` for the queue. A run ends with all places behind it, or at the first reference
that leads nowhere.
-/

set_option autoImplicit false

namespace SchemaGen

open Relation (ReflTransGen)

/-! ## Where references lead -/

namespace Loader

/-- A schema that loads knows the path it was loaded from. -/
def Faithful (loader : Loader) : Prop :=
  ∀ {path : String} {schema : Schema}, loader.load path = .ok schema → schema.path = path

/-- The schema that a path stands for while `root` is compiled. The path of `root` stands for `root`
itself, whatever would load from there. -/
def fetch (loader : Loader) (root : Schema) (path : String) : Except Fault Schema :=
  if path = root.path then .ok root else loader.load path

/-- The schema that a reference of `s` leads to. -/
def target (loader : Loader) (root s : Schema) (reference : String) : Except Fault Schema :=
  (loader.resolve s.path reference).bind (loader.fetch root)

/-- One schema has a reference to another. -/
def RefersTo (loader : Loader) (root s t : Schema) : Prop :=
  ∃ reference ∈ s.references, loader.target root s reference = .ok t

/-- References lead from `root` to a schema. -/
def Reaches (loader : Loader) (root : Schema) : Schema → Prop :=
  ReflTransGen (loader.RefersTo root) root

variable {loader : Loader} {root s t : Schema} {reference : String}

theorem fetch_root (loader : Loader) (root : Schema) :
    loader.fetch root root.path = .ok root :=
  if_pos rfl

theorem path_of_fetch (hf : loader.Faithful) {path : String}
    (h : loader.fetch root path = .ok t) : t.path = path := by
  unfold fetch at h
  split at h
  next hroot =>
    cases h
    exact hroot.symm
  next => exact hf h

/-- A reference leads to a schema by its path. -/
theorem target_eq_ok_iff (hf : loader.Faithful) :
    loader.target root s reference = .ok t ↔
      loader.resolve s.path reference = .ok t.path ∧ loader.fetch root t.path = .ok t := by
  unfold target
  cases hresolve : loader.resolve s.path reference with
  | error cause => simp [Except.bind]
  | ok path =>
    constructor
    · intro h
      have hpath := path_of_fetch hf h
      exact ⟨by rw [hpath], by rw [hpath]; exact h⟩
    · rintro ⟨hpath, hfetch⟩
      cases hpath
      exact hfetch

/-- A reference leads somewhere if it resolves and what it resolves to loads, or is the local
schema. -/
theorem exists_target_iff :
    (∃ t, loader.target root s reference = .ok t) ↔
      ∃ path, loader.resolve s.path reference = .ok path ∧
        (path ≠ root.path → ∃ loaded, loader.load path = .ok loaded) := by
  unfold target fetch
  cases loader.resolve s.path reference with
  | error cause => simp [Except.bind]
  | ok path =>
    by_cases hroot : path = root.path
    · simp [Except.bind, hroot]
    · simp [Except.bind, hroot]

end Loader

/-! ## Places of references -/

/-- The place of a reference in a list of schemas: which schema lists it, and where. -/
abbrev RefPlace := Nat ×ₗ Nat

/-- The place of the reference `j` of the schema `i`. -/
def refPlace (i j : Nat) : RefPlace :=
  toLex (i, j)

theorem refPlace_lt_refPlace {i j i' j' : Nat} :
    refPlace i j < refPlace i' j' ↔ i < i' ∨ i = i' ∧ j < j' :=
  Prod.Lex.toLex_lt_toLex

/-- The reference at a place, with the schema that lists it. -/
def referenceAt (l : List Schema) (p : RefPlace) : Option (Schema × String) :=
  l[(ofLex p).1]?.bind fun s => s.references[(ofLex p).2]?.map fun reference => (s, reference)

/-- The reference at a place resolves to `path`. -/
def LeadsTo (loader : Loader) (l : List Schema) (path : String) (p : RefPlace) : Prop :=
  ∃ s reference, referenceAt l p = some (s, reference) ∧
    loader.resolve s.path reference = .ok path

theorem referenceAt_refPlace {l : List Schema} {i j : Nat} {s : Schema} {reference : String} :
    referenceAt l (refPlace i j) = some (s, reference) ↔
      l[i]? = some s ∧ s.references[j]? = some reference := by
  show l[i]?.bind _ = _ ↔ _
  constructor
  · intro h
    obtain ⟨s', hs', h⟩ := Option.bind_eq_some_iff.mp h
    obtain ⟨reference', hreference, h⟩ := Option.map_eq_some_iff.mp h
    cases h
    exact ⟨hs', hreference⟩
  · rintro ⟨hs, hreference⟩
    rw [hs, Option.bind_some]
    exact congrArg (Option.map _) hreference

theorem mem_of_referenceAt {l : List Schema} {p : RefPlace} {s : Schema} {reference : String}
    (h : referenceAt l p = some (s, reference)) : s ∈ l ∧ reference ∈ s.references := by
  obtain ⟨hs, hreference⟩ := referenceAt_refPlace.mp (show referenceAt l (refPlace _ _) = _ from h)
  exact ⟨List.mem_of_getElem? hs, List.mem_of_getElem? hreference⟩

/-- A schema at the end of a list moves no reference. -/
theorem referenceAt_concat {l : List Schema} {t : Schema} {p : RefPlace}
    (h : (ofLex p).1 < l.length) : referenceAt (l ++ [t]) p = referenceAt l p := by
  rw [referenceAt, referenceAt, List.getElem?_append_left h]

theorem fst_lt_of_referenceAt {l : List Schema} {p : RefPlace} {found : Schema × String}
    (h : referenceAt l p = some found) : (ofLex p).1 < l.length := by
  obtain ⟨s, hs, -⟩ := Option.bind_eq_some_iff.mp h
  exact (List.getElem?_eq_some_iff.mp hs).1

/-! ## The invariant -/

/-- The schemas met: `root`, and what was found from there on. -/
def metSchemas (root : Schema) (found : List (Schema × RefPlace)) : List Schema :=
  root :: found.map Prod.fst

theorem metSchemas_concat (root : Schema) (found : List (Schema × RefPlace)) (t : Schema)
    (p : RefPlace) : metSchemas root (found ++ [(t, p)]) = metSchemas root found ++ [t] := by
  rw [metSchemas, metSchemas, List.map_append, List.cons_append]
  rfl

/-- All references before the place `stop` have been followed from `root` on, breadth first: those
that led to new schemas are listed with these. -/
structure Explored (loader : Loader) (root : Schema) (found : List (Schema × RefPlace))
    (stop : RefPlace) : Prop where
  /-- No path is met twice. -/
  distinct : ((metSchemas root found).map (·.path)).Nodup
  /-- What is met is what its path stands for, and references lead there. -/
  reached : ∀ s ∈ metSchemas root found,
    loader.fetch root s.path = .ok s ∧ loader.Reaches root s
  /-- A schema is listed with the first reference that leads to it. -/
  first : ∀ f ∈ found, IsLeast {p | LeadsTo loader (metSchemas root found) f.1.path p} f.2
  /-- Schemas are listed in the order of these references. -/
  ordered : found.Pairwise (·.2 < ·.2)
  /-- No reference at or behind `stop` was followed. -/
  behind : ∀ f ∈ found, f.2 < stop
  /-- Every reference before `stop` leads to a schema that is met. -/
  settled : ∀ p < stop, ∀ s reference, referenceAt (metSchemas root found) p = some (s, reference) →
    ∃ t ∈ metSchemas root found, loader.target root s reference = .ok t

namespace Explored

variable {loader : Loader} {root s t : Schema} {found : List (Schema × RefPlace)} {stop : RefPlace}
  {i j : Nat} {reference : String}

theorem start (loader : Loader) (root : Schema) : Explored loader root [] (refPlace 0 0) where
  distinct := by simp [metSchemas]
  reached s hs := by
    rw [List.mem_singleton.mp hs]
    exact ⟨loader.fetch_root root, .refl⟩
  first f hf := by cases hf
  ordered := .nil
  behind f hf := by cases hf
  settled p hp := by
    rcases refPlace_lt_refPlace.mp (show refPlace _ _ < refPlace 0 0 from hp) with h | ⟨-, h⟩ <;>
      exact absurd h (Nat.not_lt_zero _)

/-- What is before the place behind `(i, j)` is before it or is it. -/
theorem lt_or_eq_of_lt_succ {i j : Nat} {p : RefPlace} (h : p < refPlace i (j + 1)) :
    p < refPlace i j ∨ p = refPlace i j := by
  obtain ⟨i', j'⟩ := p
  rcases refPlace_lt_refPlace.mp h with hi | ⟨rfl, hj⟩
  · exact Or.inl (refPlace_lt_refPlace.mpr (Or.inl hi))
  · rcases Nat.lt_succ_iff_lt_or_eq.mp hj with hj | rfl
    · exact Or.inl (refPlace_lt_refPlace.mpr (Or.inr ⟨rfl, hj⟩))
    · exact Or.inr rfl

theorem refPlace_lt_succ (i j : Nat) : refPlace i j < refPlace i (j + 1) :=
  refPlace_lt_refPlace.mpr (Or.inr ⟨rfl, Nat.lt_succ_self j⟩)

/-- **A reference to a schema that is met.** -/
theorem known (h : Explored loader root found (refPlace i j))
    (hplace : referenceAt (metSchemas root found) (refPlace i j) = some (s, reference))
    (ht : t ∈ metSchemas root found) (htarget : loader.target root s reference = .ok t) :
    Explored loader root found (refPlace i (j + 1)) where
  distinct := h.distinct
  reached := h.reached
  first := h.first
  ordered := h.ordered
  behind f hf := (h.behind f hf).trans (refPlace_lt_succ i j)
  settled p hp s' reference' hreference := by
    rcases lt_or_eq_of_lt_succ hp with hp | rfl
    · exact h.settled p hp s' reference' hreference
    · cases hplace.symm.trans hreference
      exact ⟨t, ht, htarget⟩

/-- **A reference to a new schema.** -/
theorem discover (hf : loader.Faithful) (h : Explored loader root found (refPlace i j))
    (hplace : referenceAt (metSchemas root found) (refPlace i j) = some (s, reference))
    (htarget : loader.target root s reference = .ok t)
    (hnew : t.path ∉ (metSchemas root found).map (·.path)) :
    Explored loader root (found ++ [(t, refPlace i j)]) (refPlace i (j + 1)) := by
  have hmet := metSchemas_concat root found t (refPlace i j)
  obtain ⟨hresolve, hfetch⟩ := (Loader.target_eq_ok_iff hf).mp htarget
  -- up to the place itself the new list has the references of the old one
  have hold {p : RefPlace} (hp : p < refPlace i j ∨ p = refPlace i j) :
      referenceAt (metSchemas root found ++ [t]) p = referenceAt (metSchemas root found) p := by
    refine referenceAt_concat (lt_of_le_of_lt ?_ (fst_lt_of_referenceAt hplace))
    rcases hp with hp | rfl
    · exact Prod.Lex.monotone_fst _ _ hp.le
    · exact le_rfl
  refine ⟨?_, ?_, ?_, ?_, ?_, ?_⟩
  · rw [hmet, List.map_append]
    refine List.nodup_append.mpr ⟨h.distinct, by simp, ?_⟩
    rintro a ha b hb rfl
    rw [List.mem_singleton.mp hb] at ha
    exact hnew ha
  · intro s' hs'
    rw [hmet] at hs'
    rcases List.mem_append.mp hs' with hs' | hs'
    · exact h.reached s' hs'
    · rw [List.mem_singleton.mp hs']
      obtain ⟨hs, hreference⟩ := mem_of_referenceAt hplace
      exact ⟨hfetch, (h.reached s hs).2.tail ⟨reference, hreference, htarget⟩⟩
  · intro f hfound
    rw [hmet]
    rcases List.mem_append.mp hfound with hfound | hfound
    · obtain ⟨⟨s', reference', hat, hleads⟩, hleast⟩ := h.first f hfound
      refine ⟨⟨s', reference', (hold (Or.inl (h.behind f hfound))).trans hat, hleads⟩, ?_⟩
      rintro p ⟨s', reference', hat, hleads⟩
      by_contra hlt
      have hbefore := (not_le.mp hlt).trans (h.behind f hfound)
      exact hlt (hleast ⟨s', reference', (hold (Or.inl hbefore)).symm.trans hat, hleads⟩)
    · rw [List.mem_singleton.mp hfound]
      refine ⟨⟨s, reference, (hold (Or.inr rfl)).trans hplace, hresolve⟩, ?_⟩
      rintro p ⟨s', reference', hat, hleads⟩
      by_contra hlt
      -- an earlier reference to the new path would have led to a schema that is met
      have hbefore := not_le.mp hlt
      obtain ⟨t', ht', htarget'⟩ := h.settled p hbefore s' reference'
        ((hold (Or.inl hbefore)).symm.trans hat)
      have hpath : t'.path = t.path :=
        Except.ok.inj (((Loader.target_eq_ok_iff hf).mp htarget').1.symm.trans hleads)
      exact hnew (hpath ▸ List.mem_map_of_mem ht')
  · refine List.pairwise_append.mpr ⟨h.ordered, List.pairwise_singleton _ _, ?_⟩
    intro f hfound f' hf'
    rw [List.mem_singleton.mp hf']
    exact h.behind f hfound
  · intro f hfound
    rcases List.mem_append.mp hfound with hfound | hfound
    · exact (h.behind f hfound).trans (refPlace_lt_succ i j)
    · rw [List.mem_singleton.mp hfound]
      exact refPlace_lt_succ i j
  · intro p hp s' reference' hat
    rw [hmet] at hat ⊢
    have hp' := lt_or_eq_of_lt_succ hp
    rw [hold hp'] at hat
    rcases hp' with hp' | rfl
    · obtain ⟨t', ht', htarget'⟩ := h.settled p hp' s' reference' hat
      exact ⟨t', List.mem_append_left _ ht', htarget'⟩
    · cases hplace.symm.trans hat
      exact ⟨t, List.mem_append_right _ (List.mem_singleton.mpr rfl), htarget⟩

/-- **The end of the references of a schema.** -/
theorem turn (h : Explored loader root found (refPlace i j))
    (hs : (metSchemas root found)[i]? = some s) (hend : s.references.length ≤ j) :
    Explored loader root found (refPlace (i + 1) 0) where
  distinct := h.distinct
  reached := h.reached
  first := h.first
  ordered := h.ordered
  behind f hf := (h.behind f hf).trans (refPlace_lt_refPlace.mpr (Or.inl (Nat.lt_succ_self i)))
  settled p hp s' reference' hat := by
    obtain ⟨i', j'⟩ := p
    refine h.settled _ (refPlace_lt_refPlace.mpr ?_) s' reference' hat
    obtain ⟨hs', hreference⟩ := referenceAt_refPlace.mp hat
    rcases refPlace_lt_refPlace.mp hp with hi | ⟨-, hj⟩
    · rcases Nat.lt_succ_iff_lt_or_eq.mp hi with hi | rfl
      · exact Or.inl hi
      · cases hs.symm.trans hs'
        have hlt := (List.getElem?_eq_some_iff.mp hreference).1
        exact Or.inr ⟨rfl, Nat.lt_of_lt_of_le hlt hend⟩
    · exact absurd hj (Nat.not_lt_zero _)

end Explored

/-! ## The two loops -/

/-- The fault of a traversal from `root` that met a reference that leads nowhere, the first one in
breadth-first order. -/
def FailsAtFirst (loader : Loader) (root : Schema) (fault : Fault) : Prop :=
  ∃ found stop s reference cause, Explored loader root found stop ∧
    referenceAt (metSchemas root found) stop = some (s, reference) ∧
    loader.target root s reference = .error cause ∧
    fault = .missingReference reference s.name cause

namespace Catalog

variable {loader : Loader} {root : Schema}

/-- The paths met are those of the schemas met. -/
def MetAre (met : List String) (l : List Schema) : Prop :=
  ∀ path, path ∈ met ↔ path ∈ l.map (·.path)

theorem MetAre.meet {met : List String} {l : List Schema} {t : Schema} (h : MetAre met l) :
    MetAre (meet t.path t met) (l ++ [t]) := by
  intro path
  have hmeet : path ∈ Catalog.meet t.path t met ↔ path = t.path ∨ path ∈ met := by
    unfold Catalog.meet
    split <;> simp
  rw [hmeet, h path, List.map_append, List.mem_append, or_comm]
  simp

/-- **The references of one schema**, from the reference `j` on. -/
theorem follow_explores (hf : loader.Faithful) {s : Schema} {i : Nat} :
    ∀ {references met : List String} {j : Nat} {found : List (Schema × RefPlace)},
      Explored loader root found (refPlace i j) → (metSchemas root found)[i]? = some s →
      s.references.drop j = references → MetAre met (metSchemas root found) →
        match follow loader s references met with
        | .ok (met', more) => ∃ found', metSchemas root found' = metSchemas root found ++ more ∧
            Explored loader root found' (refPlace (i + 1) 0) ∧ MetAre met' (metSchemas root found')
        | .error fault => FailsAtFirst loader root fault
  | [], met, j, found, h, hs, hdrop, hmet => by
    refine ⟨found, (List.append_nil _).symm, h.turn hs ?_, hmet⟩
    exact List.drop_eq_nil_iff.mp hdrop
  | reference :: rest, met, j, found, h, hs, hdrop, hmet => by
    have hreference : s.references[j]? = some reference := by
      rw [← List.head?_drop, hdrop]
      rfl
    have hplace := referenceAt_refPlace.mpr ⟨hs, hreference⟩
    have hrest : s.references.drop (j + 1) = rest := by
      rw [← List.tail_drop, hdrop]
      rfl
    -- a reference that does not lead on is the first of its kind
    have hfails {cause : Fault} (htarget : loader.target root s reference = .error cause) :
        FailsAtFirst loader root (.missingReference reference s.name cause) :=
      ⟨found, _, s, reference, cause, h, hplace, htarget, rfl⟩
    unfold follow
    cases hresolve : loader.resolve s.path reference with
    | error cause =>
      refine hfails ?_
      rw [Loader.target, hresolve]
      rfl
    | ok path =>
      have htarget : loader.target root s reference = loader.fetch root path := by
        rw [Loader.target, hresolve]
        rfl
      dsimp only
      by_cases hknown : path ∈ met
      · rw [if_pos (List.contains_iff_mem.mpr hknown)]
        obtain ⟨t, ht, rfl⟩ := List.mem_map.mp ((hmet path).mp hknown)
        have hknown := h.known hplace ht (htarget.trans (h.reached t ht).1)
        exact follow_explores hf hknown hs hrest hmet
      · rw [if_neg (by simpa using hknown)]
        have hpath : path ∉ (metSchemas root found).map (·.path) :=
          fun hp => hknown ((hmet path).mpr hp)
        have hload : loader.fetch root path = loader.load path := by
          refine if_neg ?_
          rintro rfl
          exact hpath (List.mem_map_of_mem List.mem_cons_self)
        rw [hload] at htarget
        cases hloaded : loader.load path with
        | error cause => exact hfails (htarget.trans hloaded)
        | ok t =>
          cases hf hloaded
          have hfound := h.discover hf hplace (htarget.trans hloaded) hpath
          have hconcat := metSchemas_concat root found t (refPlace i j)
          have hs' : (metSchemas root (found ++ [(t, refPlace i j)]))[i]? = some s := by
            rw [hconcat, List.getElem?_append_left (List.getElem?_eq_some_iff.mp hs).1, hs]
          have hrun := follow_explores hf hfound hs' hrest (hconcat ▸ hmet.meet)
          dsimp only
          cases hfollow : follow loader s rest (meet t.path t met) with
          | error fault =>
            rw [hfollow] at hrun
            exact hrun
          | ok followed =>
            obtain ⟨met', more⟩ := followed
            rw [hfollow] at hrun
            obtain ⟨found', hlist, hexplored, hmet'⟩ := hrun
            refine ⟨found', ?_, hexplored, hmet'⟩
            rw [hlist, hconcat, List.append_assoc]
            rfl

/-! A schema can always be added when two may export one name. -/

theorem exists_addObject (c : Catalog) (place : Nat) (schema : String) (o : SchemaObject) :
    ∃ c', (c.addObject false place schema o).result = .ok c' := by
  unfold addObject addPrimitive addExport
  split
  · split <;> exact ⟨_, rfl⟩
  · split
    · split
      · exact ⟨_, rfl⟩
      · -- known from the same schema, from the local one, or from another
        split
        · exact ⟨_, rfl⟩
        · split <;> exact ⟨_, rfl⟩
    · exact ⟨_, rfl⟩

theorem exists_addObjects (place : Nat) (schema : String) (os : List SchemaObject) :
    ∀ c : Catalog, ∃ c', (addObjects false place schema os c).result = .ok c' := by
  induction os with
  | nil => exact fun c => ⟨c, rfl⟩
  | cons o os ih =>
    intro c
    obtain ⟨c₁, hc₁⟩ := exists_addObject c place schema o
    obtain ⟨c₂, hc₂⟩ := ih c₁
    refine ⟨c₂, ?_⟩
    rw [addObjects, Report.result_andThen, hc₁]
    exact hc₂

theorem exists_add (c : Catalog) (s : Schema) :
    ∃ c', (c.add false s).result = .ok c' ∧ c'.origins = c.origins ++ [.ofSchema s] := by
  obtain ⟨c', hc'⟩ := exists_addObjects c.origins.length s.name s.objects c
  refine ⟨{ c' with origins := c'.origins ++ [.ofSchema s] }, ?_, ?_⟩
  · rw [add, Report.result_andThen, hc']
    rfl
  · rw [(addObjects_spec hc').1]

/-- What a traversal from `root` comes to: all references have been followed and the schemas met are
the origins, or it failed at the first reference that leads nowhere. -/
def Traversed (loader : Loader) (root : Schema) : Except Fault Catalog → Prop
  | .ok c => ∃ found, Explored loader root found (refPlace (metSchemas root found).length 0) ∧
      c.origins = (metSchemas root found).map .ofSchema
  | .error fault => FailsAtFirst loader root fault

/-- **The queue.** The schemas met are those that are origins already and those that wait. -/
theorem addAll_explores (hf : loader.Faithful) {met : List String} {queue : List Schema}
    {c : Catalog} (visited : List Schema) {found : List (Schema × RefPlace)}
    (h : Explored loader root found (refPlace visited.length 0))
    (hlist : metSchemas root found = visited ++ queue)
    (horigins : c.origins = visited.map .ofSchema) (hmet : MetAre met (metSchemas root found)) :
    Traversed loader root (addAll loader false met queue c).result := by
  -- by the recursion of the traversal; the step is `follow_explores`
  induction met, queue, c using addAll.induct loader generalizing visited found with
  | case1 met c =>
    rw [addAll]
    rw [List.append_nil] at hlist
    exact ⟨found, by rw [hlist]; exact h, by rw [hlist]; exact horigins⟩
  | case2 met c schema rest ih =>
    obtain ⟨c₁, hadd, horigins₁⟩ := exists_add c schema
    have hs : (metSchemas root found)[visited.length]? = some schema := by
      rw [hlist, List.getElem?_append_right (Nat.le_refl _), Nat.sub_self]
      rfl
    have hrun := follow_explores hf h hs List.drop_zero hmet
    rw [addAll, Report.result_andThen, hadd]
    dsimp only [Except.bind]
    split
    next fault hfollow =>
      rw [hfollow] at hrun
      exact hrun
    next met' more hfollow =>
      rw [hfollow] at hrun
      obtain ⟨found', hlist', hexplored, hmet'⟩ := hrun
      refine ih c₁ met' more hfollow (visited ++ [schema]) ?_ ?_ ?_ hmet'
      · rw [List.length_append]
        exact hexplored
      · rw [hlist', hlist, List.append_assoc, List.append_assoc]
        rfl
      · rw [horigins₁, horigins, List.map_append]
        rfl

theorem build_explores (hf : loader.Faithful) (root : Schema) :
    Traversed loader root (build loader false root).result := by
  have hrun : Traversed loader root (addAll loader false [root.path] [root] {}).result :=
    addAll_explores hf [] (Explored.start loader root) rfl rfl fun _ => Iff.rfl
  rw [build, Report.result_andThen]
  cases hall : (addAll loader false [root.path] [root] {}).result with
  | error fault =>
    rw [hall] at hrun
    exact hrun
  | ok c =>
    rw [hall] at hrun
    exact hrun

end Catalog

/-! ## The closure of references -/

namespace Explored

variable {loader : Loader} {root s t : Schema} {found : List (Schema × RefPlace)}
  {reference : String}

/-- Behind the last schema there is no reference left that was not followed. -/
theorem exists_target (h : Explored loader root found (refPlace (metSchemas root found).length 0))
    (hs : s ∈ metSchemas root found) (hreference : reference ∈ s.references) :
    ∃ t ∈ metSchemas root found, loader.target root s reference = .ok t := by
  obtain ⟨i, hi⟩ := List.getElem?_of_mem hs
  obtain ⟨j, hj⟩ := List.getElem?_of_mem hreference
  have hlt := (List.getElem?_eq_some_iff.mp hi).1
  exact h.settled (refPlace i j) (refPlace_lt_refPlace.mpr (Or.inl hlt)) s reference
    (referenceAt_refPlace.mpr ⟨hi, hj⟩)

/-- So the schemas met are those that references lead to. -/
theorem mem_iff_reaches
    (h : Explored loader root found (refPlace (metSchemas root found).length 0)) :
    t ∈ metSchemas root found ↔ loader.Reaches root t := by
  refine ⟨fun ht => (h.reached t ht).2, fun hreach => ?_⟩
  induction hreach with
  | refl => exact List.mem_cons_self
  | @tail s t _ hst ih =>
    obtain ⟨reference, hreference, htarget⟩ := hst
    obtain ⟨t', ht', htarget'⟩ := h.exists_target ih hreference
    cases htarget.symm.trans htarget'
    exact ht'

end Explored

/-- Schemas are listed in breadth-first order: the first references that lead to them, of the
schemas of the same list, have increasing places. -/
def BreadthFirst (loader : Loader) (l : List Schema) : Prop :=
  ∃ first : Nat → RefPlace, StrictMonoOn first (Set.Ioo 0 l.length) ∧
    ∀ k s, 0 < k → l[k]? = some s → IsLeast {p | LeadsTo loader l s.path p} (first k)

theorem Explored.breadthFirst {loader : Loader} {root : Schema} {found : List (Schema × RefPlace)}
    {stop : RefPlace} (h : Explored loader root found stop) :
    BreadthFirst loader (metSchemas root found) := by
  refine ⟨fun k => (found[k - 1]?.map Prod.snd).getD (refPlace 0 0), ?_, ?_⟩
  · rintro k ⟨hk, -⟩ k' ⟨-, hk'⟩ hlt
    rw [metSchemas, List.length_cons, List.length_map] at hk'
    have hk₁ : k - 1 < found.length := by omega
    have hk₂ : k' - 1 < found.length := by omega
    simp only [List.getElem?_eq_getElem hk₁, List.getElem?_eq_getElem hk₂, Option.map_some,
      Option.getD_some]
    exact List.pairwise_iff_getElem.mp h.ordered _ _ hk₁ hk₂ (by omega)
  · intro k s hk hs
    obtain ⟨k, rfl⟩ := Nat.exists_eq_add_one.mpr hk
    rw [metSchemas, List.getElem?_cons_succ, List.getElem?_map] at hs
    obtain ⟨f, hf, rfl⟩ := Option.map_eq_some_iff.mp hs
    simp only [Nat.add_sub_cancel, hf, Option.map_some, Option.getD_some]
    exact h.first f (List.mem_of_getElem? hf)

namespace Catalog

/-- **The closure of references.** Take any loader whose schemas know their paths, and any schema.
Its catalog can be built exactly if every reference of every schema that references lead to
resolves, to the path of the schema itself or to one that loads. The origins then are the schema
and all that references lead to, no path twice, in breadth-first order. Otherwise the fault is that
of a missing file, and names the first reference in that order that leads nowhere, and the schema
that lists it. -/
theorem reference_closure {loader : Loader} (hf : loader.Faithful) (root : Schema) :
    ((∃ c, (build loader false root).result = .ok c) ↔
      ∀ s, loader.Reaches root s → ∀ reference ∈ s.references,
        ∃ path, loader.resolve s.path reference = .ok path ∧
          (path ≠ root.path → ∃ loaded, loader.load path = .ok loaded)) ∧
    (∀ c, (build loader false root).result = .ok c →
      ∃ l : List Schema, c.origins = l.map .ofSchema ∧ l.head? = some root ∧
        (l.map (·.path)).Nodup ∧
        (∀ path, path ∈ l.map (·.path) ↔ ∃ s, loader.Reaches root s ∧ s.path = path) ∧
        BreadthFirst loader l) ∧
    (∀ fault, (build loader false root).result = .error fault →
      fault.code = some .notFound ∧
      ∃ found stop s reference, Explored loader root found stop ∧
        BreadthFirst loader (metSchemas root found) ∧
        referenceAt (metSchemas root found) stop = some (s, reference) ∧
        (¬ ∃ path, loader.resolve s.path reference = .ok path ∧
          (path ≠ root.path → ∃ loaded, loader.load path = .ok loaded)) ∧
        fault.message = "missing schema file " ++ reference ++ " referenced by " ++ s.name) := by
  have hrun := build_explores hf root
  cases hresult : (build loader false root).result with
  | ok c =>
    rw [hresult] at hrun
    obtain ⟨found, h, horigins⟩ := hrun
    refine ⟨⟨fun _ s hs reference hreference => ?_, fun _ => ⟨c, rfl⟩⟩, ?_, ?_⟩
    · obtain ⟨t, -, ht⟩ := h.exists_target (h.mem_iff_reaches.mpr hs) hreference
      exact Loader.exists_target_iff.mp ⟨t, ht⟩
    · rintro c' hc'
      cases hc'
      refine ⟨_, horigins, rfl, h.distinct, fun path => ?_, h.breadthFirst⟩
      rw [List.mem_map]
      exact exists_congr fun s => and_congr_left fun _ => h.mem_iff_reaches
    · intro fault hfault
      cases hfault
  | error fault =>
    rw [hresult] at hrun
    obtain ⟨found, stop, s, reference, cause, h, hplace, htarget, rfl⟩ := hrun
    have hnowhere : ¬ ∃ t, loader.target root s reference = .ok t := by
      rintro ⟨t, ht⟩
      cases htarget.symm.trans ht
    rw [Loader.exists_target_iff] at hnowhere
    refine ⟨⟨?_, fun hall => ?_⟩, ?_, ?_⟩
    · rintro ⟨c, hc⟩
      cases hc
    · obtain ⟨hs, hreference⟩ := mem_of_referenceAt hplace
      exact absurd (hall s (h.reached s hs).2 reference hreference) hnowhere
    · intro c hc
      cases hc
    · intro fault hfault
      cases hfault
      exact ⟨rfl, found, stop, s, reference, h, h.breadthFirst, hplace, hnowhere, rfl⟩

end Catalog

/-! ## A ring of schemas -/

/-- Schemas held in memory know their paths if they are entered under them. -/
theorem SchemaSet.faithful_loader {set : SchemaSet} (h : ∀ e ∈ set.entries, e.2.path = e.1) :
    set.loader.Faithful := by
  intro path schema hload
  unfold SchemaSet.loader SchemaSet.load at hload
  dsimp only at hload
  split at hload
  · cases hload
  · split at hload
    next found =>
      cases hload
      obtain ⟨before, behind, hentries, -⟩ := List.lookup_eq_some_iff.mp found
      exact h (path, schema) (by rw [hentries]; simp)
    next => cases hload

/-- A schema that refers to these others, at the path of its own name. -/
def referringSchema (name : String) (references : List String) : Schema where
  name := name
  path := name
  objects := [{ name := "Schema", type := .metadata, metadata := { references } }]

/-- Two schemas that refer to each other and back to `A`, which is not among them. The first has a
reference twice, the second one to itself. -/
def ringSet (broken : List String) : SchemaSet where
  entries :=
    [("C", referringSchema "C" ["C", "B"]), ("B", referringSchema "B" ["A", "C", "C"])]
  aliases := [("A", "A")]
  broken := broken

/-- From `A` on, the ring is met in the order in which its schemas are referred to, each once. If
`B` does not load, that is noticed at the first reference of `A`. -/
theorem reference_closure_ring :
    (ringSet []).loader.Faithful ∧ (ringSet ["B"]).loader.Faithful ∧
    (∃ c l, (Catalog.build (ringSet []).loader false (referringSchema "A" ["B", "C"])).result =
        .ok c ∧ c.origins = l.map .ofSchema ∧ l.map (·.path) = ["A", "B", "C"] ∧
        BreadthFirst (ringSet []).loader l) ∧
    ∃ fault, (Catalog.build (ringSet ["B"]).loader false
        (referringSchema "A" ["B", "C"])).result = .error fault ∧ fault.code = some .notFound ∧
        fault.message = "missing schema file B referenced by A" := by
  have hring (broken : List String) : (ringSet broken).loader.Faithful := by
    refine SchemaSet.faithful_loader fun e he => ?_
    simp only [ringSet, List.mem_cons, List.not_mem_nil, or_false] at he
    rcases he with rfl | rfl <;> rfl
  refine ⟨hring [], hring ["B"], ?_, ?_⟩
  · have hpaths : (Catalog.build (ringSet []).loader false
        (referringSchema "A" ["B", "C"])).result.toOption.map (fun c => c.origins.map (·.path)) =
          some ["A", "B", "C"] := by
      decide +kernel
    obtain ⟨c, hc, hpaths⟩ := Option.map_eq_some_iff.mp hpaths
    have hc := eq_ok_of_toOption hc
    obtain ⟨l, hl, -, -, -, hbreadth⟩ := (Catalog.reference_closure (hring []) _).2.1 c hc
    rw [hl, List.map_map] at hpaths
    exact ⟨c, l, hc, hl, hpaths, hbreadth⟩
  · have hmessage : (match (Catalog.build (ringSet ["B"]).loader false
        (referringSchema "A" ["B", "C"])).result with
        | .ok _ => ""
        | .error fault => fault.message) = "missing schema file B referenced by A" := by
      decide +kernel
    split at hmessage
    next => exact absurd hmessage (by decide)
    next fault hfault =>
      obtain ⟨hcode, -⟩ := (Catalog.reference_closure (hring ["B"]) _).2.2 fault hfault
      exact ⟨fault, hfault, hcode, hmessage⟩

end SchemaGen
