import SchemaGen.Proofs.Catalog.Traversal

/-!
# Files that arrive twice

A traversal tells by its paths what it has met. For a schema that it loads it marks two of them, the
path that the schema came by and the path that the schema reports; but when a schema arrives, only
the first is compared with what was marked before (`Traversal.Marked`). So a file that is met does
not arrive again under the path that it reports, and does under any other that is new: it then
becomes one more origin. `one_origin_per_path_iff` says that this is the only way to a second origin
of one path.
-/

set_option autoImplicit false

namespace SchemaGen

/-- No two origins have one path, unless it is the empty one. -/
def Catalog.OnePerPath (c : Catalog) : Prop :=
  c.origins.Pairwise fun o o' => o.path ≠ "" → o.path ≠ o'.path

instance (c : Catalog) : Decidable c.OnePerPath :=
  inferInstanceAs (Decidable (c.origins.Pairwise fun o o' => o.path ≠ "" → o.path ≠ o'.path))

namespace Traversal

variable {source : Source} {strict : Bool} {root : Schema} {t t' : Traversal}

/-! ## Arrivals -/

/-- The schemas that arrived, in order, each with the path that it came by. The local schema came by
its own. -/
def arrivals (source : Source) (root : Schema) (t : Traversal) : List (String × Schema) :=
  (root.path, root) :: t.loads.filterMap fun path => (source.loaded? path).map (path, ·)

/-- The later of two arrivals is the file of the earlier one, by a path that it does not report. -/
def ComesAgain (earlier later : String × Schema) : Prop :=
  later.2.path ≠ "" ∧ earlier.2.path = later.2.path ∧ later.1 ≠ later.2.path

theorem map_snd_arrivals (source : Source) (root : Schema) (t : Traversal) :
    (t.arrivals source root).map Prod.snd = root :: t.loads.filterMap source.loaded? := by
  rw [arrivals, List.map_cons, List.map_filterMap]
  congr 2
  funext path
  cases source.loaded? path <;> rfl

theorem load_of_mem_arrivals {a : String × Schema} (ha : a ∈ t.arrivals source root) :
    a = (root.path, root) ∨ source.load a.1 = .ok a.2 := by
  rcases List.mem_cons.mp ha with rfl | ha
  · exact .inl rfl
  · obtain ⟨path, -, hloaded⟩ := List.mem_filterMap.mp ha
    obtain ⟨schema, hschema, rfl⟩ := Option.map_eq_some_iff.mp hloaded
    exact .inr (Source.loaded?_eq_some_iff.mp hschema)

/-- What is marked, and what was compared with it. -/
structure Marked (source : Source) (root : Schema) (t : Traversal) : Prop where
  /-- Of every arrival both paths are met. -/
  met : ∀ a ∈ t.arrivals source root, a.1 ∈ t.met ∧ (a.2.path ≠ "" → a.2.path ∈ t.met)
  /-- Every arrival came by a path that no earlier one came by or reported. -/
  fresh : (t.arrivals source root).Pairwise fun a b =>
    b.1 ≠ a.1 ∧ (a.2.path ≠ "" → b.1 ≠ a.2.path)

theorem marked_start (source : Source) (root : Schema) : Marked source root (start root) where
  met a ha := by
    rw [List.mem_singleton.mp (show a ∈ [(root.path, root)] from ha)]
    exact ⟨List.mem_singleton_self _, fun _ => List.mem_singleton_self _⟩
  fresh := List.pairwise_singleton _ _

theorem reported_mem_meet {path : String} {loaded : Schema} {met : List String}
    (h : loaded.path ≠ "") : loaded.path ∈ Catalog.meet path loaded met := by
  rw [Catalog.meet, if_neg h]
  exact List.mem_cons_self

theorem Marked.step (hstep : Stepped source strict t t') (h : Marked source root t) :
    Marked source root t' := by
  cases hstep with
  | stay => exact h
  | finish => exact ⟨h.met, h.fresh⟩
  | take => exact ⟨h.met, h.fresh⟩
  | pass => exact ⟨h.met, h.fresh⟩
  | fail => exact ⟨h.met, h.fresh⟩
  | @refuse path fault hnew hload =>
    -- the path is marked, and nothing arrives
    have harrivals : arrivals source root
        ({ t with met := path :: t.met, loads := t.loads ++ [path] }.fail fault) =
          t.arrivals source root := by
      simp [arrivals, Traversal.fail, hload]
    refine ⟨?_, ?_⟩
    · rw [harrivals]
      intro a ha
      obtain ⟨hcame, hreported⟩ := h.met a ha
      exact ⟨List.mem_cons_of_mem _ hcame, fun hne => List.mem_cons_of_mem _ (hreported hne)⟩
    · rw [harrivals]
      exact h.fresh
  | @load path loaded turn hgoing hnew hload =>
    have harrivals : arrivals source root
        { t with
          met := Catalog.meet path loaded t.met, queue := t.queue ++ [loaded], turn
          loads := t.loads ++ [path] } = t.arrivals source root ++ [(path, loaded)] := by
      simp [arrivals, hload]
    have hsubset := Catalog.subset_meet path loaded t.met
    refine ⟨?_, ?_⟩
    · rw [harrivals]
      intro a ha
      rcases List.mem_append.mp ha with ha | ha
      · obtain ⟨hcame, hreported⟩ := h.met a ha
        exact ⟨hsubset _ hcame, fun hne => hsubset _ (hreported hne)⟩
      · rw [List.mem_singleton.mp ha]
        exact ⟨Catalog.mem_meet_self path loaded t.met, reported_mem_meet⟩
    · rw [harrivals]
      refine List.pairwise_append.mpr ⟨h.fresh, List.pairwise_singleton _ _, ?_⟩
      intro a ha b hb
      rw [List.mem_singleton.mp hb]
      obtain ⟨hcame, hreported⟩ := h.met a ha
      refine ⟨?_, fun hne => ?_⟩
      · rintro rfl
        exact hnew hcame
      · rintro rfl
        exact hnew (hreported hne)

theorem Reached.marked (h : Reached source strict root t) : Marked source root t :=
  h.keeps (marked_start source root) Marked.step

/-- The origins of a catalog are what arrived. -/
theorem Reached.origins_eq {c : Catalog} (h : Reached source strict root t)
    (hc : t.outcome = some (.ok c)) :
    c.origins = (t.arrivals source root).map fun a => .ofSchema a.2 := by
  obtain ⟨rfl, hqueue⟩ := h.sound.ended c hc
  have horigins := h.sound.origins
  rw [hqueue, List.map_nil, List.append_nil, ← map_snd_arrivals, List.map_map] at horigins
  exact horigins

end Traversal

open Traversal

/-! ## Origins of one path -/

/-- **Two origins have one path just where a file comes again.** Take any loader and any schema
whose catalog can be built. Its origins are what arrived. No two of them have the same path, unless
it is empty, exactly if nothing that was there already arrived again by a path that it does not
report; so it is if every schema reports the path that it is loaded from, or none. -/
theorem one_origin_per_path_iff {loader : Loader} {strict : Bool} {root : Schema} {c : Catalog}
    (h : (Catalog.build loader strict root).result = .ok c) :
    ∃ t, Reached loader.source strict root t ∧ t.outcome = some (.ok c) ∧
      c.origins = (t.arrivals loader.source root).map (fun a => .ofSchema a.2) ∧
      (c.OnePerPath ↔
        (t.arrivals loader.source root).Pairwise fun a b => ¬ ComesAgain a b) ∧
      ((∀ path schema, loader.load path = .ok schema → schema.path = path ∨ schema.path = "") →
        c.OnePerPath) := by
  obtain ⟨steps, hsteps⟩ := exists_iterate_build loader strict root
  have ht : Reached loader.source strict root
      ((step loader.source strict)^[steps] (start root)) := ⟨steps, rfl⟩
  rw [h] at hsteps
  have horigins := ht.origins_eq hsteps
  have hiff : c.OnePerPath ↔ (arrivals loader.source root
      ((step loader.source strict)^[steps] (start root))).Pairwise fun a b => ¬ ComesAgain a b := by
    rw [Catalog.OnePerPath, horigins, List.pairwise_map]
    constructor
    · intro hone
      refine hone.imp ?_
      rintro a b hne ⟨hnonempty, hsame, -⟩
      exact hne (show a.2.path ≠ "" from hsame ▸ hnonempty) hsame
    · intro hnot
      refine (ht.marked.fresh.and hnot).imp ?_
      rintro a b ⟨⟨-, hfresh⟩, hnot⟩ hnonempty hsame
      -- the later one came by a new path, and so not by the one that both report
      have hsame : a.2.path = b.2.path := hsame
      exact hnot ⟨hsame ▸ hnonempty, hsame, hsame ▸ hfresh hnonempty⟩
  refine ⟨_, ht, hsteps, horigins, hiff, fun hreports => hiff.mpr ?_⟩
  refine List.Pairwise.imp_of_mem ?_ ht.marked.fresh
  rintro a b - hb - ⟨hnonempty, -, halias⟩
  rcases load_of_mem_arrivals hb with rfl | hload
  · exact halias rfl
  · rcases hreports b.1 b.2 hload with hpath | hempty
    · exact halias hpath.symm
    · exact hnonempty hempty

/-- The catalog of a schema that refers to the file of two paths by its other path first: the path
that it reports is met by then. -/
theorem one_origin_per_path_iff_alias_first :
    ∃ c t, (Catalog.build twoPathSet.loader true (referringSchema "A" ["b", "B"])).result = .ok c ∧
      Reached twoPathSet.loader.source true (referringSchema "A" ["b", "B"]) t ∧
      t.outcome = some (.ok c) ∧ c.origins.map (·.path) = ["A", "B"] ∧ c.OnePerPath ∧
      (t.arrivals twoPathSet.loader.source (referringSchema "A" ["b", "B"])).Pairwise
        fun a b => ¬ ComesAgain a b := by
  have hview : (Catalog.build twoPathSet.loader true
      (referringSchema "A" ["b", "B"])).result.toOption.map
        (fun c => (c.origins.map (·.path), decide c.OnePerPath)) = some (["A", "B"], true) := by
    decide +kernel
  obtain ⟨c, hc, hview⟩ := Option.map_eq_some_iff.mp hview
  have hc := eq_ok_of_toOption hc
  obtain ⟨hpaths, hone⟩ := Prod.mk.inj hview
  have hone := of_decide_eq_true hone
  obtain ⟨t, ht, hended, -, hiff, -⟩ := one_origin_per_path_iff hc
  exact ⟨c, t, hc, ht, hended, hpaths, hone, hiff.mp hone⟩

/-- **A file can be two origins**: referred to by the path that it reports and then by its other
path, it arrives twice. In strict mode its names then count as exported by two schemas. -/
theorem aliased_file_repeated :
    (∃ c, (Catalog.build twoPathSet.loader false (referringSchema "A" ["B", "b"])).result = .ok c ∧
      c.origins.map (·.path) = ["A", "B", "B"] ∧ ¬ c.OnePerPath) ∧
    ∃ fault, (Catalog.build twoPathSet.loader true (referringSchema "A" ["B", "b"])).result =
        .error fault ∧ fault.message = "ambiguous reference: T is exported by both B and B" := by
  have hview : (Catalog.build twoPathSet.loader false
      (referringSchema "A" ["B", "b"])).result.toOption.map
        (fun c => (c.origins.map (·.path), decide c.OnePerPath)) =
          some (["A", "B", "B"], false) := by
    decide +kernel
  have hmessage : (((Catalog.build twoPathSet.loader true
      (referringSchema "A" ["B", "b"])).result.map fun _ => "").tryCatch fun fault =>
        .ok fault.message).toOption =
          some "ambiguous reference: T is exported by both B and B" := by
    decide +kernel
  obtain ⟨c, hc, hview⟩ := Option.map_eq_some_iff.mp hview
  obtain ⟨hpaths, hone⟩ := Prod.mk.inj hview
  refine ⟨⟨c, eq_ok_of_toOption hc, hpaths, of_decide_eq_false hone⟩, ?_⟩
  cases hresult :
      (Catalog.build twoPathSet.loader true (referringSchema "A" ["B", "b"])).result with
  | error fault =>
    rw [hresult] at hmessage
    exact ⟨fault, rfl, Option.some.inj hmessage⟩
  | ok c' =>
    rw [hresult] at hmessage
    have hempty : "" = "ambiguous reference: T is exported by both B and B" :=
      Option.some.inj hmessage
    exact absurd hempty (by decide)

end SchemaGen
