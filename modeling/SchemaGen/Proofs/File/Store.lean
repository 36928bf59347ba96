import Mathlib.Data.List.Basic
import SchemaGen.File.Store
import SchemaGen.Proofs.File.Path

/-!
# Where paths lead

The place that a path leads to can be told from its text and the working directory alone
(`destination`); what the directories decide is only whether one gets there. Cleaning a path does
not change where it leads (`destination_clean`), and along a clean path nothing is passed but the
directories above the place, so that a clean path reads what lies at its destination
(`read_clean`).

Making a directory that is there changes nothing (`makeAlong_again`), and putting a file into a
directory makes no directory (`isDir_put`).
-/

set_option autoImplicit false

namespace SchemaGen.FileStore

open SchemaGen.Path (IsName IsClean parts clean push cleanParts ofParts isRooted)

variable {s t : FileStore} {p q here : Place}

/-! ## Directories -/

theorem isDir_iff : s.isDir p = true ↔ p = [] ∨ p <+: s.cwd ∨ (∃ d ∈ s.dirs, p <+: d) ∨
    ∃ f ∈ s.files, p <+: f.1 ∧ p ≠ f.1 := by
  simp [isDir, or_assoc]

/-- What is above a directory is a directory. -/
theorem isDir_of_prefix (h : s.isDir q = true) (hpq : p <+: q) : s.isDir p = true := by
  rw [isDir_iff] at h ⊢
  rcases h with rfl | hcwd | ⟨d, hd, hqd⟩ | ⟨f, hf, hqf, hne⟩
  · exact .inl (List.prefix_nil.mp hpq)
  · exact .inr (.inl (hpq.trans hcwd))
  · exact .inr (.inr (.inl ⟨d, hd, hpq.trans hqd⟩))
  · refine .inr (.inr (.inr ⟨f, hf, hpq.trans hqf, ?_⟩))
    rintro rfl
    exact hne (List.IsPrefix.eq_of_length_le hqf hpq.length_le)

theorem isDir_start (s : FileStore) (path : String) : s.isDir (s.start path) = true := by
  rw [isDir_iff, start]
  split
  · exact .inl rfl
  · exact .inr (.inl (List.prefix_refl _))

theorem isDir_dropLast (h : s.isDir p = true) : s.isDir p.dropLast = true :=
  isDir_of_prefix h (List.dropLast_prefix p)

/-- A file lies in a directory. -/
theorem isDir_dropLast_of_fileAt? {text : String} (h : s.fileAt? p = some text) :
    s.isDir p.dropLast = true := by
  rcases List.eq_nil_or_concat' p with rfl | ⟨q, name, rfl⟩
  · exact isDir_iff.mpr (.inl rfl)
  · obtain ⟨l, r, hfiles, -⟩ := List.lookup_eq_some_iff.mp h
    rw [List.dropLast_concat, isDir_iff]
    refine .inr (.inr (.inr ⟨(q ++ [name], text), ?_, List.prefix_append _ _, by simp⟩))
    rw [hfiles]
    exact List.mem_append_right _ List.mem_cons_self

/-! ## Destinations -/

/-- The place one part away from a place, whatever is there. -/
def walk (here : Place) (part : String) : Place :=
  if part = "" || part = "." then here
  else if part = ".." then here.dropLast
  else here ++ [part]

/-- The place that a path leads to if all that it passes are directories. -/
def destination (s : FileStore) (path : String) : Place :=
  (parts path).foldl walk (s.start path)

theorem walk_empty (here : Place) : walk here "" = here := by
  simp [walk]

theorem walk_dot (here : Place) : walk here "." = here := by
  simp [walk]

theorem walk_name {name : String} (h : IsName name) (here : Place) :
    walk here name = here ++ [name] := by
  simp [walk, h.ne_empty, h.ne_dot, h.ne_up]

/-- A name and then a step up lead back. -/
theorem walk_up_name {name : String} (h : IsName name) (here : Place) :
    walk (walk here name) ".." = here := by
  rw [walk_name h]
  simp [walk]

theorem foldl_walk_names {names : List String} (h : ∀ name ∈ names, IsName name) (here : Place) :
    names.foldl walk here = here ++ names := by
  induction names generalizing here with
  | nil => simp
  | cons name names ih =>
    rw [List.foldl_cons, walk_name (h name List.mem_cons_self),
      ih (fun n hn => h n (List.mem_cons_of_mem _ hn)), List.append_assoc, List.singleton_append]

/-- A further part leads one part further. The root has nothing above it, which is what clean parts
from the root rest on. -/
theorem foldl_walk_push {rooted : Bool} {before : List String}
    (hclean : IsClean rooted before.reverse) (hroot : rooted = true → here = []) (part : String) :
    (push rooted before part).reverse.foldl walk here =
      walk (before.reverse.foldl walk here) part := by
  obtain ⟨ups, names, hbefore, hnames, hups⟩ := hclean
  rw [← List.reverse_inj, List.reverse_reverse] at hbefore
  subst hbefore
  unfold push
  split
  next h => simp [walk, h]
  next h =>
    split
    next hup =>
      subst hup
      rcases List.eq_nil_or_concat' names with rfl | ⟨names, name, rfl⟩
      · rw [List.append_nil, List.reverse_replicate]
        cases ups with
        | zero =>
          cases rooted with
          | true => simp [hroot, walk]
          | false => simp
        | succ ups =>
          rw [List.replicate_succ]
          simp
      · have hname := hnames name (by simp)
        have hne := hname.ne_up
        simp [hname, walk_up_name]
    next hup => simp

theorem foldl_walk_cleanParts {rooted : Bool} {ps : List String} (hps : ∀ p ∈ ps, '/' ∉ p.toList)
    (hroot : rooted = true → here = []) :
    (cleanParts rooted ps).foldl walk here = ps.foldl walk here := by
  suffices hall : ∀ before : List String, IsClean rooted before.reverse →
      (ps.foldl (push rooted) before).reverse.foldl walk here =
        ps.foldl walk (before.reverse.foldl walk here) from hall [] (Path.isClean_nil rooted)
  induction ps with
  | nil => exact fun before _ => rfl
  | cons part ps ih =>
    intro before hbefore
    have hpart := hps part List.mem_cons_self
    rw [List.foldl_cons, List.foldl_cons,
      ih (fun p hp => hps p (List.mem_cons_of_mem _ hp)) _ (Path.isClean_push hbefore hpart),
      foldl_walk_push hbefore hroot]

/-- The parts that the text of clean parts has besides them lead nowhere. -/
theorem foldl_walk_ofParts {rooted : Bool} {ps : List String} (h : IsClean rooted ps)
    (here : Place) : (parts (ofParts rooted ps)).foldl walk here = ps.foldl walk here := by
  rw [Path.parts_ofParts h]
  cases rooted <;> cases ps <;> simp [walk_empty, walk_dot]

theorem start_congr {path path' : String} (h : isRooted path = isRooted path') :
    s.start path = s.start path' := by
  rw [start, start, h]

/-- **Cleaning a path does not change where it leads.** -/
theorem destination_clean (s : FileStore) (path : String) :
    s.destination (clean path) = s.destination path := by
  have hslash : ∀ p ∈ parts path, '/' ∉ p.toList := fun _ hp => Path.no_slash_of_mem_parts hp
  rw [destination, destination, start_congr (Path.isRooted_clean path), clean,
    foldl_walk_ofParts (Path.isClean_cleanParts _ hslash), foldl_walk_cleanParts hslash]
  intro hrooted
  rw [start, if_pos hrooted]

/-- A path seen from another leads on from where that leads. -/
theorem destination_join {base : String} (h : base ≠ "") (path : String) :
    s.destination (Path.join base path) = (parts path).foldl walk (s.destination base) := by
  rw [Path.join_eq_clean h, destination_clean, destination, destination, Path.parts_append_slash,
    List.foldl_append, start_congr (Path.isRooted_append_slash h path)]

/-- An entry of a directory lies one step below it. -/
theorem destination_join_isEntry {base name last : String} (hbase : base ≠ "")
    (h : Path.IsEntry name last) :
    s.destination (Path.join base name) = s.destination base ++ [last] := by
  rw [Path.join_isEntry hbase h, destination_join hbase,
    Path.parts_eq_singleton h.isName.no_slash, List.foldl_cons, List.foldl_nil, walk_name h.isName]

/-! ## Getting there -/

theorem follow_nil (s : FileStore) (here : Place) : s.follow here [] = some here := by
  rw [follow]

/-- A part is followed if one stands in a directory. -/
theorem follow_cons (s : FileStore) (here : Place) (name : String) (rest : List String) :
    s.follow here (name :: rest) =
      if s.isDir here then s.follow (walk here name) rest else none := by
  rw [follow]
  cases s.isDir here with
  | false => rfl
  | true =>
    simp only [Bool.not_true, Bool.false_eq_true, if_false, if_true, walk]
    split
    · rfl
    · split <;> rfl

/-- Where one gets is the destination. -/
theorem follow_eq_some {ps : List String} (h : s.follow here ps = some p) :
    p = ps.foldl walk here := by
  induction ps generalizing here with
  | nil => simpa [follow_nil] using h.symm
  | cons name ps ih =>
    rw [follow_cons] at h
    split at h
    · exact ih h
    · cases h

theorem destination_of_locate {path : String} (h : s.locate path = some p) :
    p = s.destination path := by
  rw [locate] at h
  split at h
  · cases h
  · exact follow_eq_some h

theorem follow_ups (ups : Nat) (rest : List String) (h : s.isDir here = true) :
    s.follow here (List.replicate ups ".." ++ rest) =
      s.follow ((List.replicate ups "..").foldl walk here) rest := by
  induction ups generalizing here with
  | zero => rfl
  | succ ups ih =>
    rw [List.replicate_succ, List.cons_append, follow_cons, if_pos h, List.foldl_cons]
    exact ih (isDir_dropLast h)

theorem follow_names {names : List String} (hnames : ∀ name ∈ names, IsName name)
    (h : s.isDir (here ++ names).dropLast = true) :
    s.follow here names = some (here ++ names) := by
  induction names generalizing here with
  | nil => rw [follow_nil, List.append_nil]
  | cons name names ih =>
    have hhere : s.isDir here = true := by
      refine isDir_of_prefix h ?_
      rw [List.dropLast_append_of_ne_nil (List.cons_ne_nil name names)]
      exact List.prefix_append _ _
    rw [← List.singleton_append, ← List.append_assoc] at h
    rw [follow_cons, if_pos hhere, walk_name (hnames name List.mem_cons_self),
      ih (fun n hn => hnames n (List.mem_cons_of_mem _ hn)) h, List.append_assoc,
      List.singleton_append]

/-- Along clean parts nothing is passed but the directories above where one starts and above where
one ends. -/
theorem follow_clean {rooted : Bool} {ps : List String} (hclean : IsClean rooted ps)
    (hhere : s.isDir here = true) (hend : s.isDir (ps.foldl walk here).dropLast = true) :
    s.follow here ps = some (ps.foldl walk here) := by
  obtain ⟨ups, names, rfl, hnames, -⟩ := hclean
  rw [List.foldl_append, foldl_walk_names hnames] at hend ⊢
  rw [follow_ups ups names hhere, follow_names hnames hend]

theorem follow_ofParts {rooted : Bool} {ps : List String} (h : IsClean rooted ps)
    (hhere : s.isDir here = true) :
    s.follow here (parts (ofParts rooted ps)) = s.follow here ps := by
  rw [Path.parts_ofParts h]
  cases rooted <;> cases ps <;> simp [follow_nil, follow_cons, hhere, walk_empty, walk_dot]

theorem locate_clean {path : String} (h : s.isDir (s.destination path).dropLast = true) :
    s.locate (clean path) = some (s.destination path) := by
  have hclean : IsClean (isRooted path) (cleanParts (isRooted path) (parts path)) :=
    Path.isClean_cleanParts _ fun _ hp => Path.no_slash_of_mem_parts hp
  have hstart := isDir_start s path
  rw [← destination_clean, destination, start_congr (Path.isRooted_clean path), clean,
    foldl_walk_ofParts hclean] at h
  rw [locate, if_neg (show clean path ≠ "" from Path.ofParts_ne_empty _ _), ← destination_clean,
    destination, start_congr (Path.isRooted_clean path), clean, follow_ofParts hclean hstart,
    foldl_walk_ofParts hclean]
  exact follow_clean hclean hstart h

/-- **A clean path reads what lies at its destination.** -/
theorem read_clean (s : FileStore) (path : String) :
    s.read (clean path) = s.fileAt? (s.destination path) := by
  by_cases hdir : s.isDir (s.destination path).dropLast = true
  · rw [read, locate_clean hdir, Option.bind_some]
  · have hnone : s.fileAt? (s.destination path) = none :=
      Option.eq_none_iff_forall_ne_some.mpr fun text h => hdir (isDir_dropLast_of_fileAt? h)
    rw [hnone, read]
    cases hlocate : s.locate (clean path) with
    | none => rfl
    | some p =>
      rw [Option.bind_some, destination_of_locate hlocate, destination_clean, hnone]

/-! ## More directories -/

/-- One store sees the working directory and the directories of another. -/
structure Extends (s t : FileStore) : Prop where
  cwd : t.cwd = s.cwd
  dirs : ∀ p, s.isDir p = true → t.isDir p = true

theorem Extends.refl (s : FileStore) : Extends s s :=
  ⟨rfl, fun _ h => h⟩

theorem Extends.trans {u : FileStore} (h : Extends s t) (h' : Extends t u) : Extends s u :=
  ⟨h'.cwd.trans h.cwd, fun p hp => h'.dirs p (h.dirs p hp)⟩

theorem Extends.start (h : Extends s t) (path : String) : t.start path = s.start path := by
  rw [FileStore.start, FileStore.start, h.cwd]

theorem Extends.destination (h : Extends s t) (path : String) :
    t.destination path = s.destination path := by
  rw [FileStore.destination, FileStore.destination, h.start]

theorem Extends.follow (h : Extends s t) {ps : List String} (hf : s.follow here ps = some p) :
    t.follow here ps = some p := by
  induction ps generalizing here with
  | nil => exact hf
  | cons name ps ih =>
    rw [follow_cons] at hf ⊢
    split at hf
    next hdir =>
      rw [if_pos (h.dirs here hdir)]
      exact ih hf
    next => cases hf

/-- With more directories one still gets where one got. -/
theorem Extends.locate (h : Extends s t) {path : String} (hl : s.locate path = some p) :
    t.locate path = some p := by
  rw [FileStore.locate] at hl ⊢
  split at hl
  · cases hl
  next hpath =>
    rw [if_neg hpath, h.start]
    exact h.follow hl

/-! ## Making directories -/

/-- Makes sure that a place is a directory. A file in the way is not passed. -/
def enter (s : FileStore) (p : Place) : Except FileStore FileStore :=
  if s.isDir p then .ok s
  else if (s.fileAt? p).isSome then .error s
  else .ok { s with dirs := p :: s.dirs }

theorem isDir_walk (h : s.isDir here = true) {part : String}
    (hpart : part = "" ∨ part = "." ∨ part = "..") : s.isDir (walk here part) = true := by
  rcases hpart with rfl | rfl | rfl
  · rwa [walk_empty]
  · rwa [walk_dot]
  · exact isDir_dropLast h

/-- Directories are made one part at a time. -/
theorem makeAlong_cons (h : s.isDir here = true) (name : String) (rest : List String) :
    s.makeAlong here (name :: rest) =
      (s.enter (walk here name)).bind (·.makeAlong (walk here name) rest) := by
  rw [makeAlong]
  split
  next hstay =>
    have hstay' : name = "" ∨ name = "." := by simpa using hstay
    have hdir := isDir_walk h (hstay'.imp_right .inl)
    rw [enter, if_pos hdir, walk, if_pos hstay]
    rfl
  next hstay =>
    split
    next hup =>
      have hdir := isDir_walk h (.inr (.inr hup))
      rw [enter, if_pos hdir, walk, if_neg hstay, if_pos hup]
      rfl
    next hup =>
      have hwalk : walk here name = here ++ [name] := by rw [walk, if_neg hstay, if_neg hup]
      rw [hwalk, enter]
      dsimp only
      split
      · rfl
      · split <;> rfl

theorem eq_of_enter_error (h : s.enter p = .error t) : t = s := by
  rw [enter] at h
  split at h
  · cases h
  · split at h <;> cases h
    rfl

theorem enter_spec (h : s.enter p = .ok t) :
    Extends s t ∧ t.files = s.files ∧ t.isDir p = true := by
  rw [enter] at h
  split at h
  next hdir =>
    cases h
    exact ⟨.refl s, rfl, hdir⟩
  next =>
    split at h
    · cases h
    · cases h
      refine ⟨⟨rfl, fun q hq => ?_⟩, rfl, ?_⟩
      · rw [isDir_iff] at hq ⊢
        rcases hq with hq | hq | ⟨d, hd, hq⟩ | hq
        · exact .inl hq
        · exact .inr (.inl hq)
        · exact .inr (.inr (.inl ⟨d, List.mem_cons_of_mem _ hd, hq⟩))
        · exact .inr (.inr (.inr hq))
      · exact isDir_iff.mpr (.inr (.inr (.inl ⟨p, List.mem_cons_self, List.prefix_refl p⟩)))

/-- A part that is entered, and the directories made from there on. -/
theorem makeAlong_cons_eq_ok {name : String} {rest : List String} (hhere : s.isDir here = true)
    (h : s.makeAlong here (name :: rest) = .ok t) :
    ∃ s', s.enter (walk here name) = .ok s' ∧ s'.makeAlong (walk here name) rest = .ok t := by
  rw [makeAlong_cons hhere] at h
  cases henter : s.enter (walk here name) with
  | error kept => rw [henter] at h; cases h
  | ok s' => rw [henter] at h; exact ⟨s', rfl, h⟩

theorem makeAlong_spec {ps : List String} (hhere : s.isDir here = true)
    (h : s.makeAlong here ps = .ok t) :
    Extends s t ∧ t.files = s.files ∧ t.isDir (ps.foldl walk here) = true := by
  induction ps generalizing s here with
  | nil =>
    rw [makeAlong] at h
    cases h
    exact ⟨.refl _, rfl, hhere⟩
  | cons name ps ih =>
    obtain ⟨s', henter, h⟩ := makeAlong_cons_eq_ok hhere h
    obtain ⟨hext, hfiles, hdir⟩ := enter_spec henter
    obtain ⟨hext', hfiles', hend⟩ := ih hdir h
    exact ⟨hext.trans hext', hfiles'.trans hfiles, hend⟩

/-- Directories made before a file came in the way are kept, and no file is touched. -/
theorem makeAlong_error {ps : List String} (hhere : s.isDir here = true)
    (h : s.makeAlong here ps = .error t) : Extends s t ∧ t.files = s.files := by
  induction ps generalizing s here with
  | nil =>
    rw [makeAlong] at h
    cases h
  | cons name ps ih =>
    rw [makeAlong_cons hhere] at h
    cases henter : s.enter (walk here name) with
    | error kept =>
      rw [henter] at h
      cases h
      rw [eq_of_enter_error henter]
      exact ⟨.refl s, rfl⟩
    | ok s' =>
      rw [henter] at h
      obtain ⟨hext, hfiles, hdir⟩ := enter_spec henter
      obtain ⟨hext', hfiles'⟩ := ih hdir h
      exact ⟨hext.trans hext', hfiles'.trans hfiles⟩

/-- What was made need not be made again. -/
theorem makeAlong_again {u : FileStore} {ps : List String} (hhere : s.isDir here = true)
    (h : s.makeAlong here ps = .ok t) (hu : Extends t u) : u.makeAlong here ps = .ok u := by
  induction ps generalizing s here with
  | nil => rw [makeAlong]
  | cons name ps ih =>
    have ht := (makeAlong_spec hhere h).1
    obtain ⟨s', henter, h⟩ := makeAlong_cons_eq_ok hhere h
    have hdir := (enter_spec henter).2.2
    have hudir := hu.dirs _ ((makeAlong_spec hdir h).1.dirs _ hdir)
    rw [makeAlong_cons (hu.dirs _ (ht.dirs _ hhere)), enter, if_pos hudir]
    exact ih hdir h

theorem makeDirs_spec {dir : String} (h : s.makeDirs dir = .ok t) :
    Extends s t ∧ t.files = s.files ∧ t.isDir (s.destination dir) = true := by
  rw [makeDirs] at h
  split at h
  · cases h
  · exact makeAlong_spec (isDir_start s dir) h

theorem makeDirs_error {dir : String} (h : s.makeDirs dir = .error t) :
    Extends s t ∧ t.files = s.files := by
  rw [makeDirs] at h
  split at h
  · cases h
    exact ⟨.refl s, rfl⟩
  · exact makeAlong_error (isDir_start s dir) h

theorem ne_empty_of_makeDirs {dir : String} (h : s.makeDirs dir = .ok t) : dir ≠ "" := by
  rintro rfl
  cases h

theorem makeDirs_again {u : FileStore} {dir : String} (h : s.makeDirs dir = .ok t)
    (hu : Extends t u) : u.makeDirs dir = .ok u := by
  have hext := (makeDirs_spec h).1.trans hu
  have hdir := ne_empty_of_makeDirs h
  rw [makeDirs, if_neg hdir] at h ⊢
  rw [hext.start]
  exact makeAlong_again (isDir_start s dir) h hu

/-! ## Putting files -/

/-- A file that is put into a directory makes no directory. -/
theorem isDir_put (h : s.isDir p.dropLast = true) (text : String) (q : Place) :
    (s.put p text).isDir q = s.isDir q := by
  rw [Bool.eq_iff_iff]
  constructor
  · intro hq
    rcases isDir_iff.mp hq with hq | hq | hq | ⟨f, hf, hqf, hne⟩
    · exact isDir_iff.mpr (.inl hq)
    · exact isDir_iff.mpr (.inr (.inl hq))
    · exact isDir_iff.mpr (.inr (.inr (.inl hq)))
    · rcases List.mem_cons.mp hf with rfl | hf
      · -- what is above the file is above its directory or is that directory
        refine isDir_of_prefix h ?_
        obtain ⟨rest, rfl⟩ := hqf
        rw [List.dropLast_append_of_ne_nil fun hrest => hne (by simp [hrest])]
        exact List.prefix_append _ _
      · exact isDir_iff.mpr (.inr (.inr (.inr ⟨f, List.mem_of_mem_filter hf, hqf, hne⟩)))
  · intro hq
    rcases isDir_iff.mp hq with hq | hq | hq | ⟨f, hf, hqf, hne⟩
    · exact isDir_iff.mpr (.inl hq)
    · exact isDir_iff.mpr (.inr (.inl hq))
    · exact isDir_iff.mpr (.inr (.inr (.inl hq)))
    · refine isDir_iff.mpr (.inr (.inr (.inr ?_)))
      by_cases hfp : f.1 = p
      · exact ⟨(p, text), List.mem_cons_self, hfp ▸ hqf, hfp ▸ hne⟩
      · exact ⟨f, List.mem_cons_of_mem _ (List.mem_filter.mpr ⟨hf, by simpa using hfp⟩), hqf, hne⟩

end SchemaGen.FileStore
