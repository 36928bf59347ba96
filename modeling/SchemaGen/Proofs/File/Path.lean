import SchemaGen.File.Path
import SchemaGen.Proofs.Text.Split

/-!
# Clean paths

What cleaning leaves of a path: some steps up, none of them if the path starts at the root, and
then names (`IsClean`, `isClean_cleanParts`). The text of such parts has the same parts again, up to
parts that say nothing (`parts_ofParts`), and starts at the root if it should (`isRooted_clean`).
-/

set_option autoImplicit false

namespace SchemaGen.Path

open SchemaGen.Text

/-! ## Parts -/

/-- A part that leads one step down. -/
structure IsName (part : String) : Prop where
  ne_empty : part ≠ ""
  ne_dot : part ≠ "."
  ne_up : part ≠ ".."
  no_slash : '/' ∉ part.toList

/-- What has a character that is no dot is neither empty nor a step that stays or goes up. -/
theorem IsName.of_mem {part : String} {c : Char} (hslash : '/' ∉ part.toList)
    (hc : c ∈ part.toList) (hdot : c ≠ '.') : IsName part := by
  refine ⟨?_, ?_, ?_, hslash⟩ <;> rintro rfl <;> simp_all

theorem parts_ne_nil (path : String) : parts path ≠ [] :=
  (splitOnChar_eq_iff.mp (rfl : splitOnChar '/' path = _)).1

theorem no_slash_of_mem_parts {part path : String} (h : part ∈ parts path) : '/' ∉ part.toList :=
  (splitOnChar_eq_iff.mp (rfl : splitOnChar '/' path = _)).2.1 part h

theorem parts_intercalate {ps : List String} (hne : ps ≠ []) (h : ∀ p ∈ ps, '/' ∉ p.toList) :
    parts ("/".intercalate ps) = ps := by
  refine splitOnChar_eq_iff.mpr ⟨hne, h, ?_⟩
  rw [String.toList_intercalate]
  rfl

theorem intercalate_parts (path : String) : "/".intercalate (parts path) = path := by
  rw [← String.toList_inj, String.toList_intercalate]
  exact (splitOnChar_eq_iff.mp (rfl : splitOnChar '/' path = _)).2.2.symm

theorem parts_eq_singleton {part : String} (h : '/' ∉ part.toList) : parts part = [part] := by
  simpa using parts_intercalate (List.cons_ne_nil part []) (by simpa using h)

theorem parts_append_slash (base path : String) :
    parts (base ++ "/" ++ path) = parts base ++ parts path :=
  splitOnChar_append_sep '/' base path

theorem parts_slash_append (path : String) : parts ("/" ++ path) = "" :: parts path := by
  have h := parts_append_slash "" path
  rwa [String.empty_append, parts_eq_singleton (show '/' ∉ "".toList by decide),
    List.singleton_append] at h

/-- What is put behind a path is put behind its last part. -/
theorem parts_append_eq {path more last : String} {before : List String}
    (hparts : parts path = before ++ [last]) (h : '/' ∉ more.toList) :
    parts (path ++ more) = before ++ [last ++ more] := by
  have hfree : ∀ part ∈ before ++ [last], '/' ∉ part.toList := fun part hpart =>
    no_slash_of_mem_parts (hparts ▸ hpart)
  have hpath : path ++ more = "/".intercalate (before ++ [last ++ more]) := by
    rw [← intercalate_parts path, hparts]
    by_cases hbefore : before = []
    · simp [hbefore]
    · rw [String.intercalate_append_of_ne_nil hbefore (by simp), String.intercalate_singleton,
        String.intercalate_append_of_ne_nil hbefore (by simp), String.intercalate_singleton,
        String.append_assoc]
  rw [hpath]
  refine parts_intercalate (by simp) fun part hpart => ?_
  rcases List.mem_append.mp hpart with hpart | hpart
  · exact hfree part (List.mem_append_left _ hpart)
  · rw [List.mem_singleton.mp hpart, String.toList_append, List.mem_append, not_or]
    exact ⟨hfree last (by simp), h⟩

theorem exists_parts_eq (path : String) :
    ∃ before last, '/' ∉ last.toList ∧ parts path = before ++ [last] := by
  rcases List.eq_nil_or_concat (parts path) with hnil | ⟨before, last, hparts⟩
  · exact absurd hnil (parts_ne_nil path)
  · rw [List.concat_eq_append] at hparts
    exact ⟨before, last, no_slash_of_mem_parts (show last ∈ parts path by simp [hparts]), hparts⟩

theorem parts_append {more : String} (path : String) (h : '/' ∉ more.toList) :
    ∃ before last, '/' ∉ last.toList ∧ parts (path ++ more) = before ++ [last ++ more] := by
  obtain ⟨before, last, hlast, hparts⟩ := exists_parts_eq path
  exact ⟨before, last, hlast, parts_append_eq hparts h⟩

theorem isRooted_append_slash {base : String} (h : base ≠ "") (path : String) :
    isRooted (base ++ "/" ++ path) = isRooted base := by
  have hne : base.toList ≠ [] := by simpa using h
  cases hbase : base.toList with
  | nil => exact absurd hbase hne
  | cons c cs => simp [isRooted, hbase]

/-! ## What cleaning leaves -/

/-- Steps up, none of them from the root, and then names. -/
def IsClean (rooted : Bool) (ps : List String) : Prop :=
  ∃ ups names, ps = List.replicate ups ".." ++ names ∧ (∀ name ∈ names, IsName name) ∧
    (rooted = true → ups = 0)

theorem isClean_nil (rooted : Bool) : IsClean rooted [] :=
  ⟨0, [], rfl, by simp, fun _ => rfl⟩

/-- A further part leaves clean parts clean. The last of them comes first. -/
theorem isClean_push {rooted : Bool} {before : List String} {part : String}
    (h : IsClean rooted before.reverse) (hpart : '/' ∉ part.toList) :
    IsClean rooted (push rooted before part).reverse := by
  obtain ⟨ups, names, hbefore, hnames, hrooted⟩ := h
  rw [← List.reverse_inj, List.reverse_reverse] at hbefore
  subst hbefore
  unfold push
  split
  · simpa using ⟨ups, names, rfl, hnames, hrooted⟩
  next hpasses =>
    simp only [Bool.or_eq_true, decide_eq_true_eq, not_or] at hpasses
    split
    next =>
      -- a step up takes the last name, or is kept where there is no name left
      rcases names.eq_nil_or_concat with rfl | ⟨names, name, rfl⟩
      · cases ups with
        | zero =>
          cases rooted with
          | true => exact isClean_nil true
          | false => exact ⟨1, [], rfl, by simp, by simp⟩
        | succ ups =>
          refine ⟨ups + 2, [], ?_, by simp, fun h => absurd (hrooted h) (by simp)⟩
          simp [List.reverse_replicate, List.replicate_succ, ← List.replicate_succ']
      · have hname : name ≠ ".." := (hnames name (by simp)).ne_up
        refine ⟨ups, names, ?_, fun n hn => hnames n (by simp [hn]), hrooted⟩
        simp
    next hup =>
      refine ⟨ups, names ++ [part], by simp, ?_, hrooted⟩
      intro name hname
      rcases List.mem_append.mp hname with hname | hname
      · exact hnames name hname
      · rw [List.mem_singleton.mp hname]
        exact ⟨hpasses.1, hpasses.2, hup, hpart⟩

theorem isClean_cleanParts (rooted : Bool) {ps : List String} (h : ∀ p ∈ ps, '/' ∉ p.toList) :
    IsClean rooted (cleanParts rooted ps) := by
  suffices hall : ∀ before, IsClean rooted before.reverse →
      IsClean rooted (ps.foldl (push rooted) before).reverse from hall [] (isClean_nil rooted)
  induction ps with
  | nil => exact fun before hbefore => hbefore
  | cons part ps ih =>
    intro before hbefore
    exact ih (fun p hp => h p (List.mem_cons_of_mem _ hp)) _
      (isClean_push hbefore (h part List.mem_cons_self))

/-! ## The text of clean parts -/

theorem IsClean.mem {rooted : Bool} {ps : List String} (h : IsClean rooted ps) {part : String}
    (hpart : part ∈ ps) : part ≠ "" ∧ '/' ∉ part.toList := by
  obtain ⟨ups, names, rfl, hnames, -⟩ := h
  rcases List.mem_append.mp hpart with hpart | hpart
  · rw [List.eq_of_mem_replicate hpart]
    decide
  · exact ⟨(hnames part hpart).ne_empty, (hnames part hpart).no_slash⟩

theorem intercalate_eq_empty_iff {ps : List String} (h : ∀ p ∈ ps, p ≠ "") :
    "/".intercalate ps = "" ↔ ps = [] := by
  constructor
  · intro htext
    cases ps with
    | nil => rfl
    | cons p ps =>
      have hp := h p List.mem_cons_self
      cases ps with
      | nil => exact absurd (by simpa using htext) hp
      | cons q qs => simp [String.intercalate_cons_cons] at htext
  · rintro rfl
    exact String.intercalate_nil

/-- The parts of the text of clean parts. -/
theorem parts_ofParts {rooted : Bool} {ps : List String} (h : IsClean rooted ps) :
    parts (ofParts rooted ps) =
      (if rooted then [""] else []) ++ (if ps = [] then [if rooted then "" else "."] else ps) := by
  have hempty : "/".intercalate ps = "" ↔ ps = [] :=
    intercalate_eq_empty_iff fun p hp => (h.mem hp).1
  have hslash : ps ≠ [] → parts ("/".intercalate ps) = ps := fun hne =>
    parts_intercalate hne fun p hp => (h.mem hp).2
  unfold ofParts
  by_cases hne : ps = []
  · subst hne
    cases rooted <;> decide
  · cases rooted with
    | true => simp [parts_slash_append, hslash hne, hne]
    | false => simp [hempty, hne, hslash hne]

theorem isRooted_ofParts {rooted : Bool} {ps : List String} (h : IsClean rooted ps) :
    isRooted (ofParts rooted ps) = rooted := by
  unfold ofParts
  cases rooted with
  | true => simp [isRooted]
  | false =>
    cases ps with
    | nil => decide
    | cons p ps =>
      obtain ⟨hne, hslash⟩ := h.mem List.mem_cons_self
      have hempty : "/".intercalate (p :: ps) = "" ↔ p :: ps = [] :=
        intercalate_eq_empty_iff fun p hp => (h.mem hp).1
      simp only [hempty, reduceCtorEq, if_false, Bool.false_eq_true]
      -- the text starts as its first part does, which is neither empty nor starts with a slash
      have hchars : p.toList ≠ [] := by simpa using hne
      obtain ⟨c, cs, hp⟩ := List.exists_cons_of_ne_nil hchars
      have hc : c ≠ '/' := by
        rintro rfl
        exact hslash (by simp [hp])
      cases ps <;> simp [isRooted, hp, hc, String.intercalate_cons_cons]

theorem isRooted_clean (path : String) : isRooted (clean path) = isRooted path :=
  isRooted_ofParts (isClean_cleanParts _ fun _ hp => no_slash_of_mem_parts hp)

theorem ofParts_ne_empty (rooted : Bool) (ps : List String) : ofParts rooted ps ≠ "" := by
  unfold ofParts
  cases rooted with
  | true => simp
  | false =>
    dsimp only
    rw [if_neg Bool.false_ne_true]
    split
    · decide
    · assumption

/-- The text of a path ends as its last part does. -/
theorem suffix_intercalate (before : List String) (last : String) :
    last.toList <:+ ("/".intercalate (before ++ [last])).toList := by
  by_cases hbefore : before = []
  · simp [hbefore]
  · rw [String.intercalate_append_of_ne_nil hbefore (by simp), String.intercalate_singleton,
      String.toList_append]
    exact List.suffix_append _ _

theorem suffix_ofParts (rooted : Bool) (before : List String) {last : String} (h : last ≠ "") :
    last.toList <:+ (ofParts rooted (before ++ [last])).toList := by
  have hsuffix := suffix_intercalate before last
  unfold ofParts
  cases rooted with
  | true =>
    rw [if_pos rfl, String.toList_append]
    exact hsuffix.trans (List.suffix_append _ _)
  | false =>
    have hne : "/".intercalate (before ++ [last]) ≠ "" := by
      intro hempty
      rw [hempty, String.toList_empty, List.suffix_nil] at hsuffix
      exact h (by simpa using hsuffix)
    rwa [if_neg Bool.false_ne_true, if_neg hne]

theorem cleanParts_concat {name : String} (h : IsName name) (rooted : Bool) (ps : List String) :
    cleanParts rooted (ps ++ [name]) = cleanParts rooted ps ++ [name] := by
  simp [cleanParts, push, h.ne_empty, h.ne_dot, h.ne_up]

/-- A path ends in the last of its clean parts. -/
theorem baseName_ofParts {rooted : Bool} {before : List String} {last : String}
    (h : IsClean rooted (before ++ [last])) :
    baseName (ofParts rooted (before ++ [last])) = last := by
  have hlast : last ≠ "" := (h.mem (by simp)).1
  have hne : before ++ [last] ≠ [] := by simp
  have hparts := parts_ofParts h
  rw [if_neg hne] at hparts
  rw [baseName, if_neg (ofParts_ne_empty _ _), hparts]
  cases rooted <;> simp [List.filter_append, hlast]

/-! ## Entries of directories -/

/-- A text that names an entry of a directory. Slashes before it do not count. -/
structure IsEntry (name last : String) : Prop where
  parts_eq : ∃ slashes, parts name = List.replicate slashes "" ++ [last]
  isName : IsName last

theorem IsName.isEntry {name : String} (h : IsName name) : IsEntry name name :=
  ⟨⟨0, parts_eq_singleton h.no_slash⟩, h⟩

theorem join_eq_clean {base : String} (h : base ≠ "") (path : String) :
    join base path = clean (base ++ "/" ++ path) := by
  simp [join, h]

theorem foldl_push_empty (rooted : Bool) (n : Nat) (before : List String) :
    (List.replicate n "").foldl (push rooted) before = before := by
  induction n with
  | zero => rfl
  | succ n ih =>
    rw [List.replicate_succ, List.foldl_cons]
    simpa [push] using ih

/-- Seen from a directory, an entry is all that its text says. -/
theorem join_isEntry {base name last : String} (hbase : base ≠ "") (h : IsEntry name last) :
    join base name = join base last := by
  obtain ⟨slashes, hparts⟩ := h.parts_eq
  rw [join_eq_clean hbase, join_eq_clean hbase, clean, clean, isRooted_append_slash hbase,
    isRooted_append_slash hbase, parts_append_slash, parts_append_slash, hparts,
    parts_eq_singleton h.isName.no_slash, cleanParts, cleanParts]
  simp only [List.foldl_append, foldl_push_empty]

end SchemaGen.Path
