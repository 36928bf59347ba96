import SchemaGen.File.Output
import SchemaGen.Proofs.File.Store

/-!
# Writing into a directory

All files of a run go into one directory, which is made when the first of them is written. What the
files are after any number of such writes is told by the writes alone (`Wrote`): a place holds the
text that was put there last, or else what it held before, and there are no directories but those
that were made for the first write. Whether the next write succeeds can be told from the files as
they were at the start (`Writable`, `Wrote.writeInto_ok`, `Wrote.writable`), whatever was written
meanwhile.
-/

set_option autoImplicit false

namespace SchemaGen.FileStore

open SchemaGen.Path (IsEntry)

variable {s t u made : FileStore} {p : Place} {puts : List (Place × String)}
  {dir name last text : String}

/-- The same working directory, directories and files. -/
structure Same (s t : FileStore) : Prop where
  cwd : s.cwd = t.cwd
  isDir : ∀ p, s.isDir p = t.isDir p
  fileAt? : ∀ p, s.fileAt? p = t.fileAt? p

/-- A store with further texts put at places, the latest first, and no further directory. -/
structure Filled (made : FileStore) (puts : List (Place × String)) (t : FileStore) : Prop where
  cwd : t.cwd = made.cwd
  isDir : ∀ p, t.isDir p = made.isDir p
  fileAt? : ∀ p, t.fileAt? p = (puts.lookup p).or (made.fileAt? p)

theorem Filled.nil (made : FileStore) : Filled made [] made :=
  ⟨rfl, fun _ => rfl, fun _ => rfl⟩

theorem Filled.extends (h : Filled made puts t) : Extends made t :=
  ⟨h.cwd, fun p hp => (h.isDir p).trans hp⟩

theorem Filled.put (h : Filled made puts t) (hp : made.isDir p.dropLast = true) (text : String) :
    Filled made ((p, text) :: puts) (t.put p text) := by
  refine ⟨h.cwd, fun q => ?_, fun q => ?_⟩
  · rw [isDir_put ((h.isDir _).trans hp), h.isDir]
  · by_cases hqp : q = p
    · subst hqp
      rw [fileAt?_put_self, List.lookup_cons_self, Option.some_or]
    · have hbeq : (q == p) = false := by simpa using hqp
      rw [fileAt?_put_of_ne hqp, h.fileAt?, List.lookup_cons, hbeq]

/-- What comes of `s` when texts are put at places in a directory, the latest first. The directory
is made for the first of them. -/
def Wrote (s : FileStore) (dir : String) (puts : List (Place × String)) (t : FileStore) : Prop :=
  (puts = [] ∧ t = s) ∨ (puts ≠ [] ∧ ∃ made, s.makeDirs dir = .ok made ∧ Filled made puts t)

theorem Wrote.nil (s : FileStore) (dir : String) : Wrote s dir [] s :=
  .inl ⟨rfl, rfl⟩

theorem Wrote.extends (h : Wrote s dir puts t) : Extends s t := by
  rcases h with ⟨-, rfl⟩ | ⟨-, made, hmade, hfilled⟩
  · exact .refl t
  · exact (makeDirs_spec hmade).1.trans hfilled.extends

theorem fileAt?_makeDirs (h : s.makeDirs dir = .ok made) (p : Place) :
    made.fileAt? p = s.fileAt? p := by
  rw [FileStore.fileAt?, FileStore.fileAt?, (makeDirs_spec h).2.1]

theorem Wrote.fileAt? (h : Wrote s dir puts t) (p : Place) :
    t.fileAt? p = (puts.lookup p).or (s.fileAt? p) := by
  rcases h with ⟨rfl, rfl⟩ | ⟨-, made, hmade, hfilled⟩
  · rfl
  · rw [hfilled.fileAt?, fileAt?_makeDirs hmade]

theorem Wrote.fileAt?_of_ne (h : Wrote s dir puts t) (hp : ∀ put ∈ puts, p ≠ put.1) :
    t.fileAt? p = s.fileAt? p := by
  have hnone : puts.lookup p = none :=
    List.lookup_eq_none_iff.mpr fun put hput => by simpa using hp put hput
  rw [h.fileAt?, hnone, Option.none_or]

theorem Wrote.ne_empty (h : Wrote s dir puts t) (hne : puts ≠ []) : dir ≠ "" := by
  rcases h with ⟨hnil, -⟩ | ⟨-, made, hmade, -⟩
  · exact absurd hnil hne
  · exact ne_empty_of_makeDirs hmade

/-- A file that could be read still reads the same if it was not written. -/
theorem Wrote.read {path : String} (h : Wrote s dir puts t)
    (hpath : ∀ put ∈ puts, s.destination path ≠ put.1) (htext : s.read path = some text) :
    t.read path = some text := by
  obtain ⟨p, hlocate, hfile⟩ := Option.bind_eq_some_iff.mp htext
  have hp : ∀ put ∈ puts, p ≠ put.1 := destination_of_locate hlocate ▸ hpath
  rw [FileStore.read, h.extends.locate hlocate, Option.bind_some, h.fileAt?_of_ne hp, hfile]

/-- A clean path reads what was written last at its destination. -/
theorem Wrote.read_clean (h : Wrote s dir puts t) (path : String) :
    t.read (Path.clean path) =
      (puts.lookup (s.destination path)).or (s.read (Path.clean path)) := by
  rw [FileStore.read_clean, FileStore.read_clean, h.extends.destination, h.fileAt?]

/-- The directory is there after it was made once. -/
theorem Wrote.makeDirs (h : Wrote s dir puts t) (hmade : s.makeDirs dir = .ok made) :
    ∃ t', t.makeDirs dir = .ok t' ∧ Filled made puts t' := by
  rcases h with ⟨rfl, rfl⟩ | ⟨-, made', hmade', hfilled⟩
  · exact ⟨made, hmade, .nil made⟩
  · obtain rfl : made = made' := Except.ok.inj (hmade.symm.trans hmade')
    exact ⟨t, makeDirs_again hmade hfilled.extends, hfilled⟩

/-- The directory can be made, and the place is no directory itself. -/
def Writable (s : FileStore) (dir name : String) : Prop :=
  ∃ made, s.makeDirs dir = .ok made ∧ made.isDir (s.destination (Path.join dir name)) = false

/-- A write into a directory that was made. -/
theorem Filled.write (hmade : s.makeDirs dir = .ok made) (h : Filled made puts t)
    (hname : IsEntry name last) (text : String) :
    t.write (Path.join dir name) text =
      if made.isDir (s.destination (Path.join dir name)) then none
      else some (t.put (s.destination (Path.join dir name)) text) := by
  have hdir := ne_empty_of_makeDirs hmade
  have hdest := ((makeDirs_spec hmade).1.trans h.extends).destination
  have hlocate : t.locate (Path.join dir name) = some (s.destination (Path.join dir name)) := by
    rw [← hdest, Path.join_eq_clean hdir, destination_clean]
    refine locate_clean ?_
    rw [← destination_clean, ← Path.join_eq_clean hdir, destination_join_isEntry hdir hname,
      List.dropLast_concat, hdest, h.isDir]
    exact (makeDirs_spec hmade).2.2
  rw [FileStore.write, hlocate, Option.bind_some, h.isDir]

/-- **A write succeeds** where it could have been the first, and adds its text. -/
theorem Wrote.writeInto_ok (h : Wrote s dir puts t) (hname : IsEntry name last)
    (hw : Writable s dir name) (text : String) :
    ∃ u, t.writeInto dir name text = (u, .ok (Path.join dir name)) ∧
      Wrote s dir ((s.destination (Path.join dir name), text) :: puts) u := by
  obtain ⟨made, hmade, hplace⟩ := hw
  obtain ⟨t', ht', hfilled⟩ := h.makeDirs hmade
  have hdir := ne_empty_of_makeDirs hmade
  refine ⟨_, ?_, .inr ⟨List.cons_ne_nil _ _, made, hmade, hfilled.put ?_ text⟩⟩
  · simp only [writeInto, if_neg hdir, ht', hfilled.write hmade hname, hplace, Bool.false_eq_true,
      if_false]
  · rw [destination_join_isEntry hdir hname, List.dropLast_concat]
    exact (makeDirs_spec hmade).2.2

/-- Only what is writable is written. -/
theorem Wrote.writable (h : Wrote s dir puts t) (hname : IsEntry name last) {path : String}
    (hok : t.writeInto dir name text = (u, .ok path)) : Writable s dir name := by
  by_cases hdir : dir = ""
  · simp [writeInto, hdir] at hok
  cases hmade : s.makeDirs dir with
  | error kept =>
    -- nothing was written before, and so the directory cannot be made now
    rcases h with ⟨-, rfl⟩ | ⟨-, made, hmade', -⟩
    · simp [writeInto, hdir, hmade] at hok
    · rw [hmade] at hmade'
      cases hmade'
  | ok made =>
    obtain ⟨t', ht', hfilled⟩ := h.makeDirs hmade
    refine ⟨made, hmade, Bool.eq_false_iff.mpr fun hplace => ?_⟩
    simp [writeInto, hdir, ht', hfilled.write hmade hname, hplace] at hok

/-- A write that succeeds, put in terms of what was written before it. -/
theorem Wrote.writeInto (h : Wrote s dir puts t) (hname : IsEntry name last) {path : String}
    (hok : t.writeInto dir name text = (u, .ok path)) :
    path = Path.join dir name ∧
      Wrote s dir ((s.destination (Path.join dir name), text) :: puts) u := by
  obtain ⟨u', hu', hwrote⟩ := h.writeInto_ok hname (h.writable hname hok) text
  obtain ⟨rfl, hpath⟩ := Prod.mk.inj (hok.symm.trans hu')
  exact ⟨Except.ok.inj hpath, hwrote⟩

/-! ## The order of writes -/

theorem lookup_eq_of_perm {puts puts' : List (Place × String)} (hperm : puts.Perm puts')
    (hnodup : (puts.map Prod.fst).Nodup) (p : Place) : puts.lookup p = puts'.lookup p := by
  induction hperm with
  | nil => rfl
  | @cons put _ _ _ ih =>
    rw [List.lookup_cons, List.lookup_cons, ih (List.nodup_cons.mp hnodup).2]
  | swap first second rest =>
    obtain ⟨p₁, text₁⟩ := first
    obtain ⟨p₂, text₂⟩ := second
    have hne : p₂ ≠ p₁ := by
      simp only [List.map_cons, List.nodup_cons, List.mem_cons, not_or] at hnodup
      exact hnodup.1.1
    simp only [List.lookup_cons]
    by_cases hp : p = p₂
    · have hp₁ : (p == p₁) = false := by simpa [hp] using hne
      rw [hp₁]
    · have hp₂ : (p == p₂) = false := by simpa using hp
      rw [hp₂]
  | @trans l₁ l₂ l₃ hperm₁ _ ih₁ ih₂ =>
    rw [ih₁ hnodup, ih₂ ((hperm₁.map Prod.fst).nodup_iff.mp hnodup)]

/-- **Writes to different places leave the same files in any order.** -/
theorem Wrote.same {puts' : List (Place × String)} (h : Wrote s dir puts t)
    (h' : Wrote s dir puts' u) (hperm : puts.Perm puts') (hnodup : (puts.map Prod.fst).Nodup) :
    Same t u := by
  have hfiles : ∀ p, t.fileAt? p = u.fileAt? p := fun p => by
    rw [h.fileAt?, h'.fileAt?, lookup_eq_of_perm hperm hnodup]
  refine ⟨h.extends.cwd.trans h'.extends.cwd.symm, fun p => ?_, hfiles⟩
  rcases h with ⟨rfl, rfl⟩ | ⟨hne, made, hmade, hfilled⟩
  · rcases h' with ⟨-, rfl⟩ | ⟨hne', -⟩
    · rfl
    · exact absurd hperm.nil_eq.symm hne'
  · rcases h' with ⟨rfl, -⟩ | ⟨-, made', hmade', hfilled'⟩
    · exact absurd hperm.eq_nil hne
    · obtain rfl : made = made' := Except.ok.inj (hmade.symm.trans hmade')
      rw [hfilled.isDir, hfilled'.isDir]

end SchemaGen.FileStore
