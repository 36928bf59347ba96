import SchemaGen.Proofs.Declaration.Sorting

/-!
# What a declaration mentions

Words are found in a text by cutting it at every character that is in no name. So a word is found
exactly where it stands alone: `Performance` is not found in `PerformanceMap`. The order of
declarations rests on this, since names are often the beginning, the middle or the end of longer
names.

Whatever is declared, the name stands alone in the signature (`wholeWord_name`), behind a space and
with at most a parenthesis behind it. A declaration whose name is a word therefore mentions itself.
A name that is no word is mentioned nowhere, and nothing is made to wait for it.
-/

set_option autoImplicit false

namespace SchemaGen

open SchemaGen.Text (identifiers isIdentChar IsWord WholeWord mem_identifiers_iff
  wholeWord_iff_append wholeWord_of_append)

/-! ## The name in the signature -/

theorem getLast?_append_blank (s : String) : (s ++ " ").toList.getLast? = some ' ' := by
  rw [String.toList_append, show " ".toList = [' '] from rfl, List.getLast?_concat]

/-- A declaration has its name between a space and the end of the signature or a parenthesis. -/
theorem Decl.exists_signature_eq {d : Decl} (h : d.name ≠ "") :
    ∃ before after : String, d.signature = before ++ d.name ++ after ∧
      before.toList.getLast? = some ' ' ∧ (after = "" ∨ ∃ args, after = "(" ++ args) := by
  have hends {before : String} (heq : d.signature = before ++ d.name)
      (hblank : before.toList.getLast? = some ' ') :
      ∃ before after : String, d.signature = before ++ d.name ++ after ∧
        before.toList.getLast? = some ' ' ∧ (after = "" ∨ ∃ args, after = "(" ++ args) :=
    ⟨before, "", by rw [heq, String.append_empty], hblank, Or.inl rfl⟩
  cases d with
  | scope name => exact hends rfl (by decide)
  | typedef name target => exact hends rfl (getLast?_append_blank _)
  | enumeration name enumerators => exact hends rfl (by decide)
  | enumSerialization name values => exact hends rfl (by decide)
  | struct decl => exact hends rfl (getLast?_append_blank _)
  | member decl => exact hends rfl (getLast?_append_blank _)
  | isSet element =>
    have hblank : "bool ".toList.getLast? = some ' ' := by decide
    have heq : "bool " ++ element ++ "_is_set" = "bool " ++ (element ++ "_is_set") :=
      String.append_assoc
    exact hends heq hblank
  | metaInfo name value => exact hends rfl (getLast?_append_blank _)
  | stored name type => exact hends rfl (getLast?_append_blank _)
  | function f =>
    have heq (args : String) : f.returns ++ " " ++ f.name ++ "(" ++ args ++ ")" =
        f.returns ++ " " ++ f.name ++ ("(" ++ (args ++ ")")) := by
      simp only [String.append_assoc]
    exact ⟨f.returns ++ " ", "(" ++ (", ".intercalate f.args ++ ")"), heq _,
      getLast?_append_blank _, Or.inr ⟨_, rfl⟩⟩
  | counter enumerants => exact absurd rfl h

/-- **A name that is a word stands alone in the signature.** -/
theorem Decl.wholeWord_name {d : Decl} (h : IsWord d.name) : WholeWord d.name d.signature := by
  obtain ⟨before, after, hsignature, hblank, hafter⟩ := exists_signature_eq h.1
  rw [hsignature]
  refine wholeWord_of_append h (fun c hc => ?_) (fun c hc => ?_)
  · rw [hblank] at hc
    cases Option.mem_some_iff.mp hc
    rfl
  · rcases hafter with rfl | ⟨args, rfl⟩
    · cases hc
    · rw [String.toList_append, show "(".toList = ['('] from rfl] at hc
      cases Option.mem_some_iff.mp hc
      rfl

/-! ## Own names -/

theorem mem_mentions_self {t : Tree Decl} (h : IsWord t.label.name) :
    t.label.name ∈ mentions t :=
  mem_mentions_iff.mpr ⟨t.label, Tree.mem_labels_self t, Decl.wholeWord_name h⟩

namespace World

theorem mem_mentionsOf_self {w : World} {node : NodeId} (h : IsWord (declName w.decls node)) :
    declName w.decls node ∈ w.mentionsOf node := by
  unfold declName at h ⊢
  cases hvalue : w.decls.value? node with
  | none =>
    rw [hvalue] at h
    exact absurd rfl h.1
  | some d =>
    rw [hvalue] at h
    exact mem_mentionsOf_iff.mpr ⟨node, d, .refl, hvalue, Decl.wholeWord_name h⟩

end World

/-- **Mentions are whole words.** A word is found in a text exactly if the text can be cut into
something, the word and something else, so that neither of the other two has a character of a name
next to the word. So every declaration whose name is a word mentions itself, be it read as a tree
or as a node of a forest, and a name that is no word is mentioned by none. -/
theorem mentions_are_whole_words :
    (∀ text w : String, IsWord w →
      (w ∈ identifiers text ↔ ∃ before after : String, text = before ++ w ++ after ∧
        (∀ c ∈ before.toList.getLast?, isIdentChar c = false) ∧
        (∀ c ∈ after.toList.head?, isIdentChar c = false))) ∧
    (∀ t : Tree Decl, IsWord t.label.name → t.label.name ∈ mentions t) ∧
    (∀ (w : World) (node : NodeId), IsWord (declName w.decls node) →
      declName w.decls node ∈ w.mentionsOf node) ∧
    (∀ name : String, ¬ IsWord name →
      (∀ t : Tree Decl, name ∉ mentions t) ∧
      ∀ (w : World) (node : NodeId), name ∉ w.mentionsOf node) := by
  refine ⟨fun text w hw => ?_, fun _ => mem_mentions_self, fun _ _ => World.mem_mentionsOf_self,
    fun name hname => ⟨fun t hmem => ?_, fun w node hmem => ?_⟩⟩
  · rw [mem_identifiers_iff, wholeWord_iff_append, and_iff_right hw]
  · obtain ⟨d, -, hword⟩ := mem_mentions_iff.mp hmem
    exact hname hword.1
  · obtain ⟨id, d, -, -, hword⟩ := World.mem_mentionsOf_iff.mp hmem
    exact hname hword.1

/-- A class with a member of the type `PerformanceMap`. -/
def mapUser : Tree Decl :=
  .node (.struct { name := "User" }) [.leaf (.stored "map" "rs_ns::PerformanceMap")]

/-- The type is a word of the member's text, `Performance` is not, however the text is cut. The
class mentions itself. The type with its namespace is no word, so it is not mentioned, although it
stands in the text. -/
theorem mentions_are_whole_words_prefix :
    "PerformanceMap" ∈ identifiers "rs_ns::PerformanceMap map" ∧
    (¬ ∃ before after : String, "rs_ns::PerformanceMap map" = before ++ "Performance" ++ after ∧
      (∀ c ∈ before.toList.getLast?, isIdentChar c = false) ∧
      (∀ c ∈ after.toList.head?, isIdentChar c = false)) ∧
    "User" ∈ mentions mapUser ∧
    "rs_ns::PerformanceMap" ∉ mentions mapUser := by
  have hword (w : String) (hne : w ≠ "") (hall : w.toList.all isIdentChar = true) : IsWord w :=
    ⟨hne, List.all_eq_true.mp hall⟩
  refine ⟨?_, fun hcut => ?_, ?_, ?_⟩
  · have hbefore : ∀ c ∈ "rs_ns::".toList.getLast?, isIdentChar c = false := by rintro _ ⟨⟩; rfl
    have hafter : ∀ c ∈ " map".toList.head?, isIdentChar c = false := by rintro _ ⟨⟩; rfl
    exact (mentions_are_whole_words.1 _ _ (hword _ (by decide) rfl)).mpr
      ⟨"rs_ns::", " map", rfl, hbefore, hafter⟩
  · have hmem := (mentions_are_whole_words.1 _ _ (hword "Performance" (by decide) rfl)).mpr hcut
    exact absurd hmem (by decide)
  · exact mentions_are_whole_words.2.1 mapUser (hword _ (by decide) rfl)
  · refine (mentions_are_whole_words.2.2.2 _ fun hname => ?_).1 mapUser
    exact absurd (hname.2 ':' (by decide)) (by decide)

end SchemaGen
