import SqlCompiler.Proofs.Placement.Scanning
import SqlCompiler.Identifier

namespace SqlCompiler

namespace Text

theorem split_subset {sep : Char} {cs part : List Char} (member : part ∈ split sep cs) : part ⊆ cs := by
  induction cs generalizing part with
  | nil => simp_all [split]
  | cons c cs ih =>
    simp only [split] at member
    split at member
    · rcases List.mem_cons.mp member with rfl | later
      · exact List.nil_subset _
      · exact List.subset_cons_of_subset c (ih later)
    · split at member
      · simp_all
      · rename_i first parts found
        rcases List.mem_cons.mp member with rfl | later
        · exact List.cons_subset_cons c (ih (by simp [found]))
        · exact List.subset_cons_of_subset c (ih (by simp [found, later]))

theorem splitArrows_subset {cs part : List Char} (member : part ∈ splitArrows cs) : part ⊆ cs := by
  fun_induction splitArrows cs generalizing part with
  | case1 => simp_all
  | case2 c => simp_all
  | case3 c d cs arrow ih =>
    rcases List.mem_cons.mp member with rfl | later
    · exact List.nil_subset _
    · exact List.subset_cons_of_subset c (List.subset_cons_of_subset d (ih later))
  | case4 c d cs arrow none ih => simp_all
  | case5 c d cs arrow first parts found ih =>
    rcases List.mem_cons.mp member with rfl | later
    · exact List.cons_subset_cons c (ih (by simp [found]))
    · exact List.subset_cons_of_subset c (ih (by simp [found, later]))

theorem splitLast_subset {sep : Char} {cs before after : List Char}
    (found : splitLast sep cs = some (before, after)) : before ⊆ cs ∧ after ⊆ cs := by
  induction cs generalizing before with
  | nil => simp [splitLast] at found
  | cons c cs ih =>
    simp only [splitLast] at found
    split at found
    · rename_i later
      cases found
      have parts := ih later
      exact ⟨List.cons_subset_cons c parts.1, List.subset_cons_of_subset c parts.2⟩
    · split at found
      · cases found
        exact ⟨List.nil_subset _, List.subset_cons_of_subset c (List.Subset.refl _)⟩
      · cases found

theorem afterAs?_subset {cs label : List Char} (found : afterAs? cs = some label) : label ⊆ cs := by
  unfold afterAs? at found
  split at found
  · split at found
    · cases found
      intro c member
      simp [member]
    · cases found
  · cases found

theorem cutAlias_subset {cs name label : List Char} (found : cutAlias cs = some (name, label)) :
    name ⊆ cs ∧ label ⊆ cs := by
  induction cs generalizing name with
  | nil => simp [cutAlias] at found
  | cons c cs ih =>
    simp only [cutAlias] at found
    split at found
    · rename_i later
      cases found
      exact ⟨List.nil_subset _, afterAs?_subset later⟩
    · cases later : cutAlias cs <;> simp only [later, Option.map_none, Option.map_some] at found
      · cases found
      · rename_i pair
        cases found
        have parts := ih later
        exact ⟨List.cons_subset_cons c parts.1, List.subset_cons_of_subset c parts.2⟩

theorem trimEnd_subset (cs : List Char) : trimEnd cs ⊆ cs := by
  induction cs with
  | nil => exact List.nil_subset _
  | cons c cs ih =>
    simp only [trimEnd]
    split
    · split <;> simp
    · exact List.cons_subset_cons c ih

theorem trim_subset (cs : List Char) : trim cs ⊆ cs :=
  List.Subset.trans (trimEnd_subset _) (List.dropWhile_sublist isBlank).subset

theorem double_eq_self {q : Char} {cs : List Char} (absent : q ∉ cs) : double q cs = cs := by
  induction cs with
  | nil => rfl
  | cons c cs ih =>
    have other : c ≠ q := fun same => absent (by simp [same])
    simp [double, other, ih fun member => absent (List.mem_cons_of_mem c member)]

end Text

theorem PlainText.of_subset {s : String} (plain : PlainText s) {cs : List Char} (part : cs ⊆ s.toList) :
    PlainText (String.ofList cs) := by
  rw [PlainText, String.toList_ofList]
  exact fun c member => plain c (part member)

theorem PlainText.parts {s : String} (plain : PlainText s) {sep : Char} {part : String}
    (member : part ∈ Text.parts sep s) : PlainText part := by
  obtain ⟨cs, found, rfl⟩ := List.mem_map.mp member
  exact plain.of_subset (Text.split_subset found)

theorem PlainText.strip {s : String} (plain : PlainText s) : PlainText (Text.strip s) :=
  plain.of_subset (Text.trim_subset _)

theorem PlainText.splitAlias {s name label : String} (plain : PlainText s)
    (found : Text.splitAlias s = some (name, label)) : PlainText name ∧ PlainText label := by
  obtain ⟨⟨left, right⟩, cut, same⟩ := Option.map_eq_some_iff.mp found
  cases same
  have parts := Text.cutAlias_subset cut
  exact ⟨plain.of_subset (List.Subset.trans (Text.trim_subset _) parts.1),
    plain.of_subset (List.Subset.trans (Text.trim_subset _) parts.2)⟩

theorem PlainText.aliasOf {s : String} (plain : PlainText s) : PlainText (aliasOf s) := by
  unfold SqlCompiler.aliasOf
  split
  · rename_i found
    exact (plain.splitAlias found).2
  · exact plain

theorem PlainText.lastPart {s : String} (plain : PlainText s) {sep : Char} :
    PlainText (Text.lastPart sep s) := by
  refine plain.of_subset ?_
  unfold Text.afterLast
  split
  · rename_i found
    exact (Text.splitLast_subset found).2
  · exact List.Subset.refl _

theorem PlainText.fieldAndPath {s field : String} {path : List String} (plain : PlainText s)
    (found : Text.fieldAndPath s = (field, path)) : PlainText field ∧ ∀ step ∈ path, PlainText step := by
  unfold Text.fieldAndPath at found
  split at found
  · cases found
    exact ⟨PlainText.of_chars rfl, by simp⟩
  · rename_i first steps cut
    cases found
    refine ⟨plain.of_subset (Text.splitArrows_subset (by simp [cut])), ?_⟩
    intro step member
    obtain ⟨cs, kept, rfl⟩ := List.mem_map.mp member
    exact plain.of_subset (Text.splitArrows_subset (by simp [cut, (List.mem_filter.mp kept).1]))

end SqlCompiler
