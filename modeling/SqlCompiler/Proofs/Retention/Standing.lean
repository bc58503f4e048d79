import SqlCompiler.Proofs.Erasure.Texts

namespace SqlCompiler

/-- The text does not go on with the last word of what stands before it. -/
def Breaks (after : String) : Prop := ∀ c ∈ after.toList.head?, c = ' ' ∨ c = ')' ∨ c = ','

theorem breaks_empty : Breaks "" := by simp [Breaks]

/-- A literal begins with the first of its characters, whatever stands behind it. -/
theorem breaks_chars {c : Char} {cs : List Char} (breaks : c = ' ' ∨ c = ')' ∨ c = ',') (rest : String) :
    Breaks (String.ofList (c :: cs) ++ rest) := by
  intro first head
  have same : c = first := by simpa using head
  rwa [← same]

theorem breaks_literal {c : Char} {cs : List Char} (breaks : c = ' ' ∨ c = ')' ∨ c = ',') :
    Breaks (String.ofList (c :: cs)) := by
  simpa using breaks_chars breaks ""

theorem Breaks.append {a b : String} (left : Breaks a) (right : Breaks b) : Breaks (a ++ b) := by
  intro c head
  rw [String.toList_append, List.head?_append] at head
  cases found : a.toList.head? with
  | none => exact right c (by simpa [found] using head)
  | some first => exact left c (by simpa [found] using head)

/-- The part is written in the text, and no word goes on where it ends. -/
def StandsIn (part whole : String) : Prop := ∃ before after, whole = before ++ part ++ after ∧ Breaks after

/-- The parts are written in the text one behind the other, and no word goes on where one of them ends. -/
def InOrder : List String → String → Prop
  | [], _ => True
  | part :: rest, whole => ∃ before after, whole = before ++ part ++ after ∧ Breaks after ∧ InOrder rest after

theorem StandsIn.refl (s : String) : StandsIn s s := ⟨"", "", by simp, breaks_empty⟩

theorem StandsIn.trans {part mid whole : String} (inner : StandsIn part mid) (outer : StandsIn mid whole) :
    StandsIn part whole := by
  obtain ⟨before, after, rfl, breaks⟩ := inner
  obtain ⟨before', after', rfl, breaks'⟩ := outer
  exact ⟨before' ++ before, after ++ after', by simp only [String.append_assoc], breaks.append breaks'⟩

theorem standsIn_empty (whole : String) : StandsIn "" whole := ⟨whole, "", by simp, breaks_empty⟩

theorem StandsIn.after {part whole : String} (stands : StandsIn part whole) (before : String) :
    StandsIn part (before ++ whole) :=
  stands.trans ⟨before, "", by simp, breaks_empty⟩

theorem StandsIn.before {part whole after : String} (stands : StandsIn part whole) (breaks : Breaks after) :
    StandsIn part (whole ++ after) :=
  stands.trans ⟨"", after, by simp, breaks⟩

theorem StandsIn.subset {part whole : String} (stands : StandsIn part whole) : part.toList ⊆ whole.toList := by
  obtain ⟨before, after, rfl, _⟩ := stands
  intro c member
  simp [member]

theorem not_standsIn {part whole : String} {c : Char} (absent : whole.toList.all (· ≠ c)) (named : c ∈ part.toList) :
    ¬ StandsIn part whole := by
  intro stands
  have other := List.all_eq_true.mp absent c (stands.subset named)
  simp at other

namespace InOrder

theorem after {parts : List String} {whole : String} (order : InOrder parts whole) (before : String) :
    InOrder parts (before ++ whole) := by
  cases parts with
  | nil => exact True.intro
  | cons part rest =>
    obtain ⟨before', after, rfl, breaks, later⟩ := order
    exact ⟨before ++ before', after, by simp only [String.append_assoc], breaks, later⟩

theorem before {parts : List String} {whole after : String} (order : InOrder parts whole) (breaks : Breaks after) :
    InOrder parts (whole ++ after) := by
  induction parts generalizing whole with
  | nil => exact True.intro
  | cons part rest ih =>
    obtain ⟨before', after', rfl, breaks', later⟩ := order
    exact ⟨before', after' ++ after, by simp only [String.append_assoc], breaks'.append breaks, ih later⟩

theorem within {parts : List String} {part whole : String} (order : InOrder parts part)
    (stands : StandsIn part whole) : InOrder parts whole := by
  obtain ⟨before', after', rfl, breaks⟩ := stands
  exact (order.after before').before breaks

theorem standsIn {parts : List String} {part whole : String} (order : InOrder parts whole) (member : part ∈ parts) :
    StandsIn part whole := by
  induction parts generalizing whole with
  | nil => cases member
  | cons first rest ih =>
    obtain ⟨before', after', rfl, breaks, later⟩ := order
    rcases List.mem_cons.mp member with rfl | member
    · exact ⟨before', after', rfl, breaks⟩
    · exact (ih later member).after (before' ++ first)

theorem intercalate {c : Char} {cs : List Char} (breaks : c = ' ' ∨ c = ')' ∨ c = ',') (parts : List String) :
    InOrder parts ((String.ofList (c :: cs)).intercalate parts) := by
  induction parts with
  | nil => exact True.intro
  | cons part rest ih =>
    cases rest with
    | nil => exact ⟨"", "", by simp, breaks_empty, True.intro⟩
    | cons next rest =>
      rw [String.intercalate_cons_cons]
      refine ⟨"", _, by rw [String.empty_append, String.append_assoc], breaks_chars breaks _, ?_⟩
      exact ih.after _

theorem nil (whole : String) : InOrder [] whole := True.intro

theorem joined {parts : List String} {a b c : String} (order : InOrder parts (a ++ (b ++ c))) :
    InOrder parts (a ++ b ++ c) := by
  rwa [String.append_assoc]

/-- Literals unfold to the lists of their characters, so a word is found at the end of one without decoding bytes. -/
theorem behind_word {word front : List Char} {part after : String} {rest : List String} (ends : word <:+ front)
    (breaks : Breaks after) (order : InOrder rest after) :
    InOrder ((String.ofList word ++ part) :: rest) (String.ofList front ++ (part ++ after)) := by
  obtain ⟨before, rfl⟩ := ends
  exact ⟨String.ofList before, after, by simp only [String.ofList_append, String.append_assoc], breaks, order⟩

end InOrder

namespace Sql

theorem standsIn_left (a : Sql) {b : Sql} (breaks : Breaks b.text) : StandsIn a.text (a ++ b).text :=
  ⟨"", b.text, by simp, breaks⟩

theorem standsIn_right (a b : Sql) : StandsIn b.text (a ++ b).text := ⟨a.text, "", by simp, breaks_empty⟩

theorem standsIn_last (before : Sql) (s : String) : StandsIn s (before ++ ofText s).text := by
  simpa only [text_ofText] using standsIn_right before (ofText s)

theorem breaks_ofText {c : Char} {cs : List Char} (breaks : c = ' ' ∨ c = ')' ∨ c = ',') (rest : Sql) :
    Breaks (ofText (String.ofList (c :: cs)) ++ rest).text := by
  rw [text_append, text_ofText]
  exact breaks_chars breaks _

theorem standsIn_between (before s : Sql) {c : Char} {cs : List Char} (breaks : c = ' ' ∨ c = ')' ∨ c = ',') :
    StandsIn s.text (before ++ s ++ ofText (String.ofList (c :: cs))).text := by
  refine (standsIn_right before s).trans (standsIn_left _ ?_)
  rw [text_ofText]
  exact breaks_literal breaks

theorem standsIn_inside (before s rest : Sql) {c : Char} {cs : List Char} (breaks : c = ' ' ∨ c = ')' ∨ c = ',') :
    StandsIn s.text (before ++ s ++ ofText (String.ofList (c :: cs)) ++ rest).text := by
  rw [append_assoc]
  exact (standsIn_right before s).trans (standsIn_left _ (breaks_ofText breaks rest))

theorem join_inOrder {c : Char} {cs : List Char} (breaks : c = ' ' ∨ c = ')' ∨ c = ',') (parts : List Sql) :
    InOrder (parts.map text) (join (String.ofList (c :: cs)) parts).text := by
  rw [text_join]
  exact .intercalate breaks _

theorem concat_standsIn {parts : List Sql} {part : Sql} (member : part ∈ parts) :
    StandsIn part.text (concat parts).text := by
  -- empty parts are not written, but an empty text stands anywhere
  by_cases nothing : part.text = ""
  · rw [nothing]
    exact standsIn_empty _
  · rw [text_concat]
    apply InOrder.standsIn (.intercalate (.inl rfl) _)
    exact List.mem_filter.mpr ⟨List.mem_map_of_mem member, by simpa using nothing⟩

end Sql

end SqlCompiler
