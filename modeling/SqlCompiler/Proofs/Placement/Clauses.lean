import SqlCompiler.Proofs.Placement.Comparisons
import SqlCompiler.Select.Paging

namespace SqlCompiler

structure BindsAll (d : Dialect) (values : List Value) (parts : List Sql) : Prop where
  sound : ∀ part ∈ parts, part.Sound d
  values_eq : parts.flatMap Sql.values = values

theorem BindsAll.join {d : Dialect} {values : List Value} {parts : List Sql} (all : BindsAll d values parts)
    {separator : String} (between : d.Inert separator) : (Sql.join separator parts).Binds d values :=
  ⟨Sql.sound_join between all.sound, by rw [Sql.values_join, all.values_eq]⟩

theorem BindsAll.concat {d : Dialect} {values : List Value} {parts : List Sql} (all : BindsAll d values parts) :
    (Sql.concat parts).Binds d values :=
  ⟨Sql.sound_concat all.sound, by rw [Sql.values_concat all.sound, all.values_eq]⟩

theorem BindsAll.nil (d : Dialect) : BindsAll d [] [] := ⟨by simp, rfl⟩

theorem BindsAll.cons {d : Dialect} {first later : List Value} {part : Sql} {parts : List Sql}
    (head : part.Binds d first) (tail : BindsAll d later parts) : BindsAll d (first ++ later) (part :: parts) := by
  refine ⟨?_, ?_⟩
  · intro other member
    rcases List.mem_cons.mp member with rfl | member
    · exact head.sound
    · exact tail.sound other member
  · rw [List.flatMap_cons, head.values_eq, tail.values_eq]

theorem BindsAll.append {d : Dialect} {first later : List Value} {parts others : List Sql}
    (left : BindsAll d first parts) (right : BindsAll d later others) :
    BindsAll d (first ++ later) (parts ++ others) := by
  refine ⟨?_, ?_⟩
  · intro part member
    exact (List.mem_append.mp member).elim (left.sound part) (right.sound part)
  · rw [List.flatMap_append, left.values_eq, right.values_eq]

theorem BindsAll.map {α : Type} {d : Dialect} {f : α → Sql} {values : α → List Value} {items : List α}
    (each : ∀ item ∈ items, (f item).Binds d (values item)) : BindsAll d (items.flatMap values) (items.map f) := by
  induction items with
  | nil => exact BindsAll.nil d
  | cons item rest ih =>
    rw [List.flatMap_cons, List.map_cons]
    exact BindsAll.cons (each item (by simp)) (ih fun other member => each other (List.mem_cons_of_mem _ member))

theorem BindsAll.texts {d : Dialect} {words : List String} (inert : ∀ word ∈ words, d.Inert word) :
    BindsAll d [] (words.map Sql.ofText) := by
  refine ⟨?_, ?_⟩
  · intro part member
    obtain ⟨word, inWords, rfl⟩ := List.mem_map.mp member
    exact Sql.sound_ofText.mpr (inert word inWords)
  · simp [List.flatMap_map]

theorem anyOrder_inert (d : Dialect) : d.Inert anyOrder := Dialect.inert_chars rfl

theorem limitWord_inert (d : Dialect) (n : UInt64) : d.Inert (Target.limitWord n) :=
  (Dialect.inert_chars rfl).append (Nat.toString_inert d n.toNat)

theorem offsetWord_inert (d : Dialect) (n : UInt64) : d.Inert (Target.offsetWord n) :=
  (Dialect.inert_chars rfl).append (Nat.toString_inert d n.toNat)

namespace Target

theorem unlimited_inert (t : Target) : ∀ word ∈ t.unlimited, t.dialect.Inert word := by
  unfold unlimited
  split <;> simp only [List.mem_singleton, forall_eq, List.not_mem_nil, false_implies, implies_true]
  all_goals exact Dialect.inert_chars rfl

theorem limitAndOffset_inert (t : Target) (limit offset : Option UInt64) :
    ∀ word ∈ t.limitAndOffset limit offset, t.dialect.Inert word := by
  intro word member
  unfold limitAndOffset at member
  split at member
  · cases member
  · rw [List.mem_singleton.mp member]
    exact limitWord_inert _ _
  · rcases List.mem_append.mp member with first | last
    · exact t.unlimited_inert word first
    · rw [List.mem_singleton.mp last]
      exact offsetWord_inert _ _
  · simp only [List.mem_cons, List.not_mem_nil, or_false] at member
    rcases member with rfl | rfl
    · exact limitWord_inert _ _
    · exact offsetWord_inert _ _

theorem offsetAndFetch_inert (d : Dialect) (limit : Option UInt64) (offset : UInt64) :
    ∀ word ∈ offsetAndFetch limit offset, d.Inert word := by
  have skipped : d.Inert ("OFFSET " ++ toString offset.toNat ++ " ROWS") :=
    (Dialect.inert_chars rfl |>.append (Nat.toString_inert d _)).append (Dialect.inert_chars rfl)
  intro word member
  unfold offsetAndFetch at member
  split at member
  · rw [List.mem_singleton.mp member]
    exact skipped
  · simp only [List.mem_cons, List.not_mem_nil, or_false] at member
    rcases member with rfl | rfl
    · exact skipped
    · exact (Dialect.inert_chars rfl |>.append (Nat.toString_inert d _)).append (Dialect.inert_chars rfl)

theorem queryPaging_inert (t : Target) (q : Query) : ∀ word ∈ t.queryPaging q, t.dialect.Inert word := by
  unfold queryPaging
  split
  · split
    · simp
    · exact offsetAndFetch_inert _ _ _
  · exact t.limitAndOffset_inert _ _

theorem unionPaging_inert (t : Target) (q : Query) : ∀ word ∈ t.unionPaging q, t.dialect.Inert word := by
  unfold unionPaging
  split
  · split
    · simp
    · intro word member
      rcases List.mem_append.mp member with order | paging
      · split at order
        · rw [List.mem_singleton.mp order]
          exact anyOrder_inert _
        · cases order
      · exact offsetAndFetch_inert _ _ _ word paging
  · exact t.limitAndOffset_inert _ _

theorem randomOrder_inert (t : Target) (seed : Option UInt64) : t.dialect.Inert (t.randomOrder seed) := by
  unfold randomOrder
  repeat' split
  all_goals first
    | exact Dialect.inert_chars rfl
    | exact (Dialect.inert_chars rfl |>.append (Nat.toString_inert _ _)).append (Dialect.inert_chars rfl)

section

variable {t : Target} (plainPrefix : PlainText t.tablePrefix)
include plainPrefix

theorem order_binds {order : Order} (sound : order.Sound t.dialect) :
    (t.order order).Binds t.dialect order.bindings := by
  cases order with
  | column name direction =>
    have word : t.dialect.Inert direction.sql := by cases direction <;> exact Dialect.inert_chars rfl
    exact ((Sql.Binds.ofText (column_inert plainPrefix sound)).beforePlain rfl).before word
  | raw sql values => exact Sql.Binds.raw sound
  | random seed => exact Sql.Binds.ofText (t.randomOrder_inert seed)

theorem orderBy_binds {orders : List Order} (sound : ∀ order ∈ orders, order.Sound t.dialect) :
    (t.orderBy orders).Binds t.dialect (orders.flatMap Order.bindings) := by
  unfold orderBy
  split
  · rename_i nothing
    rw [List.isEmpty_iff.mp nothing]
    exact Sql.Binds.empty t.dialect
  · have all := BindsAll.map fun order member => order_binds plainPrefix (sound order member)
    exact (all.join (Dialect.inert_chars rfl)).afterPlain rfl

theorem queryOrder_binds {q : Query} (sound : ∀ order ∈ q.orders, order.Sound t.dialect) :
    (t.queryOrder q).Binds t.dialect (q.orders.flatMap Order.bindings) := by
  unfold queryOrder
  split
  · rename_i paged
    rw [List.isEmpty_iff.mp paged.2.1]
    exact Sql.Binds.ofText (anyOrder_inert t.dialect)
  · exact orderBy_binds plainPrefix sound

theorem groupBy_binds {groups : List Grouping} (sound : ∀ group ∈ groups, group.Sound t.dialect) :
    (t.groupBy groups).Binds t.dialect (groups.flatMap Grouping.bindings) := by
  have each : ∀ group ∈ groups, (t.grouping group).Binds t.dialect group.bindings := by
    intro group member
    have holds := sound group member
    cases group with
    | column name => exact Sql.Binds.ofText (column_inert plainPrefix holds)
    | raw sql values => exact Sql.Binds.raw holds
  unfold groupBy
  split
  · rename_i nothing
    rw [List.isEmpty_iff.mp nothing]
    exact Sql.Binds.empty t.dialect
  · exact ((BindsAll.map each).join (Dialect.inert_chars rfl)).afterPlain rfl

end

end Target

end SqlCompiler
