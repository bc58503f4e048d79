import SqlCompiler.Json.Record

namespace SqlCompiler.Json

section

variable {α : Type} {read : Json → Option α} {write : α → Json}

theorem list?_map {items : List α} (inverse : ∀ a ∈ items, read (write a) = some a) :
    list? read (.arr (items.map write)) = some items := by
  rw [list?, List.mapM_map]
  induction items with
  | nil => rfl
  | cons a items ih =>
    obtain ⟨first, later⟩ := List.forall_mem_cons.mp inverse
    simp [List.mapM_cons, first, ih later]

theorem nullable_ofOption {value : Option α} (inverse : ∀ a ∈ value, read (write a) = some a)
    (present : ∀ a ∈ value, write a ≠ .null) : nullable read (ofOption write value) = some value := by
  cases value with
  | none => rfl
  | some a =>
    rw [ofOption, nullable, inverse a rfl]
    · rfl
    · exact present a rfl

end

@[simp]
theorem text?_str (text : String) : text? (.str text) = some text := rfl

@[simp]
theorem truth?_bool (truth : Bool) : truth? (.bool truth) = some truth := rfl

@[simp]
theorem list?_texts (texts : List String) : list? text? (.arr (texts.map .str)) = some texts :=
  list?_map fun _ _ => rfl

@[simp]
theorem nullable_text (text : Option String) : nullable text? (ofText? text) = some text :=
  nullable_ofOption (fun _ _ => rfl) fun _ _ => nofun

@[simp]
theorem nullable_truth (truth : Option Bool) : nullable truth? (ofOption .bool truth) = some truth :=
  nullable_ofOption (fun _ _ => rfl) fun _ _ => nofun

theorem natBelow?_ofNat {n bound : Nat} (below : n < bound) : natBelow? bound (ofNat n) = some n := by
  have within : (0 : Int) ≤ n ∧ (n : Int) < bound := by omega
  rw [ofNat, natBelow?, if_pos within, Int.toNat_natCast]

@[simp]
theorem uint32?_ofNat (n : UInt32) : uint32? (ofNat n.toNat) = some n := by
  rw [uint32?, natBelow?_ofNat n.toNat_lt, Option.map_some, UInt32.ofNat_toNat]

@[simp]
theorem uint64?_ofNat (n : UInt64) : uint64? (ofNat n.toNat) = some n := by
  rw [uint64?, natBelow?_ofNat n.toNat_lt, Option.map_some, UInt64.ofNat_toNat]

@[simp]
theorem int64?_int (n : Int64) : int64? (.int n.toInt) = some n := by
  rw [int64?, if_pos ⟨n.minValue_le_toInt, n.toInt_le⟩, Int64.ofInt_toInt]

section

variable {α : Type} {name other : String} {value : Json} {rest : List (String × Json)} {read : Json → Option α}

@[simp]
theorem optional_cons {default : α} : Fields.optional ⟨(other, value) :: rest⟩ name default read =
    if name = other then read value else Fields.optional ⟨rest⟩ name default read := by
  by_cases same : name = other
  · simp [Fields.optional, same]
  · simp [Fields.optional, List.lookup_cons, same, beq_eq_false_iff_ne.mpr same]

@[simp]
theorem required_cons : Fields.required ⟨(other, value) :: rest⟩ name read =
    if name = other then read value else Fields.required ⟨rest⟩ name read := by
  by_cases same : name = other
  · simp [Fields.required, same]
  · simp [Fields.required, List.lookup_cons, same, beq_eq_false_iff_ne.mpr same]

end

section

variable {α β γ : Type} {record : Option Fields} {first second : String} {value other : Json} {a : α} {b : β}
  {read : Json → Option α} {readOther : Json → Option β}

theorem required_read (build : α → γ) (inverse : read value = some a)
    (present : record = some ⟨[(first, value)]⟩) :
    (do let f ← record
        return build (← f.required first read)) = some (build a) := by
  simp [present, inverse]

theorem optional_read (build : α → γ) {default : α} (inverse : read value = some a)
    (present : record = some ⟨[(first, value)]⟩) :
    (do let f ← record
        return build (← f.optional first default read)) = some (build a) := by
  simp [present, inverse]

theorem required_pair_read (build : α → β → γ) (inverse : read value = some a)
    (inverseOther : readOther other = some b)
    (present : record = some ⟨[(first, value), (second, other)]⟩) (distinct : second ≠ first) :
    (do let f ← record
        let a ← f.required first read
        return build a (← f.required second readOther)) = some (build a b) := by
  simp [present, inverse, inverseOther, distinct]

theorem optional_pair_read (build : α → β → γ) (inverse : read value = some a)
    (inverseOther : readOther other = some b)
    {default : α} {defaultOther : β} (present : record = some ⟨[(first, value), (second, other)]⟩)
    (distinct : second ≠ first) :
    (do let f ← record
        let a ← f.optional first default read
        return build a (← f.optional second defaultOther readOther)) = some (build a b) := by
  simp [present, inverse, inverseOther, distinct]

end

section

variable {names : List String} {before fields after : List (String × Json)}

theorem filter_strange (strange : ∀ field ∈ fields, field.1 ∉ names) :
    fields.filter (fun (name, _) => names.contains name) = [] := by
  rw [List.filter_eq_nil_iff]
  intro field member
  simpa using strange field member

theorem objectFields?_among (strange : ∀ field ∈ before ++ after, field.1 ∉ names) :
    objectFields? names (.obj (before ++ fields ++ after)) = objectFields? names (.obj fields) := by
  obtain ⟨strangeBefore, strangeAfter⟩ := List.forall_mem_append.mp strange
  have first := filter_strange strangeBefore
  have last := filter_strange strangeAfter
  simp only [objectFields?, List.filter_append, first, last, List.nil_append, List.append_nil]

theorem objectFields?_around (own : (before ++ after).map (·.1) = names) (distinct : hasRepeat names = false)
    (strange : ∀ field ∈ fields, field.1 ∉ names) :
    objectFields? names (.obj (before ++ fields ++ after)) = some ⟨before ++ after⟩ := by
  have kept : (before ++ after).filter (fun (name, _) => names.contains name) = before ++ after := by
    rw [List.filter_eq_self]
    intro field member
    rw [List.contains_iff_mem, ← own]
    exact List.mem_map_of_mem member
  rw [List.filter_append] at kept
  rw [objectFields?]
  simp only [List.filter_append, filter_strange strange, List.append_nil, kept, own, distinct, Bool.false_eq_true,
    if_false]

end

end SqlCompiler.Json
