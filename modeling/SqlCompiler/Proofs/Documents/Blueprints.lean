import SqlCompiler.Proofs.Documents.Records
import SqlCompiler.Schema.Document

namespace SqlCompiler

open Json (text? truth? uint32? uint64? list? word?)

theorem IndexKind.ofName?_name (kind : IndexKind) : ofName? kind.name = some kind := by
  cases kind <;> rfl

theorem ReferenceAction.ofName?_name (action : ReferenceAction) : ofName? action.name = some action := by
  cases action <;> rfl

namespace TableIndex

theorem ofJson?_toFields (i : TableIndex) : ofJson? (.obj i.toFields) = some i := by
  have present : (Json.obj i.toFields).fields? fieldNames = some ⟨i.toFields⟩ := rfl
  rw [ofJson?, present]
  simp [toFields]

end TableIndex

namespace ForeignKey

variable {action? : Json → Option ReferenceAction}

theorem nullable_action (inverse : ∀ action : ReferenceAction, action? (.str action.name) = some action)
    (action : Option ReferenceAction) :
    Json.nullable action? (.ofText? (action.map ReferenceAction.name)) = some action := by
  cases action with
  | none => rfl
  | some action => simp [Json.ofText?, Json.ofOption, Json.nullable, inverse]

theorem ofFields?_toFields (inverse : ∀ action : ReferenceAction, action? (.str action.name) = some action)
    (k : ForeignKey) : ofFields? action? (.obj k.toFields) = some k := by
  have present : (Json.obj k.toFields).fields? fieldNames = some ⟨k.toFields⟩ := rfl
  rw [ofFields?, present, Option.bind_eq_bind, Option.bind_some]
  simp only [toFields, Json.optional_cons, String.reduceEq, if_true, if_false, Json.text?_str, Json.truth?_bool,
    Json.list?_texts, Json.nullable_truth, nullable_action inverse]
  rfl

theorem ofJson?_toFields (k : ForeignKey) : ofJson? (.obj k.toFields) = some k :=
  ofFields?_toFields ReferenceAction.ofName?_name k

theorem ofDetails?_toFields (k : ForeignKey) : ofDetails? (.obj k.toFields) = some k :=
  ofFields?_toFields ReferenceAction.ofName?_name k

end ForeignKey

namespace ColumnType

@[simp]
theorem nullable_number (n : Option UInt32) : Json.nullable uint32? (number n) = some n :=
  Json.nullable_ofOption (fun n _ => Json.uint32?_ofNat n) fun _ _ => nofun

def fieldNames : List String :=
  ["kind", "length", "precision", "total", "places", "allowed", "fixed", "subtype", "srid", "dimensions", "expression"]

theorem ofKind?_of_fields {t : ColumnType} {j : Json}
    (same : ∀ names, names ⊆ fieldNames → j.objectFields? names = (Json.obj t.toFields).objectFields? names) :
    ofKind? t.kind j = some t := by
  cases t with
  | char size | string size =>
    exact Json.optional_read _ (nullable_number size) (same ["length"] (by decide))
  | float size | dateTime size | dateTimeTz size | time size | timeTz size | timestamp size | timestampTz size =>
    exact Json.optional_read _ (nullable_number size) (same ["precision"] (by decide))
  | decimal total places =>
    exact Json.required_pair_read _ (Json.uint32?_ofNat total) (Json.uint32?_ofNat places)
      (same ["total", "places"] (by decide)) (by decide)
  | enum allowed | set allowed =>
    exact Json.required_read _ (Json.list?_texts allowed) (same ["allowed"] (by decide))
  | binary size fixed =>
    exact Json.optional_pair_read _ (nullable_number size) (Json.truth?_bool fixed)
      (same ["length", "fixed"] (by decide)) (by decide)
  | geometry subtype srid | geography subtype srid =>
    exact Json.optional_pair_read _ (Json.nullable_text subtype) (nullable_number srid)
      (same ["subtype", "srid"] (by decide)) (by decide)
  | vector dimensions =>
    exact Json.required_read _ (Json.uint32?_ofNat dimensions) (same ["dimensions"] (by decide))
  | computed expression => exact Json.required_read _ (Json.text?_str expression) (same ["expression"] (by decide))
  | _ => rfl

theorem objectFields?_kind (t : ColumnType) :
    (Json.obj t.toFields).objectFields? ["kind"] = some ⟨[("kind", .str t.kind)]⟩ := by
  cases t <;> rfl

theorem toFields_named (t : ColumnType) : ∀ field ∈ t.toFields, field.1 ∈ fieldNames := by
  cases t <;> simp [toFields, details, fieldNames]

theorem ofJson?_among {t : ColumnType} {before after : List (String × Json)}
    (strange : ∀ field ∈ before ++ after, field.1 ∉ fieldNames) :
    ofJson? (.obj (before ++ t.toFields ++ after)) = some t := by
  -- A type is read through its fields alone, and the column's other fields are none of them.
  have same (names : List String) (known : names ⊆ fieldNames) :
      (Json.obj (before ++ t.toFields ++ after)).objectFields? names = (Json.obj t.toFields).objectFields? names :=
    Json.objectFields?_among fun field member => mt (known ·) (strange field member)
  rw [ofJson?, same ["kind"] (by decide), objectFields?_kind]
  simpa [kindOf?] using ofKind?_of_fields same

end ColumnType

namespace DefaultValue

def floats : DefaultValue → List Float
  | .float x => [x]
  | _ => []

theorem ofJson?_toJson {d : DefaultValue} (finite : ∀ x ∈ d.floats, x.isFinite) : ofJson? d.toJson = some d := by
  cases d with
  | float x =>
    have shown : toJson (.float x) = .obj [("float", .float x)] := by
      rw [toJson, if_pos (finite x (List.mem_singleton_self x))]
    rw [shown]
    rfl
  | integer n => simp [toJson, ofJson?]
  | _ => rfl

theorem toJson_ne_null (d : DefaultValue) : d.toJson ≠ .null := by
  cases d <;> exact nofun

end DefaultValue

namespace ColumnIndex

theorem ofJson?_toJson (i : ColumnIndex) : ofJson? i.toJson = some i := by
  have present : i.toJson.fields? ["kind", "name"] =
      some ⟨[("kind", .str i.kind.name), ("name", .ofText? i.name)]⟩ := rfl
  simp [ofJson?, present, word?, IndexKind.ofName?_name]

end ColumnIndex

namespace Column

def floats (c : Column) : List Float := c.defaultValue.toList.flatMap DefaultValue.floats

theorem mem_floats {c : Column} {d : DefaultValue} {x : Float} (is : d ∈ c.defaultValue) (member : x ∈ d.floats) :
    x ∈ c.floats :=
  List.mem_flatMap.mpr ⟨d, Option.mem_toList.mpr is, member⟩

def modifiers (c : Column) : List (String × Json) :=
  [("nullable", .ofOption .bool c.nullable),
    ("default", .ofOption DefaultValue.toJson c.defaultValue),
    ("unsigned", .bool c.unsigned),
    ("auto_increment", .bool c.autoIncrement),
    ("charset", .ofText? c.charset),
    ("collation", .ofText? c.collation),
    ("comment", .ofText? c.comment),
    ("virtual_as", .ofText? c.virtualAs),
    ("stored_as", .ofText? c.storedAs),
    ("generated_as", .ofText? c.identity),
    ("always", .bool c.always),
    ("persisted", .bool c.persisted),
    ("use_current", .bool c.useCurrent),
    ("use_current_on_update", .bool c.useCurrentOnUpdate),
    ("on_update", .ofText? c.onUpdate),
    ("invisible", .bool c.invisible),
    ("after", .ofText? c.after),
    ("first", .bool c.first),
    ("change", .bool c.change),
    ("starting_value", .ofOption (fun n => .ofNat n.toNat) c.startingValue),
    ("indexes", .arr (c.indexes.map ColumnIndex.toJson)),
    ("foreign", .ofOption (fun k => .obj k.toFields) c.foreign)]

theorem toJson_eq (c : Column) : c.toJson = .obj ([("name", .str c.name)] ++ c.type.toFields ++ c.modifiers) := rfl

theorem own_names (c : Column) : ([("name", Json.str c.name)] ++ c.modifiers).map (·.1) = fieldNames := rfl

theorem names_distinct : ∀ name ∈ ColumnType.fieldNames, name ∉ fieldNames := by decide

theorem objectFields?_toJson (c : Column) :
    c.toJson.objectFields? fieldNames = some ⟨[("name", .str c.name)] ++ c.modifiers⟩ :=
  Json.objectFields?_around c.own_names (by decide) fun field member =>
    names_distinct _ (c.type.toFields_named field member)

theorem ofJson?_type (c : Column) : ColumnType.ofJson? c.toJson = some c.type :=
  ColumnType.ofJson?_among fun _ member typed =>
    names_distinct _ typed (c.own_names ▸ List.mem_map_of_mem member)

theorem nullable_default {c : Column} (finite : ∀ x ∈ c.floats, x.isFinite) :
    Json.nullable DefaultValue.ofJson? (.ofOption DefaultValue.toJson c.defaultValue) = some c.defaultValue :=
  Json.nullable_ofOption (fun _ is => DefaultValue.ofJson?_toJson fun x member => finite x (mem_floats is member))
    fun d _ => d.toJson_ne_null

theorem nullable_foreign (k : Option ForeignKey) :
    Json.nullable ForeignKey.ofJson? (.ofOption (fun k => .obj k.toFields) k) = some k :=
  Json.nullable_ofOption (fun k _ => k.ofJson?_toFields) fun _ _ => nofun

theorem nullable_startingValue (n : Option UInt64) :
    Json.nullable uint64? (.ofOption (fun n => .ofNat n.toNat) n) = some n :=
  Json.nullable_ofOption (fun n _ => Json.uint64?_ofNat n) fun _ _ => nofun

theorem ofJson?_toJson {c : Column} (finite : ∀ x ∈ c.floats, x.isFinite) : ofJson? c.toJson = some c := by
  have type := c.ofJson?_type
  have default := nullable_default finite
  have indexes : list? ColumnIndex.ofJson? (.arr (c.indexes.map ColumnIndex.toJson)) = some c.indexes :=
    Json.list?_map fun i _ => i.ofJson?_toJson
  rw [ofJson?, objectFields?_toJson, Option.bind_eq_bind, Option.bind_some]
  simp only [modifiers, List.cons_append, List.nil_append, Json.optional_cons, String.reduceEq, if_true, if_false,
    Json.text?_str, Json.truth?_bool, Json.nullable_text, Json.nullable_truth, type, default, nullable_startingValue,
    indexes, nullable_foreign]
  rfl

end Column

namespace Command

theorem details_named (c : Command) : ∀ field ∈ c.details, field.1 ≠ "command" := by
  cases c <;> simp [details, TableIndex.toFields, ForeignKey.toFields]

theorem ofWord?_details (c : Command) : ofWord? c.word (.obj c.details) = some c := by
  cases c with
  | create | add | change | drop | dropIfExists => rfl
  | rename text | dropUnique text | dropIndex text | dropFullText text | dropSpatial text | dropForeign text
  | tableComment text => exact Json.required_read _ (Json.text?_str text) (by rfl)
  | dropPrimary name => exact Json.optional_read _ (Json.text?_str name) (by rfl)
  | dropColumn columns => exact Json.required_read _ (Json.list?_texts columns) (by rfl)
  | renameColumn a b | renameIndex a b | columnComment a b =>
    exact Json.required_pair_read _ (Json.text?_str a) (Json.text?_str b) (by rfl) (by decide)
  | startingValue column value =>
    exact Json.required_pair_read _ (Json.text?_str column) (Json.uint64?_ofNat value) (by rfl) (by decide)
  | index kind i =>
    have read := congrArg (Option.map (index kind)) i.ofJson?_toFields
    cases kind <;> exact read
  | foreign k => exact congrArg (Option.map foreign) k.ofDetails?_toFields

theorem ofJson?_toJson (c : Command) : ofJson? c.toJson = some c := by
  have named : (Json.obj (("command", .str c.word) :: c.details)).objectFields? ["command"] =
      some ⟨[("command", .str c.word)]⟩ := by
    rw [← List.append_nil c.details]
    change Json.objectFields? _ (.obj ([_] ++ c.details ++ [])) = some ⟨[_] ++ []⟩
    exact Json.objectFields?_around rfl rfl fun field member => by simpa using c.details_named field member
  rw [toJson, ofJson?, named, Option.bind_eq_bind, Option.bind_some, List.filter_cons_of_neg (by simp),
    List.filter_eq_self.mpr fun field member => bne_iff_ne.mpr (c.details_named field member)]
  simp [ofWord?_details]

end Command

namespace Blueprint

def floats (b : Blueprint) : List Float := b.columns.flatMap Column.floats

theorem mem_floats {b : Blueprint} {c : Column} {x : Float} (declared : c ∈ b.columns) (member : x ∈ c.floats) :
    x ∈ b.floats :=
  List.mem_flatMap.mpr ⟨c, declared, member⟩

theorem ofJson?_toJson {b : Blueprint} (finite : ∀ x ∈ b.floats, x.isFinite) : ofJson? b.toJson = some b := by
  have columns : list? Column.ofJson? (.arr (b.columns.map Column.toJson)) = some b.columns :=
    Json.list?_map fun c declared => Column.ofJson?_toJson fun x member => finite x (mem_floats declared member)
  have commands : list? Command.ofJson? (.arr (b.commands.map Command.toJson)) = some b.commands :=
    Json.list?_map fun c _ => c.ofJson?_toJson
  have present : b.toJson.fields? fieldNames = some ⟨[("table", .str b.table),
      ("columns", .arr (b.columns.map Column.toJson)), ("commands", .arr (b.commands.map Command.toJson)),
      ("temporary", .bool b.temporary), ("charset", .ofText? b.charset), ("collation", .ofText? b.collation),
      ("engine", .ofText? b.engine)]⟩ := rfl
  rw [ofJson?, present, Option.bind_eq_bind, Option.bind_some]
  simp only [Json.optional_cons, String.reduceEq, if_true, if_false, Json.text?_str, Json.truth?_bool,
    Json.nullable_text, columns, commands]
  rfl

end Blueprint

end SqlCompiler
