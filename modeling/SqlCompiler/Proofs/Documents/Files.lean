import SqlCompiler.CommandLine.Run
import SqlCompiler.Proofs.Documents.Blueprints
import SqlCompiler.Proofs.Documents.Readings

namespace SqlCompiler

open Json (Legible)

namespace Json.Legible

variable {depth : Nat}

attribute [simp] Legible.null Legible.bool Legible.str

@[simp]
theorem arr_iff {items : List Json} : Legible (depth + 1) (.arr items) ↔ ∀ item ∈ items, Legible depth item :=
  ⟨fun | arr each => each, arr⟩

@[simp]
theorem obj_iff {fields : List (String × Json)} :
    Legible (depth + 1) (.obj fields) ↔ ∀ field ∈ fields, Legible depth field.2 :=
  ⟨fun | obj each => each, obj⟩

theorem ofOption {α : Type} {write : α → Json} {value : Option α} (each : ∀ a ∈ value, Legible depth (write a)) :
    Legible depth (.ofOption write value) := by
  cases value with
  | none => exact null
  | some a => exact each a rfl

@[simp]
theorem ofText? (text : Option String) : Legible depth (.ofText? text) := ofOption fun _ _ => str _

@[simp]
theorem ofTruth? (truth : Option Bool) : Legible depth (.ofOption .bool truth) := ofOption fun _ _ => bool _

theorem ofNat {n : Nat} (fits : n < UInt64.size) : Legible depth (.ofNat n) := by
  have least : Int64.minValue.toInt ≤ 0 := by decide
  exact int (by omega) (by omega)

@[simp]
theorem uint32 (n : UInt32) : Legible depth (.ofNat n.toNat) := ofNat (Nat.lt_trans n.toNat_lt (by decide))

@[simp]
theorem uint64 (n : UInt64) : Legible depth (.ofNat n.toNat) := ofNat n.toNat_lt

@[simp]
theorem int64 (n : Int64) : Legible depth (.int n.toInt) := by
  have most : n.toInt < 2 ^ 63 := n.toInt_lt
  exact int n.minValue_le_toInt (Int.lt_trans most (by decide))

end Json.Legible

variable {depth : Nat}

theorem TableIndex.toFields_legible (i : TableIndex) : ∀ field ∈ i.toFields, Legible (depth + 1) field.2 := by
  simp [toFields]

theorem ForeignKey.toFields_legible (k : ForeignKey) : ∀ field ∈ k.toFields, Legible (depth + 1) field.2 := by
  simp [toFields]

theorem ColumnType.toFields_legible (t : ColumnType) : ∀ field ∈ t.toFields, Legible (depth + 1) field.2 := by
  have number (n : Option UInt32) : Legible (depth + 1) (number n) := Legible.ofOption fun n _ => Legible.uint32 n
  cases t <;> simp [toFields, details, number]

theorem DefaultValue.toJson_legible {d : DefaultValue}
    (exact : ∀ x ∈ d.floats, x.isFinite → Json.read? (Json.float x).text = some (.float x)) :
    Legible (depth + 1) d.toJson := by
  cases d with
  | float x =>
    have worth := exact x (List.mem_singleton_self x)
    rw [toJson, Legible.obj_iff, List.forall_mem_singleton]
    split
    next finite => exact .float (worth finite)
    next => exact .null
  | _ => simp [toJson]

theorem ColumnIndex.toJson_legible (i : ColumnIndex) : Legible (depth + 1) i.toJson := by
  simp [toJson]

theorem Column.toJson_legible {c : Column}
    (exact : ∀ x ∈ c.floats, x.isFinite → Json.read? (Json.float x).text = some (.float x)) :
    Legible (depth + 3) c.toJson := by
  have type : ∀ field ∈ c.type.toFields, Legible (depth + 2) field.2 := c.type.toFields_legible
  have default : Legible (depth + 2) (.ofOption DefaultValue.toJson c.defaultValue) :=
    .ofOption fun _ is => DefaultValue.toJson_legible fun x member => exact x (mem_floats is member)
  have start : Legible (depth + 2) (.ofOption (fun n => .ofNat n.toNat) c.startingValue) :=
    .ofOption fun n _ => .uint64 n
  have indexes : Legible (depth + 2) (.arr (c.indexes.map ColumnIndex.toJson)) := by
    rw [Legible.arr_iff, List.forall_mem_map]
    exact fun i _ => i.toJson_legible
  have foreign : Legible (depth + 2) (.ofOption (fun k => .obj k.toFields) c.foreign) :=
    .ofOption fun k _ => .obj k.toFields_legible
  rw [toJson_eq, Legible.obj_iff, List.forall_mem_append, List.forall_mem_append]
  refine ⟨⟨by simp, type⟩, ?_⟩
  simp only [modifiers, List.forall_mem_cons]
  simp [default, start, indexes, foreign]

theorem Command.toJson_legible (c : Command) : Legible (depth + 2) c.toJson := by
  have details : ∀ field ∈ c.details, Legible (depth + 1) field.2 := by
    cases c with
    | index kind i => exact i.toFields_legible
    | foreign k => exact k.toFields_legible
    | _ => simp [details]
  exact .obj (List.forall_mem_cons.mpr ⟨.str c.word, details⟩)

namespace Blueprint

theorem toJson_legible {b : Blueprint}
    (exact : ∀ x ∈ b.floats, x.isFinite → Json.read? (Json.float x).text = some (.float x)) :
    Legible 5 b.toJson := by
  have columns : Legible 4 (.arr (b.columns.map Column.toJson)) := by
    rw [Legible.arr_iff, List.forall_mem_map]
    exact fun c declared => Column.toJson_legible fun x member => exact x (mem_floats declared member)
  have commands : Legible 4 (.arr (b.commands.map Command.toJson)) := by
    rw [Legible.arr_iff, List.forall_mem_map]
    exact fun c _ => c.toJson_legible
  rw [toJson, Legible.obj_iff]
  simp only [List.forall_mem_cons]
  simp [columns, commands]

theorem readRecord?_toJson {b : Blueprint}
    (exact : ∀ x ∈ b.floats, x.isFinite → Json.read? (Json.float x).text = some (.float x)) :
    Json.readRecord? fieldNames b.toJson.text = some b.toJson := by
  have legible := Legible.obj_iff.mp (toJson_legible exact)
  exact Json.readRecord?_text (by simp [fieldNames]) legible (by decide)

/-- A blueprint of which all float defaults are finite is what its document is read as. If the texts of these floats are
read back, it is also what a file is read as that holds the document, and the file is compiled to what the blueprint is
compiled to. -/
theorem document_reads_back {b : Blueprint} (finite : ∀ x ∈ b.floats, x.isFinite)
    (exact : ∀ x ∈ b.floats, x.isFinite → Json.read? (Json.float x).text = some (.float x)) :
    ofJson? b.toJson = some b ∧
      (Json.readRecord? fieldNames b.toJson.text).bind ofJson? = some b ∧
      ∀ (files : String → Option String) (c : Config) (path : String), files path = some b.toJson.text →
        CommandLine.blueprintStatements files c path = CommandLine.refuse (c.target.bind b.statements) := by
  have value := ofJson?_toJson finite
  have read : (Json.readRecord? fieldNames b.toJson.text).bind ofJson? = some b := by
    rw [readRecord?_toJson exact, Option.bind_some, value]
  refine ⟨value, read, fun files c path held => ?_⟩
  rw [CommandLine.blueprintStatements, CommandLine.readFile, held]
  simp only [bind, Except.bind, read]

def sensors : Blueprint where
  table := "sensors"
  columns := [
    { name := "id", type := .bigInteger, autoIncrement := true, startingValue := some 1000 },
    { name := "level", type := .decimal 8 2, defaultValue := some (.float 1.5), indexes := [⟨.plain, none⟩] },
    { name := "offset", type := .integer, defaultValue := some (.integer (-3)) },
    { name := "label", type := .string (some 40), nullable := some true, defaultValue := some .null,
      comment := some "the \"name\"", indexes := [⟨.unique, some "labels"⟩] },
    { name := "seen", type := .dateTime none, defaultValue := some (.expression "now()") },
    { name := "active", type := .boolean, defaultValue := some (.bool true) },
    { name := "state", type := .enum ["on", "off"], defaultValue := some (.text "on") },
    { name := "room", type := .bigInteger,
      foreign := some
        { columns := ["room"], table := "rooms", references := ["id"], onDelete := some .cascade } }]
  commands := [.create, .index .primary { columns := ["id"] }, .tableComment "sensors",
    .startingValue "id" 1000]
  engine := some "InnoDB"

theorem level_exact : Json.read? (Json.float 1.5).text = some (.float 1.5) := by
  have shown : (Json.float 1.5).text = "1.5" := by
    rw [Json.text]
    decide +kernel
  have numeric : Json.Numeric "1.5".toList := ⟨⟨'1', _, rfl, .inr rfl⟩, List.all_eq_true.mp rfl⟩
  have alone := Json.tokens_number numeric Json.ends_nil
  have numeral : Json.numeral? "1.5".toList = some ⟨false, 15, some (-1)⟩ := by decide +kernel
  rw [List.append_nil, numeral, Json.tokens] at alone
  have worth : Json.Numeral.value? ⟨false, 15, some (-1)⟩ = some (.float 1.5) := by
    have scaled : Json.scaleDown (Float.ofNat 15) 1 = 1.5 := by
      rw [Json.scaleDown]
      decide +kernel
    exact congrArg (fun x => some (Json.float x)) scaled
  rw [shown, Json.read?_token alone, Json.startValue]
  simp [Json.isSkipped, worth, Json.supply, Json.Reading.result?]

theorem sensors_read_back : (∀ x ∈ sensors.floats, x.isFinite) ∧
    (∀ x ∈ sensors.floats, x.isFinite → Json.read? (Json.float x).text = some (.float x)) ∧
    ofJson? sensors.toJson = some sensors ∧
    (Json.readRecord? fieldNames sensors.toJson.text).bind ofJson? = some sensors ∧
      ∀ (files : String → Option String) (c : Config) (path : String), files path = some sensors.toJson.text →
        CommandLine.blueprintStatements files c path = CommandLine.refuse (c.target.bind sensors.statements) := by
  have floats : sensors.floats = [1.5] := rfl
  have finite : ∀ x ∈ sensors.floats, x.isFinite := by
    rw [floats]
    decide
  have exact : ∀ x ∈ sensors.floats, x.isFinite → Json.read? (Json.float x).text = some (.float x) := by
    rw [floats, List.forall_mem_singleton]
    exact fun _ => level_exact
  exact ⟨finite, exact, document_reads_back finite exact⟩

end Blueprint

end SqlCompiler
