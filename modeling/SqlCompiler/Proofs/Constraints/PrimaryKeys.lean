import SqlCompiler.Proofs.Constraints.Retained

namespace SqlCompiler

/-- The part declares a primary key: for a column that numbers its rows the words say so. -/
def TablePart.isPrimaryKey : TablePart → Bool
  | .text _ => false
  | .declares (.numbering _) s => Text.contains s "PRIMARY KEY"
  | .declares (.constraint command) _ => command.isPrimary

namespace Target

variable {t : Target} {b : Blueprint}

def numbersByKey (t : Target) (b : Blueprint) (c : Column) : Bool := Text.contains (t.numbering b c) "PRIMARY KEY"

theorem numbersByKey_eq (t : Target) (b : Blueprint) (c : Column) : t.numbersByKey b c =
    match t.dialect with
    | .postgres => c.autoIncrement && (c.type.isSerial || c.identity.isSome) && !c.change && b.primaryKeys.isEmpty
    | .mysql => c.autoIncrement && c.type.isSerial && !c.change && !b.hasPrimaryOn c.name
    | .sqlite => c.autoIncrement && c.type.isSerial
    | .sqlServer => c.autoIncrement && c.type.isSerial && !c.change && b.primaryKeys.isEmpty := by
  have words (condition : Bool) (s : String) :
      Text.contains (wordsIf condition s) "PRIMARY KEY" = (condition && Text.contains s "PRIMARY KEY") := by
    cases condition <;> rfl
  unfold numbersByKey numbering
  cases t.dialect with
  | postgres => exact (words _ _).trans (Bool.and_true _)
  | mysql =>
    simp only [mysqlIncrement]
    cases c.autoIncrement <;> cases c.type.isSerial <;> cases c.change <;> cases b.hasPrimaryOn c.name <;> rfl
  | sqlite => exact (words _ _).trans (Bool.and_true _)
  | sqlServer =>
    simp only [sqlServerIncrement]
    cases c.autoIncrement <;> cases c.type.isSerial <;> cases c.change <;> cases b.primaryKeys.isEmpty <;> rfl

end Target

def Declaration.isPrimaryKey (t : Target) (b : Blueprint) : Declaration → Bool
  | .numbering c => t.numbersByKey b c
  | .constraint command => command.isPrimary

section

variable {t : Target} {b : Blueprint}

theorem Declare.countP_isPrimaryKey {parts : List TablePart} {what : List Declaration}
    (declare : Declare t b parts what) :
    parts.countP TablePart.isPrimaryKey = what.countP (Declaration.isPrimaryKey t b) := by
  obtain ⟨rfl, shown⟩ := declare
  induction parts with
  | nil => rfl
  | cons part rest ih =>
    have later := ih (List.forall_mem_cons.mp shown).2
    cases part with
    | text s => simpa [TablePart.isPrimaryKey] using later
    | declares what s =>
      have same : TablePart.isPrimaryKey (.declares what s) = what.isPrimaryKey t b := by
        cases what with
        | numbering c =>
          have words : s = t.numbering b c := (List.forall_mem_cons.mp shown).1
          rw [words]
          rfl
        | constraint command => rfl
      rw [TablePart.declarationsOf_declares, List.countP_cons, List.countP_cons, later, same]

theorem Command.countP_declares (command : Command) :
    (command.declares t b).countP (Declaration.isPrimaryKey t b) =
      if command = .create then b.columns.countP (t.numbersByKey b) + (t.innerKeys b).countP Command.isPrimary
      else if command = .add then b.addedColumns.countP (t.numbersByKey b)
      else if command.isPrimary && !t.leavesInside b command then 1 else 0 := by
  have columns (list : List Column) : (list.map Declaration.numbering).countP (Declaration.isPrimaryKey t b) =
      list.countP (t.numbersByKey b) := by
    rw [List.countP_map]
    rfl
  have keys (list : List Command) : (list.map Declaration.constraint).countP (Declaration.isPrimaryKey t b) =
      list.countP Command.isPrimary := by
    rw [List.countP_map]
    rfl
  have single (left primary : Bool) (declaration : Declaration) (same : declaration.isPrimaryKey t b = primary) :
      (if left then [] else [declaration]).countP (Declaration.isPrimaryKey t b) =
        if primary && !left then 1 else 0 := by
    cases left <;> cases primary <;> simp [same]
  cases command with
  | create => simp [declares, columns, keys]
  | add => simp [declares, columns]
  | change =>
    simp only [declares]
    split
    · rename_i dialect
      rw [columns]
      -- a changed column goes on numbering its rows, but it does not become the key
      have unkeyed : b.changedColumns.countP (t.numbersByKey b) = 0 := by
        rw [List.countP_eq_zero]
        intro c member
        have changed : c.change = true := (List.mem_filter.mp member).2
        simp [Target.numbersByKey_eq, dialect, changed]
      rw [unkeyed]
      rfl
    · rfl
  | index kind i => exact single _ _ _ rfl
  | foreign key => exact single _ _ _ rfl
  | _ => rfl

theorem Blueprint.countP_declares (commands : List Command) :
    (commands.flatMap (Command.declares t b)).countP (Declaration.isPrimaryKey t b) =
      commands.count .create *
          (b.columns.countP (t.numbersByKey b) + (t.innerKeys b).countP Command.isPrimary) +
        commands.count .add * b.addedColumns.countP (t.numbersByKey b) +
        commands.countP fun command => command.isPrimary && !t.leavesInside b command := by
  induction commands with
  | nil => simp
  | cons command rest ih =>
    rw [List.flatMap_cons, List.countP_append, ih, Command.countP_declares, List.countP_cons]
    by_cases create : command = .create
    · subst create
      have other : (Command.create.isPrimary && !t.leavesInside b .create) = false := rfl
      rw [List.count_cons_self, List.count_cons_of_ne (by decide), other, if_pos rfl, Nat.add_mul, Nat.one_mul]
      simp only [Bool.false_eq_true, if_false]
      omega
    · by_cases add : command = .add
      · subst add
        have other : (Command.add.isPrimary && !t.leavesInside b .add) = false := rfl
        rw [List.count_cons_self, List.count_cons_of_ne (by decide), other, if_neg create, if_pos rfl, Nat.add_mul,
          Nat.one_mul]
        simp only [Bool.false_eq_true, if_false]
        omega
      · rw [List.count_cons_of_ne create, List.count_cons_of_ne add, if_neg create, if_neg add]
        omega

theorem Blueprint.countP_innerKeys : (t.innerKeys b).countP Command.isPrimary =
    if t.dialect = .mysql ∨ t.dialect = .sqlite then min 1 b.primaryKeys.length else 0 := by
  have primary (keys : List TableIndex) :
      (keys.map (Command.index .primary)).countP Command.isPrimary = keys.length := by
    rw [List.countP_map]
    exact List.countP_eq_length.mpr fun _ _ => rfl
  have foreign (keys : List ForeignKey) : (keys.map Command.foreign).countP Command.isPrimary = 0 := by
    rw [List.countP_map]
    exact List.countP_eq_zero.mpr fun _ _ => nofun
  unfold Target.innerKeys
  cases dialect : t.dialect <;>
    simp only [List.countP_append, primary, foreign, List.length_take, List.countP_nil] <;> simp

theorem Blueprint.countP_own (creating : b.isCreating) :
    (b.commands.countP fun command => command.isPrimary && !t.leavesInside b command) =
      if t.dialect = .mysql ∨ t.dialect = .sqlite then 0 else b.primaryKeys.length := by
  have own (command : Command) : (command.isPrimary && !t.leavesInside b command) =
      (command.isPrimary && !(t.dialect = .mysql ∨ t.dialect = .sqlite : Bool)) := by
    unfold Target.leavesInside
    cases command with
    | index kind i =>
      cases kind with
      | primary => cases t.dialect <;> simp [creating]
      | _ => rfl
    | _ => rfl
  simp only [own, length_primaryKeys]
  split
  · rename_i inside
    simp [inside]
  · rename_i outside
    simp [outside]

theorem Blueprint.count_add_completed (creating : b.isCreating) :
    (b.completed t).commands.count .add = b.commands.count .add := by
  refine count_completed rfl (fun member => ?_) fun member => ?_
  · rw [(mem_columnCommands member).1] at creating
    cases creating
  · rcases mem_followUps member with ⟨_, _, same⟩ | ⟨_, _, same⟩ <;> cases same

/-- The primary keys of a blueprint that creates its table: those of columns, for each time that they are written, and
those that are declared. -/
theorem Blueprint.countP_primaryKeys (creating : b.isCreating) {parts : List (List TablePart)}
    (compiled : b.parts t = .ok parts) : parts.flatten.countP TablePart.isPrimaryKey =
      b.commands.count .create * b.columns.countP (t.numbersByKey (b.completed t)) +
        b.commands.count .add * b.addedColumns.countP (t.numbersByKey (b.completed t)) +
        if t.dialect = .mysql ∨ t.dialect = .sqlite then b.commands.count .create * min 1 b.primaryCount
        else b.primaryCount := by
  have completed : (b.completed t).isCreating := by rwa [isCreating_completed]
  have count := (Blueprint.commandParts_declare compiled).countP_isPrimaryKey
  rw [countP_declares, countP_innerKeys, countP_own completed, count_create_completed, count_add_completed creating,
    primaryCount_completed, Nat.mul_add] at count
  have columns : (b.completed t).columns = b.columns := rfl
  have added : (b.completed t).addedColumns = b.addedColumns := rfl
  rw [count, columns, added]
  split <;> omega

end

def Column.isNumbered (c : Column) : Bool := c.autoIncrement && c.type.isSerial

/-- Besides a declared key no column may be the primary key. SQLite and MySQL do not see to that, or not always, and
Postgres counts columns of other types too. -/
def Target.GivesOneKey (t : Target) (b : Blueprint) : Prop :=
  match t.dialect with
  | .postgres => b.primaryCount = 0 →
    (b.columns.countP fun c => c.autoIncrement && (c.type.isSerial || c.identity.isSome) && !c.change) ≤ 1
  | .mysql => b.primaryCount = 0 ∨
    ∀ c ∈ b.columns, c.isNumbered → c.change = false → (b.completed t).hasPrimaryOn c.name
  | .sqlite => b.primaryCount = 0 ∨ ∀ c ∈ b.columns, c.isNumbered = false
  | .sqlServer => True

section

variable {t : Target} {b : Blueprint}

theorem Blueprint.primaryKeys_isEmpty : (b.completed t).primaryKeys.isEmpty = decide (b.primaryCount = 0) := by
  rw [← primaryCount_completed (t := t), Bool.eq_iff_iff, List.isEmpty_iff, decide_eq_true_eq, List.length_eq_zero_iff]

theorem Blueprint.countP_numbersByKey_le (dialect : t.dialect ≠ .postgres) :
    b.columns.countP (t.numbersByKey (b.completed t)) ≤ b.columns.countP Column.isNumbered := by
  apply List.countP_mono_left
  intro c _ key
  rw [Target.numbersByKey_eq] at key
  cases kind : t.dialect <;> simp_all [Column.isNumbered]

theorem Blueprint.oneKey_iff (single : b.primaryCount ≤ 1) (numbered : b.columns.countP Column.isNumbered ≤ 1) :
    b.columns.countP (t.numbersByKey (b.completed t)) +
        (if t.dialect = .mysql ∨ t.dialect = .sqlite then min 1 b.primaryCount else b.primaryCount) ≤ 1 ↔
      t.GivesOneKey b := by
  have few := Nat.le_one_iff_eq_zero_or_eq_one.mp single
  have empty := primaryKeys_isEmpty (t := t) (b := b)
  have bound (other : t.dialect ≠ .postgres) : b.columns.countP (t.numbersByKey (b.completed t)) ≤ 1 :=
    Nat.le_trans (countP_numbersByKey_le other) numbered
  unfold Target.GivesOneKey
  cases dialect : t.dialect with
  | postgres =>
    have keys : t.numbersByKey (b.completed t) = fun c => c.autoIncrement &&
        (c.type.isSerial || c.identity.isSome) && !c.change && (b.completed t).primaryKeys.isEmpty := by
      funext c
      rw [Target.numbersByKey_eq, dialect]
    -- no column becomes a key where one is declared, so only columns among themselves can clash
    rcases few with none | one
    · simp [keys, empty, none]
    · simp [keys, empty, one]
  | mysql =>
    have keys (c : Column) : t.numbersByKey (b.completed t) c =
        (c.isNumbered && !c.change && !(b.completed t).hasPrimaryOn c.name) := by
      rw [Target.numbersByKey_eq, dialect]
      rfl
    rcases few with none | one
    · exact iff_of_true (by simpa [none] using bound (by simp [dialect])) (.inl none)
    · simp [one, List.countP_eq_zero, keys]
  | sqlite =>
    have keys (c : Column) : t.numbersByKey (b.completed t) c = c.isNumbered := by
      rw [Target.numbersByKey_eq, dialect]
      rfl
    rcases few with none | one
    · exact iff_of_true (by simpa [none] using bound (by simp [dialect])) (.inl none)
    · simp [one, List.countP_eq_zero, keys]
  | sqlServer =>
    have keys (c : Column) : t.numbersByKey (b.completed t) c =
        (c.isNumbered && !c.change && decide (b.primaryCount = 0)) := by
      rw [Target.numbersByKey_eq, dialect, ← empty]
      rfl
    refine iff_of_true ?_ True.intro
    rcases few with none | one
    · simpa [none] using bound (by simp [dialect])
    · simp [one, List.countP_eq_zero, keys]

/-- What the primary keys of a created table come to, and when there is at most one: always on SQL Server, and on the
others as far as no column becomes a key besides the one that is declared. -/
theorem Blueprint.primaryKeys_counted (t : Target) {b : Blueprint} (creating : b.isCreating)
    (single : b.primaryCount ≤ 1) (numbered : b.columns.countP Column.isNumbered ≤ 1) {statements : List String}
    (compiled : b.statements t = .ok statements) :
    ∃ parts, b.parts t = .ok parts ∧ parts.map TablePart.textOf = statements ∧
      (∀ part ∈ parts.flatten, part.Shows t (b.completed t)) ∧
      parts.flatten.countP TablePart.isPrimaryKey =
        b.commands.count .create * b.columns.countP (t.numbersByKey (b.completed t)) +
          b.commands.count .add * b.addedColumns.countP (t.numbersByKey (b.completed t)) +
          (if t.dialect = .mysql ∨ t.dialect = .sqlite then b.commands.count .create * min 1 b.primaryCount
          else b.primaryCount) ∧
      (b.commands.count .create = 1 → .add ∉ b.commands →
        (parts.flatten.countP TablePart.isPrimaryKey ≤ 1 ↔ t.GivesOneKey b)) := by
  obtain ⟨parts, found, texts⟩ := parts_of_statements compiled
  have count := countP_primaryKeys creating found
  refine ⟨parts, found, texts, (commandParts_declare found).shown, count, fun once none => ?_⟩
  rw [count, once, List.count_eq_zero.mpr none, ← oneKey_iff single numbered]
  simp only [Nat.one_mul, Nat.zero_mul, Nat.add_zero]

end

namespace Blueprint

def members : Blueprint where
  table := "members"
  columns := [{ name := "id", type := .bigInteger, autoIncrement := true }]
  commands := [.create, .index .primary { name := "member", columns := ["id"] }]

theorem members_one_key :
    members.isCreating ∧ members.primaryCount = 1 ∧ members.columns.countP Column.isNumbered = 1 ∧
      members.statements { dialect := .mysql } =
        .ok ["CREATE TABLE `members` (`id` BIGINT NOT NULL AUTO_INCREMENT, PRIMARY KEY (`id`))"] ∧
      ∃ parts, members.parts { dialect := .mysql } = .ok parts ∧ parts.flatten.countP TablePart.isPrimaryKey ≤ 1 := by
  obtain ⟨parts, found, -, -, -, atMostOne⟩ :=
    primaryKeys_counted { dialect := .mysql } (b := members) rfl (by decide) (by decide) rfl
  have covered : Target.GivesOneKey { dialect := .mysql } members := .inr (by decide)
  exact ⟨rfl, by decide, by decide, rfl, parts, found, (atMostOne rfl (by decide)).mpr covered⟩

/-- SQLite makes the column the key and writes the declared key all the same. -/
theorem members_two_keys :
    members.isCreating ∧ members.primaryCount = 1 ∧ members.columns.countP Column.isNumbered = 1 ∧
      members.statements { dialect := .sqlite } =
        .ok ["CREATE TABLE \"members\" (\"id\" INTEGER PRIMARY KEY AUTOINCREMENT NOT NULL, PRIMARY KEY (\"id\"))"] ∧
      ∃ parts, members.parts { dialect := .sqlite } = .ok parts ∧
        parts.flatten.countP TablePart.isPrimaryKey = 2 :=
  ⟨rfl, by decide, by decide, rfl, _, rfl, by decide⟩

end Blueprint

end SqlCompiler
