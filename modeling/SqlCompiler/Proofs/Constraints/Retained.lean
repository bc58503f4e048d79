import SqlCompiler.Proofs.Constraints.Declarations

namespace SqlCompiler

def Declaration.constraint? : Declaration → Option Command
  | .numbering _ => none
  | .constraint command => some command

def TablePart.constraintsOf (parts : List TablePart) : List Command :=
  (declarationsOf parts).filterMap Declaration.constraint?

def Command.isPrimary (command : Command) : Bool := command.primary?.isSome

namespace Blueprint

/-- The keys and indexes that the commands and the columns of a blueprint declare, each under its name. -/
def declared (t : Target) (b : Blueprint) : List Command :=
  ((b.commands ++ b.columns.flatMap Column.constraints).filter Command.isConstraint).map (b.named t)

def primaryCount (b : Blueprint) : Nat :=
  (b.commands ++ b.columns.flatMap Column.constraints).countP Command.isPrimary

variable {t : Target} {b : Blueprint}

theorem named_index (kind : IndexKind) (i : TableIndex) :
    ∃ name, b.named t (.index kind i) = .index kind { i with name } := by
  simp only [named]
  split
  · exact ⟨_, rfl⟩
  · exact ⟨_, rfl⟩

theorem named_foreign (key : ForeignKey) : ∃ name, b.named t (.foreign key) = .foreign { key with name } := by
  simp only [named]
  split
  · exact ⟨_, rfl⟩
  · exact ⟨_, rfl⟩

theorem named_same {α : Type} {f : Command → α} (index : ∀ kind i i', f (.index kind i) = f (.index kind i'))
    (foreign : ∀ key key', f (.foreign key) = f (.foreign key')) (command : Command) :
    f (b.named t command) = f command := by
  cases command with
  | index kind i =>
    obtain ⟨name, renamed⟩ := named_index (t := t) (b := b) kind i
    rw [renamed, index]
  | foreign key =>
    obtain ⟨name, renamed⟩ := named_foreign (t := t) (b := b) key
    rw [renamed, foreign]
  | _ => rfl

theorem isConstraint_named (command : Command) : (b.named t command).isConstraint = command.isConstraint :=
  named_same (fun _ _ _ => rfl) (fun _ _ => rfl) command

theorem isPrimary_named (command : Command) : (b.named t command).isPrimary = command.isPrimary :=
  named_same (fun kind _ _ => by cases kind <;> rfl) (fun _ _ => rfl) command

theorem mem_columnCommands {command : Command} (member : command ∈ b.columnCommands) :
    b.isCreating = false ∧ (command = .change ∨ command = .add) := by
  unfold columnCommands at member
  split at member
  · cases member
  · rename_i altering
    refine ⟨Bool.eq_false_iff.mpr altering, ?_⟩
    rcases List.mem_append.mp member with change | add
    · split at change
      · cases change
      · exact .inl (List.mem_singleton.mp change)
    · split at add
      · cases add
      · exact .inr (List.mem_singleton.mp add)

theorem mem_followUps {command : Command} (member : command ∈ b.followUps t) :
    (∃ column comment, command = .columnComment column comment) ∨
      ∃ column value, command = .startingValue column value := by
  obtain ⟨f, -, inColumns⟩ := List.mem_flatMap.mp member
  obtain ⟨c, -, found⟩ := List.mem_filterMap.mp inColumns
  cases f with
  | comment =>
    obtain ⟨comment, -, rfl⟩ := Option.map_eq_some_iff.mp found
    exact .inl ⟨_, _, rfl⟩
  | startingValue =>
    simp only [FollowUp.command?] at found
    split at found
    · obtain ⟨value, -, rfl⟩ := Option.map_eq_some_iff.mp found
      exact .inr ⟨_, _, rfl⟩
    · cases found

theorem mem_constraints {c : Column} {command : Command} : command ∈ c.constraints ↔
    (∃ i ∈ c.indexes, command = .index i.kind { columns := [c.name], name := i.name.getD "" }) ∨
      ∃ key ∈ c.foreign, command = .foreign key := by
  simp [Column.constraints, eq_comm]

theorem filter_completed {p : Command → Bool} (same : ∀ command, p (b.named t command) = p command)
    (columns : ∀ command ∈ b.columnCommands, p command = false)
    (follows : ∀ command ∈ b.followUps t, p command = false) :
    (b.completed t).commands.filter p =
      ((b.commands ++ b.columns.flatMap Column.constraints).filter p).map (b.named t) := by
  have unnamed : p ∘ b.named t = p := funext same
  have none {list : List Command} (fails : ∀ command ∈ list, p command = false) : list.filter p = [] :=
    List.filter_eq_nil_iff.mpr fun command member => by simp [fails command member]
  rw [completed, List.filter_map, unnamed, List.filter_append, List.filter_append, List.filter_append, none columns,
    none follows, List.filter_append, List.nil_append, List.append_nil]

theorem constraints_completed : (b.completed t).commands.filter Command.isConstraint = b.declared t := by
  apply filter_completed isConstraint_named
  · intro command member
    rcases (mem_columnCommands member).2 with rfl | rfl <;> rfl
  · intro command member
    rcases mem_followUps member with ⟨_, _, rfl⟩ | ⟨_, _, rfl⟩ <;> rfl

theorem length_primaryKeys : b.primaryKeys.length = b.commands.countP Command.isPrimary := by
  rw [primaryKeys, List.length_filterMap_eq_countP]
  rfl

theorem primaryCount_completed : (b.completed t).primaryKeys.length = b.primaryCount := by
  have kept : (b.completed t).commands.filter Command.isPrimary =
      ((b.commands ++ b.columns.flatMap Column.constraints).filter Command.isPrimary).map (b.named t) := by
    apply filter_completed isPrimary_named
    · intro command member
      rcases (mem_columnCommands member).2 with rfl | rfl <;> rfl
    · intro command member
      rcases mem_followUps member with ⟨_, _, rfl⟩ | ⟨_, _, rfl⟩ <;> rfl
  rw [length_primaryKeys, List.countP_eq_length_filter, kept, List.length_map, ← List.countP_eq_length_filter,
    primaryCount]

theorem count_completed {command : Command} (plain : command.isConstraint = false)
    (columns : command ∉ b.columnCommands) (follows : command ∉ b.followUps t) :
    (b.completed t).commands.count command = b.commands.count command := by
  have differs {other : Command} (constraint : other.isConstraint = true) : (other == command) = false := by
    simp only [beq_eq_false_iff_ne]
    rintro rfl
    rw [plain] at constraint
    cases constraint
  have unnamed (other : Command) : (b.named t other == command) = (other == command) := by
    refine named_same (f := (· == command)) (fun _ _ _ => ?_) (fun _ _ => ?_) other
    · rw [differs rfl, differs rfl]
    · rw [differs rfl, differs rfl]
  have kept : (b.completed t).commands.filter (· == command) =
      ((b.commands ++ b.columns.flatMap Column.constraints).filter (· == command)).map (b.named t) := by
    apply filter_completed unnamed
    · intro other member
      simpa using fun same : other = command => columns (same ▸ member)
    · intro other member
      simpa using fun same : other = command => follows (same ▸ member)
  have none : (b.columns.flatMap Column.constraints).filter (· == command) = [] := by
    refine List.filter_eq_nil_iff.mpr fun other member => ?_
    obtain ⟨c, -, stands⟩ := List.mem_flatMap.mp member
    rw [Bool.not_eq_true]
    rcases mem_constraints.mp stands with ⟨_, -, rfl⟩ | ⟨_, -, rfl⟩ <;> exact differs rfl
  rw [List.count_eq_countP, List.count_eq_countP, List.countP_eq_length_filter, List.countP_eq_length_filter, kept,
    List.length_map, List.filter_append, none, List.append_nil]

theorem count_create_completed : (b.completed t).commands.count .create = b.commands.count .create := by
  refine count_completed rfl (fun member => ?_) fun member => ?_
  · rcases (mem_columnCommands member).2 with same | same <;> cases same
  · rcases mem_followUps member with ⟨_, _, same⟩ | ⟨_, _, same⟩ <;> cases same

theorem isCreating_iff : b.isCreating ↔ 0 < b.commands.count .create := by
  rw [isCreating, List.contains_iff_mem, List.count_pos_iff]

theorem isCreating_completed : (b.completed t).isCreating = b.isCreating := by
  rw [Bool.eq_iff_iff, isCreating_iff, isCreating_iff, count_create_completed]

end Blueprint

namespace Target

variable {t : Target} {b : Blueprint}

/-- The primary keys that are left to the statement that creates the table and that it does not write. -/
def lostKeys (t : Target) (b : Blueprint) : List Command :=
  if b.isCreating ∧ (t.dialect = .mysql ∨ t.dialect = .sqlite) then (b.primaryKeys.drop 1).map (.index .primary) else []

theorem filter_isSome {α β : Type} {f : α → Option β} {g : β → α} (inverse : ∀ a b, f a = some b → g b = a)
    (list : List α) : list.filter (fun a => (f a).isSome) = (list.filterMap f).map g := by
  induction list with
  | nil => rfl
  | cons a rest ih =>
    cases found : f a with
    | none => simp [found, ih]
    | some b => simp [found, ih, inverse a b found]

theorem filter_isPrimary (commands : List Command) :
    commands.filter Command.isPrimary = (commands.filterMap Command.primary?).map (.index .primary) := by
  refine filter_isSome (fun command i found => ?_) commands
  unfold Command.primary? at found
  split at found <;> cases found
  rfl

theorem filter_isForeign (commands : List Command) :
    commands.filter (·.foreign?.isSome) = (commands.filterMap Command.foreign?).map .foreign := by
  refine filter_isSome (fun command key found => ?_) commands
  unfold Command.foreign? at found
  split at found <;> cases found
  rfl

theorem leavesInside_eq (creating : b.isCreating) (command : Command) :
    (command.isConstraint && t.leavesInside b command) =
      match t.dialect with
      | .postgres | .sqlServer => false
      | .mysql => command.isPrimary
      | .sqlite => command.foreign?.isSome || command.isPrimary := by
  simp only [leavesInside, creating, Bool.true_and]
  cases t.dialect <;> cases command
  case mysql.index kind i | sqlite.index kind i => cases kind <;> rfl
  all_goals rfl

theorem innerKeys_lostKeys (creating : b.isCreating) : (t.innerKeys b ++ t.lostKeys b).Perm
    (b.commands.filter fun command => command.isConstraint && t.leavesInside b command) := by
  have halves : (b.primaryKeys.take 1).map (Command.index .primary) ++ (b.primaryKeys.drop 1).map (.index .primary) =
      b.commands.filter Command.isPrimary := by
    rw [← List.map_append, List.take_append_drop, filter_isPrimary, Blueprint.primaryKeys]
  simp only [leavesInside_eq creating]
  cases dialect : t.dialect with
  | postgres | sqlServer => simp [innerKeys, lostKeys, dialect]
  | mysql =>
    have lost : t.lostKeys b = (b.primaryKeys.drop 1).map (.index .primary) := if_pos ⟨creating, .inl dialect⟩
    simp only [innerKeys, dialect, lost, halves]
    exact .refl _
  | sqlite =>
    have lost : t.lostKeys b = (b.primaryKeys.drop 1).map (.index .primary) := if_pos ⟨creating, .inr dialect⟩
    have foreign : b.foreignKeys.map .foreign = b.commands.filter (·.foreign?.isSome) := (filter_isForeign _).symm
    simp only [innerKeys, dialect, lost, List.append_assoc, halves, foreign]
    -- the foreign keys come first, wherever the primary one stands among the commands
    have parted := List.filter_append_perm (·.foreign?.isSome)
      (b.commands.filter fun command => command.foreign?.isSome || command.isPrimary)
    have references (command : Command) : (command.foreign?.isSome && (command.foreign?.isSome || command.isPrimary)) =
        command.foreign?.isSome := by
      cases command.foreign?.isSome <;> rfl
    have primaries (command : Command) :
        (!command.foreign?.isSome && (command.foreign?.isSome || command.isPrimary)) = command.isPrimary := by
      cases command with
      | index kind i => cases kind <;> rfl
      | _ => rfl
    simpa only [List.filter_filter, references, primaries] using parted

end Target

section

variable {t : Target} {b : Blueprint}

theorem Command.constraints_declares (command : Command) :
    (command.declares t b).filterMap Declaration.constraint? =
      if command = .create then t.innerKeys b
      else if command.isConstraint && !t.leavesInside b command then [command] else [] := by
  have columns (list : List Column) : (list.map Declaration.numbering).filterMap Declaration.constraint? = [] := by
    simp [Declaration.constraint?]
  have keys (list : List Command) : (list.map Declaration.constraint).filterMap Declaration.constraint? = list := by
    rw [List.filterMap_map]
    exact List.filterMap_some
  cases command with
  | create => simp [declares, columns, keys]
  | add => simp [declares, columns, isConstraint]
  | change =>
    simp only [declares]
    split <;> simp [columns, isConstraint]
  | index kind i =>
    simp only [declares]
    split <;> simp_all [Declaration.constraint?, isConstraint]
  | foreign key =>
    simp only [declares]
    split <;> simp_all [Declaration.constraint?, isConstraint]
  | _ => rfl

theorem Blueprint.constraints_perm {commands : List Command} (once : commands.count .create ≤ 1) :
    ((commands.flatMap (Command.declares t b)).filterMap Declaration.constraint?).Perm
      ((if .create ∈ commands then t.innerKeys b else []) ++
        commands.filter fun command => command.isConstraint && !t.leavesInside b command) := by
  induction commands with
  | nil => exact .refl _
  | cons command rest ih =>
    rw [List.flatMap_cons, List.filterMap_append, Command.constraints_declares]
    by_cases create : command = .create
    · subst create
      -- a second command of this sort would write the keys within the table again
      have absent : Command.create ∉ rest := by
        rw [← List.count_eq_zero]
        rw [List.count_cons_self] at once
        omega
      have later := ih (by rw [List.count_eq_zero.mpr absent]; omega)
      rw [if_neg absent, List.nil_append] at later
      simpa [Command.isConstraint] using later.append_left (t.innerKeys b)
    · have later := ih (by rwa [List.count_cons_of_ne create] at once)
      have same : Command.create ∈ command :: rest ↔ .create ∈ rest := by simp [Ne.symm create]
      simp only [if_neg create, same, List.filter_cons]
      split
      · exact (later.cons command).trans List.perm_middle.symm
      · exact later

theorem Blueprint.constraints_retained (once : b.commands.count .create ≤ 1) :
    ((b.commands.flatMap (Command.declares t b)).filterMap Declaration.constraint? ++ t.lostKeys b).Perm
      (b.commands.filter Command.isConstraint) := by
  generalize own : (b.commands.filter fun command => command.isConstraint && !t.leavesInside b command) = others
  generalize inner : (if .create ∈ b.commands then t.innerKeys b else []) = keys
  have within : (keys ++ t.lostKeys b).Perm
      (b.commands.filter fun command => command.isConstraint && t.leavesInside b command) := by
    by_cases creating : b.isCreating
    · rw [← inner, if_pos (List.contains_iff_mem.mp creating)]
      exact Target.innerKeys_lostKeys creating
    · have absent : Command.create ∉ b.commands := fun member => creating (List.contains_iff_mem.mpr member)
      rw [← inner, if_neg absent]
      simp [Target.lostKeys, Target.leavesInside, creating]
  have parted := List.filter_append_perm (t.leavesInside b) (b.commands.filter Command.isConstraint)
  simp only [List.filter_filter, Bool.and_comm _ (Command.isConstraint _), own] at parted
  have written := Blueprint.constraints_perm (t := t) (b := b) once
  rw [own, inner] at written
  have apart : (keys ++ others ++ t.lostKeys b).Perm (keys ++ t.lostKeys b ++ others) := by
    rw [List.append_assoc, List.append_assoc]
    exact List.perm_append_comm.append_left keys
  exact (written.append_right _).trans (apart.trans ((within.append_right others).trans parted))

theorem Blueprint.parts_retain (once : b.commands.count .create ≤ 1) {parts : List (List TablePart)}
    (compiled : b.parts t = .ok parts) :
    (TablePart.constraintsOf parts.flatten ++ t.lostKeys (b.completed t)).Perm (b.declared t) := by
  have declare := Blueprint.commandParts_declare compiled
  rw [TablePart.constraintsOf, declare.declarations, ← constraints_completed]
  exact constraints_retained (by rwa [count_create_completed])

theorem Target.lostKeys_eq_nil_iff : t.lostKeys (b.completed t) = [] ↔
    ¬((t.dialect = .mysql ∨ t.dialect = .sqlite) ∧ b.isCreating ∧ 1 < b.primaryCount) := by
  unfold lostKeys
  rw [Blueprint.isCreating_completed, ← Blueprint.primaryCount_completed (t := t)]
  split
  · rename_i left
    rw [List.map_eq_nil_iff, List.drop_eq_nil_iff]
    constructor
    · rintro few ⟨-, -, several⟩
      omega
    · intro few
      exact Nat.le_of_not_lt fun several => few ⟨left.2, left.1, several⟩
  · rename_i written
    exact iff_of_true rfl fun ⟨dialect, creating, _⟩ => written ⟨creating, dialect⟩

/-- Every declared key and index is written exactly once, as a statement of its own or in the one that creates the
table, but for the primary keys behind the first of a table that MySQL or SQLite creates: those are not written. -/
theorem Blueprint.constraints_written (t : Target) {b : Blueprint} (once : b.commands.count .create ≤ 1)
    {statements : List String} (compiled : b.statements t = .ok statements) :
    ∃ parts, b.parts t = .ok parts ∧ parts.map TablePart.textOf = statements ∧
      (∀ part ∈ parts.flatten, part.Shows t (b.completed t)) ∧
      (TablePart.constraintsOf parts.flatten ++ t.lostKeys (b.completed t)).Perm (b.declared t) ∧
      ((TablePart.constraintsOf parts.flatten).Perm (b.declared t) ↔
        ¬((t.dialect = .mysql ∨ t.dialect = .sqlite) ∧ b.isCreating ∧ 1 < b.primaryCount)) := by
  obtain ⟨parts, found, texts⟩ := parts_of_statements compiled
  have retained := parts_retain once found
  refine ⟨parts, found, texts, (commandParts_declare found).shown, retained, ?_⟩
  rw [← Target.lostKeys_eq_nil_iff]
  constructor
  · intro all
    have lengths := retained.length_eq
    rw [List.length_append, all.length_eq] at lengths
    exact List.length_eq_zero_iff.mp (by omega)
  · intro none
    rwa [none, List.append_nil] at retained

end

namespace Blueprint

def rowOfSeat : ForeignKey where
  name := "row_of_seat"
  columns := ["row"]
  table := "rows"
  references := ["id"]

def seats : Blueprint where
  table := "seats"
  columns := [{ name := "row", type := .integer, indexes := [⟨.plain, some "rows"⟩], foreign := some rowOfSeat }]
  commands := [.create, .index .primary { name := "seat", columns := ["row"] }]

theorem seats_constraints_written :
    seats.commands.count .create = 1 ∧
      seats.statements { dialect := .sqlite } = .ok
        ["CREATE TABLE \"seats\" (\"row\" INTEGER NOT NULL, " ++
            "FOREIGN KEY (\"row\") REFERENCES \"rows\" (\"id\"), PRIMARY KEY (\"row\"))",
          "CREATE INDEX \"rows\" ON \"seats\" (\"row\")"] ∧
      ∃ parts, seats.parts { dialect := .sqlite } = .ok parts ∧
        (TablePart.constraintsOf parts.flatten).Perm (seats.declared { dialect := .sqlite }) := by
  obtain ⟨parts, found, -, -, -, retained⟩ :=
    constraints_written { dialect := .sqlite } (b := seats) (by decide) rfl
  exact ⟨by decide, rfl, parts, found, retained.mpr (by decide)⟩

def twoKeys : Blueprint where
  table := "seats"
  columns := [{ name := "row", type := .integer }, { name := "number", type := .integer }]
  commands := [.create, .index .primary { columns := ["row"] }, .index .primary { columns := ["number"] }]

theorem twoKeys_lose_one :
    twoKeys.commands.count .create = 1 ∧
      twoKeys.statements { dialect := .mysql } =
        .ok ["CREATE TABLE `seats` (`row` INT NOT NULL, `number` INT NOT NULL, PRIMARY KEY (`row`))"] ∧
      ∃ parts, twoKeys.parts { dialect := .mysql } = .ok parts ∧
        ¬(TablePart.constraintsOf parts.flatten).Perm (twoKeys.declared { dialect := .mysql }) := by
  refine ⟨by decide, rfl, _, rfl, fun all => ?_⟩
  have lengths := all.length_eq
  revert lengths
  decide

end Blueprint

end SqlCompiler
