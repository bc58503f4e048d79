import SqlCompiler.Proofs.Constraints.Layout
import SqlCompiler.Proofs.Retention.Nested

namespace SqlCompiler

/-- What can be said of a column behind its type. -/
inductive Modifier
  | unsigned
  | charset
  | collation
  | virtual
  | stored
  | nullability
  | defaultValue
  | onUpdate
  | invisible
  | numbering
  | comment
  | after
  | first
  | identity
  | persisted
deriving DecidableEq

def Modifier.computes : Modifier → Bool
  | .virtual | .stored => true
  | _ => false

/-- What a dialect can say of a column, in the order in which it wants it. -/
def Dialect.modifiers : Dialect → List Modifier
  | .postgres => [.collation, .nullability, .defaultValue, .virtual, .stored, .identity, .numbering]
  | .mysql => [.unsigned, .charset, .collation, .virtual, .stored, .nullability, .defaultValue, .onUpdate, .invisible,
      .numbering, .comment, .after, .first]
  | .sqlite => [.numbering, .nullability, .defaultValue, .collation, .virtual, .stored]
  | .sqlServer => [.collation, .nullability, .defaultValue, .persisted, .numbering]

namespace Target

def modifierWords (t : Target) (b : Blueprint) (c : Column) : Modifier → Except Error String
  | .unsigned => .ok (wordsIf c.unsigned " UNSIGNED")
  | .charset => .ok (around " CHARACTER SET " c.charset "")
  | .collation =>
    match t.dialect with
    | .postgres => .ok (around " COLLATE " (c.collation.map t.column) "")
    | .mysql | .sqlite => t.quoted " COLLATE " c.collation
    | .sqlServer => .ok (around " COLLATE " c.collation "")
  | .virtual =>
    match t.dialect with
    | .postgres => t.postgresVirtual c
    | _ => .ok (around " AS (" c.virtualAs ")")
  | .stored =>
    match t.dialect with
    | .postgres => .ok (around " GENERATED ALWAYS AS (" c.storedAs ") STORED")
    | _ => .ok (around " AS (" c.storedAs ") STORED")
  | .nullability =>
    .ok (match t.dialect with
      | .postgres => if c.isGenerated && c.nullable.isNone then "" else nullWord c
      | .mysql => if c.isDerived then refusesNull c else nullWord c
      | .sqlite => if c.isDerived then refusesNull c else wordsIf (!c.isNullable) " NOT NULL"
      | .sqlServer => if c.type.isComputed then "" else nullWord c)
  | .defaultValue => if t.dialect = .sqlite ∧ c.isDerived then .ok "" else t.defaultClause c
  | .onUpdate => .ok (t.mysqlOnUpdate c)
  | .invisible => .ok (wordsIf c.invisible " INVISIBLE")
  | .numbering => .ok (t.numbering b c)
  | .comment => t.quoted " COMMENT " c.comment
  | .after => .ok (around " AFTER " (c.after.map t.column) "")
  | .first => .ok (wordsIf c.first " FIRST")
  | .identity => .ok (around " " (identityWords? c) "")
  | .persisted => .ok (wordsIf (c.persisted && c.type.isComputed) " PERSISTED")

variable {t : Target} {b : Blueprint} {c : Column}

theorem ok_bind {α β : Type} (a : α) (next : α → Except Error β) : (.ok a >>= next) = next a := rfl

theorem modifiers_eq : t.modifiers b c = t.dialect.modifiers.mapM (t.modifierWords b c) := by
  unfold modifiers
  cases dialect : t.dialect
  all_goals simp only [postgresModifiers, mysqlModifiers, sqliteModifiers, sqlServerModifiers, Dialect.modifiers,
    List.mapM_cons, List.mapM_nil, modifierWords, numbering, dialect, ok_bind, pure_bind, bind_assoc, reduceCtorEq,
    true_and, false_and, if_false]

def words (t : Target) (b : Blueprint) (c : Column) (m : Modifier) : String :=
  match t.modifierWords b c m with
  | .ok s => s
  | .error _ => ""

def said (t : Target) (b : Blueprint) (c : Column) : List Modifier :=
  t.dialect.modifiers.filter fun m => t.words b c m ≠ ""

theorem words_of_ok {m : Modifier} {s : String} (ok : t.modifierWords b c m = .ok s) : t.words b c m = s := by
  rw [words, ok]

theorem join_filter_ne_empty {α : Type} (f : α → String) (list : List α) :
    String.join ((list.filter fun a => f a ≠ "").map f) = String.join (list.map f) := by
  induction list with
  | nil => rfl
  | cons a rest ih =>
    rw [List.map_cons, String.join_cons, ← ih]
    by_cases empty : f a = ""
    · rw [List.filter_cons_of_neg (by simpa using empty), empty, String.empty_append]
    · rw [List.filter_cons_of_pos (by simpa using empty), List.map_cons, String.join_cons]

theorem definition_ok {s : String} (compiled : t.definition b c = .ok s) :
    ∃ type, t.typeName c = .ok type ∧ (∀ m ∈ t.dialect.modifiers, t.modifierWords b c m = .ok (t.words b c m)) ∧
      s = t.column c.name ++ " " ++ type ++ String.join ((t.said b c).map (t.words b c)) := by
  obtain ⟨type, named, compiled⟩ := ok_of_bind compiled
  obtain ⟨texts, modified, rfl⟩ := ok_of_map compiled
  rw [modifiers_eq] at modified
  have each := forall₂_of_ok (t.modifierWords b c) (List.mapM (t.modifierWords b c)) rfl
    (fun _ _ => List.mapM_cons) modified
  have ok : ∀ m ∈ t.dialect.modifiers, t.modifierWords b c m = .ok (t.words b c m) := by
    intro m member
    obtain ⟨s, -, found⟩ := exists_of_forall₂ each member
    rw [words_of_ok found, found]
  have all : texts = t.dialect.modifiers.map (t.words b c) := by
    symm
    rw [← List.forall₂_eq_eq_eq, List.forall₂_map_left_iff]
    exact each.imp fun _ _ => words_of_ok
  refine ⟨type, named, ok, ?_⟩
  rw [said, join_filter_ne_empty, all]

theorem around_eq_empty {before after : String} {text : Option String} (filled : before ≠ "") :
    around before text after = "" ↔ text = none := by
  cases text with
  | none => simp [around]
  | some s => simp [around, filled]

theorem computing_modifiers :
    t.dialect.modifiers.filter Modifier.computes = if t.dialect = .sqlServer then [] else [.virtual, .stored] := by
  cases t.dialect <;> rfl

theorem virtualAs_of_postgres (postgres : t.dialect = .postgres) {s : String}
    (ok : t.modifierWords b c .virtual = .ok s) : s = "" ∧ c.virtualAs = none := by
  simp only [modifierWords, postgres, postgresVirtual] at ok
  split at ok
  · cases ok
  · rename_i none
    exact ⟨(Except.ok.inj ok).symm, Option.not_isSome_iff_eq_none.mp none⟩

theorem words_virtual (server : t.dialect ≠ .sqlServer)
    (ok : t.modifierWords b c .virtual = .ok (t.words b c .virtual)) :
    t.words b c .virtual = around " AS (" c.virtualAs ")" := by
  cases dialect : t.dialect with
  | postgres =>
    obtain ⟨empty, none⟩ := virtualAs_of_postgres dialect ok
    rw [empty, none]
    rfl
  | mysql | sqlite =>
    apply words_of_ok
    simp only [modifierWords, dialect]
  | sqlServer => exact absurd dialect server

def storedWords (t : Target) (c : Column) : String :=
  around (if t.dialect = .postgres then " GENERATED ALWAYS AS (" else " AS (") c.storedAs ") STORED"

theorem words_stored : t.words b c .stored = t.storedWords c := by
  apply words_of_ok
  unfold modifierWords storedWords
  cases t.dialect <;> rfl

theorem computing_said (derived : Xor (c.virtualAs.isSome = true) (c.storedAs.isSome = true))
    (server : t.dialect ≠ .sqlServer) (ok : t.modifierWords b c .virtual = .ok (t.words b c .virtual)) :
    (t.said b c).filter Modifier.computes = [if c.storedAs.isSome then .stored else .virtual] := by
  have virtual : t.words b c .virtual = "" ↔ c.virtualAs = none := by
    rw [words_virtual server ok]
    exact around_eq_empty (by decide)
  have stored : t.words b c .stored = "" ↔ c.storedAs = none := by
    rw [words_stored]
    refine around_eq_empty ?_
    split <;> decide
  rw [said, List.filter_comm, computing_modifiers, if_neg server]
  rcases derived with ⟨virtualAs, unstored⟩ | ⟨storedAs, unread⟩
  · have none := stored.mpr (Option.not_isSome_iff_eq_none.mp unstored)
    have some : t.words b c .virtual ≠ "" := fun empty => by simp [virtual.mp empty] at virtualAs
    simp [none, some, unstored]
  · have none := virtual.mpr (Option.not_isSome_iff_eq_none.mp unread)
    have some : t.words b c .stored ≠ "" := fun empty => by simp [stored.mp empty] at storedAs
    simp [none, some, storedAs]

theorem default_said (derived : c.isDerived)
    (ok : t.modifierWords b c .defaultValue = .ok (t.words b c .defaultValue)) :
    .defaultValue ∈ t.said b c ↔ t.dialect ≠ .sqlite ∧ (t.effectiveDefault c).isSome := by
  have listed : .defaultValue ∈ t.dialect.modifiers := by cases t.dialect <;> decide
  have member : .defaultValue ∈ t.said b c ↔ t.words b c .defaultValue ≠ "" := by
    rw [said, List.mem_filter]
    simp [listed]
  rw [member]
  by_cases sqlite : t.dialect = .sqlite
  · simp only [modifierWords, sqlite, derived, true_and, if_true] at ok
    simp [← Except.ok.inj ok, sqlite]
  · simp only [modifierWords, sqlite, false_and, if_false, defaultClause] at ok
    cases value : t.effectiveDefault c with
    | none =>
      rw [value] at ok
      simp [← Except.ok.inj ok]
    | some value' =>
      rw [value] at ok
      obtain ⟨literal, -, clause⟩ := ok_of_map ok
      simp [← clause, sqlite]

theorem definition_sqlServer (dialect : t.dialect = .sqlServer) :
    t.definition b { c with virtualAs := none, storedAs := none } = t.definition b c := by
  simp only [definition, typeName, modifiers, dialect]
  rfl

/-- A column that is computed from others, when it is read or when its row is written, is defined by the words of its
modifiers. The expression is written once, but in SQL Server not at all, where the definition is that of an ordinary
column; and only SQLite leaves its default value away. -/
theorem computed_definition (t : Target) (b : Blueprint) {c : Column}
    (derived : Xor (c.virtualAs.isSome = true) (c.storedAs.isSome = true)) {s : String}
    (compiled : t.definition b c = .ok s) :
    ∃ type, t.typeName c = .ok type ∧
      s = t.column c.name ++ " " ++ type ++ String.join ((t.said b c).map (t.words b c)) ∧
      ((t.said b c).filter Modifier.computes).map (t.words b c) =
        (if t.dialect = .sqlServer then []
        else if c.storedAs.isSome then [t.storedWords c] else [around " AS (" c.virtualAs ")"]) ∧
      (t.dialect = .postgres → c.virtualAs = none) ∧
      (t.dialect = .sqlServer → t.definition b { c with virtualAs := none, storedAs := none } = .ok s) ∧
      (.defaultValue ∈ t.said b c ↔ t.dialect ≠ .sqlite ∧ (t.effectiveDefault c).isSome) ∧
      ((t.said b c).countP Modifier.computes = 1 ∧ .defaultValue ∉ t.said b c ↔
        t.dialect = .sqlite ∨ t.dialect ≠ .sqlServer ∧ t.effectiveDefault c = none) := by
  obtain ⟨type, named, ok, whole⟩ := definition_ok compiled
  have isDerived : c.isDerived := by
    rcases derived with ⟨virtualAs, -⟩ | ⟨storedAs, -⟩
    · simp [Column.isDerived, virtualAs]
    · simp [Column.isDerived, storedAs]
  have default_ := default_said isDerived (ok .defaultValue (by cases t.dialect <;> decide))
  have virtual (server : t.dialect ≠ .sqlServer) : .virtual ∈ t.dialect.modifiers := by
    cases dialect : t.dialect with
    | sqlServer => exact absurd dialect server
    | _ => decide
  have computing (server : t.dialect ≠ .sqlServer) := computing_said derived server (ok .virtual (virtual server))
  have none (server : t.dialect = .sqlServer) : (t.said b c).filter Modifier.computes = [] := by
    rw [said, List.filter_comm, computing_modifiers, if_pos server]
    rfl
  refine ⟨type, named, whole, ?_, fun postgres => ?_, fun server => (definition_sqlServer server).trans compiled,
    default_, ?_⟩
  · by_cases server : t.dialect = .sqlServer
    · rw [none server, if_pos server, List.map_nil]
    · rw [computing server, if_neg server, List.map_singleton]
      split
      · rw [words_stored]
      · rw [words_virtual server (ok .virtual (virtual server))]
  · exact (virtualAs_of_postgres postgres (ok .virtual (virtual (by simp [postgres])))).2
  · rw [default_, List.countP_eq_length_filter]
    by_cases server : t.dialect = .sqlServer
    · simp [none server, server]
    · rw [computing server]
      by_cases sqlite : t.dialect = .sqlite <;> simp [sqlite, server]

end Target

namespace Column

def total : Column where
  name := "total"
  type := .integer
  virtualAs := some "price * quantity"
  defaultValue := some (.integer 0)

theorem total_computed :
    Xor (total.virtualAs.isSome = true) (total.storedAs.isSome = true) ∧
      Target.definition { dialect := .sqlite } {} total = .ok "\"total\" INTEGER AS (price * quantity)" ∧
      (Target.said { dialect := .sqlite } {} total).countP Modifier.computes = 1 ∧
      .defaultValue ∉ Target.said { dialect := .sqlite } {} total := by
  have derived : Xor (total.virtualAs.isSome = true) (total.storedAs.isSome = true) := .inl ⟨rfl, by decide⟩
  have compiled : Target.definition { dialect := .sqlite } {} total =
      .ok "\"total\" INTEGER AS (price * quantity)" := rfl
  obtain ⟨_, _, _, _, _, _, _, single⟩ := Target.computed_definition { dialect := .sqlite } {} derived compiled
  exact ⟨derived, compiled, single.mpr (.inl rfl)⟩

/-- MySQL writes the default value of the computed column, and SQL Server nothing of its expression. -/
theorem total_miswritten :
    Xor (total.virtualAs.isSome = true) (total.storedAs.isSome = true) ∧
      Target.definition { dialect := .mysql } {} total = .ok "`total` INT AS (price * quantity) DEFAULT 0" ∧
      .defaultValue ∈ Target.said { dialect := .mysql } {} total ∧
      Target.definition { dialect := .sqlServer } {} total = .ok "[total] INT NOT NULL DEFAULT 0" ∧
      (Target.said { dialect := .sqlServer } {} total).countP Modifier.computes = 0 :=
  ⟨.inl ⟨rfl, by decide⟩, rfl, by decide +kernel, rfl, by decide +kernel⟩

end Column

end SqlCompiler
