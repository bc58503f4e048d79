import SqlCompiler.Proofs.Constraints.Layout

namespace SqlCompiler

namespace Command

def isConstraint : Command → Bool
  | .index _ _ | .foreign _ => true
  | _ => false

end Command

namespace Target

def indexWords (t : Target) : IndexKind → String
  | .primary => "PRIMARY KEY"
  | .unique => "UNIQUE"
  | .plain => "INDEX"
  | .fullText => if t.dialect = .postgres then "USING GIN" else "FULLTEXT"
  | .spatial => if t.dialect = .postgres then "USING GIST" else "SPATIAL INDEX"

def indexedColumns (t : Target) (kind : IndexKind) (i : TableIndex) : Except Error String :=
  if t.dialect = .postgres ∧ kind = .fullText then do
    let language ← t.quote (i.language.getD "english")
    return " || ".intercalate (i.columns.map fun c => "TO_TSVECTOR(" ++ language ++ ", " ++ t.column c ++ ")")
  else
    .ok (t.columns i.columns)

/-- The command is left to the statement that creates its table. -/
def leavesInside (t : Target) (b : Blueprint) (command : Command) : Bool :=
  b.isCreating && match t.dialect, command with
    | .mysql, .index .primary _ | .sqlite, .index .primary _ | .sqlite, .foreign _ => true
    | _, _ => false

end Target

def TablePart.Shows (t : Target) (b : Blueprint) : TablePart → Prop
  | .text _ => True
  | .declares (.numbering c) s => s = t.numbering b c
  | .declares (.constraint (.index kind i)) s =>
    ∃ columns, t.indexedColumns kind i = .ok columns ∧ InOrder [t.indexWords kind, columns] s
  | .declares (.constraint (.foreign key)) s => StandsIn (t.foreignKeyClause key) s
  | .declares (.constraint _) _ => False

/-- The parts declare just these things, one after the other, and show each of them. -/
structure Declare (t : Target) (b : Blueprint) (parts : List TablePart) (what : List Declaration) : Prop where
  declarations : TablePart.declarationsOf parts = what
  shown : ∀ part ∈ parts, part.Shows t b

namespace Declare

variable {t : Target} {b : Blueprint}

theorem nil : Declare t b [] [] := ⟨rfl, by simp⟩

theorem text {parts : List TablePart} {what : List Declaration} (s : String) (rest : Declare t b parts what) :
    Declare t b (.text s :: parts) what :=
  ⟨rest.declarations, List.forall_mem_cons.mpr ⟨True.intro, rest.shown⟩⟩

theorem single {what : Declaration} {s : String} (shown : (TablePart.declares what s).Shows t b) :
    Declare t b [.declares what s] [what] :=
  ⟨rfl, by simpa using shown⟩

theorem append {parts parts' : List TablePart} {what what' : List Declaration} (first : Declare t b parts what)
    (second : Declare t b parts' what') : Declare t b (parts ++ parts') (what ++ what') :=
  ⟨by rw [TablePart.declarationsOf_append, first.declarations, second.declarations],
    List.forall_mem_append.mpr ⟨first.shown, second.shown⟩⟩

theorem behind {parts : List TablePart} {what : List Declaration} (first : Declare t b parts what) (s : String) :
    Declare t b (parts ++ [.text s]) what := by
  simpa using first.append (nil.text s)

theorem flatten {lists : List (List TablePart)} {what : List (List Declaration)}
    (each : List.Forall₂ (Declare t b) lists what) : Declare t b lists.flatten what.flatten := by
  induction each with
  | nil => exact nil
  | cons first _ ih => exact first.append ih

theorem join {lists : List (List TablePart)} {what : List (List Declaration)} (separator : String)
    (each : List.Forall₂ (Declare t b) lists what) : Declare t b (TablePart.join separator lists) what.flatten := by
  induction each with
  | nil => exact nil
  | cons first later ih =>
    cases later with
    | nil => simpa [TablePart.join] using first
    | cons next rest =>
      rw [TablePart.join_cons_cons]
      exact first.append (ih.text separator)

theorem texts (statements : List String) : Declare t b (statements.map ([.text ·])).flatten [] := by
  induction statements with
  | nil => exact nil
  | cons s rest ih => exact ih.text s

end Declare

def Command.declares (t : Target) (b : Blueprint) (command : Command) : List Declaration :=
  match command with
  | .create => b.columns.map .numbering ++ (t.innerKeys b).map .constraint
  | .add => b.addedColumns.map .numbering
  | .change => if t.dialect = .mysql then b.changedColumns.map .numbering else []
  | .index _ _ | .foreign _ => if t.leavesInside b command then [] else [.constraint command]
  | _ => []

namespace Target

variable {t : Target} {b : Blueprint}

theorem definitionParts_declare {c : Column} {parts : List TablePart} (compiled : t.definitionParts b c = .ok parts) :
    Declare t b parts [.numbering c] := by
  obtain ⟨type, -, compiled⟩ := ok_of_bind compiled
  obtain ⟨words, -, rfl⟩ := ok_of_map compiled
  have numbering : Declare t b [.declares (.numbering c) (t.numbering b c)] [.numbering c] := .single rfl
  exact (numbering.behind _).text _

theorem definitionsParts_declare {word : String} {columns : List Column} {lists : List (List TablePart)}
    (compiled : t.definitionsParts b word columns = .ok lists) :
    List.Forall₂ (Declare t b) lists (columns.map fun c => [.numbering c]) := by
  induction columns generalizing lists with
  | nil =>
    cases compiled
    exact .nil
  | cons c rest ih =>
    obtain ⟨first, defined, compiled⟩ := ok_of_bind compiled
    obtain ⟨later, definedLater, rfl⟩ := ok_of_map compiled
    exact .cons ((definitionParts_declare defined).text word) (ih definedLater)

theorem flatten_singles {α β : Type} (f : α → β) (list : List α) : (list.map fun a => [f a]).flatten = list.map f := by
  rw [← List.flatMap_def, List.map_eq_flatMap]

theorem join_definitions {word : String} (separator : String) {columns : List Column} {lists : List (List TablePart)}
    (compiled : t.definitionsParts b word columns = .ok lists) :
    Declare t b (TablePart.join separator lists) (columns.map .numbering) := by
  rw [← flatten_singles]
  exact .join separator (definitionsParts_declare compiled)

theorem usingWords_breaks (i : TableIndex) : Breaks (usingWords i) := by
  unfold usingWords around
  split
  · exact breaks_empty
  · rw [String.append_assoc]
    exact breaks_chars (.inl rfl) _

theorem inOrder_of_cut {before cut between columns whole front word back : String}
    (shape : whole = before ++ cut ++ between ++ columns ++ ")") (words : cut = front ++ word ++ back)
    (breaks : ∀ rest, Breaks (back ++ (between ++ rest))) : InOrder [word, columns] whole := by
  refine ⟨before ++ front, back ++ (between ++ (columns ++ ")")), ?_, breaks _, back ++ between, ")", ?_, ?_,
    True.intro⟩
  · simp only [shape, words, String.append_assoc]
  · simp only [String.append_assoc]
  · exact breaks_literal (.inr (.inl rfl))

/-- The statement that a command has of its own declares its key or index, unless the command is left to the statement
that creates the table. -/
inductive Adds (t : Target) (b : Blueprint) (command : Command) : Except Error (List String) → Prop
  | own {s : String} (outside : t.leavesInside b command = false)
    (shown : (TablePart.declares (.constraint command) s).Shows t b) : Adds t b command (.ok [s])
  | inside (left : t.leavesInside b command = true) : Adds t b command (.ok [])
  | error (e : Error) : Adds t b command (.error e)

section

variable {i : TableIndex}

theorem createIndex_inOrder {kind back : String} (using_ word : String) (words : kind ++ "INDEX " = word ++ back)
    (breaks : ∀ rest, Breaks (back ++ rest)) :
    InOrder [word, t.columns i.columns] (t.createIndex b kind using_ i) := by
  have shape : t.createIndex b kind using_ i = "CREATE " ++ (kind ++ "INDEX ") ++
      (t.column i.name ++ " ON " ++ t.tableOf b ++ using_ ++ " (") ++ t.columns i.columns ++ ")" := by
    unfold createIndex
    simp only [String.append_assoc]
  have cut : kind ++ "INDEX " = "" ++ word ++ back := by rw [String.empty_append, words]
  exact inOrder_of_cut shape cut fun rest => breaks _

theorem createIndex_using (kind word : String) :
    InOrder [word, t.columns i.columns] (t.createIndex b kind (" " ++ word) i) := by
  have shape : t.createIndex b kind (" " ++ word) i = "CREATE " ++ kind ++ "INDEX " ++ t.column i.name ++ " ON " ++
      t.tableOf b ++ (" " ++ word) ++ " (" ++ t.columns i.columns ++ ")" := by
    unfold createIndex
    simp only [String.append_assoc]
  have cut : " " ++ word = " " ++ word ++ "" := String.append_empty.symm
  refine inOrder_of_cut shape cut fun rest => ?_
  rw [String.empty_append]
  exact breaks_chars (.inl rfl) _

theorem mysqlIndex_inOrder (kind : String) : InOrder [kind, t.columns i.columns] (t.mysqlIndex b kind i) := by
  have shape : t.mysqlIndex b kind i = t.alter b "ADD " ++ kind ++ (" " ++ t.column i.name ++ usingWords i ++ " (") ++
      t.columns i.columns ++ ")" := by
    simp only [mysqlIndex, alter, String.append_assoc]
  have cut : kind = "" ++ kind ++ "" := by rw [String.empty_append, String.append_empty]
  refine inOrder_of_cut shape cut fun rest => ?_
  simp only [String.append_assoc, String.empty_append]
  exact breaks_chars (.inl rfl) _

theorem namedConstraint_inOrder {word cut : String} (words : cut = " " ++ word ++ " (") :
    InOrder [word, t.columns i.columns]
      (t.alter b ("ADD CONSTRAINT " ++ t.column i.name ++ cut ++ t.columns i.columns ++ ")")) := by
  have shape : t.alter b ("ADD CONSTRAINT " ++ t.column i.name ++ cut ++ t.columns i.columns ++ ")") =
      t.alter b ("ADD CONSTRAINT " ++ t.column i.name) ++ cut ++ "" ++ t.columns i.columns ++ ")" := by
    simp only [alter, String.append_assoc, String.empty_append]
  exact inOrder_of_cut shape words fun rest => breaks_chars (.inl rfl) _

theorem addPrimaryKey_adds : Adds t b (.index .primary i) (t.addPrimaryKey b i) := by
  have columns : t.indexedColumns .primary i = .ok (t.columns i.columns) := by simp [indexedColumns]
  have outside (other : t.dialect ≠ .mysql ∧ t.dialect ≠ .sqlite) : t.leavesInside b (.index .primary i) = false := by
    unfold leavesInside
    cases dialect : t.dialect <;> simp_all
  unfold addPrimaryKey
  cases dialect : t.dialect with
  | postgres =>
    refine .own (outside (by simp [dialect])) ⟨_, columns, ?_⟩
    have shape : t.alter b ("ADD PRIMARY KEY (" ++ t.columns i.columns ++ ")") =
        t.alter b "" ++ "ADD PRIMARY KEY (" ++ "" ++ t.columns i.columns ++ ")" := by
      simp only [alter, String.append_assoc, String.empty_append]
    have cut : "ADD PRIMARY KEY (" = "ADD " ++ "PRIMARY KEY" ++ " (" := rfl
    exact inOrder_of_cut shape cut fun rest => breaks_chars (.inl rfl) _
  | mysql =>
    dsimp only
    split
    · rename_i creating
      exact .inside (by simp [leavesInside, dialect, creating])
    · rename_i altering
      refine .own (by simp [leavesInside, altering]) ⟨_, columns, ?_⟩
      have shape : t.alter b ("ADD PRIMARY KEY" ++ usingWords i ++ " (" ++ t.columns i.columns ++ ")") =
          t.alter b "" ++ "ADD PRIMARY KEY" ++ (usingWords i ++ " (") ++ t.columns i.columns ++ ")" := by
        simp only [alter, String.append_assoc, String.empty_append]
      have cut : "ADD PRIMARY KEY" = "ADD " ++ "PRIMARY KEY" ++ "" := rfl
      refine inOrder_of_cut shape cut fun rest => ?_
      rw [String.empty_append, String.append_assoc]
      exact (usingWords_breaks i).append (breaks_chars (.inl rfl) _)
  | sqlite =>
    dsimp only
    split
    · rename_i creating
      exact .inside (by simp [leavesInside, dialect, creating])
    · exact .error _
  | sqlServer =>
    refine .own (outside (by simp [dialect])) ⟨_, columns, ?_⟩
    exact namedConstraint_inOrder rfl

theorem addUnique_inOrder : InOrder ["UNIQUE", t.columns i.columns] (t.addUnique b i) := by
  have created (using_ : String) : InOrder ["UNIQUE", t.columns i.columns] (t.createIndex b "UNIQUE " using_ i) :=
    createIndex_inOrder using_ "UNIQUE" (show "UNIQUE " ++ "INDEX " = "UNIQUE" ++ " INDEX " from rfl)
      fun rest => breaks_chars (.inl rfl) _
  unfold addUnique
  split
  · split
    · exact created _
    · exact namedConstraint_inOrder rfl
  · exact mysqlIndex_inOrder "UNIQUE"
  · exact created _
  · exact created _

theorem addPlainIndex_inOrder : InOrder ["INDEX", t.columns i.columns] (t.addPlainIndex b i) := by
  have created (using_ : String) : InOrder ["INDEX", t.columns i.columns] (t.createIndex b "" using_ i) :=
    createIndex_inOrder using_ "INDEX" (show "" ++ "INDEX " = "INDEX" ++ " " from rfl)
      fun rest => breaks_chars (.inl rfl) _
  unfold addPlainIndex
  split
  · exact created _
  · exact mysqlIndex_inOrder "INDEX"
  · exact created _
  · exact created _

theorem gin_inOrder (head words : String) :
    InOrder ["USING GIN", words] (head ++ " USING GIN ((" ++ words ++ "))") := by
  have cut : " USING GIN ((" = " " ++ "USING GIN" ++ " ((" := rfl
  refine ⟨head ++ " ", " ((" ++ (words ++ "))"), ?_, breaks_chars (.inl rfl) _, " ((", "))", ?_, ?_, True.intro⟩
  · simp only [cut, String.append_assoc]
  · rw [String.append_assoc]
  · exact breaks_literal (.inr (.inl rfl))

theorem addFullTextIndex_adds : Adds t b (.index .fullText i) (t.addFullTextIndex b i) := by
  have outside : t.leavesInside b (.index .fullText i) = false := by simp [leavesInside]
  unfold addFullTextIndex
  cases dialect : t.dialect with
  | postgres =>
    cases quoted : t.quote (i.language.getD "english") with
    | error e => exact .error e
    | ok language =>
      have columns : t.indexedColumns .fullText i = .ok (" || ".intercalate (i.columns.map fun c =>
          "TO_TSVECTOR(" ++ language ++ ", " ++ t.column c ++ ")")) := by
        simp only [indexedColumns, dialect, quoted]
        rfl
      have words : t.indexWords .fullText = "USING GIN" := by simp [indexWords, dialect]
      exact .own outside ⟨_, columns, words ▸ gin_inOrder _ _⟩
  | mysql =>
    have columns : t.indexedColumns .fullText i = .ok (t.columns i.columns) := by simp [indexedColumns, dialect]
    refine .own outside ⟨_, columns, ?_⟩
    simpa [indexWords, dialect] using mysqlIndex_inOrder "FULLTEXT"
  | sqlite => exact .error _
  | sqlServer => exact .error _

theorem addSpatialIndex_adds : Adds t b (.index .spatial i) (t.addSpatialIndex b i) := by
  have outside : t.leavesInside b (.index .spatial i) = false := by simp [leavesInside]
  have columns : t.indexedColumns .spatial i = .ok (t.columns i.columns) := by simp [indexedColumns]
  unfold addSpatialIndex
  cases dialect : t.dialect with
  | postgres =>
    refine .own outside ⟨_, columns, ?_⟩
    simpa [indexWords, dialect] using createIndex_using "" "USING GIST"
  | mysql =>
    refine .own outside ⟨_, columns, ?_⟩
    simpa [indexWords, dialect] using mysqlIndex_inOrder "SPATIAL INDEX"
  | sqlite => exact .error _
  | sqlServer =>
    refine .own outside ⟨_, columns, ?_⟩
    have words : "SPATIAL " ++ "INDEX " = "SPATIAL INDEX" ++ " " := rfl
    simpa [indexWords, dialect] using createIndex_inOrder "" "SPATIAL INDEX" words fun rest =>
      breaks_chars (.inl rfl) _

theorem addIndex_adds (kind : IndexKind) : Adds t b (.index kind i) (t.addIndex b kind i) := by
  cases kind with
  | primary => exact addPrimaryKey_adds
  | unique => exact .own (by simp [leavesInside]) ⟨_, by simp [indexedColumns], addUnique_inOrder⟩
  | plain => exact .own (by simp [leavesInside]) ⟨_, by simp [indexedColumns], addPlainIndex_inOrder⟩
  | fullText => exact addFullTextIndex_adds
  | spatial => exact addSpatialIndex_adds

theorem checkWords_breaks (k : ForeignKey) : Breaks (checkWords k) := by
  unfold checkWords wordsIf
  refine (Breaks.append ?_ ?_).append ?_ <;> split
  all_goals first | exact breaks_empty | exact breaks_literal (.inl rfl)

theorem addForeignKey_adds {key : ForeignKey} : Adds t b (.foreign key) (t.addForeignKey b key) := by
  have clause : StandsIn (t.foreignKeyClause key)
      (t.alter b ("ADD CONSTRAINT " ++ t.column key.name ++ " " ++ t.foreignKeyClause key)) := by
    refine ⟨t.alter b ("ADD CONSTRAINT " ++ t.column key.name ++ " "), "", ?_, breaks_empty⟩
    simp only [alter, String.append_assoc, String.append_empty]
  unfold addForeignKey
  cases dialect : t.dialect with
  | postgres => exact .own (by simp [leavesInside, dialect]) (clause.before (checkWords_breaks key))
  | mysql | sqlServer => exact .own (by simp [leavesInside, dialect]) clause
  | sqlite =>
    dsimp only
    split
    · rename_i creating
      exact .inside (by simp [leavesInside, dialect, creating])
    · exact .error _

end

theorem Adds.declare {command : Command} {statements : List String}
    (adds : Adds t b command (.ok statements)) :
    Declare t b (statements.map ([.declares (.constraint command) ·])).flatten
      (if t.leavesInside b command then [] else [.constraint command]) := by
  cases adds with
  | own outside shown =>
    rw [if_neg (by simp [outside])]
    exact .single shown
  | inside left =>
    rw [if_pos left]
    exact .nil

theorem innerKeyPart_shows {command : Command} (member : command ∈ t.innerKeys b) :
    (t.innerKeyPart command).Shows t b := by
  have columns (i : TableIndex) : t.indexedColumns .primary i = .ok (t.columns i.columns) := by simp [indexedColumns]
  unfold innerKeys at member
  cases dialect : t.dialect with
  | postgres | sqlServer => simp [dialect] at member
  | mysql =>
    simp only [dialect] at member
    obtain ⟨i, -, rfl⟩ := List.mem_map.mp member
    refine ⟨_, columns i, ?_⟩
    have shape : t.innerKeyText (.index .primary i) =
        "" ++ "PRIMARY KEY" ++ (usingWords i ++ " (") ++ t.columns i.columns ++ ")" := by
      simp only [innerKeyText, dialect, String.append_assoc, String.empty_append]
    have cut : "PRIMARY KEY" = "" ++ "PRIMARY KEY" ++ "" := rfl
    refine inOrder_of_cut shape cut fun rest => ?_
    rw [String.empty_append, String.append_assoc]
    exact (usingWords_breaks i).append (breaks_chars (.inl rfl) _)
  | sqlite =>
    simp only [dialect] at member
    rcases List.mem_append.mp member with foreign | primary
    · obtain ⟨key, -, rfl⟩ := List.mem_map.mp foreign
      exact .refl _
    · obtain ⟨i, -, rfl⟩ := List.mem_map.mp primary
      refine ⟨_, columns i, ?_⟩
      have shape : t.innerKeyText (.index .primary i) =
          "" ++ "PRIMARY KEY (" ++ "" ++ t.columns i.columns ++ ")" := by
        simp only [innerKeyText, dialect, String.append_assoc, String.empty_append]
      have cut : "PRIMARY KEY (" = "" ++ "PRIMARY KEY" ++ " (" := rfl
      exact inOrder_of_cut shape cut fun rest => breaks_chars (.inl rfl) _

theorem innerKeys_declare {parts : TablePart → List TablePart}
    (same : ∀ part what, Declare t b [part] what → Declare t b (parts part) what) :
    List.Forall₂ (Declare t b) (((t.innerKeys b).map t.innerKeyPart).map parts)
      ((t.innerKeys b).map fun key => [.constraint key]) := by
  rw [List.map_map, List.forall₂_map_left_iff, List.forall₂_map_right_iff, List.forall₂_same]
  exact fun key member => same _ _ (.single (innerKeyPart_shows member))

theorem createParts_declare {parts : List TablePart} (compiled : t.createParts b = .ok parts) :
    Declare t b parts (Command.create.declares t b) := by
  obtain ⟨definitions, defined, compiled⟩ := ok_of_bind compiled
  have columns := join_definitions ", " defined
  cases dialect : t.dialect with
  | postgres | sqlServer =>
    simp only [dialect] at compiled
    cases compiled
    simpa [Command.declares, innerKeys, dialect] using (columns.behind ")").text _
  | mysql =>
    simp only [dialect] at compiled
    obtain ⟨options, -, rfl⟩ := ok_of_map compiled
    have each := List.rel_append (definitionsParts_declare defined) (innerKeys_declare fun _ _ inner => inner)
    have listed := ((Declare.join ", " each).behind (")" ++ options)).text
      ("CREATE " ++ temporaryWord b ++ "TABLE " ++ t.tableOf b ++ " (")
    simpa [Command.declares, flatten_singles] using listed
  | sqlite =>
    simp only [dialect] at compiled
    cases compiled
    -- the keys are not listed among the definitions: each comes with the comma before it
    have keys := Declare.flatten (innerKeys_declare (t := t) (b := b) fun _ _ inner => inner.text ", ")
    have listed := ((columns.append keys).behind ")").text
      ("CREATE " ++ temporaryWord b ++ "TABLE " ++ t.tableOf b ++ " (")
    simpa [Command.declares, flatten_singles, List.flatMap_def] using listed

theorem sqliteAdditionParts_declare {columns : List Column} {statements : List (List TablePart)}
    (compiled : t.sqliteAdditionParts b columns = .ok statements) :
    Declare t b statements.flatten (columns.map .numbering) := by
  induction columns generalizing statements with
  | nil =>
    cases compiled
    exact .nil
  | cons c rest ih =>
    unfold sqliteAdditionParts at compiled
    split at compiled
    · cases compiled
    · obtain ⟨first, defined, compiled⟩ := ok_of_bind compiled
      obtain ⟨later, added, rfl⟩ := ok_of_map compiled
      exact (((definitionParts_declare defined).text _).text _).append (ih added)

theorem alteration_declare {word : String} {columns : List Column} {statements : List (List TablePart)}
    (compiled : (do return [t.alterParts b (TablePart.join ", " (← t.definitionsParts b word columns))]) =
      (.ok statements : Except Error _)) : Declare t b statements.flatten (columns.map .numbering) := by
  obtain ⟨definitions, defined, rfl⟩ := ok_of_map compiled
  simpa [alterParts] using (join_definitions ", " defined).text ("ALTER TABLE " ++ t.tableOf b ++ " ")

theorem addParts_declare {statements : List (List TablePart)} (compiled : t.addParts b = .ok statements) :
    Declare t b statements.flatten (Command.add.declares t b) := by
  unfold addParts at compiled
  cases dialect : t.dialect with
  | postgres | mysql =>
    simp only [dialect] at compiled
    exact alteration_declare compiled
  | sqlite =>
    simp only [dialect] at compiled
    exact sqliteAdditionParts_declare compiled
  | sqlServer =>
    simp only [dialect] at compiled
    obtain ⟨definitions, defined, rfl⟩ := ok_of_map compiled
    simpa [alterParts, Command.declares] using
      ((join_definitions ", " defined).text "ADD ").text ("ALTER TABLE " ++ t.tableOf b ++ " ")

theorem changeParts_declare {statements : List (List TablePart)} (compiled : t.changeParts b = .ok statements) :
    Declare t b statements.flatten (Command.change.declares t b) := by
  unfold changeParts at compiled
  cases dialect : t.dialect with
  | mysql =>
    simp only [dialect] at compiled
    simpa [Command.declares, dialect] using alteration_declare compiled
  | postgres | sqlite | sqlServer =>
    simp only [dialect] at compiled
    obtain ⟨changes, -, rfl⟩ := ok_of_map compiled
    simpa [Command.declares, dialect] using Declare.texts changes

end Target

theorem Command.parts_declare {t : Target} {b : Blueprint} {command : Command} {statements : List (List TablePart)}
    (compiled : command.parts t b = .ok statements) : Declare t b statements.flatten (command.declares t b) := by
  cases command with
  | create =>
    obtain ⟨parts, created, rfl⟩ := ok_of_map compiled
    simpa using Target.createParts_declare created
  | add => exact Target.addParts_declare compiled
  | change => exact Target.changeParts_declare compiled
  | index kind i =>
    obtain ⟨own, added, rfl⟩ := ok_of_map compiled
    have adds := Target.addIndex_adds (t := t) (b := b) (i := i) kind
    rw [added] at adds
    exact adds.declare
  | foreign key =>
    obtain ⟨own, added, rfl⟩ := ok_of_map compiled
    have adds : Target.Adds t b (.foreign key) (t.addForeignKey b key) := Target.addForeignKey_adds
    rw [added] at adds
    exact adds.declare
  | _ =>
    obtain ⟨own, -, rfl⟩ := ok_of_map compiled
    exact .texts own

theorem Blueprint.commandParts_declare {t : Target} {b : Blueprint} {commands : List Command}
    {statements : List (List TablePart)} (compiled : b.commandParts t commands = .ok statements) :
    Declare t b statements.flatten (commands.flatMap (Command.declares t b)) := by
  induction commands generalizing statements with
  | nil =>
    cases compiled
    exact .nil
  | cons command rest ih =>
    obtain ⟨first, found, compiled⟩ := ok_of_bind compiled
    obtain ⟨later, foundLater, rfl⟩ := ok_of_map compiled
    rw [List.flatten_append, List.flatMap_cons]
    exact (Command.parts_declare found).append (ih foundLater)

end SqlCompiler
