import SqlCompiler.Proofs.Constraints.Retained
import SqlCompiler.Proofs.Quoting.QualifiedColumns

namespace SqlCompiler

namespace Text

def folded (s : String) : String :=
  String.ofList ((lower s).toList.map fun c => if c = '-' ∨ c = '.' then '_' else c)

/-- An underscore ends a word, so what stands behind it does not matter for the letters before it. -/
theorem casedFollows_append (cs rest : List Char) : casedFollows (cs ++ '_' :: rest) = casedFollows cs := by
  have stops : withinRuns caseIgnorableRuns '_' = false := by decide +kernel
  have uncased : withinRuns casedRuns '_' = false := by decide +kernel
  unfold casedFollows
  rw [List.dropWhile_append]
  cases found : cs.dropWhile (withinRuns caseIgnorableRuns) with
  | nil => simp [stops, uncased]
  | cons c later => simp

theorem lowerFrom_before (before rest cs : List Char) : lowerFrom (before ++ '_' :: rest) cs = lowerFrom before cs := by
  induction cs generalizing before with
  | nil => rfl
  | cons c cs ih =>
    have later := ih (c :: before)
    rw [List.cons_append] at later
    simp only [lowerFrom, casedFollows_append, later]

theorem lowerFrom_append (before cs rest : List Char) :
    lowerFrom before (cs ++ '_' :: rest) = lowerFrom before cs ++ '_' :: lowerFrom [] rest := by
  induction cs generalizing before with
  | nil =>
    have letter : lowerChar '_' = ['_'] := by decide
    have other : '_' ≠ 'Σ' := by decide
    have behind := lowerFrom_before [] before rest
    rw [List.nil_append] at behind
    simp only [List.nil_append, lowerFrom, if_neg other, letter, behind, List.singleton_append]
  | cons c cs ih => simp only [List.cons_append, lowerFrom, casedFollows_append, ih, List.append_assoc]

theorem folded_append (a b : String) : folded (a ++ "_" ++ b) = folded a ++ "_" ++ folded b := by
  have whole : (a ++ "_" ++ b).toList = a.toList ++ '_' :: b.toList := by simp
  apply String.toList_inj.mp
  simp [folded, lower, whole, lowerFrom_append]

theorem folded_intercalate (columns : List String) :
    folded ("_".intercalate columns) = "_".intercalate (columns.map folded) := by
  induction columns with
  | nil => rfl
  | cons first rest ih =>
    cases rest with
    | nil => simp
    | cons next rest =>
      rw [String.intercalate_cons_cons, folded_append, ih]
      simp

theorem append_last_inj {sep : Char} {cs cs' ds ds' : List Char} (single : sep ∉ ds) (single' : sep ∉ ds')
    (same : cs ++ sep :: ds = cs' ++ sep :: ds') : cs = cs' ∧ ds = ds' := by
  have cut := congrArg (splitLast sep) same
  rw [splitLast_append cs single, splitLast_append cs' single'] at cut
  exact Prod.ext_iff.mp (Option.some.inj cut)

end Text

def IndexKind.lastPart : Option IndexKind → String
  | some kind => kind.suffix
  | none => "foreign"

theorem IndexKind.lastPart_injective : Function.Injective IndexKind.lastPart := by
  intro kind kind' same
  rcases kind with _ | kind <;> rcases kind' with _ | kind'
  · rfl
  · cases kind' <;> simp [lastPart, suffix, name] at same
  · cases kind <;> simp [lastPart, suffix, name] at same
  · cases kind <;> cases kind' <;> simp [lastPart, suffix, name] at same ⊢

theorem IndexKind.lastPart_single (kind : Option IndexKind) : '_' ∉ (lastPart kind).toList := by
  rcases kind with _ | kind
  · decide
  · cases kind <;> decide

theorem IndexKind.folded_lastPart (kind : Option IndexKind) : Text.folded (lastPart kind) = lastPart kind := by
  rcases kind with _ | kind
  · decide +kernel
  · cases kind <;> decide +kernel

namespace Blueprint

variable {b : Blueprint} {tablePrefix : String} {kind kind' : Option IndexKind} {columns columns' : List String}

theorem indexName_eq : b.indexName tablePrefix (IndexKind.lastPart kind) columns =
    Text.folded (b.prefixedTable tablePrefix) ++ "_" ++ "_".intercalate (columns.map Text.folded) ++ "_" ++
      IndexKind.lastPart kind := by
  have whole : b.indexName tablePrefix (IndexKind.lastPart kind) columns =
      Text.folded (b.prefixedTable tablePrefix ++ "_" ++ "_".intercalate columns ++ "_" ++
        IndexKind.lastPart kind) := rfl
  rw [whole, Text.folded_append, Text.folded_append, Text.folded_intercalate, IndexKind.folded_lastPart]

theorem indexName_eq_iff : b.indexName tablePrefix (IndexKind.lastPart kind) columns =
      b.indexName tablePrefix (IndexKind.lastPart kind') columns' ↔
    kind = kind' ∧ "_".intercalate (columns.map Text.folded) = "_".intercalate (columns'.map Text.folded) := by
  constructor
  · intro same
    rw [indexName_eq, indexName_eq] at same
    have chars := congrArg String.toList same
    simp only [String.toList_append] at chars
    obtain ⟨front, last⟩ := Text.append_last_inj (IndexKind.lastPart_single kind) (IndexKind.lastPart_single kind')
      (by simpa using chars)
    refine ⟨IndexKind.lastPart_injective (String.toList_inj.mp last), String.toList_inj.mp ?_⟩
    simpa using front
  · rintro ⟨rfl, listed⟩
    rw [indexName_eq, indexName_eq, listed]

end Blueprint

namespace Command

/-- The sort of a key or an index, a foreign key being of none, and the columns that it is over. -/
def covers? : Command → Option (Option IndexKind × List String)
  | .index kind i => some (some kind, i.columns)
  | .foreign key => some (none, key.columns)
  | _ => none

def name? : Command → Option String
  | .index _ i => some i.name
  | .foreign key => some key.name
  | _ => none

end Command

namespace Blueprint

def gathered (t : Target) (b : Blueprint) : List Command :=
  b.columnCommands ++ b.commands ++ b.columns.flatMap Column.constraints ++ b.followUps t

theorem commands_completed (t : Target) (b : Blueprint) :
    (b.completed t).commands = (b.gathered t).map (b.named t) := rfl

theorem name?_named {t : Target} {b : Blueprint} {command : Command} {kind : Option IndexKind} {columns : List String}
    (unnamed : command.name? = some "") (covers : command.covers? = some (kind, columns)) :
    (b.named t command).name? = some (b.indexName t.tablePrefix (IndexKind.lastPart kind) columns) := by
  cases command with
  | index sort i =>
    cases covers
    have empty : i.name = "" := Option.some.inj unnamed
    simp only [named, empty, if_true]
    rfl
  | foreign key =>
    cases covers
    have empty : key.name = "" := Option.some.inj unnamed
    simp only [named, empty, if_true]
    rfl
  | _ => cases covers

/-- Of two commands that are given a name, the names are the same for commands of one sort whose columns read the same,
one behind the other, in lower case and with `_` for `-` and `.`, and for no others. -/
theorem generatedNames_eq_iff (t : Target) (b : Blueprint) {i j : Nat} {first second : Command}
    {kind kind' : Option IndexKind} {columns columns' : List String}
    (stands : (b.gathered t)[i]? = some first) (stands' : (b.gathered t)[j]? = some second)
    (unnamed : first.name? = some "") (unnamed' : second.name? = some "")
    (covers : first.covers? = some (kind, columns)) (covers' : second.covers? = some (kind', columns')) :
    ∃ name name', (b.completed t).commands[i]?.bind Command.name? = some name ∧
      (b.completed t).commands[j]?.bind Command.name? = some name' ∧
      (name = name' ↔
        kind = kind' ∧ "_".intercalate (columns.map Text.folded) = "_".intercalate (columns'.map Text.folded)) := by
  refine ⟨_, _, ?_, ?_, @indexName_eq_iff b t.tablePrefix kind kind' columns columns'⟩
  · rw [commands_completed, List.getElem?_map, stands]
    exact name?_named unnamed covers
  · rw [commands_completed, List.getElem?_map, stands']
    exact name?_named unnamed' covers'

def shifts : Blueprint where
  table := "shifts"
  columns := [{ name := "day", type := .date }, { name := "staff", type := .bigInteger },
    { name := "day_staff", type := .bigInteger }]
  commands := [.create, .index .unique { columns := ["day", "staff"] }, .index .unique { columns := ["day_staff"] },
    .index .plain { columns := ["day", "staff"] }]

theorem shifts_named_by_sort :
    ∃ name name', (shifts.completed { dialect := .postgres }).commands[1]?.bind Command.name? = some name ∧
      (shifts.completed { dialect := .postgres }).commands[3]?.bind Command.name? = some name' ∧ name ≠ name' := by
  obtain ⟨name, name', found, found', same⟩ := generatedNames_eq_iff { dialect := .postgres } shifts (i := 1) (j := 3)
    rfl rfl rfl rfl rfl rfl
  refine ⟨name, name', found, found', fun equal => ?_⟩
  cases (same.mp equal).1

/-- The unique indexes are over different columns, and the second is added under the name of the first. -/
theorem shifts_share_name :
    (∃ first second, (shifts.gathered { dialect := .postgres })[1]? = some first ∧
      (shifts.gathered { dialect := .postgres })[2]? = some second ∧ first.name? = some "" ∧ second.name? = some "" ∧
      first.covers? ≠ second.covers?) ∧
    (shifts.completed { dialect := .postgres }).commands[1]?.bind Command.name? = some "shifts_day_staff_unique" ∧
    (shifts.completed { dialect := .postgres }).commands[2]?.bind Command.name? = some "shifts_day_staff_unique" :=
  ⟨⟨_, _, rfl, rfl, rfl, rfl, by decide⟩, by decide +kernel, by decide +kernel⟩

end Blueprint

end SqlCompiler
