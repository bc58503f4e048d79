namespace SqlCompiler.CommandLine

structure Switch where
  word : String
  letter : Option Char := none
  takesValue : Bool := true
deriving DecidableEq

inductive Argument
  | option (word : String) (value : Option String)
  | plain (text : String) (rest : List String)
  | forced (text : String)
  | fault
deriving DecidableEq

/-- What letters behind one dash mean, and the word of the last one if its value comes next. The value of a letter may
follow it at once or after an equals sign. -/
def ofLetters (known : List Switch) : List Char → List Argument × Option String
  | [] => ([], none)
  | c :: rest =>
    match known.find? fun s => s.letter = some c with
    | none => ([.fault], none)
    | some s =>
      if s.takesValue then
        match rest with
        | [] => ([], some s.word)
        | '=' :: value => ([.option s.word (some (String.ofList value))], none)
        | value => ([.option s.word (some (String.ofList value))], none)
      else
        let (later, waiting) := ofLetters known rest
        (.option s.word none :: later, waiting)

def ofWord (known : List Switch) (text : List Char) : List Argument × Option String :=
  let word := String.ofList (text.takeWhile (· ≠ '='))
  match known.find? fun s => s.word = word, text.dropWhile (· ≠ '=') with
  | none, _ => ([.fault], none)
  | some s, [] => if s.takesValue then ([], some s.word) else ([.option s.word none], none)
  | some s, _ :: value => ([if s.takesValue then .option s.word (some (String.ofList value)) else .fault], none)

/-- The arguments in order, where `waiting` is an option whose value comes next. A value that comes next may not begin
with a dash, unless it is the dash alone. -/
def arguments (known : List Switch) (waiting : Option String) : List String → List Argument
  | [] => if waiting.isSome then [.fault] else []
  | text :: rest =>
    match text.toList, waiting with
    | '-' :: _ :: _, some _ => [.fault]
    | ['-', '-'], none => rest.map .forced
    | '-' :: '-' :: word, none =>
      let (found, next) := ofWord known word
      found ++ arguments known next rest
    | '-' :: c :: letters, none =>
      let (found, next) := ofLetters known (c :: letters)
      found ++ arguments known next rest
    | _, some word => .option word (some text) :: arguments known none rest
    | _, none => .plain text rest :: arguments known none rest

end SqlCompiler.CommandLine
