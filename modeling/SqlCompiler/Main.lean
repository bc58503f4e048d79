import SqlCompiler.CommandLine.Run

open SqlCompiler.CommandLine

def readFiles (paths : List String) : IO (List (String × String)) :=
  paths.filterMapM fun (path : String) => do
    try
      return some (path, ← IO.FS.readFile path)
    catch _ =>
      return none

def main (args : List String) : IO UInt32 := do
  let request := Request.ofTexts (← IO.getEnv "OXIDE_GRAMMAR_DIALECT") args
  let files ← readFiles request.files
  let outcome := request.outcome (files.lookup ·)
  match outcome with
  | .printed text => IO.print text
  | .failed failure => IO.eprintln ("Error: " ++ failure.message)
  | .unclear => IO.eprintln "usage: [OPTIONS] schema BLUEPRINT | introspect KIND [TABLE] [-s SCHEMA]"
  return outcome.exitCode.toUInt32
