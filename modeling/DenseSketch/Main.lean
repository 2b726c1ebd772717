import DenseSketch.CommandLine.Compile
import DenseSketch.CommandLine.Generate
import Std.Time

/-!
# The command line

The outer layer of both programs: it looks up on the disk what the arguments name, runs a program,
prints what it prints and writes the files that it has changed.  The first argument `generate`
chooses the smaller program; otherwise the arguments are those of the compiler.
-/

open DenseSketch CommandLine

namespace DenseSketch.CommandLine

/-- The location of an argument and those above it, and the same of a value attached to it. -/
def locationsIn (argument : String) : List Location :=
  let value := (Grammar.splitValue argument).2.getD argument
  [argument, value].flatMap fun text =>
    let l := Location.ofText text
    (List.range (l.parts.length + 1)).map fun n => { l with parts := l.parts.take n }

def look (tree : Tree) (l : Location) : IO Tree := do
  try
    let content := Content.ofText (← IO.FS.readFile l.text)
    return { tree with files := Tree.putFile l.resolve content tree.files }
  catch
    | .inappropriateType .. => return { tree with directories := l.resolve :: tree.directories }
    | _ => return tree

def store (file : List String × Content) : IO Unit := do
  let path := if file.1 == [""] then "/" else "/".intercalate file.1
  let directory := "/".intercalate file.1.dropLast
  if directory != "" then IO.FS.createDirAll directory
  match file.2 with
  | .text s => IO.FS.writeFile path s
  | _ => return

/-- The present time in the form that snapshots carry. -/
def timeStamp : IO String := do
  let now ← Std.Time.Timestamp.now
  return (Std.Time.DateTime.ofTimestamp now Std.Time.TimeZone.ZoneRules.UTC).toISO8601String

def surroundings : IO Surroundings := do
  return {
    workingDirectory := (← IO.currentDir).toString
    snapshotDirectory := (← IO.getEnv "TINYTRAINER_SNAPSHOT_DIR").getD ""
    createdAt := ← timeStamp
    elapsed := "0.000" }

end DenseSketch.CommandLine

/-- Runs the program that the arguments choose. -/
def main (arguments : List String) : IO UInt32 := do
  let around ← surroundings
  let (program, arguments) := match arguments with
    | "generate" :: rest => (generate, rest)
    | rest => (compile, rest)
  let locations := (around.snapshotDirectory :: defaultOutput :: arguments).flatMap locationsIn
  let start ← locations.foldlM look {}
  let (result, bench) := Job.runOn (program around arguments) { tree := start }
  bench.printed.forM fun line => IO.println line
  let isNew (file : List String × Content) : Bool :=
    (start.fileAt? file.1).bind Content.text? != file.2.text?
  (bench.tree.files.filter isNew).forM store
  match result with
  | .ok ending => return ending.code.toUInt32
  | .error fault =>
    IO.eprintln (CompileRequest.faultLine fault)
    return 1
