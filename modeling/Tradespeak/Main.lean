import Std.Time.Format
import Tradespeak.FrontEnd.Demonstration
import Tradespeak.FrontEnd.Run

/-!
# The program

* `main` — runs the command line on the files of the working directory. The files that the command
  line names are read first, `runProgram` decides what becomes of them, and those that it changed
  are written. Lines from a terminal are answered one by one.
-/

set_option autoImplicit false

namespace Tradespeak.Program

/-- The present time as it stands in the log. -/
def timeText : IO Text := do
  return ((← Std.Time.PlainDateTime.now).format "uuuu-MM-dd HH:mm:ss").toList

/-- The store with what is found under a path, if anything. -/
def look (store : FileStore) (path : Text) : IO FileStore := do
  try
    let file ← IO.FS.realPath (String.ofList path)
    if ← file.isDir then return store.insert path .folder
    else return store.insert path (.file (Content.ofBytes (← IO.FS.readBinFile file).toList))
  catch _ => return store

/-- The files and folders that the names on the command line lead to. -/
def snapshot (arguments : Arguments) : IO FileStore :=
  let names := [arguments.input, arguments.output, arguments.log].filterMap id
  (names.flatMap FileStore.trail).foldlM look Table.empty

/-- Writes the files that differ from those found before. -/
def save (before after : FileStore) : IO Unit :=
  after.entries.forM fun (path, entry) => do
    if before.get? path ≠ some entry then
      match entry with
      | .folder => return
      | .file (.text text) => IO.FS.writeFile (String.ofList path) (String.ofList text)
      | .file (.raw bytes) => IO.FS.writeBinFile (String.ofList path) ⟨bytes.toArray⟩

/-- Why a run breaks off, in words. -/
def crashText : Crash → Text
  | .arithmetic .overflow => "Overflow".toList
  | .arithmetic _ => "Invalid operation".toList
  | .undecodable fault => fault.message
  | .name error => error.message []

/-- Shows a text at once. -/
def display (text : Text) : IO Unit := do
  let screen ← IO.getStdout
  screen.putStr (String.ofList text)
  screen.flush

/-- A line as it is typed, without the line feed at its end. -/
def withoutFeed (typed : Text) : Text :=
  if typed.getLast? = some '\n' then typed.dropLast else typed

/-- Prompts for lines and answers each, until there are no more. -/
partial def prompting (log : Option Text) (market : Market) : IO UInt32 := do
  display prompt
  let typed ← (← IO.getStdin).getLine
  if typed.isEmpty then
    display "^D\n".toList
    return 0
  let (turn, next) := market.turn Form.all (withoutFeed typed.toList)
  if let some path := log then
    let entry := turn.entry (← timeText) promptSource
    IO.FS.withFile (String.ofList path) .append fun file => file.putStr (String.ofList entry)
  display turn.shown
  match turn.fault? with
  | some fault =>
    IO.eprintln (String.ofList (crashText (.arithmetic fault)))
    return 1
  | none => prompting log next

/-- Shows a report and gives its exit status. -/
def finish (before : FileStore) (report : Report) : IO UInt32 := do
  save before report.store
  display report.screen
  match report.ending with
  | .exit status => return status.toUInt32
  | .crash cause =>
    IO.eprintln (String.ofList (crashText cause))
    return 1

end Tradespeak.Program

open Tradespeak Tradespeak.Program in
/-- Runs the command line. -/
def main (args : List String) : IO UInt32 := do
  let commandLine := args.map String.toList
  let time ← timeText
  match Arguments.read commandLine with
  | .error _ => finish Table.empty (runProgram time commandLine .nothing Table.empty)
  | .ok arguments =>
    let store ← snapshot arguments
    match arguments.input, openLog arguments store with
    | none, .ok opened =>
      save store opened.store
      display opened.screen
      prompting opened.log Market.empty
    | _, _ => finish store (runProgram time commandLine .nothing store)
