/-
The program at its command line.

This is the only place that touches the world: it gathers the files that
the arguments speak of into a tree, runs the program on it, and then makes
the new directories and writes the databases back. All decisions are made
by the functions on trees.
-/
import EventAnalytics.Command.Run
import EventAnalytics.Store.Image
import Std.Time.DateTime.Timestamp

namespace EventAnalytics.Shell

open Files (Tree Entry Location)
open Time (Instant)

def pathOf (l : Location) : String := "/" ++ String.intercalate "/" l

/-- What a file's content is: a database, a text or neither. -/
def entryOf (content : ByteArray) : Entry :=
  match String.fromUTF8? content with
  | none => .other
  | some s =>
    match Database.ofImage? s with
    | some d => .database d
    | none => .text s

/-- What stands at a place of the real files; a directory is what can be
entered. -/
def inspect (l : Location) : IO (Option Entry) := do
  try
    discard <| IO.FS.realPath (pathOf l ++ "/.")
    return some .directory
  catch _ =>
    try
      return some (entryOf (← IO.FS.readBinFile (pathOf l)))
    catch _ => return none

/-- Adds what stands at a place to a tree. -/
def addPlace (t : Tree) (l : Location) : IO Tree := do
  if (t.entry? l).isSome then return t
  match ← inspect l with
  | some e => return t.put l e
  | none => return t

/-- Adds everything on the way along a path to a tree. -/
def addPath (t : Tree) (path : String) : IO Tree := do
  let mut t := t
  let mut l : Location := if Files.isAbsolute path then [] else t.home
  for piece in Files.pieces path do
    l := Tree.follow l piece
    t ← addPlace t l
  return t

/-- The tree of the working directory alone. -/
def homeTree : IO Tree := do
  let home := (Files.pieces (← IO.currentDir).toString).filter (· != "")
  let mut t : Tree := { home }
  for n in [1 : home.length + 1] do
    t := t.put (home.take n) .directory
  return t

/-- The paths that a command reads or opens, given the usual store. -/
def pathsOf (store : String) : Command → List String
  | .compile input => input.toList
  | .init db => [db.getD store]
  | .ingest input db => input.toList ++ [db.getD store]
  | _ => []

def readsInput : Command → Bool
  | .compile input | .ingest input _ => input.getD "-" == "-"
  | _ => false

def now : IO Instant := do
  let nanos := (← Std.Time.Timestamp.now).toNanosecondsSinceUnixEpoch.val
  return (Instant.of? (nanos / 1000000000) (nanos % 1000000000).toNat).getD .epoch

/-- Makes the directories of a tree and writes its databases. -/
def writeBack (t : Tree) : IO Unit := do
  for (l, e) in t.entries do
    match e with
    | .directory => IO.FS.createDirAll (pathOf l)
    | .database d => IO.FS.writeFile (pathOf l) d.image
    | _ => pure ()

/-- The files that a request speaks of. -/
def gather (general : Command.General) (c : Command) : IO Tree := do
  let mut t ← homeTree
  for path in general.config.toList ++ settingsPlaces do
    t ← addPath t path
  if let .ok settings := loadSettings t general.config then
    for path in pathsOf settings.store.path c do
      t ← addPath t path
  return t

/-- Runs a command on the real files. -/
def runReal (general : Command.General) (c : Command) : IO UInt32 := do
  let t ← gather general c
  let input ← if readsInput c then (← IO.getStdin).readToEnd else pure ""
  let (report, t) := runCommand t (← now) input general c
  writeBack t
  IO.print report.output
  if let some n := report.stored then IO.eprintln s!"{n} event(s) stored"
  match report.failure with
  | none => return 0
  | some f =>
    let told := f.chain.map fun m =>
      match m with
      | .words s => s
      | .json => "not the JSON that is needed"
      | .toml => "not the settings that are needed"
      | .filter => "not a filter"
      | .database => "refused by the database"
    IO.eprintln ("Error: " ++ String.intercalate "\n  because: " told)
    return 1

end EventAnalytics.Shell

open EventAnalytics in
/-- Runs the program with the arguments of the command line. -/
def main (args : List String) : IO UInt32 := do
  match Command.Request.ofArguments args with
  | .help => IO.print helpText; return 0
  | .version => IO.println versionText; return 0
  | .misuse => IO.eprint helpText; return 2
  | .run general c => Shell.runReal general c
