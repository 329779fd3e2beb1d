/-
Running commands on a tree of files.

A command reads files or the input, may open an event store, and answers
with a report: what it writes, and how it failed, if it did. The files as
it leaves them come back with the report.

The whole program takes a list of arguments. It loads its settings from
the file that is named, or else from the first usual place that holds
one, checks the log filter that they describe, and then runs the command.
-/
import EventAnalytics.Command.Arguments
import EventAnalytics.Command.Failure
import EventAnalytics.Settings.Filter

namespace EventAnalytics

open Files (Tree Location)
open Time (Instant)

structure Report where
  /-- The text that it writes. -/
  output : String := ""
  /-- The number of events in the store, where the command tells it. -/
  stored : Option Nat := none
  failure : Option Failure := none

namespace Report

def ofLines (lines : List String) : Report :=
  { output := String.join (lines.map fun l => l ++ "\n") }

def ofFailure (f : Failure) : Report := { failure := some f }

/-- The report of a command that writes lines or fails. -/
def ofResult : Except Failure (List String) → Report
  | .ok lines => ofLines lines
  | .error f => ofFailure f

end Report

-- ============================================================ stores

/-- The path of a store that lives in memory alone. -/
def memoryPath : String := ":memory:"

/-- A store that is open, and the place of its file. -/
structure OpenStore where
  store : Store
  location : Option Location

/-- Opens a table as an event store on a database. -/
def openTable (d : Database) (spelling : String) (l : Option Location) :
    Except OpenError OpenStore :=
  match Sql.TableName.ofSpelling? spelling with
  | some table => .ok ⟨Store.openOn d table, l⟩
  | none => .error .database

/-- Opens the database file at a path, which is created if need be. -/
def openFile (t : Tree) (path spelling : String) : Except OpenError OpenStore × Tree :=
  match t.database? path with
  | none => (.error .database, t)
  | some (l, d) => (openTable d spelling (some l), t.put l (.database d))

/-- Opens the event store at a path. Directories on the way to it are made
if need be. -/
def openStore (t : Tree) (path spelling : String) : Except OpenError OpenStore × Tree :=
  if path = memoryPath then (openTable {} spelling none, t)
  else match Files.parent? path with
    | some above =>
      match t.makeDirectories above with
      | (.ok (), t) => openFile t path spelling
      | (.error e, t) => (.error (.directory above e), t)
    | none => openFile t path spelling

/-- Closes a store, which leaves its state in its file. -/
def closeStore (t : Tree) (s : Store) (l : Option Location) : Tree :=
  match l with
  | some l => t.put l (.database s.current)
  | none => t

def withStore (t : Tree) (path spelling : String) (work : Store → Report × Store) :
    Report × Tree :=
  match openStore t path spelling with
  | (.error e, t) => (.ofFailure (.unopened path e), t)
  | (.ok o, t) =>
    let (report, s) := work o.store
    (report, closeStore t s o.location)

-- ============================================================ commands

namespace Command

/-- The expressions of some paths, a line each. -/
def resolveLines (paths : List String) : Except Failure (List String) :=
  paths.mapM fun p =>
    match FieldRef.ofPath p with
    | .ok f => .ok (p ++ "\t" ++ f.sql)
    | .error e => .error (.unresolved p e)

/-- The default metrics of some event types, or their projections. -/
def metricLines (d : MetricDefaults) (types : List String) (select : Bool) :
    Except Failure (List String) :=
  let names := d.forTypes (if types = [] then none else some (.anyOf types))
  if select then
    match metricsSql names with
    | .ok lines => .ok lines
    | .error e => .error (.unsafeMetric e)
  else .ok names

/-- The statement that a query in JSON compiles to. -/
def compileText (settings : AnalyticsSettings) (now : Instant) (json : String) :
    Except Failure String :=
  match Query.ofText? json with
  | none => .error .badQuery
  | some q =>
    match (Compiler.mk settings.table settings.metricDefaults).compile q now with
    | .ok sql => .ok sql
    | .error e => .error (.uncompiled e)

/-- The text of the file at a path; a missing path or a hyphen stands for
the input. -/
def readFrom (t : Tree) (input : String) : Option String → Except Files.FileError String
  | none => .ok input
  | some path => if path = "-" then .ok input else t.read path

/-- Tells the objects of a store and the number of its events. -/
def describe (s : Store) : Report × Store :=
  let lines := s.objects.map fun o => o.kind.name ++ "\t" ++ o.name
  let (n, s) := s.count
  ({ Report.ofLines lines with stored := some n }, s)

/-- Adds the events of a text to a store. -/
def ingestText (content : String) (s : Store) : Report × Store :=
  match s.ingest content with
  | (.ok n, s) => (.ofLines [s!"{n} event(s) appended"], s)
  | (.error e, s) => (.ofFailure (.ingest e), s)

def run (settings : Settings) (now : Instant) (input : String) (t : Tree) :
    Command → Report × Tree
  | .resolve paths => (.ofResult (resolveLines paths), t)
  | .metrics types select =>
    (.ofResult (metricLines settings.analytics.metricDefaults types select), t)
  | .compile path =>
    match readFrom t input path with
    | .error e => (.ofFailure (.unreadQuery (path.getD "-") e), t)
    | .ok json =>
      (.ofResult ((compileText settings.analytics now json).map fun sql => [sql]), t)
  | .schema => (.ofLines ((ddl settings.analytics.table).map (· ++ ";")), t)
  | .init db =>
    withStore t (db.getD settings.store.path) settings.analytics.table describe
  | .ingest path db =>
    match readFrom t input path with
    | .error e => (.ofFailure (.unreadEvents (path.getD "-") e), t)
    | .ok content =>
      withStore t (db.getD settings.store.path) settings.analytics.table
        (ingestText content)

end Command

-- ============================================================= program

/-- The usual places of a settings file. -/
def settingsPlaces : List String := ["kb.toml", "configs/kb.toml"]

def loadFile (t : Tree) (path : String) : Except Failure Settings :=
  match t.read path with
  | .error e => .error (.load path (.file e))
  | .ok s =>
    match Settings.ofText s with
    | .error e => .error (.load path (.content e))
    | .ok settings => .ok settings

/-- The settings in the file that is named, or else in the first usual
place that holds anything, or else the defaults. -/
def loadSettings (t : Tree) (path : Option String) : Except Failure Settings :=
  match path <|> settingsPlaces.find? t.contains with
  | some path => loadFile t path
  | none => .ok {}

inductive Outcome where
  | help
  | version
  | misuse
  | done (report : Report)

/-- The program's name and version. -/
def versionText : String := "kb 0.1.0"

/-- A short guide to the commands. -/
def helpText : String :=
  String.join <| [
    "Usage: kb [-c FILE] [-l LEVEL] COMMAND",
    "",
    "  resolve PATH...                show the expressions of paths",
    "  metrics [-t TYPE]... [--select] show default metrics",
    "  compile [FILE]                 compile a query in JSON",
    "  schema                         show the event table's definition",
    "  init [--db FILE]               create an event store",
    "  ingest [FILE] [--db FILE]      add events, one a line"].map (· ++ "\n")

def Outcome.code : Outcome → Nat
  | .help => 0
  | .version => 0
  | .misuse => 2
  | .done report => if report.failure.isSome then 1 else 0

/-- Runs a command with general options. -/
def runCommand (t : Tree) (now : Instant) (input : String) (general : Command.General)
    (c : Command) : Report × Tree :=
  match loadSettings t general.config with
  | .error f => (.ofFailure f, t)
  | .ok settings =>
    let filter := settings.log.filter (general.level.getD settings.log.level)
    if LogFilter.isFilter filter then c.run settings now input t
    else (.ofFailure (.badFilter filter), t)

/-- Runs the program with some arguments. -/
def runProgram (t : Tree) (now : Instant) (input : String) (args : List String) :
    Outcome × Tree :=
  match Command.Request.ofArguments args with
  | .help => (.help, t)
  | .version => (.version, t)
  | .misuse => (.misuse, t)
  | .run general c =>
    let (report, t) := runCommand t now input general c
    (.done report, t)

end EventAnalytics
