/-
Failures of the program, and how they are told.

A failure is told as a chain of messages, the outermost first: what the
program was about to do, then why it could not, down to the first cause.
Where the cause lies with a document, a filter or the database, the chain
ends with a mark of its kind instead of words.
-/
import EventAnalytics.Files.Tree
import EventAnalytics.Query.Compile
import EventAnalytics.Settings.Basic
import EventAnalytics.Store.Ingest

namespace EventAnalytics

open Files (FileError)

inductive Message where
  | words (text : String)
  /-- The text is no JSON of the right form. -/
  | json
  /-- The text is no settings document of the right form. -/
  | toml
  /-- The text is no filter. -/
  | filter
  | database
  deriving DecidableEq, Repr

/-- Why a store cannot be opened. -/
inductive OpenError where
  /-- A directory that should hold the database cannot be made. -/
  | directory (path : String) (reason : FileError)
  | database
  deriving DecidableEq, Repr

/-- Why settings cannot be loaded from a file. -/
inductive LoadError where
  | file (reason : FileError)
  | content (reason : SettingsError)
  deriving DecidableEq, Repr

/-- Why the program fails. -/
inductive Failure where
  | load (path : String) (reason : LoadError)
  | badFilter (filter : String)
  | unresolved (path : String) (reason : UnsafeSegment)
  | unsafeMetric (reason : UnsafeSegment)
  | unreadQuery (path : String) (reason : FileError)
  | badQuery
  | uncompiled (reason : QueryError)
  | unreadEvents (path : String) (reason : FileError)
  | ingest (reason : IngestError)
  | unopened (path : String) (reason : OpenError)

/-- The chain of a refused event. -/
def StoreError.chain : StoreError → List Message
  | .database => [.database]
  | .faulty _ .document => [.json]
  | e@(.invalid f) => (e.message?.map Message.words).toList ++ [.words f.message]
  | e => (e.message?.map Message.words).toList

/-- The chain of a store that cannot be opened. -/
def OpenError.chain : OpenError → List Message
  | .directory path e =>
    [.words ("I/O error at " ++ path ++ ": " ++ e.message), .words e.message]
  | .database => [.database]

/-- The chain of settings that cannot be loaded. -/
def LoadError.chain (path : String) : LoadError → List Message
  | .file e =>
    [.words ("failed to read config file '" ++ path ++ "': " ++ e.message),
      .words e.message]
  | .content .unreadable => [.toml]
  | .content (.fault f) => [.words f.message]

/-- The chain of a text whose events cannot be added. -/
def IngestError.chain : IngestError → List Message
  | .notEvent n => [.words (s!"line {n}: invalid event"), .json]
  | .refused n id e => .words (s!"line {n}: failed to append event " ++ id) :: e.chain

def Failure.chain : Failure → List Message
  | .load path e => .words ("failed to load config: " ++ path) :: e.chain path
  | .badFilter f => [.words ("invalid log directives: " ++ f), .filter]
  | .unresolved path e =>
    [.words ("cannot resolve '" ++ path ++ "'"), .words e.message]
  | .unsafeMetric e => [.words e.message]
  | .unreadQuery path e => [.words ("failed to read request: " ++ path), .words e.message]
  | .badQuery => [.words "failed to parse analytics request", .json]
  | .uncompiled e => [.words "failed to compile analytics request", .words e.message]
  | .unreadEvents path e => [.words ("failed to read events: " ++ path), .words e.message]
  | .ingest e => e.chain
  | .unopened path e => .words ("failed to open event store: " ++ path) :: e.chain

end EventAnalytics
