/-
The files that commands work on: a tree of directories, texts, databases
and other files, with a working directory in it.

A path leads through the tree piece by piece, and every piece but the last
must be a directory. A database is a file whose content is no text; a text
is no database, unless it is empty, which makes it a fresh one.
-/
import EventAnalytics.Files.Path
import EventAnalytics.Store.Database

namespace EventAnalytics.Files

/-- Why the files cannot serve a request. -/
inductive FileError where
  | notFound
  | present
  | notDirectory
  | isDirectory
  | notText
  deriving DecidableEq, Repr

/-- The failure in the words of the operating system. -/
def FileError.message : FileError → String
  | .notFound => "No such file or directory (os error 2)"
  | .present => "File exists (os error 17)"
  | .notDirectory => "Not a directory (os error 20)"
  | .isDirectory => "Is a directory (os error 21)"
  | .notText => "stream did not contain valid UTF-8"

/-- What stands at a place of the tree. -/
inductive Entry where
  | directory
  | text (content : String)
  | database (content : Database)
  /-- A file that is neither a text nor a database. -/
  | other

/-- A place: the names that lead to it from the root. -/
abbrev Location := List String

/-- A tree of files. Every place on the way to an entry is an entry too;
the root is not listed. -/
structure Tree where
  entries : List (Location × Entry) := []
  /-- The working directory. -/
  home : Location := []

namespace Tree

def entry? (t : Tree) (l : Location) : Option Entry :=
  if l = [] then some .directory
  else (t.entries.find? fun e => e.1 == l).map Prod.snd

/-- Whether a directory stands at a place. -/
def isDirectoryAt (t : Tree) (l : Location) : Bool :=
  match t.entry? l with
  | some .directory => true
  | _ => false

/-- Puts an entry at a place. -/
def put (t : Tree) (l : Location) (e : Entry) : Tree :=
  { t with entries := (t.entries.filter fun f => f.1 != l) ++ [(l, e)] }

-- ============================================================== places

/-- The place that a piece leads to from another. -/
def follow (l : Location) (piece : String) : Location :=
  if piece = "" ∨ piece = "." then l
  else if piece = ".." then l.dropLast
  else l ++ [piece]

/-- The place that pieces lead to. Whatever has a piece after it must be a
directory. -/
def walk (t : Tree) (l : Location) : List String → Except FileError Location
  | [] => .ok l
  | p :: ps =>
    match t.entry? l with
    | some .directory => walk t (follow l p) ps
    | some _ => .error .notDirectory
    | none => .error .notFound

/-- The place that a path leads to. -/
def locate (t : Tree) (path : String) : Except FileError Location :=
  if path = "" then .error .notFound
  else t.walk (if isAbsolute path then [] else t.home) (pieces path)

/-- Whether a path leads to something. -/
def contains (t : Tree) (path : String) : Bool :=
  match t.locate path with
  | .ok l => (t.entry? l).isSome
  | .error _ => false

/-- Whether a path leads to a directory. -/
def isDirectory (t : Tree) (path : String) : Bool :=
  match t.locate path with
  | .ok l => t.isDirectoryAt l
  | .error _ => false

-- =============================================================== texts

def read (t : Tree) (path : String) : Except FileError String := do
  match t.entry? (← t.locate path) with
  | some (.text s) => return s
  | some .directory => throw FileError.isDirectory
  | some (.database _) => throw FileError.notText
  | some .other => throw FileError.notText
  | none => throw FileError.notFound

-- ========================================================= directories

def makeDirectory (t : Tree) (path : String) : Except FileError Tree := do
  let l ← t.locate path
  match t.entry? l with
  | some _ => throw FileError.present
  | none => return t.put l .directory

/-- Makes the directories of a chain of paths, each above the one before
it. A directory that is there already will do. -/
def makeChain (t : Tree) : List String → Except FileError Unit × Tree
  | [] => (.ok (), t)
  | path :: above =>
    let settle (t : Tree) (e : FileError) : Except FileError Unit × Tree :=
      (if t.isDirectory path then .ok () else .error e, t)
    match t.makeDirectory path with
    | .ok t => (.ok (), t)
    | .error .notFound =>
      match t.makeChain above with
      | (.error e, t) => (.error e, t)
      | (.ok (), t) =>
        match t.makeDirectory path with
        | .ok t => (.ok (), t)
        | .error e => settle t e
    | .error e => settle t e

def makeDirectories (t : Tree) (path : String) : Except FileError Unit × Tree :=
  t.makeChain (ancestry path)

-- =========================================================== databases

/-- The place of a database file and its content; a file that is missing
or empty makes a fresh database. -/
def database? (t : Tree) (path : String) : Option (Location × Database) :=
  match t.locate path with
  | .error _ => none
  | .ok l =>
    match t.entry? l with
    | none => some (l, {})
    | some (.text "") => some (l, {})
    | some (.database d) => some (l, d)
    | some _ => none

end Tree

end EventAnalytics.Files
