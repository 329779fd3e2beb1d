/-
The command line.

A command is named by the first argument that is no option. An option has
a long name, and some have a letter too; its value follows as the next
argument, or after an equals sign, or right after the letter. A value must
not look like an option itself. After a double hyphen every argument
stands for itself. Options may be given once, but for the event types of
`metrics`. The general options, a settings file and a log level, may stand
before the command or after it, and what stands after it counts.
-/
import EventAnalytics.Settings.Log

namespace EventAnalytics

/-- What the program is asked to do. -/
inductive Command where
  /-- Show the expressions of some paths. -/
  | resolve (paths : List String)
  /-- Show the default metrics of some event types, or their projections. -/
  | metrics (types : List String) (select : Bool)
  /-- Compile a query from a file or from the input. -/
  | compile (input : Option String)
  /-- Show the statements that create the event table. -/
  | schema
  /-- Create or complete an event store. -/
  | init (db : Option String)
  /-- Add events to a store, one a line, from a file or from the input. -/
  | ingest (input : Option String) (db : Option String)
  deriving DecidableEq, Repr

namespace Command

structure General where
  config : Option String := none
  level : Option LogLevel := none
  deriving DecidableEq, Repr

/-- What a list of arguments comes to. -/
inductive Request where
  | run (general : General) (command : Command)
  | help
  | version
  | misuse
  deriving DecidableEq, Repr

-- =========================================================== options

inductive Flag where
  | config
  | level
  | type
  | select
  | db
  | help
  | version
  deriving DecidableEq, Repr

namespace Flag

def all : List Flag := [config, level, type, select, db, help, version]

def long : Flag → String
  | .config => "config"
  | .level => "log-level"
  | .type => "type"
  | .select => "select"
  | .db => "db"
  | .help => "help"
  | .version => "version"

def short? : Flag → Option Char
  | .config => some 'c'
  | .level => some 'l'
  | .type => some 't'
  | .select => none
  | .db => none
  | .help => some 'h'
  | .version => some 'V'

/-- Whether a value belongs to the option. -/
def takesValue : Flag → Bool
  | .config | .level | .type | .db => true
  | _ => false

end Flag

/-- A part of a command line. -/
inductive Item where
  | option (flag : Flag) (value : String)
  | word (value : String)
  /-- The double hyphen. -/
  | divider
  deriving DecidableEq, Repr

/-- Whether an argument looks like an option: it starts with a hyphen and
does not end there. -/
def looksLikeOption (arg : String) : Bool :=
  match arg.toList with
  | '-' :: _ :: _ => true
  | _ => false

/-- An option that needs a value, with the argument after it as its value. -/
def readValue (flag : Flag) : List String → Option (Item × List String)
  | [] => none
  | v :: args => if looksLikeOption v then none else some (.option flag v, args)

/-- An option given by its long name, with the value after an equals sign
if there is one. -/
def readLong (known : List Flag) (name : List Char) (args : List String) :
    Option (Item × List String) :=
  let (name, rest) := (name.takeWhile (· != '='), name.dropWhile (· != '='))
  match known.find? fun f => f.long == String.ofList name with
  | none => none
  | some flag =>
    match rest, flag.takesValue with
    | [], false => some (.option flag "", args)
    | [], true => readValue flag args
    | _ :: v, true => some (.option flag (String.ofList v), args)
    | _ :: _, false => none

/-- An option given by its letter, with the value right after it if there
is one. -/
def readShort (known : List Flag) (letter : Char) (rest : List Char) (args : List String) :
    Option (Item × List String) :=
  match known.find? fun f => f.short? == some letter with
  | none => none
  | some flag =>
    match rest, flag.takesValue with
    | _, false => some (.option flag "", args)
    | [], true => readValue flag args
    | '=' :: v, true => some (.option flag (String.ofList v), args)
    | v, true => some (.option flag (String.ofList v), args)

/-- The part that a list of arguments starts with, when some options are
known. -/
def readItem (known : List Flag) (arg : String) (args : List String) :
    Option (Item × List String) :=
  match arg.toList with
  | ['-', '-'] => some (.divider, args)
  | '-' :: '-' :: name => readLong known name args
  | '-' :: letter :: rest => readShort known letter rest args
  | _ => some (.word arg, args)

theorem readItem_length {known : List Flag} {arg : String} {args : List String}
    {p : Item × List String} (h : readItem known arg args = some p) :
    p.2.length ≤ args.length := by
  have hv : ∀ {f : Flag} {q : Item × List String}, readValue f args = some q →
      q.2.length ≤ args.length := by
    intro f q hq
    unfold readValue at hq
    split at hq
    · simp at hq
    · split at hq <;> simp at hq
      subst hq
      simp
  unfold readItem at h
  split at h
  · simp at h; subst h; simp
  · unfold readLong at h
    simp only at h
    split at h
    · simp at h
    · split at h
      · simp at h; subst h; simp
      · exact hv h
      · simp at h; subst h; simp
      · simp at h
  · unfold readShort at h
    split at h
    · simp at h
    · split at h
      · simp at h; subst h; simp
      · exact hv h
      · simp at h; subst h; simp
      · simp at h; subst h; simp
  · simp at h; subst h; simp

-- ============================================================ commands

/-- The general options with one more. An option is refused when it has been
given before, or when its value names nothing. -/
def General.add? (g : General) : Flag → String → Option General
  | .config, v =>
    if v = "" ∨ g.config.isSome then none else some { g with config := some v }
  | .level, v =>
    match LogLevel.ofText? v with
    | some l => if g.level.isSome then none else some { g with level := some l }
    | none => none
  | _, _ => none

/-- General options, with others where they say nothing. -/
def General.orElse (g other : General) : General :=
  ⟨g.config <|> other.config, g.level <|> other.level⟩

/-- What has been given to a command. -/
structure Given where
  general : General := {}
  types : List String := []
  select : Bool := false
  db : Option String := none
  words : List String := []

/-- What has been given, with one more option. -/
def Given.add? (g : Given) : Flag → String → Option Given
  | .type, v => some { g with types := g.types ++ [v] }
  | .select, _ => if g.select then none else some { g with select := true }
  | .db, v => if v = "" ∨ g.db.isSome then none else some { g with db := some v }
  | flag, v => (g.general.add? flag v).map fun general => { g with general }

/-- The names of the commands, with the options of each. -/
def commands : List (String × List Flag) :=
  [("resolve", []), ("metrics", [.type, .select]), ("compile", []), ("schema", []),
    ("init", [.db]), ("ingest", [.db])]

/-- Whether a command takes a word after those that it has been given. -/
def takesWord (name : String) (words : List String) (w : String) : Bool :=
  match name with
  | "resolve" => true
  | "compile" | "ingest" => words.isEmpty && w != ""
  | _ => false

/-- What has been given to a command, with one more word. -/
def Given.addWord? (name : String) (g : Given) (w : String) : Option Given :=
  if takesWord name g.words w then some { g with words := g.words ++ [w] } else none

/-- The command of a given name. -/
def Given.command? (g : Given) : String → Option Command
  | "resolve" => if g.words = [] then none else some (.resolve g.words)
  | "metrics" => some (.metrics g.types g.select)
  | "compile" => some (.compile g.words.head?)
  | "schema" => some .schema
  | "init" => some (.init g.db)
  | "ingest" => some (.ingest g.words.head? g.db)
  | _ => none

/-- The request that a command makes with what has been given to it, after
some general options. -/
def Given.request (g : Given) (before : General) (name : String) : Request :=
  match g.command? name with
  | some c => .run (g.general.orElse before) c
  | none => .misuse

def readGiven (before : General) (known : List Flag) (name : String) (g : Given)
    (args : List String) : Request :=
  match args with
  | [] => g.request before name
  | arg :: args =>
    match _h : readItem known arg args with
    | none => .misuse
    | some (.divider, rest) =>
      match rest.foldlM (Given.addWord? name) g with
      | some g => g.request before name
      | none => .misuse
    | some (.word w, rest) =>
      match g.addWord? name w with
      | some g => readGiven before known name g rest
      | none => .misuse
    | some (.option .help _, _) => .help
    | some (.option flag v, rest) =>
      match g.add? flag v with
      | some g => readGiven before known name g rest
      | none => .misuse
termination_by args.length
decreasing_by
  all_goals
    have := readItem_length _h
    simp at this ⊢
    omega

/-- The request for help that the given words make: none of them, or the
name of one command. -/
def helpRequest : List String → Request
  | [] => .help
  | [w] => if w = "help" ∨ commands.any (fun c => c.1 == w) then .help else .misuse
  | _ => .misuse

/-- Reads the general options before a command, and then the command. -/
def readRequest (before : General) (args : List String) : Request :=
  match args with
  | [] => .misuse
  | arg :: args =>
    match _h : readItem [.config, .level, .help, .version] arg args with
    | none => .misuse
    | some (.divider, _) => .misuse
    | some (.word w, rest) =>
      if w = "help" then helpRequest rest
      else match commands.find? fun c => c.1 == w with
        | some (_, known) => readGiven before ([.config, .level, .help] ++ known) w {} rest
        | none => .misuse
    | some (.option .help _, _) => .help
    | some (.option .version _, _) => .version
    | some (.option flag v, rest) =>
      match before.add? flag v with
      | some before => readRequest before rest
      | none => .misuse
termination_by args.length
decreasing_by
  have := readItem_length _h
  simp at this ⊢
  omega

/-- The request of a command line. -/
def Request.ofArguments (args : List String) : Request := readRequest {} args

end Command

end EventAnalytics
