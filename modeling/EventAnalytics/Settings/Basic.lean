/-
The settings of the program, read from a settings document.

There are three sections, each optional and with a default for each of its
fields: the log, the query compiler and the event store. A document is
refused when it is none, when a field has a value of the wrong type, or
when the settings of the compiler have a fault.
-/
import EventAnalytics.Settings.Analytics
import EventAnalytics.Settings.Log
import EventAnalytics.Toml.Reader

namespace EventAnalytics

/-- The settings of the event store. -/
structure StoreSettings where
  /-- The database file, or `:memory:`. -/
  path : String := "data/events.db"
  deriving DecidableEq, Repr

def StoreSettings.decode? (v : Toml) : Option StoreSettings :=
  match v.record? ["path"] with
  | some [path] => do
    let path ← Toml.fieldOr "data/events.db" Toml.text? path
    return ⟨path⟩
  | _ => none

structure Settings where
  log : LogSettings := {}
  analytics : AnalyticsSettings := {}
  store : StoreSettings := {}
  deriving DecidableEq, Repr

/-- Why a text is refused as settings. -/
inductive SettingsError where
  /-- It is no document, or a value has the wrong type. -/
  | unreadable
  | fault (fault : AnalyticsFault)
  deriving DecidableEq, Repr

namespace Settings

/-- Settings as a document holds them, faults included. -/
def decode? (v : Toml) : Option Settings :=
  match v.record? ["log", "analytics", "store"] with
  | some [log, analytics, store] => do
    let log ← Toml.fieldOr {} LogSettings.decode? log
    let analytics ← Toml.fieldOr {} AnalyticsSettings.decode? analytics
    let store ← Toml.fieldOr {} StoreSettings.decode? store
    return ⟨log, analytics, store⟩
  | _ => none

/-- The settings that a text describes. -/
def ofText (s : String) : Except SettingsError Settings :=
  match (Toml.ofText? s).bind decode? with
  | none => .error .unreadable
  | some settings =>
    match settings.analytics.fault? with
    | some f => .error (.fault f)
    | none => .ok settings

end Settings

end EventAnalytics
