/-
Settings documents as values.

A document is a table of named values. Numbers and dates are checked when
a document is read, and then kept as they were written, since nothing
here computes with them.
-/

namespace EventAnalytics

/-- A value of a settings document. -/
inductive Toml where
  | text (value : String)
  | bool (value : Bool)
  /-- A whole number or a float, as written. -/
  | number (written : String)
  /-- A date, a time of day or both, as written. -/
  | moment (written : String)
  | array (items : List Toml)
  | table (fields : List (String × Toml))
  deriving Repr

end EventAnalytics
