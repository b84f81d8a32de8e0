import ReturnPaths.Config.Basic
import ReturnPaths.Toml.Document

/-!
# Configurations in TOML

A configuration file has three records, each of which may be left out with any of its entries:

* `checks` with the lists `enabled` and `disabled`,
* `paths` with the list `exclude`,
* `output` with the name `format`.

A record is written as a table, or as a list of its entries in this order.  What is not known is
passed over.

* `Config.ofToml?` : the configuration in a text, if it is well formed.
-/

namespace ReturnPaths

open Toml (Value)

/-- What a record holds under some names.  A date is a record that holds nothing. -/
def recordEntries (names : List String) : Value → Option (List (Option Value))
  | .table _ entries => some (names.map fun name => entries.lookup name)
  | .list elements => some (names.zipIdx.map fun (_, i) => elements[i]?)
  | .tables elements =>
    some (names.zipIdx.map fun (_, i) => elements[i]?.map (Value.table .stated))
  | .moment _ => some (names.map fun _ => none)
  | _ => none

/-- The string that a value is. -/
def textOf : Value → Option String
  | .text text => some text
  | _ => none

/-- The strings that a value lists. -/
def textsOf : Value → Option (List String)
  | .list elements => elements.mapM textOf
  | _ => none

/-- What an entry holds: nothing if it is left out, and a failure if it is not of its form. -/
def entryOf {α : Type} (read : Value → Option α) : Option Value → Option (Option α)
  | none => some none
  | some value => (read value).map some

/-- The configuration that the three records make up. -/
def configOf : List (Option Value) → Option Config
  | [checks, paths, output] => do
    let inside (names : List String) (entry : Option Value) : Option (List (Option Value)) :=
      return (← entryOf (recordEntries names) entry).getD (names.map fun _ => none)
    let [enabled, disabled] ← inside ["enabled", "disabled"] checks | none
    let [exclude] ← inside ["exclude"] paths | none
    let [format] ← inside ["format"] output | none
    return {
      enabled := ← entryOf textsOf enabled
      disabled := (← entryOf textsOf disabled).getD []
      exclude := (← entryOf textsOf exclude).getD []
      format := ← entryOf textOf format }
  | _ => none

/-- The configuration in a text. -/
def Config.ofToml? (text : String) : Option Config := do
  let entries ← Toml.parse? text
  configOf (["checks", "paths", "output"].map fun name => entries.lookup name)

end ReturnPaths
