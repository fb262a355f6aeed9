import Schemata.Config
import Schemata.Toml.Document

/-! # Configuration documents

    A configuration is read from a TOML document or from the bytes of one.
    Keys that are missing take their default and unknown keys are passed
    over. What was read is then checked. -/

namespace Schemata.Config

/-- The texts of a TOML array, if it holds nothing else. -/
def texts? : Toml.Value → Option (List String)
  | .array items => items.mapM fun
    | .string s => some s
    | _ => none
  | _ => none

/-- A TOML truth value. -/
def bool? : Toml.Value → Option Bool
  | .boolean b => some b
  | _ => none

/-- The configuration in the root table of a document. -/
def ofEntries? (es : Toml.Entries) : Option Config := do
  let probeMode ← match es.lookup "probe_compatibility_mode" with
    | some v => bool? v
    | none => some ({} : Config).probeMode
  let tableTypes ← match es.lookup "table_types" with
    | some v => texts? v
    | none => some ({} : Config).tableTypes
  return { probeMode, tableTypes }

/-- The configuration that a document spells, before any check. -/
def decode? (source : String) : Option Config := (Toml.ofText? source).bind ofEntries?

/-- The configuration of a document. -/
def ofText (source : String) : Except ConfigError Config :=
  match decode? source with
  | some c => c.check
  | none => .error .malformed

/-- The configuration of a document in a file, given its bytes; without
    them there is no file. -/
def load (bytes : Option ByteArray) : Except ConfigError Config :=
  match bytes.bind String.fromUTF8? with
  | some source => ofText source
  | none => .error .unreadable

end Schemata.Config
