import TileBrain.Json.Reader
import TileBrain.Record.Encoding
import TileBrain.Record.Reading
import TileBrain.Record.Resolution

/-! # Decoding

Stored data are read into a record, and the record is resolved in a catalog. Data may be given as a
value or as text; a value that is a string is taken for text.

A text that is given as text is parsed first and then decoded as a value, and is therefore parsed
once more if it spells a string. Nothing is read from a file here.
-/

namespace TileBrain

inductive DecodeError where
  | text (error : Json.SyntaxError)
  | record (fault : RecordFault)
  | unresolved (missing : Unresolved)
  deriving DecidableEq

def DecodeError.message : DecodeError → String
  | .text (.misread fault line column offset) =>
    "invalid brain JSON: " ++ (Json.SyntaxError.misread fault line column offset).message
  | .text error => error.message
  | .record fault => fault.message
  | .unresolved missing => missing.message

/-- How stored data are read. -/
structure DecodeOptions where
  catalog : Catalog
  mode : Mode
  policy : Policy

/-- The value that a text spells. -/
def readText (text : String) : Reported DecodeError Json :=
  .ofExcept ((Json.parse text).mapError .text)

/-- The value itself, unless it is a text that spells one. -/
def readSource : Json → Reported DecodeError Json
  | .str text => readText text
  | json => pure json

namespace DecodeOptions

def decodeRule (options : DecodeOptions) (data : Json) : Reported DecodeError Rule := do
  let json ← readSource data
  let record ← (RuleRecord.read options.mode json).mapError .record
  (record.resolveAlone options.catalog options.policy).mapError .unresolved

def decodePage (options : DecodeOptions) (data : Json) : Reported DecodeError Page := do
  let json ← readSource data
  let record ← (PageRecord.read options.mode json).mapError .record
  (record.resolveUnder options.catalog options.policy).mapError .unresolved

def decodeBrain (options : DecodeOptions) (data : Json) : Reported DecodeError Brain := do
  let json ← readSource data
  let record ← (BrainRecord.read options.mode json).mapError .record
  (record.resolveUnder options.catalog options.policy).mapError .unresolved

/-- Decodes text. A text that spells a string is read once more. -/
def decodeText (options : DecodeOptions) (text : String) : Reported DecodeError Brain := do
  let json ← readText text
  options.decodeBrain json

end DecodeOptions

end TileBrain
