import SoundLedger.Decimal.Text
import SoundLedger.Json.Fields

/-!
# Coordinates in JSON

A coordinate is written as a string, which keeps its decimals. A string is read in any form that a
decimal has, without trimming. A number literal is read too: a whole number exactly, and any other
by the shortest positional text of its binary64 value.
-/

namespace SoundLedger.Decimal

def toJson (x : Decimal) : Json := .ofString x.toText

def ofJson? : Json → Option Decimal
  | .number literal =>
    match literal.quantity? with
    | some (.natural n) => make? false n 0
    | some (.negative n) => make? true n 0
    | some (.real x) => ofPlain? x.displayChars
    | none => none
  | .string (some text) => ofChars? text.toList
  | _ => none

end SoundLedger.Decimal
