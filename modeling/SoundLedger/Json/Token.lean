import SoundLedger.Json.Basic
import SoundLedger.Text.Hex

/-!
# JSON tokens

The words of a JSON text: punctuation, the three names, number literals and string literals. Blanks
between words are space, tab, line feed and carriage return.

A string literal is read in two steps. Its body is a list of pieces, each a character or a UTF-16
unit from a `\u` escape; then the units are joined to characters, two of them where they form a
surrogate pair.
-/

namespace SoundLedger.Json

/-- A word of a JSON text. -/
inductive Token where
  | openBrace
  | closeBrace
  | openBracket
  | closeBracket
  | colon
  | comma
  | null
  | bool (value : Bool)
  | number (literal : Numeral)
  | string (literal : Literal)
deriving DecidableEq

/-- The blanks that may stand between words. -/
def isSpace (c : Char) : Bool := c == ' ' || c == '\n' || c == '\r' || c == '\t'

/-! ## String literals -/

/-- A piece of a string body. -/
inductive Piece where
  | char (c : Char)
  | unit (code : Nat)
deriving DecidableEq, Repr

/-- The unit that four hexadecimal digits write. -/
def hexUnit? (a b c d : Char) : Option Nat := do
  let a ← HexDigit.ofChar? a
  let b ← HexDigit.ofChar? b
  let c ← HexDigit.ofChar? c
  let d ← HexDigit.ofChar? d
  return 4096 * a.val + 256 * b.val + 16 * c.val + d.val

/-- The character of a two-character escape, by the character after the backslash. -/
def shortEscape? (c : Char) : Option Char :=
  match c with
  | '"' => some '"'
  | '\\' => some '\\'
  | '/' => some '/'
  | 'b' => some '\x08'
  | 'f' => some '\x0c'
  | 'n' => some '\n'
  | 'r' => some '\r'
  | 't' => some '\t'
  | _ => none

/-- The pieces of a string body up to its closing quote, and the text after that quote. A control
character does not stand in a body. -/
def readPieces? : List Char → Option (List Piece × List Char)
  | '"' :: rest => some ([], rest)
  | '\\' :: 'u' :: a :: b :: c :: d :: rest => do
    let code ← hexUnit? a b c d
    let (pieces, tail) ← readPieces? rest
    return (.unit code :: pieces, tail)
  | '\\' :: c :: rest => do
    let char ← shortEscape? c
    let (pieces, tail) ← readPieces? rest
    return (.char char :: pieces, tail)
  | c :: rest => do
    if c.toNat < 32 ∨ c = '\\' then none
    else
      let (pieces, tail) ← readPieces? rest
      return (.char c :: pieces, tail)
  | [] => none

/-- The units that open and close a surrogate pair. -/
def isHighSurrogate (code : Nat) : Bool := 0xD800 ≤ code && code < 0xDC00

def isLowSurrogate (code : Nat) : Bool := 0xDC00 ≤ code && code < 0xE000

/-- The character that a surrogate pair stands for. -/
def joinSurrogates (high low : Nat) : Char :=
  Char.ofNat (0x10000 + 0x400 * (high - 0xD800) + (low - 0xDC00))

/-- The characters of a string body, unless half a surrogate pair stands alone in it. -/
def joinPieces? : List Piece → Option (List Char)
  | [] => some []
  | .char c :: rest => (joinPieces? rest).map (c :: ·)
  | .unit high :: .unit low :: rest =>
    if isHighSurrogate high then
      if isLowSurrogate low then (joinPieces? rest).map (joinSurrogates high low :: ·) else none
    else if isLowSurrogate high then none
    else (joinPieces? (.unit low :: rest)).map (Char.ofNat high :: ·)
  | .unit code :: rest =>
    if isHighSurrogate code || isLowSurrogate code then none
    else (joinPieces? rest).map (Char.ofNat code :: ·)

/-- The literal whose body starts a text, and the text after its closing quote. -/
def readLiteral? (text : List Char) : Option (Literal × List Char) := do
  let (pieces, rest) ← readPieces? text
  return ((joinPieces? pieces).map String.ofList, rest)

/-! ## Number literals -/

/-- The power of ten at the front of a text, if `e` stands there. -/
def readPower? : List Char → Option (Option Power × List Char)
  | c :: rest =>
    if c = 'e' ∨ c = 'E' then
      let (negative, body) := match rest with
        | '-' :: tail => (true, tail)
        | '+' :: tail => (false, tail)
        | _ => (false, rest)
      match Digit.takeRun body with
      | ([], _) => none
      | (digits, tail) => some (some ⟨negative, digits⟩, tail)
    else some (none, c :: rest)
  | [] => some (none, [])

/-- The digits after the point at the front of a text, if a point stands there. -/
def readFraction? : List Char → Option (List Digit × List Char)
  | '.' :: rest =>
    match Digit.takeRun rest with
    | ([], _) => none
    | (digits, tail) => some (digits, tail)
  | text => some ([], text)

/-- The number literal at the front of a text and what follows it. A whole part of more than one
digit does not start with zero. -/
def readNumeral? (text : List Char) : Option (Numeral × List Char) :=
  let (negative, body) := match text with
    | '-' :: rest => (true, rest)
    | _ => (false, text)
  match Digit.takeRun body with
  | ([], _) => none
  | (first :: more, afterWhole) =>
    if first = Digit.zero ∧ more ≠ [] then none
    else do
      let (fraction, afterFraction) ← readFraction? afterWhole
      let (power, rest) ← readPower? afterFraction
      return (⟨negative, first :: more, fraction, power⟩, rest)

/-! ## Words -/

/-- The word at the front of a text that does not start with a blank, and the text after it. -/
def readToken? : List Char → Option (Token × List Char)
  | '{' :: rest => some (.openBrace, rest)
  | '}' :: rest => some (.closeBrace, rest)
  | '[' :: rest => some (.openBracket, rest)
  | ']' :: rest => some (.closeBracket, rest)
  | ':' :: rest => some (.colon, rest)
  | ',' :: rest => some (.comma, rest)
  | '"' :: rest => (readLiteral? rest).map fun (literal, tail) => (.string literal, tail)
  | 'n' :: 'u' :: 'l' :: 'l' :: rest => some (.null, rest)
  | 't' :: 'r' :: 'u' :: 'e' :: rest => some (.bool true, rest)
  | 'f' :: 'a' :: 'l' :: 's' :: 'e' :: rest => some (.bool false, rest)
  | text => (readNumeral? text).map fun (literal, tail) => (.number literal, tail)

/-- The words of a text, given a bound on their number. -/
def tokensWithin? : Nat → List Char → Option (List Token)
  | _, [] => some []
  | 0, _ :: _ => none
  | bound + 1, c :: rest =>
    if isSpace c then tokensWithin? bound rest
    else
      match readToken? (c :: rest) with
      | some (token, tail) => (tokensWithin? bound tail).map (token :: ·)
      | none => none

/-- The words of a text. Each word and each blank has a character, so the length of the text bounds
their number. -/
def tokens? (text : List Char) : Option (List Token) := tokensWithin? text.length text

end SoundLedger.Json
