import Laforge.Go.Strconv

/-!
# Laforge.Go.Json.Scanner

The first pass of `json.Unmarshal`: `checkValid` runs encoding/json's scanner over the whole
document before anything is decoded, and returns the scanner's `SyntaxError` text when the
document is not one JSON value with optional white space around it.

1. The scanner is a state machine over bytes.  Its state is the `step` function it is in
   (`ScanStep`, one constructor per `state...` function of the source), the stack of what each
   open object or array is parsing (`ParseState`, innermost first), whether the top-level value
   has ended, and the error.
2. Each `state...` function is a definition here under its own name; `runStep` dispatches
   to the one the scanner is in, as `s.step(s, c)` does.
3. Objects and arrays nest at most `maxNestingDepth` deep.
4. The scanner counts the bytes it read only to put the offset into a `SyntaxError`; the text
   of the error does not show it, so the model leaves the count out.
-/

namespace Laforge.Go.Json

/-- `isSpace`: space, tab, carriage return or line feed. -/
def isSpace (c : UInt8) : Bool :=
  c = ascii ' ' || c = ascii '\t' || c = ascii '\r' || c = ascii '\n'

/-- A hexadecimal digit, either case. -/
def isHex (c : UInt8) : Bool :=
  isDigit c || (0x61 ≤ c.toNat && c.toNat ≤ 0x66) || (0x41 ≤ c.toNat && c.toNat ≤ 0x46)

/-! ## Error texts -/

/-- `strconv.IsPrint` of a rune below U+0100. -/
def isPrintLatin1 (n : Nat) : Bool :=
  (0x20 ≤ n && n ≤ 0x7E) || (0xA1 ≤ n && n ≤ 0xFF && n != 0xAD)

/-- Two lowercase hexadecimal digits. -/
def hex2 (n : Nat) : String := ⟨[Nat.digitChar (n / 16), Nat.digitChar (n % 16)]⟩

/-- `strconv.Quote(string(c))` without its quotes.  `string(c)` of a byte is the rune U+00XX, so
a byte above `0x7F` shows as the Latin-1 character it numbers. -/
def quoteRune (c : UInt8) : String :=
  let n := c.toNat
  if n = 0x5C then "\\\\"
  else if isPrintLatin1 n then (Char.ofNat n).toString
  else if n = 7 then "\\a" else if n = 8 then "\\b" else if n = 12 then "\\f"
  else if n = 10 then "\\n" else if n = 13 then "\\r" else if n = 9 then "\\t"
  else if n = 11 then "\\v"
  else if n < 0x20 || n = 0x7F then "\\x" ++ hex2 n
  else "\\u00" ++ hex2 n

/-- `quoteChar`: a byte between single quotes, for the scanner's messages. -/
def quoteChar (c : UInt8) : String :=
  if c = ascii '\x27' then "'\\''"
  else if c = ascii '"' then "'\"'"
  else "'" ++ quoteRune c ++ "'"

example : quoteChar (ascii 'x') = "'x'" := by decide
example : quoteChar 0x0A = "'\\n'" := by decide

/-! ## The scanner's state -/

/-- The `step` function the scanner is in. -/
inductive ScanStep
  | stateBeginValueOrEmpty | stateBeginValue | stateBeginStringOrEmpty | stateBeginString
  | stateEndValue | stateEndTop
  | stateInString | stateInStringEsc | stateInStringEscU | stateInStringEscU1
  | stateInStringEscU12 | stateInStringEscU123
  | stateNeg | state1 | state0 | stateDot | stateDot0 | stateE | stateESign | stateE0
  | stateT | stateTr | stateTru | stateF | stateFa | stateFal | stateFals
  | stateN | stateNu | stateNul
  | stateError
deriving DecidableEq, Repr

/-- What one step reports to the caller. -/
inductive ScanOp
  | scanContinue | scanBeginLiteral | scanBeginObject | scanObjectKey | scanObjectValue
  | scanEndObject | scanBeginArray | scanArrayValue | scanEndArray | scanSkipSpace
  | scanEnd | scanError
deriving DecidableEq, Repr

/-- What an open object or array is parsing. -/
inductive ParseState
  | parseObjectKey | parseObjectValue | parseArrayValue
deriving DecidableEq, Repr

/-- `maxNestingDepth`. -/
def maxNestingDepth : Nat := 10000

/-- `scanner`. -/
structure Scanner where
  /-- the `state...` function the next byte goes to -/
  step : ScanStep
  /-- the top-level value has ended -/
  endTop : Bool
  /-- one entry per open object or array, innermost first -/
  parseState : List ParseState
  /-- the text of the `SyntaxError` once one occurred -/
  err : Option String
deriving DecidableEq, Repr

namespace Scanner

/-- `reset`: the scanner before a document. -/
def reset : Scanner := ⟨.stateBeginValue, false, [], none⟩

/-- `s.error(c, context)`. -/
def error (s : Scanner) (c : UInt8) (context : String) : Scanner × ScanOp :=
  ({ s with step := .stateError,
            err := some ("invalid character " ++ quoteChar c ++ " " ++ context) }, .scanError)

/-- `pushParseState`: open an object or array, unless that nests too deep. -/
def pushParseState (s : Scanner) (c : UInt8) (newParseState : ParseState)
    (successState : ScanOp) : Scanner × ScanOp :=
  let s := { s with parseState := newParseState :: s.parseState }
  if s.parseState.length ≤ maxNestingDepth then (s, successState)
  else s.error c "exceeded max depth"

/-- `popParseState`: close the innermost object or array; closing the outermost ends the
top-level value. -/
def popParseState (s : Scanner) : Scanner :=
  if s.parseState.tail = [] then { s with parseState := [], step := .stateEndTop, endTop := true }
  else { s with parseState := s.parseState.tail, step := .stateEndValue }

end Scanner

open Scanner

/-! ## The state functions -/

/-- `stateEndTop`: after the top-level value only white space may follow. -/
def stateEndTop (s : Scanner) (c : UInt8) : Scanner × ScanOp :=
  if isSpace c then (s, .scanEnd) else ((s.error c "after top-level value").1, .scanEnd)

/-- `stateEndValue`: a value has ended; what may follow depends on what encloses it. -/
def stateEndValue (s : Scanner) (c : UInt8) : Scanner × ScanOp :=
  match s.parseState with
  | [] => stateEndTop { s with step := .stateEndTop, endTop := true } c
  | ps :: rest =>
    if isSpace c then ({ s with step := .stateEndValue }, .scanSkipSpace) else
    match ps with
    | .parseObjectKey =>
      if c = ascii ':' then
        ({ s with parseState := .parseObjectValue :: rest, step := .stateBeginValue }, .scanObjectKey)
      else s.error c "after object key"
    | .parseObjectValue =>
      if c = ascii ',' then
        ({ s with parseState := .parseObjectKey :: rest, step := .stateBeginString },
          .scanObjectValue)
      else if c = ascii '}' then (s.popParseState, .scanEndObject)
      else s.error c "after object key:value pair"
    | .parseArrayValue =>
      if c = ascii ',' then ({ s with step := .stateBeginValue }, .scanArrayValue)
      else if c = ascii ']' then (s.popParseState, .scanEndArray)
      else s.error c "after array element"

/-- `stateBeginValue`: the first byte of a value. -/
def stateBeginValue (s : Scanner) (c : UInt8) : Scanner × ScanOp :=
  if isSpace c then (s, .scanSkipSpace)
  else if c = ascii '{' then
    { s with step := .stateBeginStringOrEmpty }.pushParseState c .parseObjectKey .scanBeginObject
  else if c = ascii '[' then
    { s with step := .stateBeginValueOrEmpty }.pushParseState c .parseArrayValue .scanBeginArray
  else if c = ascii '"' then ({ s with step := .stateInString }, .scanBeginLiteral)
  else if c = ascii '-' then ({ s with step := .stateNeg }, .scanBeginLiteral)
  else if c = ascii '0' then ({ s with step := .state0 }, .scanBeginLiteral)
  else if c = ascii 't' then ({ s with step := .stateT }, .scanBeginLiteral)
  else if c = ascii 'f' then ({ s with step := .stateF }, .scanBeginLiteral)
  else if c = ascii 'n' then ({ s with step := .stateN }, .scanBeginLiteral)
  else if isDigit c then ({ s with step := .state1 }, .scanBeginLiteral)
  else s.error c "looking for beginning of value"

/-- `stateBeginValueOrEmpty`: after `[`, a value or the closing `]`. -/
def stateBeginValueOrEmpty (s : Scanner) (c : UInt8) : Scanner × ScanOp :=
  if isSpace c then (s, .scanSkipSpace)
  else if c = ascii ']' then stateEndValue s c
  else stateBeginValue s c

/-- `stateBeginString`: the opening quote of an object key. -/
def stateBeginString (s : Scanner) (c : UInt8) : Scanner × ScanOp :=
  if isSpace c then (s, .scanSkipSpace)
  else if c = ascii '"' then ({ s with step := .stateInString }, .scanBeginLiteral)
  else s.error c "looking for beginning of object key string"

/-- `stateBeginStringOrEmpty`: after `{`, a key or the closing `}`. -/
def stateBeginStringOrEmpty (s : Scanner) (c : UInt8) : Scanner × ScanOp :=
  if isSpace c then (s, .scanSkipSpace)
  else if c = ascii '}' then
    stateEndValue { s with parseState := .parseObjectValue :: s.parseState.tail } c
  else stateBeginString s c

/-- `stateInString`: inside a string literal. -/
def stateInString (s : Scanner) (c : UInt8) : Scanner × ScanOp :=
  if c = ascii '"' then ({ s with step := .stateEndValue }, .scanContinue)
  else if c = ascii '\\' then ({ s with step := .stateInStringEsc }, .scanContinue)
  else if c.toNat < 0x20 then s.error c "in string literal"
  else (s, .scanContinue)

/-- `stateInStringEsc`: after a backslash in a string. -/
def stateInStringEsc (s : Scanner) (c : UInt8) : Scanner × ScanOp :=
  if c = ascii 'b' || c = ascii 'f' || c = ascii 'n' || c = ascii 'r' || c = ascii 't' ||
      c = ascii '\\' || c = ascii '/' || c = ascii '"' then
    ({ s with step := .stateInString }, .scanContinue)
  else if c = ascii 'u' then ({ s with step := .stateInStringEscU }, .scanContinue)
  else s.error c "in string escape code"

/-- `stateInStringEscU`, `stateInStringEscU1`, `stateInStringEscU12` and
`stateInStringEscU123`: one of the four hexadecimal digits of a `\u` escape, then `next`. -/
def stateInStringEscUAny (next : ScanStep) (s : Scanner) (c : UInt8) : Scanner × ScanOp :=
  if isHex c then ({ s with step := next }, .scanContinue)
  else s.error c "in \\u hexadecimal character escape"

/-- `stateNeg`: after the minus sign of a number. -/
def stateNeg (s : Scanner) (c : UInt8) : Scanner × ScanOp :=
  if c = ascii '0' then ({ s with step := .state0 }, .scanContinue)
  else if isDigit c then ({ s with step := .state1 }, .scanContinue)
  else s.error c "in numeric literal"

/-- `state0`: after the integer part of a number. -/
def state0 (s : Scanner) (c : UInt8) : Scanner × ScanOp :=
  if c = ascii '.' then ({ s with step := .stateDot }, .scanContinue)
  else if c = ascii 'e' || c = ascii 'E' then ({ s with step := .stateE }, .scanContinue)
  else stateEndValue s c

/-- `state1`: inside the integer part of a number that does not start with `0`. -/
def state1 (s : Scanner) (c : UInt8) : Scanner × ScanOp :=
  if isDigit c then ({ s with step := .state1 }, .scanContinue) else state0 s c

/-- `stateDot`: after the decimal point. -/
def stateDot (s : Scanner) (c : UInt8) : Scanner × ScanOp :=
  if isDigit c then ({ s with step := .stateDot0 }, .scanContinue)
  else s.error c "after decimal point in numeric literal"

/-- `stateDot0`: inside the fraction. -/
def stateDot0 (s : Scanner) (c : UInt8) : Scanner × ScanOp :=
  if isDigit c then (s, .scanContinue)
  else if c = ascii 'e' || c = ascii 'E' then ({ s with step := .stateE }, .scanContinue)
  else stateEndValue s c

/-- `stateESign`: where the exponent's digits start. -/
def stateESign (s : Scanner) (c : UInt8) : Scanner × ScanOp :=
  if isDigit c then ({ s with step := .stateE0 }, .scanContinue)
  else s.error c "in exponent of numeric literal"

/-- `stateE`: after `e` or `E`, an optional sign. -/
def stateE (s : Scanner) (c : UInt8) : Scanner × ScanOp :=
  if c = ascii '+' || c = ascii '-' then ({ s with step := .stateESign }, .scanContinue)
  else stateESign s c

/-- `stateE0`: inside the exponent. -/
def stateE0 (s : Scanner) (c : UInt8) : Scanner × ScanOp :=
  if isDigit c then (s, .scanContinue) else stateEndValue s c

/-- `stateT`, `stateTr`, `stateTru`, `stateF`, ... `stateNul`: the next letter of `true`,
`false` or `null` is `ch`, and `next` follows it. -/
def stateLetter (word : String) (ch : Char) (next : ScanStep) (s : Scanner) (c : UInt8) :
    Scanner × ScanOp :=
  if c = ascii ch then ({ s with step := next }, .scanContinue)
  else s.error c ("in literal " ++ word ++ " (expecting " ++ quoteChar (ascii ch) ++ ")")

/-- `s.step(s, c)`: the byte goes to the state function the scanner is in. -/
def runStep : ScanStep → Scanner → UInt8 → Scanner × ScanOp
  | .stateBeginValueOrEmpty => stateBeginValueOrEmpty
  | .stateBeginValue => stateBeginValue
  | .stateBeginStringOrEmpty => stateBeginStringOrEmpty
  | .stateBeginString => stateBeginString
  | .stateEndValue => stateEndValue
  | .stateEndTop => stateEndTop
  | .stateInString => stateInString
  | .stateInStringEsc => stateInStringEsc
  | .stateInStringEscU => stateInStringEscUAny .stateInStringEscU1
  | .stateInStringEscU1 => stateInStringEscUAny .stateInStringEscU12
  | .stateInStringEscU12 => stateInStringEscUAny .stateInStringEscU123
  | .stateInStringEscU123 => stateInStringEscUAny .stateInString
  | .stateNeg => stateNeg
  | .state1 => state1
  | .state0 => state0
  | .stateDot => stateDot
  | .stateDot0 => stateDot0
  | .stateE => stateE
  | .stateESign => stateESign
  | .stateE0 => stateE0
  | .stateT => stateLetter "true" 'r' .stateTr
  | .stateTr => stateLetter "true" 'u' .stateTru
  | .stateTru => stateLetter "true" 'e' .stateEndValue
  | .stateF => stateLetter "false" 'a' .stateFa
  | .stateFa => stateLetter "false" 'l' .stateFal
  | .stateFal => stateLetter "false" 's' .stateFals
  | .stateFals => stateLetter "false" 'e' .stateEndValue
  | .stateN => stateLetter "null" 'u' .stateNu
  | .stateNu => stateLetter "null" 'l' .stateNul
  | .stateNul => stateLetter "null" 'l' .stateEndValue
  | .stateError => fun s _ => (s, .scanError)

/-! ## `checkValid` -/

/-- The loop of `checkValid`: one step per byte, returning the error at the first
`scanError`. -/
def scanBytes : Scanner → List UInt8 → Except String Scanner
  | s, [] => .ok s
  | s, c :: cs =>
    let r := runStep s.step s c
    if r.2 = .scanError then .error (r.1.err.getD "") else scanBytes r.1 cs

/-- `eof`: the end of the input is one more space, after which the top-level value must have
ended. -/
def Scanner.eof (s : Scanner) : Except String Unit :=
  match s.err with
  | some e => .error e
  | none =>
    if s.endTop then .ok () else
    let s' := (runStep s.step s (ascii ' ')).1
    if s'.endTop then .ok () else .error (s'.err.getD "unexpected end of JSON input")

/-- `checkValid`: the document is one JSON value, with white space around it at most. -/
def checkValid (data : List UInt8) : Except String Unit := do
  let s ← scanBytes Scanner.reset data
  s.eof

example : checkValid (asciiBytes "\x7b\"a\": [1, -2.5e3, true, null]\x7d") = .ok () := rfl
example : checkValid (asciiBytes "[1") = .error "unexpected end of JSON input" := rfl
example : checkValid (asciiBytes "nul") =
    .error "invalid character ' ' in literal null (expecting 'l')" := rfl
example : checkValid (asciiBytes "\x7b\"a\" 1\x7d") =
    .error "invalid character '1' after object key" := rfl
example : checkValid (asciiBytes "[1,]") =
    .error "invalid character ']' looking for beginning of value" := rfl

end Laforge.Go.Json
