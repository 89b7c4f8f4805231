import Laforge.Go.Json.Scanner

/-!
# Laforge.Go.Json.Encode

What `json.Marshal` writes for the values a revision record is made of.

1. `appendString` writes a string between double quotes.  It escapes `"` and `\`, the control
   characters (`\b`, `\f`, `\n`, `\r`, `\t` by name, the others as `\u00XX`), and, because
   `Marshal` escapes HTML, `<`, `>` and `&` as `\u003c`, `\u003e`, `\u0026`; it escapes U+2028
   and U+2029 always.  Every other rune is written as its UTF-8 bytes.  A Lean `String` is valid
   UTF-8, so the branch that replaces an invalid byte by `\ufffd` is never taken, and Go's
   loop, which copies unescaped runs in one piece, writes what escaping rune by rune writes.
2. `Value` is what the encoder walks: `null`, booleans, unsigned integers, strings, arrays, and
   objects with their members in the order they are written (a struct's fields in declaration
   order; a map's keys sorted).  `encode` writes it with no white space, as `Marshal` does.
-/

namespace Laforge.Go.Json

open Laforge.Go.Utf8

/-! ## Strings -/

/-- A lowercase hexadecimal digit (`hex`). -/
def hexDigit (d : Nat) : UInt8 := ascii (Nat.digitChar d)

/-- `htmlSafeSet`: the ASCII runes written as they are. -/
def htmlSafe (n : Nat) : Bool :=
  0x20 ≤ n && n ≤ 0x7F && n != 0x22 && n != 0x5C && n != 0x3C && n != 0x3E && n != 0x26

/-- What `appendString` writes for one rune. -/
def escapeRune (c : Char) : List UInt8 :=
  let n := c.toNat
  if n < 0x80 then
    if htmlSafe n then [UInt8.ofNat n]
    else if n = 0x5C ∨ n = 0x22 then [ascii '\\', UInt8.ofNat n]
    else if n = 0x08 then [ascii '\\', ascii 'b']
    else if n = 0x0C then [ascii '\\', ascii 'f']
    else if n = 0x0A then [ascii '\\', ascii 'n']
    else if n = 0x0D then [ascii '\\', ascii 'r']
    else if n = 0x09 then [ascii '\\', ascii 't']
    else [ascii '\\', ascii 'u', ascii '0', ascii '0', hexDigit (n / 16), hexDigit (n % 16)]
  else if n = 0x2028 ∨ n = 0x2029 then
    [ascii '\\', ascii 'u', ascii '2', ascii '0', ascii '2', hexDigit (n % 16)]
  else encodeRune c

/-- The escaped runes of a string, without the quotes. -/
def escapeString (s : String) : List UInt8 := s.data.flatMap escapeRune

/-- `appendString(dst, s, true)`. -/
def appendString (s : String) : List UInt8 := ascii '"' :: escapeString s ++ [ascii '"']

example : appendString "a<\n" =
    asciiBytes "\"a\\u003c\\n\"" := by decide

/-! ## Values -/

/-- A value as the encoder walks it. -/
inductive Value
  | null
  | bool (b : Bool)
  | uint (n : Nat)
  | string (s : String)
  | array (elems : List Value)
  | object (members : List (String × Value))
deriving Repr

mutual
/-- `encode`: a value's JSON text. -/
def encode : Value → List UInt8
  | .null => asciiBytes "null"
  | .bool b => asciiBytes (if b then "true" else "false")
  | .uint n => appendUint n
  | .string s => appendString s
  | .array [] => asciiBytes "[]"
  | .array (x :: xs) => ascii '[' :: encode x ++ encodeElems xs
  | .object [] => asciiBytes "{}"
  | .object ((k, v) :: ms) => ascii '{' :: appendString k ++ ascii ':' :: encode v ++ encodeMembers ms

/-- The elements of an array after its first, each after a comma, then `]`. -/
def encodeElems : List Value → List UInt8
  | [] => [ascii ']']
  | x :: xs => ascii ',' :: encode x ++ encodeElems xs

/-- The members of an object after its first, each after a comma, then `}`. -/
def encodeMembers : List (String × Value) → List UInt8
  | [] => [ascii '}']
  | (k, v) :: ms => ascii ',' :: appendString k ++ ascii ':' :: encode v ++ encodeMembers ms
end

mutual
/-- How deep objects and arrays nest in a value. -/
def Value.depth : Value → Nat
  | .array xs => depthElems xs + 1
  | .object ms => depthMembers ms + 1
  | _ => 0

/-- The deepest nesting among elements. -/
def depthElems : List Value → Nat
  | [] => 0
  | x :: xs => max x.depth (depthElems xs)

/-- The deepest nesting among members' values. -/
def depthMembers : List (String × Value) → Nat
  | [] => 0
  | (_, v) :: ms => max v.depth (depthMembers ms)
end

example : encode (.object [("a", .array [.uint 1, .null]), ("b", .string "x")]) =
    asciiBytes "\x7b\"a\":[1,null],\"b\":\"x\"\x7d" := by decide

end Laforge.Go.Json
