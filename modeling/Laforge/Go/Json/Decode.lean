import Laforge.Go.Json.Scanner

/-!
# Laforge.Go.Json.Decode

The second pass of `json.Unmarshal`, which walks a document `checkValid` has accepted, and the
conversions it makes on the literals it meets.

1. The walk (`value`, `array`, `object` with `rescanLiteral` and `scanWhile(scanSkipSpace)`)
   visits each value once: a literal as its bytes (`item`, what `literalStore` receives), an
   array as its elements, an object as its members in order, each key as the bytes of its
   string literal.  `readValue` reads that tree (`JValue`); the decoders of the record types
   walk the tree the way `value` walks the bytes.  Like the source, the walk trusts the first
   pass: it does not check the bytes again, and where the source would panic
   (`phasePanicMsg`) the model returns `none`.  The reader's fuel bounds its nesting; a call
   that nests always reads a byte first, so the length of the input is enough.
2. `unquoteBytes` turns a string literal into the string it denotes: escapes are replaced,
   `\u` escapes that form a surrogate pair give one rune, and a lone surrogate or an invalid
   UTF-8 byte gives U+FFFD.  The source first looks for a prefix that needs no change; the
   loop below writes the same bytes for it.
-/

namespace Laforge.Go.Json

open Laforge.Go.Utf8

/-! ## The walk -/

/-- A value as the decoder's walk meets it. -/
inductive JValue
  | literal (item : List UInt8)
  | array (elems : List JValue)
  | object (members : List (List UInt8 × JValue))
deriving Repr

/-- `scanWhile(scanSkipSpace)`: drop white space. -/
def skipSpace : List UInt8 → List UInt8
  | [] => []
  | c :: cs => if isSpace c then skipSpace cs else c :: cs

theorem skipSpace_of_not_space {c : UInt8} (h : isSpace c = false) (cs : List UInt8) :
    skipSpace (c :: cs) = c :: cs := by
  simp only [skipSpace, h, Bool.false_eq_true, ↓reduceIte]

/-- `rescanLiteral` inside a string: the bytes up to the closing quote, which is included; a
backslash takes the byte after it along. -/
def rescanString : List UInt8 → Option (List UInt8 × List UInt8)
  | [] => none
  | c :: cs =>
    if c = ascii '\\' then
      match cs with
      | [] => none
      | d :: ds => (rescanString ds).map fun p => (c :: d :: p.1, p.2)
    else if c = ascii '"' then some ([c], cs)
    else (rescanString cs).map fun p => (c :: p.1, p.2)

theorem rescanString_cons_of_ne {c : UInt8} (h1 : c ≠ ascii '\\') (h2 : c ≠ ascii '"')
    (cs : List UInt8) :
    rescanString (c :: cs) = (rescanString cs).map fun p => (c :: p.1, p.2) := by
  cases cs <;> simp only [rescanString.eq_2, rescanString.eq_3, if_neg h1, if_neg h2]

theorem rescanString_backslash (d : UInt8) (ds : List UInt8) :
    rescanString (ascii '\\' :: d :: ds) =
      (rescanString ds).map fun p => (ascii '\\' :: d :: p.1, p.2) := rfl

theorem rescanString_quote (cs : List UInt8) :
    rescanString (ascii '"' :: cs) = some ([ascii '"'], cs) := by
  cases cs <;> rfl

/-- The bytes a number literal may hold. -/
def isNumberByte (c : UInt8) : Bool :=
  isDigit c || c = ascii '.' || c = ascii 'e' || c = ascii 'E' || c = ascii '+' || c = ascii '-'

/-- `rescanLiteral`: the literal that starts with `c`, and what follows it. -/
def rescanLiteral (c : UInt8) (cs : List UInt8) : Option (List UInt8 × List UInt8) :=
  if c = ascii '"' then (rescanString cs).map fun p => (c :: p.1, p.2)
  else if isDigit c || c = ascii '-' then some (c :: cs.takeWhile isNumberByte, cs.dropWhile isNumberByte)
  else if c = ascii 't' || c = ascii 'n' then some (c :: cs.take 3, cs.drop 3)
  else if c = ascii 'f' then some (c :: cs.take 4, cs.drop 4)
  else some ([c], cs)

mutual
/-- `value`: the value after white space, and the bytes after it. -/
def readValue : Nat → List UInt8 → Option (JValue × List UInt8)
  | 0, _ => none
  | fuel + 1, bs =>
    match skipSpace bs with
    | [] => none
    | c :: cs =>
      if c = ascii '{' then (readMembers fuel cs).map fun p => (.object p.1, p.2)
      else if c = ascii '[' then (readElems fuel cs).map fun p => (.array p.1, p.2)
      else (rescanLiteral c cs).map fun p => (.literal p.1, p.2)

/-- The loop of `array`: elements up to the closing `]`. -/
def readElems : Nat → List UInt8 → Option (List JValue × List UInt8)
  | 0, _ => none
  | fuel + 1, bs =>
    match skipSpace bs with
    | [] => none
    | c :: cs =>
      if c = ascii ']' then some ([], cs) else
      match readValue fuel (c :: cs) with
      | none => none
      | some (x, r) =>
        match skipSpace r with
        | [] => none
        | d :: r' =>
          if d = ascii ']' then some ([x], r')
          else if d = ascii ',' then (readElems fuel r').map fun p => (x :: p.1, p.2)
          else none

/-- The loop of `object`: members up to the closing `}`. -/
def readMembers : Nat → List UInt8 → Option (List (List UInt8 × JValue) × List UInt8)
  | 0, _ => none
  | fuel + 1, bs =>
    match skipSpace bs with
    | [] => none
    | c :: cs =>
      if c = ascii '}' then some ([], cs) else
      match rescanLiteral c cs with
      | none => none
      | some (key, r) =>
        match skipSpace r with
        | [] => none
        | d :: r' =>
          if d ≠ ascii ':' then none else
          match readValue fuel r' with
          | none => none
          | some (v, r'') =>
            match skipSpace r'' with
            | [] => none
            | e :: rest =>
              if e = ascii '}' then some ([(key, v)], rest)
              else if e = ascii ',' then (readMembers fuel rest).map fun p => ((key, v) :: p.1, p.2)
              else none
end

theorem readValue_literal {c : UInt8} {cs item rest : List UInt8} (hsp : isSpace c = false)
    (h1 : c ≠ ascii '{') (h2 : c ≠ ascii '[') (hr : rescanLiteral c cs = some (item, rest))
    (fuel : Nat) : readValue (fuel + 1) (c :: cs) = some (.literal item, rest) := by
  simp only [readValue, skipSpace_of_not_space hsp, if_neg h1, if_neg h2, hr, Option.map_some']

theorem readValue_lbracket (fuel : Nat) (cs : List UInt8) :
    readValue (fuel + 1) (ascii '[' :: cs) = (readElems fuel cs).map fun p => (.array p.1, p.2) := by
  simp only [readValue, skipSpace_of_not_space (by decide : isSpace (ascii '[') = false)]
  rfl

theorem readValue_lbrace (fuel : Nat) (cs : List UInt8) :
    readValue (fuel + 1) (ascii '{' :: cs) = (readMembers fuel cs).map fun p => (.object p.1, p.2) := by
  simp only [readValue, skipSpace_of_not_space (by decide : isSpace (ascii '{') = false)]
  rfl

theorem readElems_rbracket (fuel : Nat) (cs : List UInt8) :
    readElems (fuel + 1) (ascii ']' :: cs) = some ([], cs) := by
  simp only [readElems, skipSpace_of_not_space (by decide : isSpace (ascii ']') = false)]
  rfl

/-- An element, then the end of the array or a comma and the next elements. -/
theorem readElems_elem {c : UInt8} {cs r : List UInt8} {x : JValue} {d : UInt8} {r' : List UInt8}
    (hsp : isSpace c = false) (hc : c ≠ ascii ']') (fuel : Nat)
    (hx : readValue fuel (c :: cs) = some (x, r)) (hr : skipSpace r = d :: r') :
    readElems (fuel + 1) (c :: cs) =
      if d = ascii ']' then some ([x], r')
      else if d = ascii ',' then (readElems fuel r').map fun p => (x :: p.1, p.2)
      else none := by
  simp only [readElems, skipSpace_of_not_space hsp, if_neg hc, hx, hr]

theorem readMembers_rbrace (fuel : Nat) (cs : List UInt8) :
    readMembers (fuel + 1) (ascii '}' :: cs) = some ([], cs) := by
  simp only [readMembers, skipSpace_of_not_space (by decide : isSpace (ascii '}') = false)]
  rfl

/-- A key, a colon and a value, then the end of the object or a comma and the next members. -/
theorem readMembers_member {c : UInt8} {cs key r r' : List UInt8} {v : JValue} {r'' : List UInt8}
    {e : UInt8} {rest : List UInt8} (hsp : isSpace c = false) (hc : c ≠ ascii '}') (fuel : Nat)
    (hk : rescanLiteral c cs = some (key, r)) (hcolon : skipSpace r = ascii ':' :: r')
    (hv : readValue fuel r' = some (v, r'')) (hr : skipSpace r'' = e :: rest) :
    readMembers (fuel + 1) (c :: cs) =
      if e = ascii '}' then some ([(key, v)], rest)
      else if e = ascii ',' then (readMembers fuel rest).map fun p => ((key, v) :: p.1, p.2)
      else none := by
  simp only [readMembers, skipSpace_of_not_space hsp, if_neg hc, hk, hcolon, hv, hr, ne_eq,
    not_true_eq_false, ↓reduceIte]

/-- The value a whole document holds. -/
def readDocument (data : List UInt8) : Option JValue :=
  (readValue (data.length + 1) data).map Prod.fst

/-! ## String literals -/

/-- The value of a hexadecimal digit. -/
def hexVal (c : UInt8) : Option Nat :=
  if isDigit c then some (c.toNat - 0x30)
  else if 0x61 ≤ c.toNat ∧ c.toNat ≤ 0x66 then some (c.toNat - 0x61 + 10)
  else if 0x41 ≤ c.toNat ∧ c.toNat ≤ 0x46 then some (c.toNat - 0x41 + 10)
  else none

/-- `getu4`: the rune a `\uXXXX` escape at the start of the bytes spells. -/
def getu4 : List UInt8 → Option Nat
  | b :: u :: h1 :: h2 :: h3 :: h4 :: _ =>
    if b = ascii '\\' ∧ u = ascii 'u' then do
      let d1 ← hexVal h1
      let d2 ← hexVal h2
      let d3 ← hexVal h3
      let d4 ← hexVal h4
      pure (((d1 * 16 + d2) * 16 + d3) * 16 + d4)
    else none
  | _ => none

/-- `utf16.IsSurrogate`. -/
def isSurrogate (r : Nat) : Bool := 0xD800 ≤ r && r < 0xE000

/-- `utf16.DecodeRune`: the rune a surrogate pair encodes, `none` for U+FFFD. -/
def decodeSurrogates (r1 r2 : Nat) : Option Char :=
  if 0xD800 ≤ r1 ∧ r1 < 0xDC00 ∧ 0xDC00 ≤ r2 ∧ r2 < 0xE000 then
    some (Char.ofNat (((r1 - 0xD800) * 1024 + (r2 - 0xDC00)) + 0x10000))
  else none

/-- The character an escape other than `\u` stands for. -/
def simpleEscape (e : UInt8) : Option Char :=
  if e = ascii '"' ∨ e = ascii '\\' ∨ e = ascii '/' ∨ e = ascii '\x27' then some (Char.ofNat e.toNat)
  else if e = ascii 'b' then some '\x08'
  else if e = ascii 'f' then some '\x0c'
  else if e = ascii 'n' then some '\n'
  else if e = ascii 'r' then some '\r'
  else if e = ascii 't' then some '\t'
  else none

/-- The loop of `unquoteBytes` over the bytes between the quotes; `fuel` bounds the number of
runes, and the number of bytes is enough. -/
def unquoteLoop : Nat → List UInt8 → Option (List Char)
  | _, [] => some []
  | 0, _ :: _ => none
  | fuel + 1, c :: cs =>
    if c = ascii '\\' then
      match cs with
      | [] => none
      | e :: rest =>
        if e = ascii 'u' then
          match getu4 (c :: cs) with
          | none => none
          | some rr =>
            let after := rest.drop 4
            if isSurrogate rr then
              match (getu4 after).bind (decodeSurrogates rr) with
              | some dec => (unquoteLoop fuel (after.drop 6)).map (dec :: ·)
              | none => (unquoteLoop fuel after).map (runeError :: ·)
            else (unquoteLoop fuel after).map (Char.ofNat rr :: ·)
        else
          match simpleEscape e with
          | some ch => (unquoteLoop fuel rest).map (ch :: ·)
          | none => none
    else if c = ascii '"' ∨ c.toNat < 0x20 then none
    else if c.toNat < 0x80 then (unquoteLoop fuel cs).map (Char.ofNat c.toNat :: ·)
    else
      let r := decodeRune (c :: cs)
      (unquoteLoop fuel ((c :: cs).drop r.2)).map (r.1 :: ·)

theorem unquoteLoop_ascii {c : UInt8} (h1 : c ≠ ascii '\\') (h2 : c ≠ ascii '"')
    (h3 : 0x20 ≤ c.toNat) (h4 : c.toNat < 0x80) (fuel : Nat) (cs : List UInt8) :
    unquoteLoop (fuel + 1) (c :: cs) = (unquoteLoop fuel cs).map (Char.ofNat c.toNat :: ·) := by
  cases cs <;> simp only [unquoteLoop.eq_3, unquoteLoop.eq_4, if_neg h1,
    if_neg (not_or.mpr ⟨h2, Nat.not_lt.mpr h3⟩), if_pos h4]

theorem unquoteLoop_high {c : UInt8} (h : 0x80 ≤ c.toNat) (fuel : Nat) (cs : List UInt8) :
    unquoteLoop (fuel + 1) (c :: cs) =
      (unquoteLoop fuel ((c :: cs).drop (decodeRune (c :: cs)).2)).map
        ((decodeRune (c :: cs)).1 :: ·) := by
  have h1 : c ≠ ascii '\\' := fun e => by subst e; revert h; decide
  have h2 : c ≠ ascii '"' := fun e => by subst e; revert h; decide
  have h3 : ¬ (c = ascii '"' ∨ c.toNat < 0x20) := not_or.mpr ⟨h2, by omega⟩
  cases cs <;> simp only [unquoteLoop.eq_3, unquoteLoop.eq_4, if_neg h1, if_neg h3,
    if_neg (by omega : ¬ c.toNat < 0x80)]

theorem unquoteLoop_escape {e : UInt8} {ch : Char} (hu : e ≠ ascii 'u')
    (hs : simpleEscape e = some ch) (fuel : Nat) (rest : List UInt8) :
    unquoteLoop (fuel + 1) (ascii '\\' :: e :: rest) = (unquoteLoop fuel rest).map (ch :: ·) := by
  simp only [unquoteLoop.eq_4, ↓reduceIte, if_neg hu, hs]

theorem unquoteLoop_u {rr : Nat} {rest : List UInt8}
    (h : getu4 (ascii '\\' :: ascii 'u' :: rest) = some rr) (hs : isSurrogate rr = false)
    (fuel : Nat) :
    unquoteLoop (fuel + 1) (ascii '\\' :: ascii 'u' :: rest) =
      (unquoteLoop fuel (rest.drop 4)).map (Char.ofNat rr :: ·) := by
  simp only [unquoteLoop.eq_4, ↓reduceIte, h, hs, Bool.false_eq_true]

/-- `unquoteBytes`: the string a string literal, quotes included, denotes. -/
def unquoteBytes (item : List UInt8) : Option String :=
  match item with
  | c :: rest =>
    if c = ascii '"' ∧ rest.getLast? = some (ascii '"') then
      (unquoteLoop rest.length rest.dropLast).map String.mk
    else none
  | [] => none

example : unquoteBytes (asciiBytes "\"a\\u00e9\\n\"") = some "aé\n" := by decide
example : unquoteBytes (asciiBytes "\"\\ud83d\\ude00\"") = some "😀" := by decide

end Laforge.Go.Json
