import Laforge.Go.Json.Encode
import Laforge.Go.Json.Decode

/-!
# Laforge.Go.Json.RoundTrip

What `json.Marshal` writes, `json.Unmarshal` reads back: for every `Value` nested at most
`maxNestingDepth` deep,

1. the scanner accepts `encode v` (`checkValid_encode`);
2. the decoder's walk reads `encode v` as the tree of its literals (`readDocument_encode`);
3. every string literal in it unquotes to the string it was written from
   (`unquoteBytes_appendString`), and every number to the number (`parseUint_appendUint`).

The proofs are layered like the encoder: one lemma per rune of a string, then strings, numbers
and the three words; then, by mutual recursion over the value, its elements and its members,
the walkers.  `escapeRune_cases` says once which of four shapes the bytes of a rune take; the
scanner, `rescanLiteral` and `unquoteBytes` each get their per-rune lemma from it.
-/

namespace Laforge.Go.Json

open Laforge.Go.Utf8

/-! ## Bytes -/

/-- What the encoder writes for a hexadecimal digit is one, of that value, and neither a quote
nor a backslash. -/
theorem hexDigit_spec : ∀ d < 16, hexVal (hexDigit d) = some d ∧ isHex (hexDigit d) = true ∧
    hexDigit d ≠ ascii '\\' ∧ hexDigit d ≠ ascii '"' := by
  decide

theorem isSurrogate_eq_false {r : Nat} (h : r < 0xD800 ∨ 0xE000 ≤ r) : isSurrogate r = false := by
  simp only [isSurrogate, Bool.and_eq_false_iff, decide_eq_false_iff_not]; omega

/-! ## The shapes of an escaped rune -/

/-- The escapes the encoder writes after a backslash, other than `u`. -/
def namedEscapes : List UInt8 :=
  [ascii 'b', ascii 'f', ascii 'n', ascii 'r', ascii 't', ascii '\\', ascii '"']

/-- `appendString` writes a rune as itself (printable ASCII other than a quote or backslash), as
a backslash and a letter, as `\u` and four hexadecimal digits that spell it, or, above ASCII,
as its UTF-8 bytes. -/
theorem escapeRune_cases (c : Char) :
    (escapeRune c = [UInt8.ofNat c.toNat] ∧ 0x20 ≤ c.toNat ∧ c.toNat < 0x80 ∧
      c.toNat ≠ 0x22 ∧ c.toNat ≠ 0x5C) ∨
    (∃ e ∈ namedEscapes, escapeRune c = [ascii '\\', e] ∧ simpleEscape e = some c) ∨
    (∃ d1 d2 d3 d4, escapeRune c =
        [ascii '\\', ascii 'u', hexDigit d1, hexDigit d2, hexDigit d3, hexDigit d4] ∧
      d1 < 16 ∧ d2 < 16 ∧ d3 < 16 ∧ d4 < 16 ∧
      ((d1 * 16 + d2) * 16 + d3) * 16 + d4 = c.toNat ∧ isSurrogate c.toNat = false) ∨
    (escapeRune c = encodeRune c ∧ 0x80 ≤ c.toNat) := by
  have hc : ∀ {n : Nat}, n = c.toNat → Char.ofNat n = c := ofNat_toNat_eq
  by_cases h1 : c.toNat < 0x80
  · by_cases h2 : htmlSafe c.toNat
    · have h2' := h2
      simp only [htmlSafe, Bool.and_eq_true, decide_eq_true_eq, bne_iff_ne, ne_eq] at h2'
      exact .inl ⟨by simp only [escapeRune, if_pos h1, if_pos h2], by omega⟩
    simp only [escapeRune, if_pos h1, if_neg h2]
    by_cases h3 : c.toNat = 0x5C ∨ c.toNat = 0x22
    · rw [if_pos h3]
      refine .inr (.inl ⟨UInt8.ofNat c.toNat, ?_, rfl, ?_⟩) <;>
        rcases h3 with h | h <;> simp only [h] <;> first | decide | (rw [← hc h.symm]; decide)
    rw [if_neg h3]
    by_cases h4 : c.toNat = 0x08
    · rw [if_pos h4]; exact .inr (.inl ⟨ascii 'b', by decide, rfl, by rw [← hc h4.symm]; decide⟩)
    rw [if_neg h4]
    by_cases h5 : c.toNat = 0x0C
    · rw [if_pos h5]; exact .inr (.inl ⟨ascii 'f', by decide, rfl, by rw [← hc h5.symm]; decide⟩)
    rw [if_neg h5]
    by_cases h6 : c.toNat = 0x0A
    · rw [if_pos h6]; exact .inr (.inl ⟨ascii 'n', by decide, rfl, by rw [← hc h6.symm]; decide⟩)
    rw [if_neg h6]
    by_cases h7 : c.toNat = 0x0D
    · rw [if_pos h7]; exact .inr (.inl ⟨ascii 'r', by decide, rfl, by rw [← hc h7.symm]; decide⟩)
    rw [if_neg h7]
    by_cases h8 : c.toNat = 0x09
    · rw [if_pos h8]; exact .inr (.inl ⟨ascii 't', by decide, rfl, by rw [← hc h8.symm]; decide⟩)
    rw [if_neg h8]
    exact .inr (.inr (.inl ⟨0, 0, c.toNat / 16, c.toNat % 16, rfl, by decide, by decide,
      by omega, by omega, by omega, isSurrogate_eq_false (by omega)⟩))
  simp only [escapeRune, if_neg h1]
  by_cases h2 : c.toNat = 0x2028 ∨ c.toNat = 0x2029
  · rw [if_pos h2]
    exact .inr (.inr (.inl ⟨2, 0, 2, c.toNat % 16, rfl, by decide, by decide, by decide,
      by omega, by omega, isSurrogate_eq_false (by omega)⟩))
  · rw [if_neg h2]
    exact .inr (.inr (.inr ⟨rfl, by omega⟩))

theorem length_escapeRune_pos (c : Char) : 0 < (escapeRune c).length := by
  rcases escapeRune_cases c with ⟨h, -⟩ | ⟨e, -, h, -⟩ | ⟨_, _, _, _, h, -⟩ | ⟨h, -⟩ <;>
    simp only [h, List.length_cons, List.length_singleton, Nat.zero_lt_succ, length_encodeRune_pos]

/-- A byte that stands for itself in a string literal: not a control byte, not a quote and not
a backslash. -/
def Plain (b : UInt8) : Prop := 0x20 ≤ b.toNat ∧ b.toNat ≠ 0x22 ∧ b.toNat ≠ 0x5C

theorem plain_of_high {b : UInt8} (h : 0x80 ≤ b.toNat) : Plain b := ⟨by omega, by omega, by omega⟩

instance : DecidablePred Plain := fun b =>
  inferInstanceAs (Decidable (0x20 ≤ b.toNat ∧ b.toNat ≠ 0x22 ∧ b.toNat ≠ 0x5C))

theorem plain_hexDigit : ∀ d < 16, Plain (hexDigit d) := by decide

theorem Plain.ne_quote {b : UInt8} (h : Plain b) : b ≠ ascii '"' := ne_ascii (by decide) h.2.1

theorem Plain.ne_backslash {b : UInt8} (h : Plain b) : b ≠ ascii '\\' :=
  ne_ascii (by decide) h.2.2

/-! ## The scanner inside a string -/

theorem scanBytes_cons_of_run {s s' : Scanner} {c : UInt8} {cs : List UInt8} {op : ScanOp}
    (h : runStep s.step s c = (s', op)) (hop : op ≠ .scanError) :
    scanBytes s (c :: cs) = scanBytes s' cs := by
  simp only [scanBytes, h, if_neg hop]

theorem stateInString_plain (s : Scanner) {b : UInt8} (hb : Plain b) :
    stateInString s b = (s, .scanContinue) := by
  simp only [stateInString, if_neg hb.ne_quote, if_neg hb.ne_backslash,
    if_neg (Nat.not_lt.mpr hb.1)]

theorem scanBytes_inString_plain_cons (s : Scanner) {b : UInt8} (hb : Plain b)
    (rest : List UInt8) :
    scanBytes { s with step := .stateInString } (b :: rest) =
      scanBytes { s with step := .stateInString } rest :=
  scanBytes_cons_of_run (stateInString_plain _ hb) (by decide)

theorem scanBytes_inString_plain (s : Scanner) {bs : List UInt8} (h : ∀ b ∈ bs, Plain b)
    (rest : List UInt8) :
    scanBytes { s with step := .stateInString } (bs ++ rest) =
      scanBytes { s with step := .stateInString } rest := by
  induction bs with
  | nil => rfl
  | cons b bs ih =>
    rw [List.cons_append, scanBytes_inString_plain_cons s (h b (.head _)),
      ih fun b hb => h b (.tail _ hb)]

theorem stateInString_backslash (s : Scanner) :
    stateInString s (ascii '\\') = ({ s with step := .stateInStringEsc }, .scanContinue) := rfl

theorem stateInString_quote (s : Scanner) :
    stateInString s (ascii '"') = ({ s with step := .stateEndValue }, .scanContinue) := rfl

theorem stateInStringEsc_u (s : Scanner) :
    stateInStringEsc s (ascii 'u') = ({ s with step := .stateInStringEscU }, .scanContinue) := rfl

theorem stateInStringEscUAny_hex (next : ScanStep) (s : Scanner) {c : UInt8}
    (h : isHex c = true) : stateInStringEscUAny next s c = ({ s with step := next }, .scanContinue) := by
  simp only [stateInStringEscUAny, h, ↓reduceIte]

/-- A `\u` escape with four hexadecimal digits leaves the scanner inside the string. -/
theorem scanBytes_inString_u (s : Scanner) {h1 h2 h3 h4 : UInt8}
    (hh : isHex h1 = true ∧ isHex h2 = true ∧ isHex h3 = true ∧ isHex h4 = true)
    (rest : List UInt8) :
    scanBytes { s with step := .stateInString }
        (ascii '\\' :: ascii 'u' :: h1 :: h2 :: h3 :: h4 :: rest) =
      scanBytes { s with step := .stateInString } rest := by
  obtain ⟨e1, e2, e3, e4⟩ := hh
  simp only [scanBytes, runStep, stateInString_backslash, stateInStringEsc_u,
    stateInStringEscUAny_hex _ _ e1, stateInStringEscUAny_hex _ _ e2,
    stateInStringEscUAny_hex _ _ e3, stateInStringEscUAny_hex _ _ e4, reduceCtorEq, ↓reduceIte]

/-- The scanner reads an escaped rune inside a string and is inside the string after it. -/
theorem scanBytes_escapeRune (s : Scanner) (c : Char) (rest : List UInt8) :
    scanBytes { s with step := .stateInString } (escapeRune c ++ rest) =
      scanBytes { s with step := .stateInString } rest := by
  rcases escapeRune_cases c with ⟨h, h1, h2, h3, h4⟩ | ⟨e, he, h, -⟩ |
    ⟨d1, d2, d3, d4, h, hd1, hd2, hd3, hd4, -⟩ | ⟨h, hc⟩
  · rw [h, List.singleton_append]
    exact scanBytes_inString_plain_cons s (by
      refine ⟨?_, ?_, ?_⟩ <;> rw [toNat_ofNat (by omega)] <;> omega) rest
  · rw [h]
    simp only [namedEscapes, List.mem_cons, List.mem_singleton, List.not_mem_nil, or_false] at he
    rcases he with rfl | rfl | rfl | rfl | rfl | rfl | rfl <;> rfl
  · rw [h]
    exact scanBytes_inString_u s ⟨(hexDigit_spec d1 hd1).2.1, (hexDigit_spec d2 hd2).2.1,
      (hexDigit_spec d3 hd3).2.1, (hexDigit_spec d4 hd4).2.1⟩ rest
  · rw [h]
    exact scanBytes_inString_plain s (fun b hb => plain_of_high (le_toNat_of_mem_encodeRune hc hb)) rest

/-- The scanner reads a string's escaped runes and its closing quote, and the value has
ended. -/
theorem scanBytes_escapeString (s : Scanner) (str : String) (rest : List UInt8) :
    scanBytes { s with step := .stateInString } (escapeString str ++ ascii '"' :: rest) =
      scanBytes { s with step := .stateEndValue } rest := by
  obtain ⟨cs⟩ := str
  induction cs with
  | nil => exact scanBytes_cons_of_run (stateInString_quote _) (by decide)
  | cons c cs ih =>
    simp only [escapeString, List.flatMap_cons, List.append_assoc] at ih ⊢
    rw [scanBytes_escapeRune, ih]

/-! ## The walk over a string literal -/

theorem rescanString_plain {bs : List UInt8} (h : ∀ b ∈ bs, Plain b) (rest : List UInt8) :
    rescanString (bs ++ rest) = (rescanString rest).map fun p => (bs ++ p.1, p.2) := by
  induction bs with
  | nil => simp
  | cons b bs ih =>
    have hb := h b (.head _)
    rw [List.cons_append, rescanString_cons_of_ne hb.ne_backslash hb.ne_quote,
      ih fun b hb => h b (.tail _ hb), Option.map_map]
    rfl

/-- `rescanLiteral` reads an escaped rune as one piece of the literal. -/
theorem rescanString_escapeRune (c : Char) (rest : List UInt8) :
    rescanString (escapeRune c ++ rest) =
      (rescanString rest).map fun p => (escapeRune c ++ p.1, p.2) := by
  rcases escapeRune_cases c with ⟨h, h1, h2, h3, h4⟩ | ⟨e, -, h, -⟩ |
    ⟨d1, d2, d3, d4, h, hd1, hd2, hd3, hd4, -⟩ | ⟨h, hc⟩ <;> rw [h]
  · exact rescanString_plain (by
      simp only [List.mem_singleton, forall_eq]
      refine ⟨?_, ?_, ?_⟩ <;> rw [toNat_ofNat (by omega)] <;> omega) rest
  · exact rescanString_backslash e rest
  · have hp : ∀ b ∈ [hexDigit d1, hexDigit d2, hexDigit d3, hexDigit d4], Plain b := by
      simp only [List.mem_cons, List.mem_singleton, List.not_mem_nil, or_false]
      rintro b (rfl | rfl | rfl | rfl) <;> apply plain_hexDigit <;> assumption
    have := rescanString_plain hp rest
    simp only [List.cons_append, List.nil_append] at this ⊢
    rw [rescanString_backslash, this, Option.map_map]
    rfl
  · exact rescanString_plain (fun b hb => plain_of_high (le_toNat_of_mem_encodeRune hc hb)) rest

theorem rescanString_escapeString (str : String) (rest : List UInt8) :
    rescanString (escapeString str ++ ascii '"' :: rest) =
      some (escapeString str ++ [ascii '"'], rest) := by
  obtain ⟨cs⟩ := str
  induction cs with
  | nil => exact rescanString_quote rest
  | cons c cs ih =>
    simp only [escapeString, List.flatMap_cons, List.append_assoc] at ih ⊢
    rw [rescanString_escapeRune, ih]
    rfl

/-! ## Unquoting a string literal -/

theorem namedEscape_ne_u : ∀ e ∈ namedEscapes, e ≠ ascii 'u' := by decide

theorem getu4_hexDigits {d1 d2 d3 d4 : Nat} (h1 : d1 < 16) (h2 : d2 < 16) (h3 : d3 < 16)
    (h4 : d4 < 16) (rest : List UInt8) :
    getu4 (ascii '\\' :: ascii 'u' :: hexDigit d1 :: hexDigit d2 :: hexDigit d3 :: hexDigit d4 :: rest) =
      some (((d1 * 16 + d2) * 16 + d3) * 16 + d4) := by
  simp only [getu4, (hexDigit_spec d1 h1).1, (hexDigit_spec d2 h2).1, (hexDigit_spec d3 h3).1,
    (hexDigit_spec d4 h4).1, and_self, ↓reduceIte]
  rfl

/-- `unquoteBytes`'s loop reads an escaped rune back as the rune. -/
theorem unquoteLoop_escapeRune (c : Char) (fuel : Nat) (rest : List UInt8) :
    unquoteLoop (fuel + 1) (escapeRune c ++ rest) = (unquoteLoop fuel rest).map (c :: ·) := by
  rcases escapeRune_cases c with ⟨h, h1, h2, h3, h4⟩ | ⟨e, he, h, hs⟩ |
    ⟨d1, d2, d3, d4, h, hd1, hd2, hd3, hd4, hv, hsur⟩ | ⟨h, hc⟩ <;> rw [h]
  · have hb : (UInt8.ofNat c.toNat).toNat = c.toNat := toNat_ofNat (by omega)
    rw [List.singleton_append, unquoteLoop_ascii (ne_ascii (by decide) (by rw [hb]; exact h4))
      (ne_ascii (by decide) (by rw [hb]; exact h3)) (by rw [hb]; omega) (by rw [hb]; omega), hb,
      Char.ofNat_toNat]
  · exact unquoteLoop_escape (namedEscape_ne_u e he) hs fuel rest
  · simp only [List.cons_append, List.nil_append]
    rw [unquoteLoop_u (getu4_hexDigits hd1 hd2 hd3 hd4 rest) (hv ▸ hsur), hv, Char.ofNat_toNat]
    rfl
  · obtain ⟨b0, tl, hbt⟩ := List.exists_cons_of_length_pos (length_encodeRune_pos c)
    have hd := decodeRune_encodeRune c rest
    rw [hbt, List.cons_append] at hd ⊢
    rw [unquoteLoop_high (le_toNat_of_mem_encodeRune hc (hbt ▸ List.mem_cons_self b0 tl)), hd,
      ← List.cons_append, ← hbt, List.drop_left]

/-- The loop unquotes a string's escaped runes, given a rune of fuel for each. -/
theorem unquoteLoop_escapeString (str : String) {fuel : Nat} (h : str.length ≤ fuel) :
    unquoteLoop fuel (escapeString str) = some str.data := by
  obtain ⟨cs⟩ := str
  induction cs generalizing fuel with
  | nil => cases fuel <;> rfl
  | cons c cs ih =>
    obtain ⟨fuel, rfl⟩ : ∃ f, fuel = f + 1 := ⟨fuel - 1, by simp [String.length] at h; omega⟩
    simp only [escapeString, List.flatMap_cons] at ih ⊢
    rw [unquoteLoop_escapeRune, ih (by simp [String.length] at h ⊢; omega)]
    rfl

theorem length_le_escapeString (str : String) : str.length ≤ (escapeString str).length := by
  obtain ⟨cs⟩ := str
  induction cs with
  | nil => simp [String.length, escapeString]
  | cons c cs ih =>
    have := length_escapeRune_pos c
    simp only [escapeString, String.length, List.flatMap_cons, List.length_append,
      List.length_cons] at ih ⊢
    omega

/-- **A string literal `Marshal` writes unquotes to the string.** -/
theorem unquoteBytes_appendString (str : String) : unquoteBytes (appendString str) = some str := by
  have hl : (escapeString str ++ [ascii '"']).getLast? = some (ascii '"') :=
    List.getLast?_concat _
  have hu : unquoteLoop (escapeString str ++ [ascii '"']).length (escapeString str) = some str.data :=
    unquoteLoop_escapeString str (by simp only [List.length_append]; have := length_le_escapeString str; omega)
  simp only [unquoteBytes, appendString, List.cons_append, hl, List.dropLast_concat, and_self,
    ↓reduceIte, hu]
  rfl

/-! ## The scanner over a value -/

/-- Where the scanner is after an object or array that it started in `s`. -/
def afterContainer (s : Scanner) : Scanner :=
  if s.parseState = [] then { s with step := .stateEndTop, endTop := true }
  else { s with step := .stateEndValue }

/-- Where the scanner is after a value's last byte, when it was in `s` at the value's first: a
number is not known to have ended until the byte after it. -/
def afterValue (s : Scanner) : Value → Scanner
  | .uint n => { s with step := if n = 0 then .state0 else .state1 }
  | .array _ => afterContainer s
  | .object _ => afterContainer s
  | _ => { s with step := .stateEndValue }

theorem scanBytes_cons_congr {s t : Scanner} {c : UInt8}
    (h : runStep s.step s c = runStep t.step t c) (cs : List UInt8) :
    scanBytes s (c :: cs) = scanBytes t (c :: cs) := by
  simp only [scanBytes, h]

/-- `stateEndValue` sets the step in every branch, so the step it was called in does not
matter. -/
theorem stateEndValue_withStep (s : Scanner) (st : ScanStep) (c : UInt8) :
    stateEndValue { s with step := st } c = stateEndValue s c := rfl

theorem stateBeginValue_withStep (s : Scanner) (st : ScanStep) {c : UInt8}
    (hc : isSpace c = false) : stateBeginValue { s with step := st } c = stateBeginValue s c := by
  simp only [stateBeginValue, hc, Bool.false_eq_true, ↓reduceIte]
  rfl

/-- The first byte of an encoded value is neither white space nor a closing bracket. -/
theorem encode_eq_cons (v : Value) :
    ∃ b bs, encode v = b :: bs ∧ isSpace b = false ∧ b ≠ ascii ']' ∧ b ≠ ascii '}' := by
  cases v with
  | uint n =>
    obtain ⟨d, ds, he, -⟩ := digitsFuel_eq_cons (Nat.lt_succ_self n)
    have hd := mem_digitsFuel_lt (he ▸ List.mem_cons_self d ds)
    refine ⟨UInt8.ofNat (0x30 + d), ds.map fun d => UInt8.ofNat (0x30 + d),
      by simp only [encode, appendUint, decimalDigits, he, List.map_cons], ?_⟩
    revert hd; generalize d = d; revert d; decide
  | string str => exact ⟨_, _, rfl, by decide, by decide, by decide⟩
  | array xs => cases xs <;> exact ⟨_, _, rfl, by decide, by decide, by decide⟩
  | object ms => rcases ms with _ | ⟨⟨k, v⟩, ms⟩ <;> exact ⟨_, _, rfl, by decide, by decide, by decide⟩
  | null => exact ⟨_, _, rfl, by decide, by decide, by decide⟩
  | bool b => cases b <;> exact ⟨_, _, rfl, by decide, by decide, by decide⟩

/-! ### One step at a time -/

/-- The scanner with an object or array opened. -/
def Scanner.push (s : Scanner) (p : ParseState) : Scanner :=
  { s with parseState := p :: s.parseState }

theorem popParseState_push (s : Scanner) (p : ParseState) :
    (s.push p).popParseState = afterContainer s := by
  cases s
  simp only [Scanner.push, Scanner.popParseState, List.tail_cons, afterContainer]
  split_ifs with h <;> simp [h]

section Steps

variable (s : Scanner) (rest : List UInt8)

theorem scanBytes_lbracket (h : s.parseState.length + 1 ≤ maxNestingDepth) :
    scanBytes { s with step := .stateBeginValue } (ascii '[' :: rest) =
      scanBytes { s.push .parseArrayValue with step := .stateBeginValueOrEmpty } rest := by
  have hr : runStep .stateBeginValue { s with step := .stateBeginValue } (ascii '[') =
      ({ s.push .parseArrayValue with step := .stateBeginValueOrEmpty }, .scanBeginArray) := by
    simp only [runStep, stateBeginValue, Scanner.pushParseState, List.length_cons, h,
      ↓reduceIte, (by decide : isSpace (ascii '[') = false), (by decide : ascii '[' ≠ ascii '{'),
      Bool.false_eq_true]
    rfl
  exact scanBytes_cons_of_run hr (by decide)

theorem scanBytes_lbrace (h : s.parseState.length + 1 ≤ maxNestingDepth) :
    scanBytes { s with step := .stateBeginValue } (ascii '{' :: rest) =
      scanBytes { s.push .parseObjectKey with step := .stateBeginStringOrEmpty } rest := by
  have hr : runStep .stateBeginValue { s with step := .stateBeginValue } (ascii '{') =
      ({ s.push .parseObjectKey with step := .stateBeginStringOrEmpty }, .scanBeginObject) := by
    simp only [runStep, stateBeginValue, Scanner.pushParseState, List.length_cons, h,
      ↓reduceIte, (by decide : isSpace (ascii '{') = false), Bool.false_eq_true]
    rfl
  exact scanBytes_cons_of_run hr (by decide)

theorem scanBytes_rbracket_empty :
    scanBytes { s.push .parseArrayValue with step := .stateBeginValueOrEmpty } (ascii ']' :: rest) =
      scanBytes (afterContainer s) rest := by
  rw [← popParseState_push s .parseArrayValue]
  cases s; rfl

theorem scanBytes_rbrace_empty :
    scanBytes { s.push .parseObjectKey with step := .stateBeginStringOrEmpty } (ascii '}' :: rest) =
      scanBytes (afterContainer s) rest := by
  rw [← popParseState_push s .parseObjectValue]
  cases s; rfl

theorem scanBytes_comma_array {t : List ParseState} (hs : s.parseState = .parseArrayValue :: t) :
    scanBytes { s with step := .stateEndValue } (ascii ',' :: rest) =
      scanBytes { s with step := .stateBeginValue } rest := by
  cases s; subst hs; rfl

theorem scanBytes_rbracket {t : List ParseState} (hs : s.parseState = .parseArrayValue :: t) :
    scanBytes { s with step := .stateEndValue } (ascii ']' :: rest) =
      scanBytes s.popParseState rest := by
  cases s; subst hs; rfl

theorem scanBytes_rbrace {t : List ParseState} (hs : s.parseState = .parseObjectValue :: t) :
    scanBytes { s with step := .stateEndValue } (ascii '}' :: rest) =
      scanBytes s.popParseState rest := by
  cases s; subst hs; rfl

/-- A string from its opening quote, then a colon: the key of a member. -/
theorem scanBytes_appendString_colon (k : String) :
    scanBytes { s with step := .stateBeginString } (appendString k ++ ascii ':' :: rest) =
      scanBytes { s with step := .stateEndValue } (ascii ':' :: rest) := by
  have h1 : scanBytes { s with step := .stateBeginString } (appendString k ++ ascii ':' :: rest) =
      scanBytes { s with step := .stateInString } (escapeString k ++ ascii '"' :: ascii ':' :: rest) := by
    simp only [appendString, List.cons_append, List.append_assoc, List.singleton_append]
    rfl
  rw [h1, scanBytes_escapeString]

/-- A comma, a key and a colon inside an object: the scanner then waits for the member's
value. -/
theorem scanBytes_comma_key {t : List ParseState} (hs : s.parseState = .parseObjectValue :: t)
    (k : String) :
    scanBytes { s with step := .stateEndValue } (ascii ',' :: (appendString k ++ ascii ':' :: rest)) =
      scanBytes { s with step := .stateBeginValue } rest := by
  have h1 := scanBytes_appendString_colon { s with parseState := .parseObjectKey :: t } rest k
  have h2 : scanBytes { s with step := .stateEndValue } (ascii ',' :: (appendString k ++ ascii ':' :: rest)) =
      scanBytes { s with step := .stateBeginString, parseState := .parseObjectKey :: t }
        (appendString k ++ ascii ':' :: rest) := by
    cases s; subst hs; rfl
  rw [h2, h1]
  cases s; subst hs; rfl

/-- The first key of an object and its colon. -/
theorem scanBytes_key_first (k : String) :
    scanBytes { s.push .parseObjectKey with step := .stateBeginStringOrEmpty }
        (appendString k ++ ascii ':' :: rest) =
      scanBytes { s.push .parseObjectValue with step := .stateBeginValue } rest := by
  have h1 := scanBytes_appendString_colon (s.push .parseObjectKey) rest k
  have h2 : scanBytes { s.push .parseObjectKey with step := .stateBeginStringOrEmpty }
        (appendString k ++ ascii ':' :: rest) =
      scanBytes { s.push .parseObjectKey with step := .stateBeginString }
        (appendString k ++ ascii ':' :: rest) := by
    simp only [appendString, List.cons_append]
    rfl
  rw [h2, h1]
  rfl

/-- After `[`, a value's first byte is read as at the start of any value. -/
theorem scanBytes_orEmpty (v : Value) :
    scanBytes { s with step := .stateBeginValueOrEmpty } (encode v ++ rest) =
      scanBytes { s with step := .stateBeginValue } (encode v ++ rest) := by
  obtain ⟨b, bs, hb, hsp, hne, -⟩ := encode_eq_cons v
  rw [hb, List.cons_append]
  apply scanBytes_cons_congr
  simp only [runStep, stateBeginValueOrEmpty, hsp, if_neg hne, Bool.false_eq_true, ↓reduceIte]
  exact (stateBeginValue_withStep s _ hsp).trans (stateBeginValue_withStep s _ hsp).symm

theorem scanBytes_appendString (str : String) :
    scanBytes { s with step := .stateBeginValue } (appendString str ++ rest) =
      scanBytes { s with step := .stateEndValue } rest := by
  have h1 : scanBytes { s with step := .stateBeginValue } (appendString str ++ rest) =
      scanBytes { s with step := .stateInString } (escapeString str ++ ascii '"' :: rest) := by
    simp only [appendString, List.cons_append, List.append_assoc, List.singleton_append]
    rfl
  rw [h1, scanBytes_escapeString]

theorem scanBytes_state1_digits {ds : List Nat} (h : ∀ d ∈ ds, d < 10) :
    scanBytes { s with step := .state1 } ((ds.map fun d => UInt8.ofNat (0x30 + d)) ++ rest) =
      scanBytes { s with step := .state1 } rest := by
  induction ds with
  | nil => rfl
  | cons d ds ih =>
    have hr : runStep .state1 { s with step := .state1 } (UInt8.ofNat (0x30 + d)) =
        ({ s with step := .state1 }, .scanContinue) := by
      simp only [runStep, state1, (digit_spec d (h d (.head _))).2, ↓reduceIte]
    rw [List.map_cons, List.cons_append, scanBytes_cons_of_run hr (by decide),
      ih fun d hd => h d (.tail _ hd)]

theorem scanBytes_appendUint (n : Nat) :
    scanBytes { s with step := .stateBeginValue } (appendUint n ++ rest) =
      scanBytes { s with step := if n = 0 then .state0 else .state1 } rest := by
  obtain ⟨d, ds, he, hd0⟩ := digitsFuel_eq_cons (Nat.lt_succ_self n)
  have hds : ∀ x ∈ d :: ds, x < 10 := fun x hx => mem_digitsFuel_lt (he ▸ hx)
  simp only [appendUint, decimalDigits, he, List.map_cons, List.cons_append]
  by_cases hn : n = 0
  · subst hn
    obtain ⟨rfl, rfl⟩ : d = 0 ∧ ds = [] := by simpa [digitsFuel] using he.symm
    rfl
  · have hd : 0 < d ∧ d < 10 := ⟨hd0 (Nat.pos_of_ne_zero hn), hds d (.head _)⟩
    have hr : runStep .stateBeginValue { s with step := .stateBeginValue } (UInt8.ofNat (0x30 + d)) =
        ({ s with step := .state1 }, .scanBeginLiteral) := by
      obtain ⟨h1, h2⟩ := hd
      interval_cases d <;> rfl
    rw [scanBytes_cons_of_run hr (by decide), if_neg hn,
      scanBytes_state1_digits s rest fun x hx => hds x (.tail _ hx)]

/-- After a value inside an object or array, the byte that follows, which does not continue a
number, is read as if the scanner were in `stateEndValue`. -/
theorem scanBytes_afterValue (v : Value) (hs : s.parseState ≠ []) {c : UInt8}
    (hc : isNumberByte c = false) :
    scanBytes (afterValue s v) (c :: rest) = scanBytes { s with step := .stateEndValue } (c :: rest) := by
  cases v with
  | uint n =>
    simp only [isNumberByte, Bool.or_eq_false_iff, decide_eq_false_iff_not] at hc
    obtain ⟨⟨⟨⟨⟨hd, hdot⟩, he⟩, hE⟩, -⟩, -⟩ := hc
    apply scanBytes_cons_congr
    by_cases hn : n = 0 <;>
      simp only [afterValue, hn, ↓reduceIte, runStep, state1, state0, hd, if_neg hdot, hE, he,
        or_self, Bool.false_eq_true] <;> rfl
  | array xs => simp only [afterValue, afterContainer, if_neg hs]
  | object ms => simp only [afterValue, afterContainer, if_neg hs]
  | null => rfl
  | bool b => rfl
  | string str => rfl

end Steps

/-! ### Values, elements and members -/

theorem depth_le_depthElems (x : Value) (xs : List Value) :
    x.depth ≤ depthElems (x :: xs) ∧ depthElems xs ≤ depthElems (x :: xs) := by
  simp only [depthElems]; omega

theorem depth_le_depthMembers (k : String) (v : Value) (ms : List (String × Value)) :
    v.depth ≤ depthMembers ((k, v) :: ms) ∧ depthMembers ms ≤ depthMembers ((k, v) :: ms) := by
  simp only [depthMembers]; omega

theorem isNumberByte_encodeElems (xs : List Value) :
    ∃ c cs, encodeElems xs = c :: cs ∧ isNumberByte c = false := by
  cases xs <;> exact ⟨_, _, rfl, by decide⟩

theorem isNumberByte_encodeMembers (ms : List (String × Value)) :
    ∃ c cs, encodeMembers ms = c :: cs ∧ isNumberByte c = false := by
  rcases ms with _ | ⟨⟨k, v⟩, ms⟩ <;> exact ⟨_, _, rfl, by decide⟩

/-- After a value inside an object or array and what follows it, the scanner is in
`stateEndValue`. -/
theorem scanBytes_afterValue_append (s : Scanner) (hs : s.parseState ≠ []) (v : Value)
    {bs : List UInt8} (hb : ∃ c cs, bs = c :: cs ∧ isNumberByte c = false) (rest : List UInt8) :
    scanBytes (afterValue s v) (bs ++ rest) = scanBytes { s with step := .stateEndValue } (bs ++ rest) := by
  obtain ⟨c, cs, rfl, hc⟩ := hb
  exact scanBytes_afterValue s _ v hs hc

mutual

/-- **The scanner reads an encoded value** from its first byte to its end, when objects and
arrays do not nest too deep. -/
theorem scanBytes_encode : ∀ (v : Value) (s : Scanner),
    s.parseState.length + v.depth ≤ maxNestingDepth → ∀ rest : List UInt8,
    scanBytes { s with step := .stateBeginValue } (encode v ++ rest) = scanBytes (afterValue s v) rest
  | .null, _, _, _ => rfl
  | .bool true, _, _, _ => rfl
  | .bool false, _, _, _ => rfl
  | .uint n, s, _, rest => scanBytes_appendUint s rest n
  | .string str, s, _, rest => scanBytes_appendString s rest str
  | .array [], s, hd, rest => by
    simp only [Value.depth, depthElems] at hd
    exact (scanBytes_lbracket s _ (by omega)).trans (scanBytes_rbracket_empty s rest)
  | .array (x :: xs), s, hd, rest => by
    have hx := depth_le_depthElems x xs
    simp only [Value.depth] at hd
    have hp : (s.push .parseArrayValue).parseState.length + x.depth ≤ maxNestingDepth := by
      simp only [Scanner.push, List.length_cons]; omega
    have hs : (s.push .parseArrayValue).parseState ≠ [] := List.cons_ne_nil _ _
    calc scanBytes { s with step := .stateBeginValue } (encode (.array (x :: xs)) ++ rest)
        = scanBytes { s.push .parseArrayValue with step := .stateBeginValueOrEmpty }
            (encode x ++ (encodeElems xs ++ rest)) := by
          rw [← scanBytes_lbracket s _ (by omega)]
          simp only [encode, List.cons_append, List.append_assoc]
      _ = scanBytes (afterValue (s.push .parseArrayValue) x) (encodeElems xs ++ rest) := by
          rw [scanBytes_orEmpty, scanBytes_encode x _ hp]
      _ = scanBytes { s.push .parseArrayValue with step := .stateEndValue } (encodeElems xs ++ rest) :=
          scanBytes_afterValue_append _ hs x (isNumberByte_encodeElems xs) rest
      _ = scanBytes (afterValue s (.array (x :: xs))) rest := by
          rw [scanBytes_encodeElems xs _ rfl (by simp only [Scanner.push, List.length_cons]; omega),
            popParseState_push]
          rfl
  | .object [], s, hd, rest => by
    simp only [Value.depth, depthMembers] at hd
    exact (scanBytes_lbrace s _ (by omega)).trans (scanBytes_rbrace_empty s rest)
  | .object ((k, v) :: ms), s, hd, rest => by
    have hv := depth_le_depthMembers k v ms
    simp only [Value.depth] at hd
    have hp : (s.push .parseObjectValue).parseState.length + v.depth ≤ maxNestingDepth := by
      simp only [Scanner.push, List.length_cons]; omega
    have hs : (s.push .parseObjectValue).parseState ≠ [] := List.cons_ne_nil _ _
    calc scanBytes { s with step := .stateBeginValue } (encode (.object ((k, v) :: ms)) ++ rest)
        = scanBytes { s.push .parseObjectKey with step := .stateBeginStringOrEmpty }
            (appendString k ++ ascii ':' :: (encode v ++ (encodeMembers ms ++ rest))) := by
          rw [← scanBytes_lbrace s _ (by omega)]
          simp only [encode, List.cons_append, List.append_assoc]
      _ = scanBytes (afterValue (s.push .parseObjectValue) v) (encodeMembers ms ++ rest) := by
          rw [scanBytes_key_first, scanBytes_encode v _ hp]
      _ = scanBytes { s.push .parseObjectValue with step := .stateEndValue } (encodeMembers ms ++ rest) :=
          scanBytes_afterValue_append _ hs v (isNumberByte_encodeMembers ms) rest
      _ = scanBytes (afterValue s (.object ((k, v) :: ms))) rest := by
          rw [scanBytes_encodeMembers ms _ rfl (by simp only [Scanner.push, List.length_cons]; omega),
            popParseState_push]
          rfl

/-- The scanner reads the elements after an array's first, and its `]`. -/
theorem scanBytes_encodeElems : ∀ (xs : List Value) (s : Scanner) {t : List ParseState},
    s.parseState = .parseArrayValue :: t →
    s.parseState.length + depthElems xs ≤ maxNestingDepth → ∀ rest : List UInt8,
    scanBytes { s with step := .stateEndValue } (encodeElems xs ++ rest) =
      scanBytes s.popParseState rest
  | [], s, _, hs, _, rest => scanBytes_rbracket s rest hs
  | x :: xs, s, _, hs, hd, rest => by
    have hx := depth_le_depthElems x xs
    have hne : s.parseState ≠ [] := by rw [hs]; exact List.cons_ne_nil _ _
    calc scanBytes { s with step := .stateEndValue } (encodeElems (x :: xs) ++ rest)
        = scanBytes { s with step := .stateBeginValue } (encode x ++ (encodeElems xs ++ rest)) := by
          rw [← scanBytes_comma_array s _ hs]
          simp only [encodeElems, List.cons_append, List.append_assoc]
      _ = scanBytes { s with step := .stateEndValue } (encodeElems xs ++ rest) := by
          rw [scanBytes_encode x s (by omega)]
          exact scanBytes_afterValue_append s hne x (isNumberByte_encodeElems xs) rest
      _ = scanBytes s.popParseState rest := scanBytes_encodeElems xs s hs (by omega) rest

/-- The scanner reads the members after an object's first, and its `}`. -/
theorem scanBytes_encodeMembers : ∀ (ms : List (String × Value)) (s : Scanner) {t : List ParseState},
    s.parseState = .parseObjectValue :: t →
    s.parseState.length + depthMembers ms ≤ maxNestingDepth → ∀ rest : List UInt8,
    scanBytes { s with step := .stateEndValue } (encodeMembers ms ++ rest) =
      scanBytes s.popParseState rest
  | [], s, _, hs, _, rest => scanBytes_rbrace s rest hs
  | (k, v) :: ms, s, _, hs, hd, rest => by
    have hv := depth_le_depthMembers k v ms
    have hne : s.parseState ≠ [] := by rw [hs]; exact List.cons_ne_nil _ _
    calc scanBytes { s with step := .stateEndValue } (encodeMembers ((k, v) :: ms) ++ rest)
        = scanBytes { s with step := .stateBeginValue } (encode v ++ (encodeMembers ms ++ rest)) := by
          rw [← scanBytes_comma_key s _ hs k]
          simp only [encodeMembers, List.cons_append, List.append_assoc]
      _ = scanBytes { s with step := .stateEndValue } (encodeMembers ms ++ rest) := by
          rw [scanBytes_encode v s (by omega)]
          exact scanBytes_afterValue_append s hne v (isNumberByte_encodeMembers ms) rest
      _ = scanBytes s.popParseState rest := scanBytes_encodeMembers ms s hs (by omega) rest

end

/-! ## The walk over an encoded value -/

mutual
/-- The tree the decoder's walk meets in an encoded value: a scalar is a literal whose bytes are
its encoding. -/
def Value.toJValue : Value → JValue
  | .array xs => .array (toJValues xs)
  | .object ms => .object (toJMembers ms)
  | v => .literal (encode v)

/-- `toJValue` of each element. -/
def toJValues : List Value → List JValue
  | [] => []
  | x :: xs => x.toJValue :: toJValues xs

/-- Each member's key literal with `toJValue` of its value. -/
def toJMembers : List (String × Value) → List (List UInt8 × JValue)
  | [] => []
  | (k, v) :: ms => (appendString k, v.toJValue) :: toJMembers ms
end

/-- What follows a value does not continue a number. -/
def NoNumberHead (rest : List UInt8) : Prop := ∀ c ∈ rest.head?, isNumberByte c = false

theorem noNumberHead_cons {c : UInt8} (h : isNumberByte c = false) (cs : List UInt8) :
    NoNumberHead (c :: cs) := by
  simpa [NoNumberHead] using h

theorem rescanLiteral_appendUint (n : Nat) {rest : List UInt8} (hr : NoNumberHead rest) :
    ∃ c cs, appendUint n = c :: cs ∧ rescanLiteral c (cs ++ rest) = some (appendUint n, rest) := by
  obtain ⟨d, ds, he, -⟩ := digitsFuel_eq_cons (Nat.lt_succ_self n)
  have hds : ∀ x ∈ d :: ds, x < 10 := fun x hx => mem_digitsFuel_lt (he ▸ hx)
  have hnum : ∀ b ∈ ds.map (fun d => UInt8.ofNat (0x30 + d)), isNumberByte b = true := by
    simp only [List.mem_map]
    rintro b ⟨x, hx, rfl⟩
    simp only [isNumberByte, (digit_spec x (hds x (.tail _ hx))).2, Bool.true_or]
  have hend : rest.takeWhile isNumberByte = [] ∧ rest.dropWhile isNumberByte = rest := by
    cases rest with
    | nil => exact ⟨rfl, rfl⟩
    | cons c cs =>
      have hc : isNumberByte c = false := hr c rfl
      exact ⟨List.takeWhile_cons_of_neg (by simp [hc]), List.dropWhile_cons_of_neg (by simp [hc])⟩
  have hd := digit_spec d (hds d (.head _))
  refine ⟨UInt8.ofNat (0x30 + d), ds.map fun d => UInt8.ofNat (0x30 + d),
    by simp only [appendUint, decimalDigits, he, List.map_cons], ?_⟩
  have h1 : UInt8.ofNat (0x30 + d) ≠ ascii '"' :=
    ne_ascii (by decide) (by rw [hd.1]; show 48 + d ≠ 34; omega)
  simp only [rescanLiteral, if_neg h1, hd.2, Bool.true_or, ↓reduceIte,
    List.takeWhile_append_of_pos hnum, List.dropWhile_append_of_pos hnum, hend.1, hend.2,
    List.append_nil, appendUint, decimalDigits, he, List.map_cons]

theorem length_encode_pos (v : Value) : 0 < (encode v).length := by
  obtain ⟨b, bs, hb, -⟩ := encode_eq_cons v
  simp [hb]

theorem length_encodeElems_pos (xs : List Value) : 0 < (encodeElems xs).length := by
  cases xs <;> simp [encodeElems]

theorem length_encodeMembers_pos (ms : List (String × Value)) : 0 < (encodeMembers ms).length := by
  rcases ms with _ | ⟨⟨k, v⟩, ms⟩ <;> simp [encodeMembers]

/-- A scalar's encoding is read as one literal. -/
theorem readValue_scalar (v : Value) (hv : ∀ xs, v ≠ .array xs) (hm : ∀ ms, v ≠ .object ms)
    (fuel : Nat) {rest : List UInt8} (hr : NoNumberHead rest) :
    readValue (fuel + 1) (encode v ++ rest) = some (.literal (encode v), rest) := by
  cases v with
  | array xs => exact absurd rfl (hv xs)
  | object ms => exact absurd rfl (hm ms)
  | null => exact readValue_literal (by decide) (by decide) (by decide) (by rfl) fuel
  | bool b => cases b <;> exact readValue_literal (by decide) (by decide) (by decide) (by rfl) fuel
  | string str =>
    have he : encode (.string str) ++ rest = ascii '"' :: (escapeString str ++ ascii '"' :: rest) := by
      simp [encode, appendString]
    have hr : rescanLiteral (ascii '"') (escapeString str ++ ascii '"' :: rest) =
        some (encode (.string str), rest) := by
      simp only [rescanLiteral, ↓reduceIte, rescanString_escapeString, Option.map_some']
      rfl
    rw [he]
    exact readValue_literal (by decide) (by decide) (by decide) hr fuel
  | uint n =>
    obtain ⟨c, cs, he, hl⟩ := rescanLiteral_appendUint n hr
    obtain ⟨b, bs, hb, hsp, -, -⟩ := encode_eq_cons (.uint n)
    have hcb : c = b := by
      simp only [encode, he, List.cons.injEq] at hb; exact hb.1
    subst hcb
    have hd : isDigit c = true := by
      obtain ⟨d, ds, hds, -⟩ := digitsFuel_eq_cons (Nat.lt_succ_self n)
      have := mem_digitsFuel_lt (hds ▸ List.mem_cons_self d ds)
      simp only [appendUint, decimalDigits, hds, List.map_cons, List.cons.injEq] at he
      rw [← he.1]; exact (digit_spec d this).2
    have h1 : c ≠ ascii '{' := fun e => by subst e; revert hd; decide
    have h2 : c ≠ ascii '[' := fun e => by subst e; revert hd; decide
    simp only [encode, he, List.cons_append] at hl ⊢
    exact readValue_literal hsp h1 h2 hl fuel

theorem noNumberHead_encodeElems (xs : List Value) (rest : List UInt8) :
    NoNumberHead (encodeElems xs ++ rest) := by
  obtain ⟨c, cs, he, hc⟩ := isNumberByte_encodeElems xs
  rw [he, List.cons_append]; exact noNumberHead_cons hc _

theorem noNumberHead_encodeMembers (ms : List (String × Value)) (rest : List UInt8) :
    NoNumberHead (encodeMembers ms ++ rest) := by
  obtain ⟨c, cs, he, hc⟩ := isNumberByte_encodeMembers ms
  rw [he, List.cons_append]; exact noNumberHead_cons hc _

/-- A key literal and its colon, as `object` reads them. -/
theorem rescanLiteral_key (k : String) (rest : List UInt8) :
    rescanLiteral (ascii '"') (escapeString k ++ ascii '"' :: ascii ':' :: rest) =
      some (appendString k, ascii ':' :: rest) := by
  simp only [rescanLiteral, ↓reduceIte, rescanString_escapeString, Option.map_some']
  rfl

mutual

/-- **The decoder's walk reads an encoded value as its tree**, given at least a unit of fuel per
byte, and when what follows does not continue a number. -/
theorem readValue_encode (v : Value) (fuel : Nat) (rest : List UInt8)
    (hf : (encode v).length ≤ fuel) (hr : NoNumberHead rest) :
    readValue fuel (encode v ++ rest) = some (v.toJValue, rest) := by
  obtain ⟨f, rfl⟩ : ∃ f, fuel = f + 1 := ⟨fuel - 1, by have := length_encode_pos v; omega⟩
  match h : v with
  | .array [] =>
    obtain ⟨g, rfl⟩ : ∃ g, f = g + 1 := ⟨f - 1, by simp [encode, asciiBytes] at hf; omega⟩
    rw [show encode (.array []) ++ rest = ascii '[' :: ascii ']' :: rest from rfl,
      readValue_lbracket, readElems_rbracket]
    rfl
  | .array (x :: xs) =>
    have hl : (encode (.array (x :: xs))).length = (encode x ++ encodeElems xs).length + 1 := by
      simp [encode]
    rw [show encode (.array (x :: xs)) ++ rest = ascii '[' :: (encode x ++ (encodeElems xs ++ rest))
      by simp [encode], readValue_lbracket, readElems_encode x xs f rest (by omega)]
    rfl
  | .object [] =>
    obtain ⟨g, rfl⟩ : ∃ g, f = g + 1 := ⟨f - 1, by simp [encode, asciiBytes] at hf; omega⟩
    rw [show encode (.object []) ++ rest = ascii '{' :: ascii '}' :: rest from rfl,
      readValue_lbrace, readMembers_rbrace]
    rfl
  | .object ((k, w) :: ms) =>
    have hl : (encode (.object ((k, w) :: ms))).length =
        (appendString k ++ ascii ':' :: (encode w ++ encodeMembers ms)).length + 1 := by
      simp [encode]
    rw [show encode (.object ((k, w) :: ms)) ++ rest =
        ascii '{' :: (appendString k ++ ascii ':' :: (encode w ++ (encodeMembers ms ++ rest)))
      by simp [encode], readValue_lbrace, readMembers_encode k w ms f rest (by omega)]
    rfl
  | .null => exact readValue_scalar .null (by simp) (by simp) f hr
  | .bool b => exact readValue_scalar (.bool b) (by simp) (by simp) f hr
  | .uint n => exact readValue_scalar (.uint n) (by simp) (by simp) f hr
  | .string str => exact readValue_scalar (.string str) (by simp) (by simp) f hr
termination_by sizeOf v
decreasing_by
  all_goals simp_wf
  all_goals subst_vars
  all_goals simp only [Value.array.sizeOf_spec, Value.object.sizeOf_spec, List.cons.sizeOf_spec,
    Prod.mk.sizeOf_spec]
  all_goals omega

/-- The loop of `array` reads the elements from the first to the closing `]`. -/
theorem readElems_encode (x : Value) (xs : List Value) (fuel : Nat) (rest : List UInt8)
    (hf : (encode x ++ encodeElems xs).length ≤ fuel) :
    readElems fuel (encode x ++ (encodeElems xs ++ rest)) =
      some (x.toJValue :: toJValues xs, rest) := by
  have hx := length_encode_pos x
  have hxs := length_encodeElems_pos xs
  simp only [List.length_append] at hf
  obtain ⟨g, rfl⟩ : ∃ g, fuel = g + 1 := ⟨fuel - 1, by omega⟩
  obtain ⟨c, cs, hc, hsp, hne, -⟩ := encode_eq_cons x
  match h : xs with
  | [] =>
    have hv := readValue_encode x g (encodeElems [] ++ rest) (by omega)
      (noNumberHead_encodeElems [] rest)
    rw [hc, List.cons_append] at hv ⊢
    rw [readElems_elem hsp hne g hv (skipSpace_of_not_space (by decide) rest)]
    rfl
  | y :: ys =>
    have hv := readValue_encode x g (encodeElems (y :: ys) ++ rest) (by omega)
      (noNumberHead_encodeElems (y :: ys) rest)
    rw [hc, List.cons_append] at hv ⊢
    have hy : skipSpace (encodeElems (y :: ys) ++ rest) =
        ascii ',' :: (encode y ++ (encodeElems ys ++ rest)) := by
      simp [encodeElems, skipSpace_of_not_space (by decide : isSpace (ascii ',') = false)]
    have hl : (encode y ++ encodeElems ys).length ≤ g := by
      simp only [encodeElems, List.length_cons, List.length_append] at hf ⊢; omega
    rw [readElems_elem hsp hne g hv hy, if_neg (by decide), if_pos rfl,
      readElems_encode y ys g rest hl]
    rfl
termination_by sizeOf x + sizeOf xs
decreasing_by
  all_goals simp_wf
  all_goals subst_vars
  all_goals (try simp only [List.cons.sizeOf_spec, List.nil.sizeOf_spec])
  all_goals omega

/-- The loop of `object` reads the members from the first key to the closing `}`. -/
theorem readMembers_encode (k : String) (w : Value) (ms : List (String × Value)) (fuel : Nat)
    (rest : List UInt8)
    (hf : (appendString k ++ ascii ':' :: (encode w ++ encodeMembers ms)).length ≤ fuel) :
    readMembers fuel (appendString k ++ ascii ':' :: (encode w ++ (encodeMembers ms ++ rest))) =
      some ((appendString k, w.toJValue) :: toJMembers ms, rest) := by
  have hw := length_encode_pos w
  have hms := length_encodeMembers_pos ms
  simp only [List.length_append, List.length_cons] at hf
  obtain ⟨g, rfl⟩ : ∃ g, fuel = g + 1 := ⟨fuel - 1, by omega⟩
  have hk := rescanLiteral_key k (encode w ++ (encodeMembers ms ++ rest))
  have hb : appendString k ++ ascii ':' :: (encode w ++ (encodeMembers ms ++ rest)) =
      ascii '"' :: (escapeString k ++ ascii '"' :: ascii ':' :: (encode w ++ (encodeMembers ms ++ rest))) := by
    simp [appendString]
  rw [hb]
  match h : ms with
  | [] =>
    have hv := readValue_encode w g (encodeMembers [] ++ rest) (by omega)
      (noNumberHead_encodeMembers [] rest)
    rw [readMembers_member (by decide) (by decide) g hk
      (skipSpace_of_not_space (by decide) _) hv (skipSpace_of_not_space (by decide) rest)]
    rfl
  | (k', w') :: ms' =>
    have hv := readValue_encode w g (encodeMembers ((k', w') :: ms') ++ rest) (by omega)
      (noNumberHead_encodeMembers ((k', w') :: ms') rest)
    have hy : skipSpace (encodeMembers ((k', w') :: ms') ++ rest) =
        ascii ',' :: (appendString k' ++ ascii ':' :: (encode w' ++ (encodeMembers ms' ++ rest))) := by
      simp [encodeMembers, skipSpace_of_not_space (by decide : isSpace (ascii ',') = false)]
    have hl : (appendString k' ++ ascii ':' :: (encode w' ++ encodeMembers ms')).length ≤ g := by
      simp only [encodeMembers, List.length_cons, List.length_append] at hf ⊢; omega
    rw [readMembers_member (by decide) (by decide) g hk (skipSpace_of_not_space (by decide) _) hv hy,
      if_neg (by decide), if_pos rfl, readMembers_encode k' w' ms' g rest hl]
    rfl
termination_by sizeOf w + sizeOf ms
decreasing_by
  all_goals simp_wf
  all_goals subst_vars
  all_goals (try simp only [List.cons.sizeOf_spec, List.nil.sizeOf_spec, Prod.mk.sizeOf_spec])
  all_goals omega

end

/-! ## Whole documents -/

/-- After a whole value, the end of the input is a valid end of the document. -/
theorem eof_afterValue (v : Value) : (afterValue Scanner.reset v).eof = .ok () := by
  cases v with
  | uint n => by_cases hn : n = 0 <;> simp only [afterValue, hn, ↓reduceIte] <;> rfl
  | _ => rfl

/-- **The scanner accepts every encoded value** that nests at most `maxNestingDepth` deep. -/
theorem checkValid_encode (v : Value) (h : v.depth ≤ maxNestingDepth) :
    checkValid (encode v) = .ok () := by
  have hs := scanBytes_encode v Scanner.reset (by simpa [Scanner.reset] using h) []
  rw [List.append_nil] at hs
  simp only [checkValid, show ({ Scanner.reset with step := .stateBeginValue } : Scanner) =
    Scanner.reset from rfl] at hs
  rw [checkValid, hs]
  exact eof_afterValue v

/-- **The decoder's walk reads an encoded document as its tree.** -/
theorem readDocument_encode (v : Value) : readDocument (encode v) = some v.toJValue := by
  have h := readValue_encode v ((encode v).length + 1) [] (by omega) (by simp [NoNumberHead])
  rw [List.append_nil] at h
  simp only [readDocument, h, Option.map_some']

end Laforge.Go.Json
