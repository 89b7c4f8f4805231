import Mathlib.Tactic.IntervalCases

/-!
# Laforge.Go.Utf8

Go's `unicode/utf8` on the byte slices the JSON encoder writes and the decoder reads:
`EncodeRune` and `DecodeRune`.

1. `encodeRune` writes a rune as one to four bytes; a Lean `Char` is a Unicode scalar value, so
   the branch of `EncodeRune` that replaces surrogates and values above U+10FFFF is never taken.
2. `decodeRune` reads the rune a byte slice starts with, with its size, and `(RuneError, 1)` on
   a byte that starts no well-formed sequence: a continuation byte, an overlong form, a
   surrogate, a value above U+10FFFF, or a truncated sequence.  The second byte's range
   depends on the first (`acceptRanges`).

`decodeRune_encodeRune` is the law the JSON string codec needs: a rune's encoding decodes back
to it, whatever follows.  Bytes are `UInt8`; every test on one is written on its `toNat`.
-/

namespace Laforge.Go.Utf8

/-- `utf8.RuneError`, U+FFFD. -/
def runeError : Char := '�'

/-- `utf8.EncodeRune` of a valid rune. -/
def encodeRune (c : Char) : List UInt8 :=
  let n := c.toNat
  if n < 0x80 then [UInt8.ofNat n]
  else if n < 0x800 then [UInt8.ofNat (0xC0 + n / 64), UInt8.ofNat (0x80 + n % 64)]
  else if n < 0x10000 then
    [UInt8.ofNat (0xE0 + n / 4096), UInt8.ofNat (0x80 + n / 64 % 64), UInt8.ofNat (0x80 + n % 64)]
  else
    [UInt8.ofNat (0xF0 + n / 262144), UInt8.ofNat (0x80 + n / 4096 % 64),
      UInt8.ofNat (0x80 + n / 64 % 64), UInt8.ofNat (0x80 + n % 64)]

/-- The bytes of a string: `[]byte(s)`. -/
def toBytes (s : String) : List UInt8 := s.data.flatMap encodeRune

/-- For a byte that starts a sequence of two bytes or more (`first`): the sequence's size, and
the range of its second byte (`acceptRanges`). -/
def leading (b : Nat) : Option (Nat × Nat × Nat) :=
  if 0xC2 ≤ b ∧ b ≤ 0xDF then some (2, 0x80, 0xBF)
  else if b = 0xE0 then some (3, 0xA0, 0xBF)
  else if 0xE1 ≤ b ∧ b ≤ 0xEC then some (3, 0x80, 0xBF)
  else if b = 0xED then some (3, 0x80, 0x9F)
  else if 0xEE ≤ b ∧ b ≤ 0xEF then some (3, 0x80, 0xBF)
  else if b = 0xF0 then some (4, 0x90, 0xBF)
  else if 0xF1 ≤ b ∧ b ≤ 0xF3 then some (4, 0x80, 0xBF)
  else if b = 0xF4 then some (4, 0x80, 0x8F)
  else none

/-- `utf8.DecodeRune`: the rune a slice starts with and its size; `(RuneError, 0)` on an empty
slice and `(RuneError, 1)` on a byte that starts no well-formed sequence. -/
def decodeRune : List UInt8 → Char × Nat
  | [] => (runeError, 0)
  | b0 :: bs =>
    if b0.toNat < 0x80 then (Char.ofNat b0.toNat, 1) else
    match leading b0.toNat with
    | none => (runeError, 1)
    | some (sz, lo, hi) =>
      if bs.length + 1 < sz then (runeError, 1) else
      match bs with
      | [] => (runeError, 1)
      | b1 :: bs =>
        if b1.toNat < lo ∨ hi < b1.toNat then (runeError, 1)
        else if sz ≤ 2 then (Char.ofNat (b0.toNat % 32 * 64 + b1.toNat % 64), 2) else
        match bs with
        | [] => (runeError, 1)
        | b2 :: bs =>
          if b2.toNat < 0x80 ∨ 0xBF < b2.toNat then (runeError, 1)
          else if sz ≤ 3 then
            (Char.ofNat (b0.toNat % 16 * 4096 + b1.toNat % 64 * 64 + b2.toNat % 64), 3) else
          match bs with
          | [] => (runeError, 1)
          | b3 :: _ =>
            if b3.toNat < 0x80 ∨ 0xBF < b3.toNat then (runeError, 1)
            else (Char.ofNat (b0.toNat % 8 * 262144 + b1.toNat % 64 * 4096 +
              b2.toNat % 64 * 64 + b3.toNat % 64), 4)

example : decodeRune [0xE2, 0x80, 0xA8] = ('\u2028', 3) := by decide
example : decodeRune [0xED, 0xA0, 0x80] = (runeError, 1) := by decide

/-! ## Decoding an encoded rune -/

theorem toNat_ofNat {n : Nat} (h : n < 256) : (UInt8.ofNat n).toNat = n :=
  UInt8.toNat_ofNat_of_lt h

/-- A scalar value is below U+D800, or above U+DFFF and at most U+10FFFF. -/
theorem char_toNat_range (c : Char) :
    c.toNat < 0xD800 ∨ (0xDFFF < c.toNat ∧ c.toNat < 0x110000) := by
  have := c.valid
  simp only [Char.toNat, UInt32.isValidChar, Nat.isValidChar, UInt32.toNat] at this ⊢
  omega

theorem ofNat_toNat_eq {c : Char} {n : Nat} (h : n = c.toNat) : Char.ofNat n = c := by
  subst h; exact Char.ofNat_toNat c

theorem leading_two {b : Nat} (h : 0xC2 ≤ b ∧ b ≤ 0xDF) : leading b = some (2, 0x80, 0xBF) := by
  simp only [leading, if_pos h]

theorem leading_three {b : Nat} (h : 0xE0 ≤ b ∧ b ≤ 0xEF) :
    leading b = some (3, if b = 0xE0 then 0xA0 else 0x80, if b = 0xED then 0x9F else 0xBF) := by
  obtain ⟨h₁, h₂⟩ := h
  interval_cases b <;> rfl

theorem leading_four {b : Nat} (h : 0xF0 ≤ b ∧ b ≤ 0xF4) :
    leading b = some (4, if b = 0xF0 then 0x90 else 0x80, if b = 0xF4 then 0x8F else 0xBF) := by
  obtain ⟨h₁, h₂⟩ := h
  interval_cases b <;> rfl

theorem decodeRune_two {b0 b1 : UInt8} {rest : List UInt8} {lo hi : Nat} (h0 : 0x80 ≤ b0.toNat)
    (hl : leading b0.toNat = some (2, lo, hi)) (h1 : lo ≤ b1.toNat ∧ b1.toNat ≤ hi) :
    decodeRune (b0 :: b1 :: rest) = (Char.ofNat (b0.toNat % 32 * 64 + b1.toNat % 64), 2) := by
  simp only [decodeRune, hl, List.length_cons]
  rw [if_neg (by omega), if_neg (by omega), if_neg (by omega), if_pos (le_refl 2)]

theorem decodeRune_three {b0 b1 b2 : UInt8} {rest : List UInt8} {lo hi : Nat}
    (h0 : 0x80 ≤ b0.toNat) (hl : leading b0.toNat = some (3, lo, hi))
    (h1 : lo ≤ b1.toNat ∧ b1.toNat ≤ hi) (h2 : 0x80 ≤ b2.toNat ∧ b2.toNat ≤ 0xBF) :
    decodeRune (b0 :: b1 :: b2 :: rest) =
      (Char.ofNat (b0.toNat % 16 * 4096 + b1.toNat % 64 * 64 + b2.toNat % 64), 3) := by
  simp only [decodeRune, hl, List.length_cons]
  rw [if_neg (by omega), if_neg (by omega), if_neg (by omega), if_neg (by omega),
    if_neg (by omega), if_pos (le_refl 3)]

theorem decodeRune_four {b0 b1 b2 b3 : UInt8} {rest : List UInt8} {lo hi : Nat}
    (h0 : 0x80 ≤ b0.toNat) (hl : leading b0.toNat = some (4, lo, hi))
    (h1 : lo ≤ b1.toNat ∧ b1.toNat ≤ hi) (h2 : 0x80 ≤ b2.toNat ∧ b2.toNat ≤ 0xBF)
    (h3 : 0x80 ≤ b3.toNat ∧ b3.toNat ≤ 0xBF) :
    decodeRune (b0 :: b1 :: b2 :: b3 :: rest) =
      (Char.ofNat (b0.toNat % 8 * 262144 + b1.toNat % 64 * 4096 + b2.toNat % 64 * 64 +
        b3.toNat % 64), 4) := by
  simp only [decodeRune, hl, List.length_cons]
  rw [if_neg (by omega), if_neg (by omega), if_neg (by omega), if_neg (by omega),
    if_neg (by omega), if_neg (by omega), if_neg (by omega)]

/-- Every byte of a rune above ASCII is at least `0x80`, so none of them is an ASCII byte. -/
theorem le_toNat_of_mem_encodeRune {c : Char} (hc : 0x80 ≤ c.toNat) {b : UInt8}
    (hb : b ∈ encodeRune c) : 0x80 ≤ b.toNat := by
  have hr := char_toNat_range c
  unfold encodeRune at hb
  simp only [if_neg (by omega : ¬ c.toNat < 0x80)] at hb
  split_ifs at hb <;>
    simp only [List.mem_cons, List.mem_singleton, List.not_mem_nil, or_false] at hb <;>
    rcases hb with rfl | rfl | rfl | rfl <;> rw [toNat_ofNat (by omega)] <;> omega

theorem length_encodeRune_pos (c : Char) : 0 < (encodeRune c).length := by
  simp only [encodeRune]; split_ifs <;> simp

/-- **A rune's encoding decodes to it**, and its size is the encoding's length. -/
theorem decodeRune_encodeRune (c : Char) (rest : List UInt8) :
    decodeRune (encodeRune c ++ rest) = (c, (encodeRune c).length) := by
  have hr := char_toNat_range c
  have hc : ∀ {n}, n = c.toNat → ∀ k : Nat, (Char.ofNat n, k) = (c, k) := fun h _ => by
    rw [ofNat_toNat_eq h]
  unfold encodeRune
  by_cases h1 : c.toNat < 0x80
  · simp only [if_pos h1, List.singleton_append, decodeRune, toNat_ofNat (by omega : c.toNat < 256)]
    simp [h1, ofNat_toNat_eq]
  by_cases h2 : c.toNat < 0x800
  · have e0 := toNat_ofNat (by omega : 0xC0 + c.toNat / 64 < 256)
    have e1 := toNat_ofNat (by omega : 0x80 + c.toNat % 64 < 256)
    simp only [if_neg h1, if_pos h2, List.cons_append, List.nil_append]
    rw [decodeRune_two (by omega) (leading_two (by omega)) (by omega)]
    exact hc (by omega) _
  by_cases h3 : c.toNat < 0x10000
  · have e0 := toNat_ofNat (by omega : 0xE0 + c.toNat / 4096 < 256)
    have e1 := toNat_ofNat (by omega : 0x80 + c.toNat / 64 % 64 < 256)
    have e2 := toNat_ofNat (by omega : 0x80 + c.toNat % 64 < 256)
    simp only [if_neg h1, if_neg h2, if_pos h3, List.cons_append, List.nil_append]
    rw [decodeRune_three (by omega) (leading_three (by omega)) (by split_ifs <;> omega)
      (by omega)]
    exact hc (by omega) _
  · have e0 := toNat_ofNat (by omega : 0xF0 + c.toNat / 262144 < 256)
    have e1 := toNat_ofNat (by omega : 0x80 + c.toNat / 4096 % 64 < 256)
    have e2 := toNat_ofNat (by omega : 0x80 + c.toNat / 64 % 64 < 256)
    have e3 := toNat_ofNat (by omega : 0x80 + c.toNat % 64 < 256)
    simp only [if_neg h1, if_neg h2, if_neg h3, List.cons_append, List.nil_append]
    rw [decodeRune_four (by omega) (leading_four (by omega)) (by split_ifs <;> omega)
      (by omega) (by omega)]
    exact hc (by omega) _

end Laforge.Go.Utf8
