import Laforge.Go.Utf8

/-!
# Laforge.Go.Strconv

The ASCII bytes and decimal numbers that the JSON codec and the time formatter share.

1. `appendUint` is `strconv.AppendUint(b, n, 10)`: the decimal digits of `n`.
2. `parseUint` is `strconv.ParseUint(s, 10, 64)`, with its syntax and range errors as `none`.

`parseUint_appendUint` is their round trip for every `uint64`.
-/

namespace Laforge.Go

open Laforge.Go.Utf8

/-- A byte given by the ASCII character it encodes. -/
def ascii (ch : Char) : UInt8 := UInt8.ofNat ch.toNat

/-- The bytes of an ASCII text. -/
def asciiBytes (s : String) : List UInt8 := s.data.map ascii

/-- An ASCII digit. -/
def isDigit (c : UInt8) : Bool := 0x30 ≤ c.toNat && c.toNat ≤ 0x39

theorem toNat_ascii {ch : Char} (h : ch.toNat < 256) : (ascii ch).toNat = ch.toNat :=
  toNat_ofNat h

theorem ne_ascii {b : UInt8} {ch : Char} (h : ch.toNat < 256) (hb : b.toNat ≠ ch.toNat) :
    b ≠ ascii ch := fun e => hb (e ▸ toNat_ascii h)

/-! ## Writing -/

/-- The decimal digits of `n`, most significant first, dividing by ten at most `fuel` times. -/
def digitsFuel : Nat → Nat → List Nat
  | 0, _ => []
  | fuel + 1, n => if n < 10 then [n] else digitsFuel fuel (n / 10) ++ [n % 10]

/-- The decimal digits of `n`, most significant first; `[0]` for zero.  Each division by ten
makes `n` smaller, so `n + 1` divisions are more than enough. -/
def decimalDigits (n : Nat) : List Nat := digitsFuel (n + 1) n

/-- `strconv.AppendUint(dst, n, 10)`. -/
def appendUint (n : Nat) : List UInt8 := (decimalDigits n).map fun d => UInt8.ofNat (0x30 + d)

example : appendUint 1090 = asciiBytes "1090" := by decide

theorem mem_digitsFuel_lt {f n d : Nat} (hd : d ∈ digitsFuel f n) : d < 10 := by
  induction f generalizing n with
  | zero => simp [digitsFuel] at hd
  | succ f ih =>
    simp only [digitsFuel] at hd
    split_ifs at hd with h
    · simp only [List.mem_singleton] at hd; omega
    · rcases List.mem_append.mp hd with hd | hd
      · exact ih hd
      · simp only [List.mem_singleton] at hd; omega

/-- The leading digit is not `0`, unless `n` is. -/
theorem digitsFuel_eq_cons {f n : Nat} (h : n < f) :
    ∃ d ds, digitsFuel f n = d :: ds ∧ (0 < n → 0 < d) := by
  induction f generalizing n with
  | zero => omega
  | succ f ih =>
    simp only [digitsFuel]
    split_ifs with h10
    · exact ⟨n, [], rfl, id⟩
    · obtain ⟨d, ds, he, hd⟩ := @ih (n / 10) (by omega)
      exact ⟨d, ds ++ [n % 10], by rw [he]; rfl, fun _ => hd (by omega)⟩

theorem digit_spec : ∀ d < 10, (UInt8.ofNat (0x30 + d)).toNat = 0x30 + d ∧
    isDigit (UInt8.ofNat (0x30 + d)) = true := by
  decide

/-! ## Fixed-width digits -/

/-- The last `k` decimal digits of `n`, most significant first. -/
def padDigits : Nat → Nat → List Nat
  | 0, _ => []
  | k + 1, n => padDigits k (n / 10) ++ [n % 10]

/-- The bytes of a list of decimal digits. -/
def digitBytes (ds : List Nat) : List UInt8 := ds.map fun d => UInt8.ofNat (0x30 + d)

/-- The number a list of decimal digits denotes. -/
def digitsValue (ds : List Nat) : Nat := ds.foldl (fun a d => a * 10 + d) 0

theorem length_padDigits (k n : Nat) : (padDigits k n).length = k := by
  induction k generalizing n with
  | zero => rfl
  | succ k ih => simp [padDigits, ih]

theorem mem_padDigits_lt {k n d : Nat} (hd : d ∈ padDigits k n) : d < 10 := by
  induction k generalizing n with
  | zero => simp [padDigits] at hd
  | succ k ih =>
    rcases List.mem_append.mp hd with hd | hd
    · exact ih hd
    · simp only [List.mem_singleton] at hd; omega

theorem padDigits_zero (k : Nat) : padDigits k 0 = List.replicate k 0 := by
  induction k with
  | zero => rfl
  | succ k ih => rw [padDigits, Nat.zero_div, ih, Nat.zero_mod, List.replicate_succ']

/-- `AppendInt`'s digits, zero-padded to `k`, are the last `k` digits when `n` has at most
`k`. -/
theorem replicate_append_digitsFuel {k f n : Nat} (hk : 0 < k) (h : n < 10 ^ k) (hf : n < f) :
    List.replicate (k - (digitsFuel f n).length) 0 ++ digitsFuel f n = padDigits k n := by
  induction k generalizing f n with
  | zero => omega
  | succ k ih =>
    obtain ⟨f, rfl⟩ : ∃ f', f = f' + 1 := ⟨f - 1, by omega⟩
    simp only [digitsFuel]
    split_ifs with h10
    · rw [padDigits, Nat.div_eq_of_lt h10, padDigits_zero, Nat.mod_eq_of_lt h10]
      simp [List.replicate_succ']
    · have hk' : 0 < k := by
        rcases Nat.eq_zero_or_pos k with rfl | hk'
        · omega
        · exact hk'
      have hlt : n / 10 < 10 ^ k := by rw [pow_succ] at h; omega
      rw [padDigits, ← @ih f (n / 10) hk' hlt (by omega), List.length_append, List.length_singleton,
        List.append_assoc]
      congr 2
      omega

theorem digitsValue_append_replicate (ds : List Nat) (k : Nat) :
    digitsValue (ds ++ List.replicate k 0) = digitsValue ds * 10 ^ k := by
  induction k with
  | zero => simp
  | succ k ih =>
    rw [List.replicate_succ', ← List.append_assoc, digitsValue, List.foldl_append, ← digitsValue,
      ih]
    simp [pow_succ, Nat.mul_assoc]

theorem digitsValue_padDigits (k n : Nat) : digitsValue (padDigits k n) = n % 10 ^ k := by
  induction k generalizing n with
  | zero => simp [padDigits, digitsValue, Nat.mod_one]
  | succ k ih =>
    rw [padDigits, digitsValue, List.foldl_append, ← digitsValue, ih, pow_succ', Nat.mod_mul]
    simp only [List.foldl_cons, List.foldl_nil]
    omega

/-! ## Reading -/

/-- The largest `uint64`. -/
def maxUint64 : Nat := 2 ^ 64 - 1

/-- `cutoff` of `ParseUint` in base 10: a value at least this times ten overflows. -/
def cutoff : Nat := maxUint64 / 10 + 1

/-- The loop of `ParseUint`.  A letter is a digit of value at least ten, which base 10 rejects
as it rejects any other byte. -/
def parseUintLoop : Nat → List UInt8 → Option Nat
  | n, [] => some n
  | n, c :: cs =>
    if !isDigit c then none
    else if cutoff ≤ n then none
    else
      let n1 := n * 10 + (c.toNat - 0x30)
      if maxUint64 < n1 then none else parseUintLoop n1 cs

/-- `strconv.ParseUint(s, 10, 64)`, `none` for its syntax and range errors. -/
def parseUint (s : List UInt8) : Option Nat :=
  if s = [] then none else parseUintLoop 0 s

example : parseUint (asciiBytes "18446744073709551615") = some maxUint64 := by decide
example : parseUint (asciiBytes "18446744073709551616") = none := by decide
example : parseUint (asciiBytes "-1") = none := by decide

theorem parseUintLoop_append (a : Nat) (xs ys : List UInt8) :
    parseUintLoop a (xs ++ ys) = (parseUintLoop a xs).bind fun b => parseUintLoop b ys := by
  induction xs generalizing a with
  | nil => rfl
  | cons x xs ih =>
    simp only [List.cons_append, parseUintLoop]
    split_ifs <;> simp [ih]

/-- The loop reads `n`'s digits back as `n`, as long as `n` fits in 64 bits. -/
theorem parseUintLoop_digitsFuel {f n : Nat} (h : n < f) (hn : n ≤ maxUint64) :
    parseUintLoop 0 ((digitsFuel f n).map fun d => UInt8.ofNat (0x30 + d)) = some n := by
  induction f generalizing n with
  | zero => omega
  | succ f ih =>
    simp only [digitsFuel]
    have hcut : ∀ m, m ≤ maxUint64 → ¬ cutoff ≤ m / 10 := fun m hm => by
      simp only [cutoff, maxUint64] at hm ⊢; omega
    split_ifs with h10
    · obtain ⟨e, hdig⟩ := digit_spec n h10
      simp only [List.map_cons, List.map_nil, parseUintLoop, hdig, e,
        Bool.not_true, Bool.false_eq_true, ↓reduceIte]
      rw [if_neg (by simp only [cutoff, maxUint64]; omega), if_neg (by omega)]
      simp
    · obtain ⟨e, hdig⟩ := digit_spec (n % 10) (by omega)
      rw [List.map_append, parseUintLoop_append, ih (by omega) (by omega), Option.some_bind]
      simp only [List.map_cons, List.map_nil, parseUintLoop, hdig, e, Bool.not_true,
        Bool.false_eq_true, ↓reduceIte, if_neg (hcut n hn)]
      rw [if_neg (by omega)]
      congr 1
      omega

/-- **A number `AppendUint` writes parses back.** -/
theorem parseUint_appendUint {n : Nat} (hn : n ≤ maxUint64) : parseUint (appendUint n) = some n := by
  obtain ⟨d, ds, he, -⟩ := digitsFuel_eq_cons (Nat.lt_succ_self n)
  have hne : appendUint n ≠ [] := by simp [appendUint, decimalDigits, he]
  rw [parseUint, if_neg hne]
  exact parseUintLoop_digitsFuel (Nat.lt_succ_self n) hn

end Laforge.Go
