/-!
# Laforge.Go.Xxhash

`xxhash.Sum64` and `xxhash.Sum64String` (`github.com/cespare/xxhash`), the 64-bit XXH64 hash
with seed 0 that `Remote.Hash` applies.

The input is consumed in 32-byte stripes by four accumulators (when there are at least 32
bytes), then in 8-byte words, one 4-byte word and single bytes, and the result is avalanched.
The loops are written with their iteration counts, so the definition is structural and
evaluates by `decide`.
-/

namespace Laforge.Go.Xxhash

def prime1 : UInt64 := 11400714785074694791
def prime2 : UInt64 := 14029467366897019727
def prime3 : UInt64 := 1609587929392839161
def prime4 : UInt64 := 9650029242287828579
def prime5 : UInt64 := 2870177450012600261

/-- Rotate left by `r` bits. -/
def rol (x r : UInt64) : UInt64 := (x <<< r) ||| (x >>> (64 - r))

def round (acc input : UInt64) : UInt64 := rol (acc + input * prime2) 31 * prime1

def mergeRound (acc val : UInt64) : UInt64 := (acc ^^^ round 0 val) * prime1 + prime4

/-- The little-endian word in the first eight bytes. -/
def u64 (b : List UInt8) : UInt64 := (b.take 8).foldr (fun x acc => (acc <<< 8) ||| x.toUInt64) 0

/-- The little-endian word in the first four bytes. -/
def u32 (b : List UInt8) : UInt64 := (b.take 4).foldr (fun x acc => (acc <<< 8) ||| x.toUInt64) 0

/-- `n` rounds over 32-byte stripes. -/
def stripes : Nat → List UInt8 → UInt64 × UInt64 × UInt64 × UInt64 →
    (UInt64 × UInt64 × UInt64 × UInt64) × List UInt8
  | 0, b, v => (v, b)
  | n + 1, b, (v1, v2, v3, v4) =>
    stripes n (b.drop 32)
      (round v1 (u64 b), round v2 (u64 (b.drop 8)), round v3 (u64 (b.drop 16)),
        round v4 (u64 (b.drop 24)))

/-- `n` rounds over 8-byte words. -/
def words : Nat → List UInt8 → UInt64 → UInt64 × List UInt8
  | 0, b, h => (h, b)
  | n + 1, b, h => words n (b.drop 8) (rol (h ^^^ round 0 (u64 b)) 27 * prime1 + prime4)

/-- The rounds over the remaining single bytes. -/
def tailBytes : List UInt8 → UInt64 → UInt64
  | [], h => h
  | x :: xs, h => tailBytes xs (rol (h ^^^ x.toUInt64 * prime5) 11 * prime1)

/-- `Sum64`. -/
def sum64 (b : List UInt8) : UInt64 :=
  let n := b.length
  let (h, rest) :=
    if 32 ≤ n then
      let ((v1, v2, v3, v4), rest) := stripes (n / 32) b (prime1 + prime2, prime2, 0, 0 - prime1)
      let h := rol v1 1 + rol v2 7 + rol v3 12 + rol v4 18
      (mergeRound (mergeRound (mergeRound (mergeRound h v1) v2) v3) v4, rest)
    else (prime5, b)
  let h := h + n.toUInt64
  let (h, rest) := words (rest.length / 8) rest h
  let (h, rest) :=
    if 4 ≤ rest.length then (rol (h ^^^ u32 rest * prime1) 23 * prime2 + prime3, rest.drop 4)
    else (h, rest)
  let h := tailBytes rest h
  let h := (h ^^^ (h >>> 33)) * prime2
  let h := (h ^^^ (h >>> 29)) * prime3
  h ^^^ (h >>> 32)

/-- `Sum64String`: `Sum64` of the string's UTF-8 bytes. -/
def sum64String (s : String) : UInt64 := sum64 s.toUTF8.data.toList

example : sum64String "" = 0xEF46DB3751D8E999 := by decide
example : sum64String "a" = 0xD24EC4F1A98C6E5B := by decide

end Laforge.Go.Xxhash
