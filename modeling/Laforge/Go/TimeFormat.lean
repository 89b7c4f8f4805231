import Laforge.Go.Time
import Laforge.Go.Strconv
import Mathlib.Data.List.GetD

/-!
# Laforge.Go.TimeFormat

`Time.MarshalJSON` and `Time.UnmarshalJSON`: a time is written as an RFC 3339 text with
nanoseconds between double quotes, and read back by the fast RFC 3339 parser.

1. `appendFormatRFC3339` writes the date and clock of the time in its own location, the
   nanoseconds with their trailing zeros cut (`appendNano`), and the zone: `Z` for offset 0,
   else a sign and the offset in hours and minutes.  The minutes are `offset / 60`, which Go
   truncates: an offset that is not a whole number of minutes loses its seconds.
2. `appendStrictRFC3339` then rejects what RFC 3339 cannot say: a year that is not four digits,
   and a zone of 24 hours or more.
3. `parseRFC3339` is the fast path of `parseStrictRFC3339`, cut into its three parts (date and
   clock, `parseFraction`, `parseZone`).  When it fails the source falls back to
   `time.Parse(time.RFC3339, ...)`; the model takes that parser as a parameter.
4. Only the zone's offset is kept of the location the parser picks (`Local` when its offset
   agrees, else a fixed zone); it is the offset the text gives.

`unmarshalJSON_marshalJSON` is the round trip: for a time in the years 0 to 9999 whose offset
is under a day, the text reads back as the same local clock with the offset truncated to whole
minutes, and so as the same time exactly when the offset is whole minutes.
-/

namespace Laforge.Go

/-! ## Writing -/

/-- `appendInt(b, x, width)`: `x` in decimal, after a `-` if negative, its digits zero-padded to
`width`.  The source's fast paths for two and four digits write the same bytes. -/
def appendInt (x : Int) (width : Nat) : List UInt8 :=
  (if x < 0 then [ascii '-'] else []) ++
    List.replicate (width - (decimalDigits x.natAbs).length) (ascii '0') ++ appendUint x.natAbs

/-- `appendNano(b, nanosec, stdFracSecond9)` with `.`: nothing for a whole second, else the dot
and nine digits, with the trailing zeros cut from the buffer. -/
def appendNano (b : List UInt8) (nanosec : Nat) : List UInt8 :=
  if nanosec = 0 then b else
  let b := b ++ ascii '.' :: appendInt nanosec 9
  let b := (b.reverse.dropWhile (· == ascii '0')).reverse
  if b.getLast? = some (ascii '.') then b.dropLast else b

/-- `t.appendFormatRFC3339(b, true)`: the `RFC3339Nano` text of a time. -/
def appendFormatRFC3339 (t : Time) : List UInt8 :=
  let date := absDate t.abs
  let clock := absClock t.abs
  let b := appendInt date.1 4 ++ ascii '-' :: appendInt date.2.1 2 ++ ascii '-' ::
    appendInt date.2.2 2 ++ ascii 'T' :: appendInt clock.1 2 ++ ascii ':' ::
    appendInt clock.2.1 2 ++ ascii ':' :: appendInt clock.2.2 2
  let b := appendNano b t.nsec
  if t.offset = 0 then b ++ [ascii 'Z'] else
  let zone := t.offset.tdiv 60
  let sign := if zone < 0 then ascii '-' else ascii '+'
  let zone := if zone < 0 then -zone else zone
  b ++ sign :: appendInt (zone / 60) 2 ++ ascii ':' :: appendInt (zone % 60) 2

/-- `num2`: two digit bytes as a number, in byte arithmetic. -/
def num2 : List UInt8 → UInt8
  | b0 :: b1 :: _ => 10 * (b0 - ascii '0') + (b1 - ascii '0')
  | _ => 0

/-- `t.appendStrictRFC3339(b)`: the text, unless its year is not four digits wide or its zone
is 24 hours or more. -/
def appendStrictRFC3339 (t : Time) : Except String (List UInt8) :=
  let b := appendFormatRFC3339 t
  if b.get? 4 ≠ some (ascii '-') then .error "year outside of range [0,9999]"
  else if b.getLast? ≠ some (ascii 'Z') ∧
      (isDigit (b.getD (b.length - 6) 0) ∨ 24 ≤ num2 (b.drop (b.length - 5))) then
    .error "timezone hour outside of range [0,23]"
  else .ok b

/-- `Time.MarshalJSON`: the text between double quotes. -/
def marshalJSON (t : Time) : Except String (List UInt8) :=
  match appendStrictRFC3339 t with
  | .ok b => .ok (ascii '"' :: b ++ [ascii '"'])
  | .error e => .error ("Time.MarshalJSON: " ++ e)

/-! ## Reading -/

/-- The loop of `parseRFC3339`'s `parseUint` and of `atoi` over digits:
`x = x*10 + int(c) - '0'`. -/
def digitsLoop (s : List UInt8) : Nat := s.foldl (fun x c => x * 10 + (c.toNat - 0x30)) 0

/-- `parseRFC3339`'s `parseUint(s, min, max)`: the number, if every byte is a digit and the
number is in range. -/
def parseNum (s : List UInt8) (lo hi : Nat) : Option Nat :=
  if s.all isDigit then
    let x := digitsLoop s
    if x < lo ∨ hi < x then none else some x
  else none

/-- `s[i:j]`. -/
def slice (s : List UInt8) (i j : Nat) : List UInt8 := (s.drop i).take (j - i)

/-- `parseNanoseconds(value, nbytes)` on the digits after the dot: nine digits at most are
read, and scaled to nanoseconds. -/
def parseNanoseconds (digits : List UInt8) : Nat :=
  let ds := digits.take 9
  digitsLoop ds * 10 ^ (9 - ds.length)

theorem digitsLoop_lt {s : List UInt8} (h : ∀ c ∈ s, isDigit c = true) :
    digitsLoop s < 10 ^ s.length := by
  suffices ∀ a, s.foldl (fun x c => x * 10 + (c.toNat - 0x30)) a < (a + 1) * 10 ^ s.length by
    simpa using this 0
  induction s with
  | nil => simp
  | cons c s ih =>
    intro a
    have hc := h c (.head _)
    simp only [isDigit, Bool.and_eq_true, decide_eq_true_eq] at hc
    calc (c :: s).foldl (fun x c => x * 10 + (c.toNat - 0x30)) a
        < (a * 10 + (c.toNat - 0x30) + 1) * 10 ^ s.length := ih (fun x hx => h x (.tail _ hx)) _
      _ ≤ (a + 1) * 10 * 10 ^ s.length := Nat.mul_le_mul_right _ (by omega)
      _ = (a + 1) * 10 ^ (c :: s).length := by rw [List.length_cons, pow_succ', Nat.mul_assoc]

/-- Nine digits or fewer, scaled, are less than a second. -/
theorem parseNanoseconds_lt {digits : List UInt8} (h : ∀ c ∈ digits, isDigit c = true) :
    parseNanoseconds digits < 1000000000 := by
  have hlen : (digits.take 9).length ≤ 9 := by simp
  have hv : digitsLoop (digits.take 9) < 10 ^ (digits.take 9).length :=
    digitsLoop_lt fun c hc => h c (List.mem_of_mem_take hc)
  calc parseNanoseconds digits
      < 10 ^ (digits.take 9).length * 10 ^ (9 - (digits.take 9).length) :=
        Nat.mul_lt_mul_of_pos_right hv (Nat.pos_pow_of_pos _ (by decide))
    _ = 1000000000 := by rw [← pow_add, Nat.add_sub_cancel' hlen]; rfl

/-- The fraction of a second after the clock: a dot and at least one digit start it, every digit
is consumed, and the first nine give the nanoseconds. -/
def parseFraction (s : List UInt8) : Fin 1000000000 × List UInt8 :=
  match s with
  | c :: d :: ds =>
    if c = ascii '.' ∧ isDigit d = true then
      (⟨parseNanoseconds ((d :: ds).takeWhile isDigit),
        parseNanoseconds_lt fun _ hc => List.mem_takeWhile_imp hc⟩,
        (d :: ds).dropWhile isDigit)
    else (0, s)
  | s => (0, s)

/-- The zone of `parseRFC3339`: `Z`, or a sign, hours and minutes; `unix` is the clock read as
UTC. -/
def parseZone (unix : Int) (nsec : Fin 1000000000) (s : List UInt8) : Option Time :=
  if s = [ascii 'Z'] then some ⟨unix, nsec, nsec.isLt, 0⟩
  else if s.length ≠ 6 then none
  else
    (parseNum (slice s 1 3) 0 23).bind fun hr =>
    (parseNum (slice s 4 6) 0 59).bind fun mm =>
    if (s.getD 0 0 = ascii '-' ∨ s.getD 0 0 = ascii '+') ∧ s.getD 3 0 = ascii ':' then
      let zoneOffset : Int := (hr * 60 + mm) * 60
      let zoneOffset := if s.getD 0 0 = ascii '-' then -zoneOffset else zoneOffset
      some ⟨unix - zoneOffset, nsec, nsec.isLt, zoneOffset⟩
    else none

/-- `parseRFC3339(s, local)`, `none` where the source returns `false`. -/
def parseRFC3339 (s : List UInt8) : Option Time :=
  if s.length < 19 then none else
  (parseNum (slice s 0 4) 0 9999).bind fun year =>
  (parseNum (slice s 5 7) 1 12).bind fun month =>
  (parseNum (slice s 8 10) 1 (daysIn month year)).bind fun day =>
  (parseNum (slice s 11 13) 0 23).bind fun hour =>
  (parseNum (slice s 14 16) 0 59).bind fun min =>
  (parseNum (slice s 17 19) 0 59).bind fun sec =>
  if s.getD 4 0 = ascii '-' ∧ s.getD 7 0 = ascii '-' ∧ s.getD 10 0 = ascii 'T' ∧
      s.getD 13 0 = ascii ':' ∧ s.getD 16 0 = ascii ':' then
    let fraction := parseFraction (s.drop 19)
    parseZone (dateUnix year month day hour min sec) fraction.1 fraction.2
  else none

/-- `Time.UnmarshalJSON(data)` into the time `t`: `null` leaves it, any other value must be a
string, whose bytes between the quotes are parsed as they are (no escape is undone).  `parse`
is `time.Parse(time.RFC3339, ...)`, for texts the fast path rejects. -/
def unmarshalJSON (parse : List UInt8 → Except String Time) (data : List UInt8) (t : Time) :
    Except String Time :=
  if data = asciiBytes "null" then .ok t
  else if data.length < 2 ∨ data.head? ≠ some (ascii '"') ∨ data.getLast? ≠ some (ascii '"') then
    .error "Time.UnmarshalJSON: input is not a JSON string"
  else
    let inner := (data.drop 1).dropLast
    match parseRFC3339 inner with
    | some t => .ok t
    | none => parse inner

example : parseRFC3339 (asciiBytes "2018-03-01T12:30:05.25+01:30") =
    some ⟨1519902005, 250000000, by decide, 5400⟩ := by decide

/-! ## Digits -/

theorem digitsLoop_digitBytes {ds : List Nat} (h : ∀ d ∈ ds, d < 10) :
    digitsLoop (digitBytes ds) = digitsValue ds := by
  suffices ∀ a, (digitBytes ds).foldl (fun x c => x * 10 + (c.toNat - 0x30)) a =
      ds.foldl (fun a d => a * 10 + d) a from this 0
  induction ds with
  | nil => simp [digitBytes]
  | cons d ds ih =>
    intro a
    have hd := (digit_spec d (h d (.head _))).1
    simp only [digitBytes, List.map_cons, List.foldl_cons, hd, Nat.add_sub_cancel_left] at ih ⊢
    exact ih (fun x hx => h x (.tail _ hx)) _

theorem all_isDigit_digitBytes {ds : List Nat} (h : ∀ d ∈ ds, d < 10) :
    (digitBytes ds).all isDigit = true := by
  rw [List.all_eq_true]
  intro c hc
  obtain ⟨d, hd, rfl⟩ := List.mem_map.mp hc
  exact (digit_spec d (h d hd)).2

/-- **A field written with its width reads back**, when it fits and is in range. -/
theorem parseNum_padDigits {k n lo hi : Nat} (h : n < 10 ^ k) (hlo : lo ≤ n) (hhi : n ≤ hi) :
    parseNum (digitBytes (padDigits k n)) lo hi = some n := by
  have hds : ∀ d ∈ padDigits k n, d < 10 := fun _ => mem_padDigits_lt
  simp only [parseNum, all_isDigit_digitBytes hds, digitsLoop_digitBytes hds, digitsValue_padDigits,
    Nat.mod_eq_of_lt h, ↓reduceIte]
  rw [if_neg (by omega)]

theorem appendInt_ofNat {n k : Nat} (hk : 0 < k) (h : n < 10 ^ k) :
    appendInt n k = digitBytes (padDigits k n) := by
  have hz : ascii '0' = UInt8.ofNat (0x30 + 0) := rfl
  rw [appendInt, if_neg (by omega), List.nil_append, Int.natAbs_ofNat, appendUint, decimalDigits,
    hz, ← replicate_append_digitsFuel hk h (Nat.lt_succ_self n), digitBytes, List.map_append,
    List.map_replicate]

/-! ## Nanoseconds -/

/-- Digits with their trailing zeros cut. -/
def trimZeros (ds : List Nat) : List Nat := (ds.reverse.dropWhile (· == 0)).reverse

/-- What `appendNano` adds for `n` nanoseconds. -/
def nanoText (n : Nat) : List UInt8 :=
  if n = 0 then [] else ascii '.' :: digitBytes (trimZeros (padDigits 9 n))

/-- The cut zeros are all that was cut. -/
theorem trimZeros_append_replicate (ds : List Nat) :
    trimZeros ds ++ List.replicate (ds.length - (trimZeros ds).length) 0 = ds := by
  have hz : ds.reverse.takeWhile (· == 0) =
      List.replicate (ds.reverse.takeWhile (· == 0)).length 0 :=
    List.eq_replicate_iff.mpr ⟨rfl, fun b hb => by simpa using List.mem_takeWhile_imp hb⟩
  have hsplit := List.takeWhile_append_dropWhile (· == 0) ds.reverse
  have hlen := congrArg List.length hsplit
  rw [List.length_append, List.length_reverse] at hlen
  rw [trimZeros, List.length_reverse, ← hlen, Nat.add_sub_cancel, ← List.reverse_replicate,
    ← hz, ← List.reverse_append, hsplit, List.reverse_reverse]

theorem mem_of_mem_trimZeros {ds : List Nat} {d : Nat} (h : d ∈ trimZeros ds) : d ∈ ds := by
  rw [← trimZeros_append_replicate ds]; exact List.mem_append_left _ h

theorem length_trimZeros_le (ds : List Nat) : (trimZeros ds).length ≤ ds.length := by
  have := congrArg List.length (trimZeros_append_replicate ds)
  rw [List.length_append] at this
  omega

theorem digitsValue_trimZeros (ds : List Nat) :
    digitsValue (trimZeros ds) * 10 ^ (ds.length - (trimZeros ds).length) = digitsValue ds := by
  conv_rhs => rw [← trimZeros_append_replicate ds]
  rw [digitsValue_append_replicate]

theorem trimZeros_padDigits_ne_nil {n : Nat} (h0 : 0 < n) (h : n < 10 ^ 9) :
    trimZeros (padDigits 9 n) ≠ [] := by
  intro he
  have hv := digitsValue_trimZeros (padDigits 9 n)
  rw [he, digitsValue_padDigits, Nat.mod_eq_of_lt h] at hv
  simp [digitsValue] at hv
  omega

theorem digit_beq_zero : ∀ d < 10, (UInt8.ofNat (0x30 + d) == ascii '0') = (d == 0) := by
  decide

theorem digit_ne_dot : ∀ d < 10, UInt8.ofNat (0x30 + d) ≠ ascii '.' := by
  decide

theorem dropWhile_digitBytes {ds : List Nat} (h : ∀ d ∈ ds, d < 10) :
    (digitBytes ds).dropWhile (· == ascii '0') = digitBytes (ds.dropWhile (· == 0)) := by
  induction ds with
  | nil => rfl
  | cons d ds ih =>
    simp only [digitBytes, List.map_cons, List.dropWhile_cons, digit_beq_zero d (h d (.head _))]
      at ih ⊢
    split_ifs
    · exact ih fun x hx => h x (.tail _ hx)
    · rfl

/-- `appendNano` writes `nanoText`: the buffer is cut only inside the nine digits. -/
theorem appendNano_eq (b : List UInt8) {n : Nat} (h : n < 10 ^ 9) :
    appendNano b n = b ++ nanoText n := by
  rcases Nat.eq_zero_or_pos n with rfl | h0
  · simp [appendNano, nanoText]
  have hds : ∀ d ∈ padDigits 9 n, d < 10 := fun _ => mem_padDigits_lt
  have hne := trimZeros_padDigits_ne_nil h0 h
  have hcut : (b ++ ascii '.' :: appendInt n 9).reverse.dropWhile (· == ascii '0') =
      (b ++ ascii '.' :: digitBytes (trimZeros (padDigits 9 n))).reverse := by
    have hrev : ∀ d ∈ (padDigits 9 n).reverse, d < 10 := fun d hd => hds d (List.mem_reverse.mp hd)
    have hkeep : ¬ (digitBytes ((padDigits 9 n).reverse.dropWhile (· == 0))).isEmpty := by
      rw [List.isEmpty_iff, digitBytes, List.map_eq_nil_iff]
      exact fun e => hne (by rw [trimZeros, e, List.reverse_nil])
    rw [appendInt_ofNat (by decide) h, List.reverse_append, List.reverse_cons, List.append_assoc,
      digitBytes, ← List.map_reverse, ← digitBytes, List.dropWhile_append,
      dropWhile_digitBytes hrev, if_neg hkeep]
    simp only [trimZeros, digitBytes, List.reverse_append, List.reverse_cons, List.map_reverse,
      List.reverse_reverse, List.append_assoc, List.singleton_append]
  obtain ⟨ds, d, hdd⟩ := (List.eq_nil_or_concat _).resolve_left hne
  rw [List.concat_eq_append] at hdd
  have hd : d < 10 := hds d (mem_of_mem_trimZeros (hdd ▸ List.mem_concat_self ds d))
  have hlast : (b ++ ascii '.' :: digitBytes (trimZeros (padDigits 9 n))).getLast? ≠
      some (ascii '.') := by
    have : b ++ ascii '.' :: digitBytes (trimZeros (padDigits 9 n)) =
        (b ++ ascii '.' :: digitBytes ds) ++ [UInt8.ofNat (0x30 + d)] := by
      simp [hdd, digitBytes]
    rw [this, List.getLast?_concat]
    exact fun e => digit_ne_dot d hd (Option.some_injective _ e)
  rw [appendNano, if_neg (Nat.pos_iff_ne_zero.mp h0)]
  simp only [hcut, List.reverse_reverse]
  rw [if_neg hlast, nanoText, if_neg (Nat.pos_iff_ne_zero.mp h0)]

/-- Neither a dot nor a digit starts the list: the text after the fraction. -/
def NoFractionHead (s : List UInt8) : Prop := ∀ c ∈ s.head?, c ≠ ascii '.' ∧ isDigit c = false

theorem takeWhile_isDigit_of_noFractionHead {s : List UInt8} (h : NoFractionHead s) :
    s.takeWhile isDigit = [] ∧ s.dropWhile isDigit = s := by
  cases s with
  | nil => exact ⟨rfl, rfl⟩
  | cons c cs =>
    have hc := (h c rfl).2
    exact ⟨by simp [List.takeWhile_cons, hc], by simp [List.dropWhile_cons, hc]⟩

/-- **The nanoseconds `appendNano` writes read back.** -/
theorem parseFraction_nanoText {n : Nat} (h : n < 10 ^ 9) {zone : List UInt8}
    (hz : NoFractionHead zone) : parseFraction (nanoText n ++ zone) = (⟨n, h⟩, zone) := by
  rcases Nat.eq_zero_or_pos n with rfl | h0
  · rw [nanoText, if_pos rfl, List.nil_append]
    match zone, hz with
    | [], _ => rfl
    | [_], _ => rfl
    | c :: d :: ds, hz => simp [parseFraction, (hz c rfl).1]
  have hds : ∀ d ∈ padDigits 9 n, d < 10 := fun _ => mem_padDigits_lt
  have ht : ∀ d ∈ trimZeros (padDigits 9 n), d < 10 := fun d hd => hds d (mem_of_mem_trimZeros hd)
  have hdig : ∀ c ∈ digitBytes (trimZeros (padDigits 9 n)), isDigit c = true := by
    intro c hc
    obtain ⟨d, hd, rfl⟩ := List.mem_map.mp hc
    exact (digit_spec d (ht d hd)).2
  have hlen : (trimZeros (padDigits 9 n)).length ≤ 9 := by
    simpa [length_padDigits] using length_trimZeros_le (padDigits 9 n)
  have hval : parseNanoseconds (digitBytes (trimZeros (padDigits 9 n))) = n := by
    have hv := digitsValue_trimZeros (padDigits 9 n)
    rw [length_padDigits, digitsValue_padDigits, Nat.mod_eq_of_lt h] at hv
    rw [parseNanoseconds, List.take_of_length_le (by simpa [digitBytes] using hlen),
      digitsLoop_digitBytes ht, digitBytes, List.length_map]
    exact hv
  obtain ⟨x, xs, hxs⟩ := List.exists_cons_of_ne_nil (trimZeros_padDigits_ne_nil h0 h)
  have hx : x < 10 := ht x (hxs ▸ List.mem_cons_self x xs)
  obtain ⟨htw, hdw⟩ := takeWhile_isDigit_of_noFractionHead hz
  have hcons : digitBytes (trimZeros (padDigits 9 n)) = UInt8.ofNat (0x30 + x) :: digitBytes xs := by
    rw [hxs]; rfl
  rw [nanoText, if_neg (Nat.pos_iff_ne_zero.mp h0), List.cons_append, hcons, List.cons_append]
  simp only [parseFraction, (digit_spec x hx).2, and_self, ↓reduceIte]
  refine Prod.ext (Fin.ext ?_) ?_ <;> dsimp only
  · rw [← List.cons_append, ← hcons, List.takeWhile_append_of_pos hdig, htw, List.append_nil]
    exact hval
  · rw [← List.cons_append, ← hcons, List.dropWhile_append_of_pos hdig, hdw]

/-! ## Zones -/

/-- Go's `offset / 60` truncates toward zero: the minutes are those of the offset's size. -/
theorem tdiv_sixty (o : Int) :
    (0 ≤ o ∧ o.tdiv 60 = ((o.natAbs / 60 : Nat) : Int)) ∨
      (o < 0 ∧ o.tdiv 60 = -((o.natAbs / 60 : Nat) : Int)) := by
  cases o with
  | ofNat m => exact .inl ⟨Int.ofNat_nonneg m, rfl⟩
  | negSucc m => exact .inr ⟨Int.negSucc_lt_zero m, rfl⟩

/-- What `appendFormatRFC3339` writes for the zone. -/
def zoneText (offset : Int) : List UInt8 :=
  if offset = 0 then [ascii 'Z'] else
  (if offset.tdiv 60 < 0 then ascii '-' else ascii '+') ::
    digitBytes (padDigits 2 (offset.natAbs / 60 / 60)) ++ ascii ':' ::
      digitBytes (padDigits 2 (offset.natAbs / 60 % 60))

/-- The zone `appendFormatRFC3339` writes, for an offset under 100 hours. -/
theorem appendZone_eq {o : Int} (h : o.natAbs < 360000) (h0 : o ≠ 0) :
    (let zone := o.tdiv 60
     let sign := if zone < 0 then ascii '-' else ascii '+'
     let zone := if zone < 0 then -zone else zone
     sign :: appendInt (zone / 60) 2 ++ ascii ':' :: appendInt (zone % 60) 2) =
    zoneText o := by
  have hz : (if o.tdiv 60 < 0 then -o.tdiv 60 else o.tdiv 60) = ((o.natAbs / 60 : Nat) : Int) := by
    rcases tdiv_sixty o with ⟨-, e⟩ | ⟨-, e⟩ <;> rw [e] <;> split_ifs <;> omega
  have hh : ((o.natAbs / 60 : Nat) : Int) / 60 = ((o.natAbs / 60 / 60 : Nat) : Int) := by omega
  have hm : ((o.natAbs / 60 : Nat) : Int) % 60 = ((o.natAbs / 60 % 60 : Nat) : Int) := by omega
  simp only [zoneText, if_neg h0, hz, hh, hm]
  rw [appendInt_ofNat (by decide) (by omega), appendInt_ofNat (by decide) (by omega)]

/-- **The zone reads back as the offset truncated to whole minutes**, for an offset under a
day. -/
theorem parseZone_zoneText (unix : Int) (nsec : Fin 1000000000) {o : Int} (h : o.natAbs < 86400) :
    parseZone unix nsec (zoneText o) =
      some ⟨unix - o.tdiv 60 * 60, nsec, nsec.isLt, o.tdiv 60 * 60⟩ := by
  by_cases h0 : o = 0
  · subst h0
    simp [zoneText, parseZone]
  have ha : o.natAbs / 60 < 1440 := by omega
  generalize hsign : (if o.tdiv 60 < 0 then ascii '-' else ascii '+') = sign
  have hs : zoneText o = sign :: digitBytes (padDigits 2 (o.natAbs / 60 / 60)) ++ ascii ':' ::
      digitBytes (padDigits 2 (o.natAbs / 60 % 60)) := by
    rw [zoneText, if_neg h0, hsign]
  generalize hao : o.natAbs / 60 = a at ha hs
  rw [hs]
  have hlen : (sign :: digitBytes (padDigits 2 (a / 60)) ++ ascii ':' ::
      digitBytes (padDigits 2 (a % 60))).length = 6 := rfl
  have hne : sign :: digitBytes (padDigits 2 (a / 60)) ++ ascii ':' ::
      digitBytes (padDigits 2 (a % 60)) ≠ [ascii 'Z'] := fun e => by simp [e] at hlen
  rw [parseZone, if_neg hne, if_neg (by rw [hlen]; decide)]
  have hhr : slice (sign :: digitBytes (padDigits 2 (a / 60)) ++ ascii ':' ::
      digitBytes (padDigits 2 (a % 60))) 1 3 = digitBytes (padDigits 2 (a / 60)) := rfl
  have hmm : slice (sign :: digitBytes (padDigits 2 (a / 60)) ++ ascii ':' ::
      digitBytes (padDigits 2 (a % 60))) 4 6 = digitBytes (padDigits 2 (a % 60)) := rfl
  rw [hhr, hmm, parseNum_padDigits (by omega) (by omega) (by omega), Option.some_bind,
    parseNum_padDigits (by omega) (by omega) (by omega), Option.some_bind]
  have hsgn : sign = ascii '-' ∨ sign = ascii '+' := by
    rw [← hsign]; split_ifs <;> simp
  have hcolon : (digitBytes (padDigits 2 (a / 60)) ++ ascii ':' ::
      digitBytes (padDigits 2 (a % 60))).getD 2 0 = ascii ':' := rfl
  simp only [List.cons_append, List.getD_cons_zero, List.getD_cons_succ, hcolon, hsgn, and_true,
    ↓reduceIte, Option.some.injEq, Time.mk.injEq]
  have hoff : (if sign = ascii '-' then -((((a / 60 : Nat) : Int) * 60 + ((a % 60 : Nat) : Int)) * 60)
      else (((a / 60 : Nat) : Int) * 60 + ((a % 60 : Nat) : Int)) * 60) = o.tdiv 60 * 60 := by
    have hpm : ascii '+' ≠ ascii '-' := by decide
    rcases tdiv_sixty o with ⟨-, e⟩ | ⟨-, e⟩ <;> rw [e, hao] at hsign ⊢ <;>
      split_ifs at hsign <;> subst hsign <;> simp only [hpm, ↓reduceIte] <;> omega
  exact ⟨by rw [hoff], trivial, hoff⟩

/-! ## Date and clock -/

/-- The date and clock an RFC 3339 text starts with, each field at its width. -/
def dateTimeBytes (year month day hour min sec : Nat) : List UInt8 :=
  digitBytes (padDigits 4 year) ++ ascii '-' :: digitBytes (padDigits 2 month) ++ ascii '-' ::
    digitBytes (padDigits 2 day) ++ ascii 'T' :: digitBytes (padDigits 2 hour) ++ ascii ':' ::
    digitBytes (padDigits 2 min) ++ ascii ':' :: digitBytes (padDigits 2 sec)

theorem length_dateTimeBytes (year month day hour min sec : Nat) :
    (dateTimeBytes year month day hour min sec).length = 19 := rfl

/-- The bytes of `dateTimeBytes` that `parseRFC3339` reads, where it reads them. -/
theorem dateTimeBytes_fields (year month day hour min sec : Nat) (rest : List UInt8) :
    let s := dateTimeBytes year month day hour min sec ++ rest
    slice s 0 4 = digitBytes (padDigits 4 year) ∧ slice s 5 7 = digitBytes (padDigits 2 month) ∧
    slice s 8 10 = digitBytes (padDigits 2 day) ∧ slice s 11 13 = digitBytes (padDigits 2 hour) ∧
    slice s 14 16 = digitBytes (padDigits 2 min) ∧ slice s 17 19 = digitBytes (padDigits 2 sec) ∧
    (s.getD 4 0 = ascii '-' ∧ s.getD 7 0 = ascii '-' ∧ s.getD 10 0 = ascii 'T' ∧
      s.getD 13 0 = ascii ':' ∧ s.getD 16 0 = ascii ':') := by
  simp only [slice, dateTimeBytes, digitBytes, padDigits, List.map_append, List.map_cons,
    List.map_nil, List.nil_append, List.cons_append, List.singleton_append, List.append_assoc]
  exact ⟨rfl, rfl, rfl, rfl, rfl, rfl, rfl, rfl, rfl, rfl, rfl⟩

/-- **A valid date and clock read back** as the instant `Date` gives them, whatever follows. -/
theorem parseRFC3339_dateTimeBytes {year month day hour min sec : Nat} (hy : year ≤ 9999)
    (hm : 1 ≤ month ∧ month ≤ 12) (hd : 1 ≤ day ∧ day ≤ daysIn month year) (hh : hour ≤ 23)
    (hmi : min ≤ 59) (hs : sec ≤ 59) (rest : List UInt8) :
    parseRFC3339 (dateTimeBytes year month day hour min sec ++ rest) =
      parseZone (dateUnix year month day hour min sec) (parseFraction rest).1
        (parseFraction rest).2 := by
  obtain ⟨e0, e1, e2, e3, e4, e5, hsep⟩ := dateTimeBytes_fields year month day hour min sec rest
  have hl : ¬ (dateTimeBytes year month day hour min sec ++ rest).length < 19 := by
    rw [List.length_append, length_dateTimeBytes]; omega
  have hdrop : (dateTimeBytes year month day hour min sec ++ rest).drop 19 = rest :=
    List.drop_left' (length_dateTimeBytes _ _ _ _ _ _)
  have hday : day < 10 ^ 2 := by have := daysIn_le month year; omega
  rw [parseRFC3339, if_neg hl, e0, parseNum_padDigits (by omega) (by omega) hy, Option.some_bind,
    e1, parseNum_padDigits (by omega) hm.1 hm.2, Option.some_bind,
    e2, parseNum_padDigits hday hd.1 hd.2, Option.some_bind,
    e3, parseNum_padDigits (by omega) (by omega) hh, Option.some_bind,
    e4, parseNum_padDigits (by omega) (by omega) hmi, Option.some_bind,
    e5, parseNum_padDigits (by omega) (by omega) hs, Option.some_bind, if_pos hsep, hdrop]

/-! ## The round trip -/

/-- The date and clock of a time, as `appendFormatRFC3339` writes them. -/
def Time.dateTime (t : Time) : List UInt8 :=
  dateTimeBytes (absDate t.abs).1.toNat (absDate t.abs).2.1 (absDate t.abs).2.2
    (absClock t.abs).1 (absClock t.abs).2.1 (absClock t.abs).2.2

/-- **`appendFormatRFC3339` writes the date and clock, `nanoText` and `zoneText`**, for a time
in the years 0 to 9999 and an offset under 100 hours. -/
theorem appendFormatRFC3339_eq {t : Time} (hy : t.InYearRange) (ho : t.offset.natAbs < 360000) :
    appendFormatRFC3339 t = t.dateTime ++ nanoText t.nsec ++ zoneText t.offset := by
  obtain ⟨hy0, hy1⟩ : 0 ≤ (absDate t.abs).1 ∧ (absDate t.abs).1 ≤ 9999 := Time.year_mem hy
  obtain ⟨hm1, hm2, hd1, hd2⟩ := absDate_valid t.abs
  have hd3 := daysIn_le (absDate t.abs).2.1 (absDate t.abs).1
  have hyear : (absDate t.abs).1 = (((absDate t.abs).1.toNat : Nat) : Int) :=
    (Int.toNat_of_nonneg hy0).symm
  have hclock : (absClock t.abs).1 < 24 ∧ (absClock t.abs).2.1 < 60 ∧ (absClock t.abs).2.2 < 60 := by
    simp only [absClock, secondsPerDay]; omega
  have hz : (zoneText 0) = [ascii 'Z'] := rfl
  rw [appendFormatRFC3339]
  simp only
  rw [hyear, appendInt_ofNat (by decide) (by omega),
    appendInt_ofNat (by decide) (by omega), appendInt_ofNat (by decide) (by omega),
    appendInt_ofNat (by decide) (by omega), appendInt_ofNat (by decide) (by omega),
    appendInt_ofNat (by decide) (by omega), appendNano_eq _ t.nsec_lt]
  by_cases h0 : t.offset = 0
  · rw [if_pos h0, h0, hz, List.append_assoc]; rfl
  · rw [if_neg h0, ← appendZone_eq ho h0, List.append_assoc]; rfl

theorem num2_padDigits_append (h : Nat) (rest : List UInt8) :
    num2 (digitBytes (padDigits 2 h) ++ rest) = num2 (digitBytes (padDigits 2 h)) := rfl

theorem num2_padDigits_lt : ∀ h < 24, ¬ 24 ≤ num2 (digitBytes (padDigits 2 h)) := by
  decide

theorem get?_dateTimeBytes (year month day hour min sec : Nat) (rest : List UInt8) :
    (dateTimeBytes year month day hour min sec ++ rest).get? 4 = some (ascii '-') := by
  simp only [dateTimeBytes, digitBytes, padDigits, List.map_append, List.map_cons,
    List.map_nil, List.nil_append, List.cons_append, List.singleton_append, List.append_assoc]
  rfl

/-- The zone passes `appendStrictRFC3339`'s test when it is under a day: the byte six from the
end is its sign, and its hours are below 24. -/
theorem zoneText_strict {o : Int} (h : o.natAbs < 86400) (p : List UInt8) :
    ¬ ((p ++ zoneText o).getLast? ≠ some (ascii 'Z') ∧
      (isDigit ((p ++ zoneText o).getD ((p ++ zoneText o).length - 6) 0) = true ∨
        24 ≤ num2 ((p ++ zoneText o).drop ((p ++ zoneText o).length - 5)))) := by
  by_cases h0 : o = 0
  · simp [h0, zoneText]
  generalize hsign : (if o.tdiv 60 < 0 then ascii '-' else ascii '+') = sign
  have hs : zoneText o = sign :: digitBytes (padDigits 2 (o.natAbs / 60 / 60)) ++ ascii ':' ::
      digitBytes (padDigits 2 (o.natAbs / 60 % 60)) := by
    rw [zoneText, if_neg h0, hsign]
  have hlen : (zoneText o).length = 6 := by rw [hs]; rfl
  have hd : isDigit sign = false := by rw [← hsign]; split_ifs <;> rfl
  have hget : (p ++ zoneText o).getD ((p ++ zoneText o).length - 6) 0 = sign := by
    rw [List.length_append, hlen, Nat.add_sub_cancel, List.getD_append_right _ _ _ _ (le_refl _),
      Nat.sub_self, hs]
    rfl
  have hdrop : (p ++ zoneText o).drop ((p ++ zoneText o).length - 5) =
      digitBytes (padDigits 2 (o.natAbs / 60 / 60)) ++ ascii ':' ::
        digitBytes (padDigits 2 (o.natAbs / 60 % 60)) := by
    rw [List.length_append, hlen, show p.length + 6 - 5 = p.length + 1 by omega,
      List.drop_append_eq_append_drop, List.drop_eq_nil_of_le (by omega), List.nil_append,
      show p.length + 1 - p.length = 1 by omega, hs]
    rfl
  rw [hget, hdrop, num2_padDigits_append, hd]
  exact fun ⟨_, hc⟩ => hc.elim Bool.false_ne_true (num2_padDigits_lt _ (by omega))

/-- **`MarshalJSON` writes the RFC 3339 text** of a time in the years 0 to 9999 whose offset is
under a day. -/
theorem marshalJSON_eq {t : Time} (hy : t.InYearRange) (ho : t.offset.natAbs < 86400) :
    marshalJSON t = .ok (ascii '"' :: appendFormatRFC3339 t ++ [ascii '"']) := by
  have hf := appendFormatRFC3339_eq hy (by omega)
  have h4 : (appendFormatRFC3339 t).get? 4 = some (ascii '-') := by
    rw [hf, List.append_assoc]; exact get?_dateTimeBytes _ _ _ _ _ _ _
  have hz := zoneText_strict ho (t.dateTime ++ nanoText t.nsec)
  rw [← hf] at hz
  simp only [marshalJSON, appendStrictRFC3339, h4, ne_eq, not_true_eq_false, ↓reduceIte,
    if_neg hz]

theorem noFractionHead_zoneText (o : Int) : NoFractionHead (zoneText o) := by
  unfold zoneText
  split_ifs <;> simp only [NoFractionHead, List.head?_cons, List.cons_append, Option.mem_def,
    Option.some.injEq, forall_eq'] <;> decide

/-- A time as its RFC 3339 text reads back: the same local clock and nanoseconds, with the
offset truncated to whole minutes. -/
def Time.truncZone (t : Time) : Time :=
  ⟨t.unixSec + t.offset - t.offset.tdiv 60 * 60, t.nsec, t.nsec_lt, t.offset.tdiv 60 * 60⟩

/-- A zone of whole minutes loses nothing. -/
theorem Time.truncZone_of_minutes {t : Time} (hm : t.offset % 60 = 0) : t.truncZone = t := by
  have hz : t.offset.tdiv 60 * 60 = t.offset := by
    rcases tdiv_sixty t.offset with ⟨h0, e⟩ | ⟨h0, e⟩ <;> rw [e]
    · have := Int.natAbs_of_nonneg h0; omega
    · have := Int.ofNat_natAbs_of_nonpos h0.le; omega
  simp only [Time.truncZone, hz, add_sub_cancel_right]

/-- **The fast path reads the RFC 3339 text of a time** as the same local clock, with the
offset truncated to whole minutes. -/
theorem parseRFC3339_appendFormatRFC3339 {t : Time} (hy : t.InYearRange)
    (ho : t.offset.natAbs < 86400) :
    parseRFC3339 (appendFormatRFC3339 t) = some t.truncZone := by
  obtain ⟨hy0, hy1⟩ : 0 ≤ (absDate t.abs).1 ∧ (absDate t.abs).1 ≤ 9999 := Time.year_mem hy
  obtain ⟨hm1, hm2, hd1, hd2⟩ := absDate_valid t.abs
  have hyear : (((absDate t.abs).1.toNat : Nat) : Int) = (absDate t.abs).1 := Int.toNat_of_nonneg hy0
  have hclock : (absClock t.abs).1 ≤ 23 ∧ (absClock t.abs).2.1 ≤ 59 ∧ (absClock t.abs).2.2 ≤ 59 := by
    simp only [absClock, secondsPerDay]; omega
  rw [appendFormatRFC3339_eq hy (by omega), List.append_assoc, Time.dateTime,
    parseRFC3339_dateTimeBytes (by omega) ⟨hm1, hm2⟩ ⟨hd1, by rwa [hyear]⟩ hclock.1 hclock.2.1
      hclock.2.2, parseFraction_nanoText t.nsec_lt (noFractionHead_zoneText _),
    parseZone_zoneText _ _ ho, hyear, dateUnix_absDate, Time.abs_eq hy, Time.localSec]
  simp only [add_sub_cancel_right, Time.truncZone]

/-- **A time's JSON text reads back** as the same local clock, with the offset truncated to
whole minutes, for a time in the years 0 to 9999 whose offset is under a day.  The fallback
parser is never called. -/
theorem unmarshalJSON_marshalJSON (parse : List UInt8 → Except String Time) (t cur : Time)
    (hy : t.InYearRange) (ho : t.offset.natAbs < 86400) :
    ∃ b, marshalJSON t = .ok b ∧ unmarshalJSON parse b cur = .ok t.truncZone := by
  refine ⟨_, marshalJSON_eq hy ho, ?_⟩
  have hnull : ascii '"' :: appendFormatRFC3339 t ++ [ascii '"'] ≠ asciiBytes "null" := by
    simp only [asciiBytes]; exact fun e => absurd (List.cons.inj e).1 (by decide)
  have hlast : (ascii '"' :: appendFormatRFC3339 t ++ [ascii '"']).getLast? = some (ascii '"') := by
    rw [List.getLast?_concat]
  rw [unmarshalJSON, if_neg hnull, if_neg (by rw [hlast]; simp)]
  simp only [List.drop_one, List.cons_append, List.tail_cons, List.dropLast_concat,
    parseRFC3339_appendFormatRFC3339 hy ho]

end Laforge.Go
