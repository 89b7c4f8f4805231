import Laforge.Core.RevisionJson

/-!
# Laforge.Core.RevisionRoundTrip

What `ParseRevisionFile` makes of the text `ToJSONString` writes, and what it accepts at all.

1. A record with a nil `Formatable` and a timestamp in the years 0 to 9999 is written as the
   JSON value `revisionValue`: every byte `Time.MarshalJSON` writes is a digit or one of
   `-T:.Z+`, which `appendString` writes as it is (`marshal_eq`).
2. The decoder's walk reads that value back field by field (`decodeField_*`): the strings and
   the checksum as they were, the vars map rebuilt by assigning its entries in sorted key order
   (`varsDecoded`), and the timestamp as `Time.UnmarshalJSON` parses it.  The zone is written in
   whole minutes, so an offset with seconds comes back moved by those seconds
   (`unmarshal_toJSONString_truncZone`); any other record comes back with the same fields.
3. Decoding rejects a document that is not `null` or an object, and an object with a member of
   the wrong JSON type for its field (`decodeMembers_takes`); but it checks no value against the
   constants, so `null` and an object with any status are accepted (`unmarshal_accepts`).
-/

namespace Laforge.Core

open Laforge.Go Laforge.Go.Json

/-! ## The timestamp's text -/

/-- The bytes `appendFormatRFC3339` writes. -/
def formatBytes : List UInt8 := asciiBytes "0123456789-T:.Z+"

theorem escapeRune_formatBytes : ∀ b ∈ formatBytes, escapeRune (Char.ofNat b.toNat) = [b] := by
  decide

theorem digit_mem_formatBytes : ∀ d < 10, UInt8.ofNat (0x30 + d) ∈ formatBytes := by decide

theorem digitBytes_subset {ds : List Nat} (h : ∀ d ∈ ds, d < 10) : digitBytes ds ⊆ formatBytes :=
  fun _ hb => by
    obtain ⟨d, hd, rfl⟩ := List.mem_map.mp hb
    exact digit_mem_formatBytes d (h d hd)

theorem padDigits_subset (k n : Nat) : digitBytes (padDigits k n) ⊆ formatBytes :=
  digitBytes_subset fun _ => mem_padDigits_lt

theorem dateTimeBytes_subset (year month day hour min sec : Nat) :
    dateTimeBytes year month day hour min sec ⊆ formatBytes := by
  simp only [dateTimeBytes, List.append_subset, List.cons_subset, padDigits_subset, true_and]
  decide

theorem nanoText_subset (n : Nat) : nanoText n ⊆ formatBytes := by
  unfold nanoText
  split_ifs
  · exact List.nil_subset _
  · exact List.cons_subset.2 ⟨by decide,
      digitBytes_subset fun _ hd => mem_padDigits_lt (mem_of_mem_trimZeros hd)⟩

theorem zoneText_subset (o : Int) : zoneText o ⊆ formatBytes := by
  unfold zoneText
  split_ifs
  · decide
  · exact List.cons_subset.2 ⟨by decide, List.append_subset.2 ⟨padDigits_subset _ _,
      List.cons_subset.2 ⟨by decide, padDigits_subset _ _⟩⟩⟩
  · exact List.cons_subset.2 ⟨by decide, List.append_subset.2 ⟨padDigits_subset _ _,
      List.cons_subset.2 ⟨by decide, padDigits_subset _ _⟩⟩⟩

theorem appendFormatRFC3339_subset {t : Time} (hy : t.InYearRange) (ho : t.offset.natAbs < 360000) :
    appendFormatRFC3339 t ⊆ formatBytes := by
  rw [appendFormatRFC3339_eq hy ho]
  exact List.append_subset.2 ⟨List.append_subset.2 ⟨dateTimeBytes_subset .., nanoText_subset _⟩,
    zoneText_subset _⟩

/-- Bytes written as they are read back as the same bytes. -/
theorem escapeString_bytesString {bs : List UInt8} (h : bs ⊆ formatBytes) :
    escapeString (bytesString bs) = bs := by
  show (bs.map _).flatMap escapeRune = bs
  induction bs with
  | nil => rfl
  | cons b bs ih =>
    rw [List.cons_subset] at h
    rw [List.map_cons, List.flatMap_cons, escapeRune_formatBytes b h.1, ih h.2]
    rfl

/-- The timestamp's text is the string of its bytes. -/
theorem appendString_timestamp {t : Time} (hy : t.InYearRange) (ho : t.offset.natAbs < 360000) :
    appendString (bytesString (appendFormatRFC3339 t)) =
      ascii '"' :: appendFormatRFC3339 t ++ [ascii '"'] := by
  rw [appendString, escapeString_bytesString (appendFormatRFC3339_subset hy ho)]

/-! ## The record as a value -/

/-- The value each field is written as, the timestamp as the string `ts`, for a nil
`Formatable`. -/
def fieldValue (r : Revision) (ts : String) : Field → Value
  | .formatable => .null
  | .id => .string r.id
  | .type => .string r.type.val
  | .status => .string r.status.val
  | .checksum => .uint r.checksum.toNat
  | .timestamp => .string ts
  | .externalID => .string r.externalID
  | .vars => varsValue r.vars

/-- The record as the value `Marshal` walks. -/
def revisionValue (r : Revision) (ts : String) : Value :=
  .object (Field.all.map fun f => (f.name, fieldValue r ts f))

section Encode

variable {r : Revision} (hf : r.formatable = none) (ts : String)
include hf

theorem fieldText_eq (f : Field) : fieldText r (appendString ts) f = encode (fieldValue r ts f) := by
  cases f
  case formatable => rw [fieldText, hf]; rfl
  all_goals rfl

theorem writeFields_eq (fs : List Field) :
    writeFields r (appendString ts) ',' fs = encodeMembers (fs.map fun f => (f.name, fieldValue r ts f)) := by
  induction fs with
  | nil => rfl
  | cons f fs ih => rw [writeFields, ih, fieldText_eq hf]; rfl

/-- **`Marshal` writes the record as `revisionValue`**, for a nil `Formatable`, a timestamp in
the years 0 to 9999 and a zone under 24 hours. -/
theorem marshal_eq (hy : r.timestamp.InYearRange) (ho : r.timestamp.offset.natAbs < 86400) :
    marshal r = .ok (encode (revisionValue r (bytesString (appendFormatRFC3339 r.timestamp)))) := by
  rw [marshal, marshalJSON_eq hy ho, ← appendString_timestamp hy (by omega)]
  show Except.ok (writeFields r _ '\x7b' (.formatable :: _)) = _
  rw [writeFields, writeFields_eq hf, fieldText_eq hf]
  rfl

end Encode

theorem depthMembers_strings (ks : List String) (g : String → String) :
    depthMembers (ks.map fun k => (k, .string (g k))) = 0 := by
  induction ks with
  | nil => rfl
  | cons k ks ih => simp only [List.map_cons, depthMembers, ih]; rfl

theorem depth_varsValue (vs : Option GoMap) : (varsValue vs).depth ≤ 1 := by
  cases vs with
  | none => decide
  | some m => simp only [varsValue, Value.depth, depthMembers_strings]; decide

theorem depth_revisionValue (r : Revision) (ts : String) : (revisionValue r ts).depth ≤ 2 := by
  have hv := depth_varsValue r.vars
  simp only [revisionValue, Field.all, List.map_cons, List.map_nil, Value.depth, depthMembers,
    fieldValue]
  omega

/-! ## Reading the fields back -/

theorem fieldOf_name (f : Field) : fieldOf f.name = some f := by cases f <;> decide

theorem decodeMember_name (lib : Library) (st : DecodeState) (f : Field) (v : JValue) :
    decodeMember lib st (appendString f.name) v = decodeField lib st f v := by
  simp only [decodeMember, unquoteBytes_appendString, fieldOf_name]

theorem ok_bind (a : α) (f : α → Except ε β) : (Except.ok a >>= f) = f a := rfl

/-- The members of a record written field by field are decoded field by field. -/
theorem decodeMembers_fields (lib : Library) (g : Field → Value) (fs : List Field)
    (st : DecodeState) :
    decodeMembers lib (toJMembers (fs.map fun f => (f.name, g f))) st =
      fs.foldlM (fun st f => decodeField lib st f (g f).toJValue) st := by
  induction fs generalizing st with
  | nil => rfl
  | cons f fs ih =>
    simp only [List.map_cons, toJMembers, decodeMembers, decodeMember_name, List.foldlM_cons]
    exact congrArg _ (funext ih)

theorem read_appendString (s : String) : Literal.read (appendString s) = .ok (.string s) := by
  have h := unquoteBytes_appendString s
  rw [appendString, List.cons_append] at h ⊢
  simp only [Literal.read]
  rw [if_neg (by decide), if_neg (by decide), if_pos trivial, h]

theorem digit_not_literal : ∀ d < 10, UInt8.ofNat (0x30 + d) ≠ ascii 'n' ∧
    ¬(UInt8.ofNat (0x30 + d) = ascii 't' ∨ UInt8.ofNat (0x30 + d) = ascii 'f') ∧
    UInt8.ofNat (0x30 + d) ≠ ascii '"' := by
  decide

theorem read_appendUint (n : Nat) : Literal.read (appendUint n) = .ok (.number (appendUint n)) := by
  obtain ⟨d, ds, he, -⟩ := digitsFuel_eq_cons (Nat.lt_succ_self n)
  have hd := mem_digitsFuel_lt (he ▸ List.mem_cons_self d ds)
  obtain ⟨hn, hb, hq⟩ := digit_not_literal d hd
  rw [appendUint, decimalDigits, he, List.map_cons]
  simp only [Literal.read]
  rw [if_neg hn, if_neg hb, if_neg hq, if_pos (.inr (digit_spec d hd).2)]

theorem decodeString_string (field type s : String) :
    decodeString field type (Value.string s).toJValue = .store s := by
  show decodeString field type (.literal (appendString s)) = _
  rw [decodeString, read_appendString]

theorem decodeUint_uint (field type : String) {n : Nat} (hn : n ≤ maxUint64) :
    decodeUint field type (Value.uint n).toJValue = .store n := by
  show decodeUint field type (.literal (appendUint n)) = _
  simp only [decodeUint, read_appendUint, parseUint_appendUint hn]

theorem decodeRevision_object (lib : Library) (st : DecodeState) (ms : List (String × Value)) :
    decodeRevision lib st (Value.object ms).toJValue = decodeMembers lib (toJMembers ms) st :=
  rfl

theorem decodeFormatable_null (lib : Library) : decodeFormatable lib Value.null.toJValue = .store () :=
  rfl

theorem decodeTime_string (lib : Library) (cur : Time) {ts : String} {t : Time}
    (ht : unmarshalJSON lib.parseTime (appendString ts) cur = .ok t) :
    decodeTime lib cur (Value.string ts).toJValue = .store t := by
  show decodeTime lib cur (.literal (appendString ts)) = _
  simp only [decodeTime, ht]

/-- The vars map as decoding rebuilds it: its entries assigned in sorted key order. -/
def varsDecoded : Option GoMap → Option GoMap :=
  Option.map fun m => GoMap.empty.insertAll ((sortStrings m.keys).map fun k => (k, m.get k))

theorem decodeVarsMembers_strings (rev : Revision) (saved : Option String) (g : String → String)
    (ks : List String) (m : GoMap) :
    decodeVarsMembers (toJMembers (ks.map fun k => (k, .string (g k))))
        ⟨{ rev with vars := some m }, saved⟩ =
      .ok ⟨{ rev with vars := some (m.insertAll (ks.map fun k => (k, g k))) }, saved⟩ := by
  induction ks generalizing m with
  | nil => rfl
  | cons k ks ih =>
    simp only [List.map_cons, toJMembers, decodeVarsMembers, unquoteBytes_appendString,
      decodeString_string]
    exact ih (m.insert k (g k))

theorem decodeVars_varsValue (saved : Option String) {rev : Revision} (hv : rev.vars = none)
    (vs : Option GoMap) :
    decodeVars ⟨rev, saved⟩ (varsValue vs).toJValue =
      .ok ⟨{ rev with vars := varsDecoded vs }, saved⟩ := by
  cases vs with
  | none => rfl
  | some m =>
    simp only [varsValue, Value.toJValue, decodeVars, hv, Option.getD_none]
    exact decodeVarsMembers_strings rev saved m.get _ .empty

/-- Rebuilding a map in sorted key order keeps its entries. -/
theorem varsDecoded_equiv (m : GoMap) :
    ∃ m', varsDecoded (some m) = some m' ∧ m'.Equiv m := by
  refine ⟨_, rfl, ?_⟩
  have hk : ((sortStrings m.keys).map fun k => (k, m.get k)).map Prod.fst = sortStrings m.keys := by
    rw [List.map_map]; exact List.map_id _
  have hn : (sortStrings m.keys).Nodup := (sortStrings_perm _).nodup_iff.mpr m.keys_nodup
  have hp : ((sortStrings m.keys).map fun k => (k, m.get k)).Perm m.entries :=
    m.map_keys_get ▸ (sortStrings_perm _).map _
  unfold GoMap.Equiv
  rw [GoMap.entries_insertAll_of_fresh _ _ (by rw [hk]; exact hn) fun _ _ => List.not_mem_nil _]
  exact hp

/-- **The walk reads the record back**: into a state with nil vars, the value of a record
stores every field of it, the timestamp as `Time.UnmarshalJSON` parses its text and the vars
map rebuilt. -/
theorem decodeRevision_revisionValue (lib : Library) (r rev : Revision) (saved : Option String) (hv : rev.vars = none) {ts : String} {t : Time}
    (ht : ∀ cur, unmarshalJSON lib.parseTime (appendString ts) cur = .ok t) :
    decodeRevision lib ⟨rev, saved⟩ (revisionValue r ts).toJValue =
      .ok ⟨{ r with formatable := none, timestamp := t, vars := varsDecoded r.vars }, saved⟩ := by
  have hc : UInt64.ofNat r.checksum.toNat = r.checksum :=
    UInt64.toNat.inj (UInt64.toNat_ofNat_of_lt r.checksum.toNat_lt_size)
  have hck : r.checksum.toNat ≤ maxUint64 := by
    have := r.checksum.toNat_lt_size; simp only [maxUint64, UInt64.size] at *; omega
  rw [revisionValue, decodeRevision_object, decodeMembers_fields]
  simp only [Field.all, List.foldlM_cons, List.foldlM_nil, fieldValue, decodeField,
    decodeString_string, decodeUint_uint _ _ hck, decodeFormatable_null, decodeTime_string lib _ (ht _), Outcome.apply, ok_bind, decodeVars_varsValue, hv, bind_pure, hc]

/-! ## The round trip -/

/-- Two records hold the same data: every field equal, and their vars maps both nil or holding
the same entries. -/
def Revision.SameRecord (a b : Revision) : Prop :=
  a.formatable = b.formatable ∧ a.id = b.id ∧ a.type = b.type ∧ a.status = b.status ∧
    a.checksum = b.checksum ∧ a.timestamp = b.timestamp ∧ a.externalID = b.externalID ∧
    Option.Rel GoMap.Equiv a.vars b.vars

/-- **`ParseRevisionFile` reads `ToJSONString`'s text back as the record**, with the zone of its
timestamp truncated to whole minutes and its vars map rebuilt, for a record with a nil
`Formatable` and a timestamp in the years 0 to 9999 with a zone under 24 hours. -/
theorem unmarshal_toJSONString_truncZone (lib : Library) {r : Revision}
    (hf : r.formatable = none) (hy : r.timestamp.InYearRange)
    (ho : r.timestamp.offset.natAbs < 86400) :
    unmarshal lib (toJSONString r) =
      .ok { r with timestamp := r.timestamp.truncZone, vars := varsDecoded r.vars } := by
  have ht : ∀ cur, unmarshalJSON lib.parseTime
      (appendString (bytesString (appendFormatRFC3339 r.timestamp))) cur =
        .ok r.timestamp.truncZone := fun cur => by
    obtain ⟨b, hb, hu⟩ := unmarshalJSON_marshalJSON lib.parseTime r.timestamp cur hy ho
    rw [marshalJSON_eq hy ho] at hb
    rwa [appendString_timestamp hy (by omega), Except.ok.inj hb]
  have hd : ∀ ts, (revisionValue r ts).depth ≤ maxNestingDepth := fun ts =>
    (depth_revisionValue r ts).trans (by decide)
  rw [toJSONString, marshal_eq hf hy ho]
  simp only [unmarshal, checkValid_encode _ (hd _), readDocument_encode,
    decodeRevision_revisionValue lib r Revision.zero none rfl ht]
  obtain ⟨_, _, _, _, _, _, _, _⟩ := r
  cases hf
  rfl

theorem unmarshal_toJSONString (lib : Library) {r : Revision} (hf : r.formatable = none)
    (hy : r.timestamp.InYearRange) (ho : r.timestamp.offset.natAbs < 86400)
    (hm : r.timestamp.offset % 60 = 0) :
    ∃ r', unmarshal lib (toJSONString r) = .ok r' ∧ r'.SameRecord r := by
  refine ⟨_, unmarshal_toJSONString_truncZone lib hf hy ho, rfl, rfl, rfl, rfl, rfl,
    Time.truncZone_of_minutes hm, rfl, ?_⟩
  cases r.vars with
  | none => exact .none
  | some m =>
    obtain ⟨m', hm', he⟩ := varsDecoded_equiv m
    rw [hm']
    exact .some he

/-- A record with a 64-bit checksum above 2^53, a vars map and a zone of one hour. -/
theorem unmarshal_toJSONString_sample :
    let lib : Library := ⟨fun _ => .error "", fun _ => true⟩
    let r : Revision := ⟨none, "env/host", ⟨"host"⟩, .active, 0x8000000000000001,
      ⟨1519902005, 250000000, by decide, 3600⟩, "i-0\"a", some ⟨[("k", "v"), ("a", "<")], by decide⟩⟩
    r.formatable = none ∧ r.timestamp.InYearRange ∧ r.timestamp.offset.natAbs < 86400 ∧
      r.timestamp.offset % 60 = 0 ∧ ∃ r', unmarshal lib (toJSONString r) = .ok r' ∧ r'.SameRecord r :=
  have hy : Time.InYearRange ⟨1519902005, 250000000, by decide, 3600⟩ := by
    simp only [Time.InYearRange, Time.localSec]; decide
  ⟨rfl, hy, by decide, by decide, unmarshal_toJSONString _ rfl hy (by decide) (by decide)⟩

/-- Two zones the text cannot carry: minus 30 seconds, where `1970-01-01T00:00:00Z` is written
as `1969-12-31T23:59:30+00:00` and read back 30 seconds earlier, and 24 hours, where
`MarshalJSON` fails and `ToJSONString` returns the empty text, which does not decode. -/
theorem unmarshal_toJSONString_odd_zones :
    let lib : Library := ⟨fun _ => .error "", fun _ => true⟩
    let r₁ : Revision := { Revision.zero with timestamp := ⟨0, 0, by decide, -30⟩ }
    let r₂ : Revision := { Revision.zero with timestamp := ⟨0, 0, by decide, 86400⟩ }
    r₁.timestamp.InYearRange ∧
      (∃ r', unmarshal lib (toJSONString r₁) = .ok r' ∧ r'.timestamp.unixSec = -30) ∧
      r₂.timestamp.InYearRange ∧ toJSONString r₂ = [] ∧
      unmarshal lib (toJSONString r₂) = .error "unexpected end of JSON input" :=
  have hy₁ : Time.InYearRange ⟨0, 0, by decide, -30⟩ := by
    simp only [Time.InYearRange, Time.localSec]; decide
  have h₂ : toJSONString { Revision.zero with timestamp := ⟨0, 0, by decide, 86400⟩ } = [] := by
    set_option maxRecDepth 20000 in decide
  ⟨hy₁, ⟨_, unmarshal_toJSONString_truncZone _ rfl hy₁ (by decide), by decide⟩,
    by simp only [Time.InYearRange, Time.localSec]; decide, h₂, by rw [h₂]; rfl⟩

/-! ## What decoding accepts -/

/-- The JSON type of a value. -/
inductive JsonType
  | null | bool | string | number | array | object
deriving DecidableEq

/-- The JSON type of a value, told apart as `literalStore` does: a literal by its first byte;
`none` for a literal that no JSON value starts like. -/
def jsonType : JValue → Option JsonType
  | .literal [] => none
  | .literal (c :: _) =>
    if c = ascii 'n' then some .null
    else if c = ascii 't' ∨ c = ascii 'f' then some .bool
    else if c = ascii '"' then some .string
    else if c = ascii '-' ∨ isDigit c then some .number
    else none
  | .array _ => some .array
  | .object _ => some .object

/-- The JSON type of what `Literal.read` returns. -/
def Literal.jsonType : Literal → Option JsonType
  | .empty => none
  | .null => some .null
  | .bool => some .bool
  | .string _ => some .string
  | .number _ => some .number

/-- The JSON types a field of `Revision` takes with no error: `null`, and the type its Go field
is decoded from: a string for the string fields and the timestamp, a number for the checksum,
an object for the vars map.  The embedded interface takes `null` only. -/
def Field.takes : Field → JsonType → Bool
  | .formatable, t => t == .null
  | .checksum, t => t == .null || t == .number
  | .vars, t => t == .null || t == .object
  | .id, t | .type, t | .status, t | .timestamp, t | .externalID, t => t == .null || t == .string

theorem jsonType_literal {item : List UInt8} {l : Literal} (h : Literal.read item = .ok l) :
    jsonType (.literal item) = l.jsonType := by
  unfold Literal.read at h
  split at h
  · cases h; rfl
  · simp only [jsonType]
    split_ifs at h ⊢
    all_goals first | (cases h; rfl) | (split at h <;> cases h; rfl)

theorem save_saved (st : DecodeState) (hs : st.saved = none) (msg : String) :
    (st.save msg).saved = some msg := by
  simp only [DecodeState.save, hs]; rfl

theorem save_saved_ne_none (st : DecodeState) (msg : String) : (st.save msg).saved ≠ none := by
  cases hs : st.saved <;> simp [DecodeState.save, hs]

/-- A field's outcome that leaves no error saved stored the field or kept it. -/
theorem apply_saved_none {set : α → Revision → Revision} {st st' : DecodeState} {o : Outcome α}
    (h : o.apply set st = .ok st') (hs : st'.saved = none) :
    st.saved = none ∧ ((∃ a, o = .store a) ∨ o = .keep) := by
  cases o with
  | store a => cases h; exact ⟨hs, .inl ⟨a, rfl⟩⟩
  | keep => cases h; exact ⟨hs, .inr rfl⟩
  | save msg => cases h; exact absurd hs (save_saved_ne_none st msg)
  | abort msg => cases h

section Outcomes

variable {v : JValue}

theorem decodeString_jsonType {field type : String}
    (h : (∃ a, decodeString field type v = .store a) ∨ decodeString field type v = .keep) :
    jsonType v = some .null ∨ jsonType v = some .string := by
  cases v with
  | literal item =>
    simp only [decodeString] at h
    split at h <;> rename_i hr
    all_goals first
      | (rw [jsonType_literal hr]; first | exact .inl rfl | exact .inr rfl)
      | (rcases h with ⟨_, h⟩ | h <;> cases h)
  | array _ | object _ => rcases h with ⟨_, h⟩ | h <;> cases h

theorem decodeUint_jsonType {field type : String}
    (h : (∃ a, decodeUint field type v = .store a) ∨ decodeUint field type v = .keep) :
    jsonType v = some .null ∨ jsonType v = some .number := by
  cases v with
  | literal item =>
    simp only [decodeUint] at h
    split at h <;> rename_i hr
    all_goals first
      | (rw [jsonType_literal hr]; first | exact .inl rfl | exact .inr rfl)
      | (rcases h with ⟨_, h⟩ | h <;> cases h)
  | array _ | object _ => rcases h with ⟨_, h⟩ | h <;> cases h

theorem decodeFormatable_jsonType {lib : Library}
    (h : (∃ a, decodeFormatable lib v = .store a) ∨ decodeFormatable lib v = .keep) :
    jsonType v = some .null := by
  cases v with
  | literal item =>
    simp only [decodeFormatable] at h
    split at h <;> rename_i hr
    all_goals first
      | (rw [jsonType_literal hr]; rfl)
      | (rcases h with ⟨_, h⟩ | h <;> first | cases h | (split at h <;> cases h))
  | array _ | object _ => rcases h with ⟨_, h⟩ | h <;> cases h

theorem decodeTime_jsonType {lib : Library} {cur : Time}
    (h : (∃ a, decodeTime lib cur v = .store a) ∨ decodeTime lib cur v = .keep) :
    jsonType v = some .null ∨ jsonType v = some .string := by
  cases v with
  | literal item =>
    simp only [decodeTime] at h
    split at h
    · rename_i t hu
      unfold unmarshalJSON at hu
      split_ifs at hu with h₁ h₂
      · subst h₁; exact .inl rfl
      · obtain ⟨c, cs, rfl⟩ : ∃ c cs, item = c :: cs := by
          cases item with
          | nil => simp at h₂
          | cons c cs => exact ⟨c, cs, rfl⟩
        simp only [not_or, not_lt, ne_eq, not_not, List.head?_cons, Option.some.injEq] at h₂
        rw [h₂.2.1]
        exact .inr rfl
    · rcases h with ⟨_, h⟩ | h <;> cases h
  | array _ | object _ => rcases h with ⟨_, h⟩ | h <;> cases h

end Outcomes

theorem decodeVarsMembers_saved {ms : List (List UInt8 × JValue)} {st st' : DecodeState}
    (h : decodeVarsMembers ms st = .ok st') (hs : st'.saved = none) : st.saved = none := by
  induction ms generalizing st with
  | nil => cases h; exact hs
  | cons m ms ih =>
    simp only [decodeVarsMembers] at h
    split at h
    · cases h
    split at h
    · have := ih h; exact this
    · have := ih h; exact this
    · exact absurd (ih h) (save_saved_ne_none st _)
    · cases h

theorem decodeVars_jsonType {st st' : DecodeState} {v : JValue} (h : decodeVars st v = .ok st')
    (hs : st'.saved = none) :
    st.saved = none ∧ (jsonType v = some .null ∨ jsonType v = some .object) := by
  cases v with
  | literal item =>
    simp only [decodeVars] at h
    split at h <;> rename_i hr
    all_goals first
      | (cases h; exact ⟨hs, .inl (by rw [jsonType_literal hr]; rfl)⟩)
      | (cases h; exact absurd hs (save_saved_ne_none st _))
      | cases h
  | array _ => cases h; exact absurd hs (save_saved_ne_none st _)
  | object ms =>
    simp only [decodeVars] at h
    have := decodeVarsMembers_saved h hs
    exact ⟨this, .inr rfl⟩

/-- A field decoded with no error saved was given a value of a type the field takes. -/
theorem decodeField_takes {lib : Library} {st st' : DecodeState} {f : Field} {v : JValue}
    (h : decodeField lib st f v = .ok st') (hs : st'.saved = none) :
    st.saved = none ∧ ∃ t, jsonType v = some t ∧ f.takes t = true := by
  cases f <;> simp only [decodeField] at h
  case formatable =>
    obtain ⟨hs₀, ho⟩ := apply_saved_none h hs
    exact ⟨hs₀, _, decodeFormatable_jsonType ho, rfl⟩
  case checksum =>
    obtain ⟨hs₀, ho⟩ := apply_saved_none h hs
    rcases decodeUint_jsonType ho with hv | hv <;> exact ⟨hs₀, _, hv, rfl⟩
  case timestamp =>
    obtain ⟨hs₀, ho⟩ := apply_saved_none h hs
    rcases decodeTime_jsonType ho with hv | hv <;> exact ⟨hs₀, _, hv, rfl⟩
  case vars =>
    obtain ⟨hs₀, hv | hv⟩ := decodeVars_jsonType h hs <;> exact ⟨hs₀, _, hv, rfl⟩
  all_goals
    obtain ⟨hs₀, ho⟩ := apply_saved_none h hs
    rcases decodeString_jsonType ho with hv | hv <;> exact ⟨hs₀, _, hv, rfl⟩

/-- A member decoded with no error saved: when it names a field, its value has a type the field
takes. -/
theorem decodeMember_takes {lib : Library} {st st' : DecodeState} {key : List UInt8} {v : JValue}
    (h : decodeMember lib st key v = .ok st') (hs : st'.saved = none) :
    st.saved = none ∧ ∀ k f, unquoteBytes key = some k → fieldOf k = some f →
      ∃ t, jsonType v = some t ∧ f.takes t = true := by
  unfold decodeMember at h
  split at h
  · cases h
  rename_i k hk
  split at h
  · rename_i hf
    cases h
    refine ⟨hs, fun k' f hk' hf' => ?_⟩
    obtain rfl := Option.some.inj (hk.symm.trans hk')
    exact nomatch hf.symm.trans hf'
  · rename_i f hf
    obtain ⟨hs₀, ht⟩ := decodeField_takes h hs
    refine ⟨hs₀, fun k' f' hk' hf' => ?_⟩
    obtain rfl := Option.some.inj (hk.symm.trans hk')
    obtain rfl := Option.some.inj (hf.symm.trans hf')
    exact ht

/-- The members of an object decoded with no error saved: each that names a field has a value
of a type the field takes. -/
theorem decodeMembers_takes {lib : Library} {ms : List (List UInt8 × JValue)}
    {st st' : DecodeState} (h : decodeMembers lib ms st = .ok st') (hs : st'.saved = none) :
    st.saved = none ∧ ∀ key v, (key, v) ∈ ms → ∀ k f, unquoteBytes key = some k →
      fieldOf k = some f → ∃ t, jsonType v = some t ∧ f.takes t = true := by
  induction ms generalizing st with
  | nil => cases h; exact ⟨hs, fun _ _ hm => absurd hm (List.not_mem_nil _)⟩
  | cons m ms ih =>
    obtain ⟨key, v⟩ := m
    rcases hm : decodeMember lib st key v with _ | st₁ <;>
      simp only [decodeMembers, hm, Except.bind] at h
    · cases h
    obtain ⟨hs₁, hrest⟩ := ih h
    obtain ⟨hs₀, hhead⟩ := decodeMember_takes hm hs₁
    refine ⟨hs₀, fun key' v' hmem => ?_⟩
    rcases List.mem_cons.mp hmem with he | hmem
    · cases he
      exact hhead
    · exact hrest key' v' hmem

/-- A walk from a state with no saved error ends with none only from `null`, or from an object
whose members that name a field have values of types the fields take. -/
theorem decodeRevision_null_or_object (lib : Library) {st st' : DecodeState} {v : JValue}
    (hs : st.saved = none) (h : decodeRevision lib st v = .ok st') (hs' : st'.saved = none) :
    (∃ item, v = .literal item ∧ Literal.read item = .ok .null) ∨
      ∃ ms, v = .object ms ∧ ∀ key x, (key, x) ∈ ms → ∀ k f, unquoteBytes key = some k →
        fieldOf k = some f → ∃ t, jsonType x = some t ∧ f.takes t = true := by
  cases v with
  | literal item =>
    simp only [decodeRevision] at h
    split at h
    all_goals first
      | exact .inl ⟨item, rfl, ‹_›⟩
      | (cases h; rw [save_saved st hs] at hs'; cases hs')
      | cases h
  | array xs => cases h; rw [save_saved st hs] at hs'; cases hs'
  | object ms => exact .inr ⟨ms, rfl, (decodeMembers_takes h hs').2⟩

/-- **What `Unmarshal` into a zero `Revision` accepts**: only valid JSON that is `null` or an
object in which every member that names a field has a value of a JSON type the field takes; but
it checks no value against the constants, so `null` gives the zero record, whose status is
empty, and an object with one `status` member gives a record with that status, whatever the
string. -/
theorem unmarshal_accepts (lib : Library) :
    (∀ data r, unmarshal lib data = .ok r → checkValid data = .ok () ∧ ∃ v, readDocument data = some v ∧
      ((∃ item, v = .literal item ∧ Literal.read item = .ok .null) ∨
        ∃ ms, v = .object ms ∧ ∀ key x, (key, x) ∈ ms → ∀ k f, unquoteBytes key = some k →
          fieldOf k = some f → ∃ t, jsonType x = some t ∧ f.takes t = true)) ∧
    unmarshal lib (asciiBytes "null") = .ok Revision.zero ∧
    ∀ s, unmarshal lib (encode (.object [("status", .string s)])) =
      .ok { Revision.zero with status := ⟨s⟩ } := by
  refine ⟨fun data r h => ?_, rfl, fun s => ?_⟩
  · unfold unmarshal at h
    split at h
    · cases h
    rename_i hc
    split at h
    · cases h
    rename_i v hv
    split at h
    · cases h
    rename_i st hst
    split at h
    · cases h
    rename_i hs
    exact ⟨hc, v, hv, decodeRevision_null_or_object lib rfl hst hs⟩
  · have hd : (Value.object [("status", .string s)]).depth ≤ maxNestingDepth :=
      Nat.le_of_ble_eq_true rfl
    rw [unmarshal, checkValid_encode _ hd, readDocument_encode,
      show [("status", Value.string s)] = [Field.status].map fun f => (f.name, .string s) from rfl]
    simp only [decodeRevision_object, decodeMembers_fields, List.foldlM_cons,
      List.foldlM_nil, decodeField, decodeString_string, Outcome.apply, ok_bind]
    rfl

/-- `null` in a revision file is read as the zero record, whose status is none of the
constants. -/
theorem parseRevisionFile_null :
    let lib : Library := ⟨fun _ => .error "", fun _ => true⟩
    let readFile : String → Except String (List UInt8) := fun _ => .ok (asciiBytes "null")
    parseRevisionFile readFile lib "host.lfrevision" = .ok Revision.zero ∧
      ¬ Revision.zero.status.IsKnown :=
  ⟨rfl, by decide⟩

end Laforge.Core
