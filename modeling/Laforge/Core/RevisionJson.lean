import Laforge.Core.Revision
import Laforge.Go.TimeFormat
import Laforge.Go.Json.RoundTrip

/-!
# Laforge.Core.RevisionJson

How a revision record goes to disk and comes back: `ToJSONString` is `json.Marshal` of the
record, and `ParseRevisionFile` is `json.Unmarshal` of the file into a zero `Revision`.  The
source declares no `MarshalJSON` or `UnmarshalJSON` of its own (the generated code its
`easyjson` comment asks for is not part of it), so both are `encoding/json`'s reflective
codec, as of Go 1.22.

1. `marshal` writes the fields in declaration order under their JSON names: the embedded
   `formatter.Formatable` under its type's name, the timestamp as `Time.MarshalJSON` writes it,
   the vars map with its keys sorted.  It fails only when `MarshalJSON` does.
2. `unmarshal` runs `checkValid`, then walks the document (`readDocument`) and stores each
   member in the field its key names, matched exactly or else with case folded (`fieldOf`).
   Unknown keys are skipped.  A value of the wrong kind for its field saves an
   `UnmarshalTypeError` and decoding goes on (`Outcome.save`); only the first saved error is
   reported, after the walk.  An error of `Time.UnmarshalJSON` ends the walk at once.
3. What the decoder leaves to the library is a parameter (`Library`): `time.Parse` with the
   `RFC3339` layout, which `Time.UnmarshalJSON` falls back to, and whether
   `strconv.ParseFloat` accepts a number (it refuses only numbers out of range).
4. Where the source would panic (`phasePanicMsg`: the walk disagrees with the scanner, which
   `checkValid` rules out), the model returns that text as an error.
-/

namespace Laforge.Core

open Laforge.Go Laforge.Go.Json

/-! ## Fields -/

/-- A field of `Revision`, as the codec finds it by name. -/
inductive Field
  | formatable | id | type | status | checksum | timestamp | externalID | vars
deriving DecidableEq, Repr

/-- The name `encoding/json` gives each field: its tag, or for the embedded interface the
interface's name. -/
def Field.name : Field → String
  | .formatable => "Formatable"
  | .id => "id"
  | .type => "type"
  | .status => "status"
  | .checksum => "checksum"
  | .timestamp => "timestamp"
  | .externalID => "external_id"
  | .vars => "vars"

/-- The fields, in declaration order. -/
def Field.all : List Field :=
  [.formatable, .id, .type, .status, .checksum, .timestamp, .externalID, .vars]

/-! ## Encoding -/

/-- One field as `structEncoder` writes it: `{` before the first field and `,` before the
others, the quoted name and a colon, then the value. -/
def fieldBytes (sep : Char) (name : String) (value : List UInt8) : List UInt8 :=
  ascii sep :: appendString name ++ ascii ':' :: value

/-- The value `mapEncoder` writes for `Vars`: `null` for a nil map, else an object of the
entries with their keys sorted. -/
def varsValue : Option GoMap → Value
  | none => .null
  | some m => .object ((sortStrings m.keys).map fun k => (k, .string (m.get k)))

/-- The text written for one field's value; `ts` is what `MarshalJSON` wrote for the timestamp,
and a non-nil `Formatable` is written as the text its value marshals to. -/
def fieldText (r : Revision) (ts : List UInt8) : Field → List UInt8
  | .formatable => r.formatable.getD (asciiBytes "null")
  | .id => appendString r.id
  | .type => appendString r.type.val
  | .status => appendString r.status.val
  | .checksum => appendUint r.checksum.toNat
  | .timestamp => ts
  | .externalID => appendString r.externalID
  | .vars => encode (varsValue r.vars)

/-- The loop of `structEncoder.encode`: each field after `next`, which is `{` before the first
and `,` after it, then `}`; `{}` when there is no field. -/
def writeFields (r : Revision) (ts : List UInt8) : Char → List Field → List UInt8
  | next, [] => if next = '\x7b' then asciiBytes "\x7b\x7d" else [ascii '\x7d']
  | next, f :: fs => fieldBytes next f.name (fieldText r ts f) ++ writeFields r ts ',' fs

/-- `json.Marshal(r)`. -/
def marshal (r : Revision) : Except String (List UInt8) :=
  match marshalJSON r.timestamp with
  | .error e => .error ("json: error calling MarshalJSON for type time.Time: " ++ e)
  | .ok ts => .ok (writeFields r ts '\x7b' Field.all)

/-- `ToJSONString`: the text `Marshal` writes, or the empty string when it fails. -/
def toJSONString (r : Revision) : List UInt8 :=
  match marshal r with
  | .ok b => b
  | .error _ => []

/-! ## Decoding -/

/-- `phasePanicMsg`, the panic of a walk that disagrees with the scanner. -/
def phasePanicMsg : String := "JSON decoder out of phase with scanner"

/-- The library functions the decoder calls and the model does not spell out. -/
structure Library where
  /-- `time.Parse(time.RFC3339, s)`, which `Time.UnmarshalJSON` falls back to. -/
  parseTime : List UInt8 → Except String Time
  /-- Whether `strconv.ParseFloat(s, 64)` accepts a number literal. -/
  parseFloatOk : List UInt8 → Bool

/-- `foldName`'s fold of one rune: ASCII letters to upper case, and the two runes outside ASCII
whose fold class holds an ASCII letter (U+017F and U+212A) to that letter.  The field names are
ASCII, so how any other rune folds cannot make a key match one. -/
def foldRune (c : Char) : Char :=
  if 'a' ≤ c ∧ c ≤ 'z' then Char.ofNat (c.toNat - 32)
  else if c = '\u017F' then 'S'
  else if c = '\u212A' then 'K'
  else c

/-- `foldName`. -/
def foldName (s : String) : String := ⟨s.data.map foldRune⟩

/-- The field a key names: `byExactName`, else `byFoldedName`. -/
def fieldOf (key : String) : Option Field :=
  match Field.all.find? fun f => f.name = key with
  | some f => some f
  | none => Field.all.find? fun f => foldName f.name = foldName key

example : fieldOf "STATUS" = some .status := by decide
example : fieldOf "chec\u212Asum" = some .checksum := by decide
example : fieldOf "kind" = none := by decide

/-- `string(item)` of an ASCII literal. -/
def bytesString (bs : List UInt8) : String := String.mk (bs.map fun b => Char.ofNat b.toNat)

/-- A literal as `literalStore` tells it apart: by its first byte. -/
inductive Literal
  | empty
  | null
  | bool
  | string (s : String)
  | number (text : List UInt8)

/-- The `switch` of `literalStore` on the first byte; a string is unquoted. -/
def Literal.read (item : List UInt8) : Except String Literal :=
  match item with
  | [] => .ok .empty
  | c :: _ =>
    if c = ascii 'n' then .ok .null
    else if c = ascii 't' ∨ c = ascii 'f' then .ok .bool
    else if c = ascii '"' then
      match unquoteBytes item with
      | some s => .ok (.string s)
      | none => .error phasePanicMsg
    else if c = ascii '-' ∨ isDigit c then .ok (.number item)
    else .error phasePanicMsg

/-- `UnmarshalTypeError.Error()` for a field of `Revision`. -/
def typeError (kind field type : String) : String :=
  "json: cannot unmarshal " ++ kind ++ " into Go struct field Revision." ++ field ++ " of type " ++
    type

/-- The error `literalStore` saves for an empty literal. -/
def emptyLiteralError (type : String) : String :=
  "json: invalid use of ,string struct tag, trying to unmarshal \"\" into " ++ type

/-- What `d.value` does to one field. -/
inductive Outcome (α : Type)
  /-- The field is set. -/
  | store (a : α)
  /-- `null` into a field that ignores it. -/
  | keep
  /-- `saveError`: the field is left, and the error kept for the end. -/
  | save (msg : String)
  /-- An error returned at once. -/
  | abort (msg : String)

/-- `d.value` into a field of string kind (`string`, `LFType`, `RevStatus`). -/
def decodeString (field type : String) : JValue → Outcome String
  | .literal item =>
    match Literal.read item with
    | .error e => .abort e
    | .ok .empty => .save (emptyLiteralError type)
    | .ok .null => .keep
    | .ok .bool => .save (typeError "bool" field type)
    | .ok (.string s) => .store s
    | .ok (.number _) => .save (typeError "number" field type)
  | .array _ => .save (typeError "array" field type)
  | .object _ => .save (typeError "object" field type)

/-- `d.value` into the `uint64` field: `ParseUint` of a number literal. -/
def decodeUint (field type : String) : JValue → Outcome Nat
  | .literal item =>
    match Literal.read item with
    | .error e => .abort e
    | .ok .empty => .save (emptyLiteralError type)
    | .ok .null => .keep
    | .ok .bool => .save (typeError "bool" field type)
    | .ok (.string _) => .save (typeError "string" field type)
    | .ok (.number text) =>
      match parseUint text with
      | some n => .store n
      | none => .save (typeError ("number " ++ bytesString text) field type)
  | .array _ => .save (typeError "array" field type)
  | .object _ => .save (typeError "object" field type)

/-- `d.value` into the embedded interface, which has methods: only `null` is stored (as nil). -/
def decodeFormatable (lib : Library) : JValue → Outcome Unit
  | .literal item =>
    match Literal.read item with
    | .error e => .abort e
    | .ok .empty => .save (emptyLiteralError "formatter.Formatable")
    | .ok .null => .store ()
    | .ok .bool => .save (typeError "bool" "Formatable" "formatter.Formatable")
    | .ok (.string _) => .save (typeError "string" "Formatable" "formatter.Formatable")
    | .ok (.number text) =>
      if lib.parseFloatOk text then .save (typeError "number" "Formatable" "formatter.Formatable")
      else .save (typeError ("number " ++ bytesString text) "Formatable" "float64")
  | .array _ => .save (typeError "array" "Formatable" "formatter.Formatable")
  | .object _ => .save (typeError "object" "Formatable" "formatter.Formatable")

/-- `d.value` into the timestamp: `Time.UnmarshalJSON` of the value's bytes.  An array or an
object does not start with a quote. -/
def decodeTime (lib : Library) (cur : Time) : JValue → Outcome Time
  | .literal item =>
    match unmarshalJSON lib.parseTime item cur with
    | .ok t => .store t
    | .error e => .abort e
  | _ => .abort "Time.UnmarshalJSON: input is not a JSON string"

/-- The state of the walk: the record so far and the first saved error. -/
structure DecodeState where
  rev : Revision
  saved : Option String

/-- `saveError`: keep the first error only. -/
def DecodeState.save (st : DecodeState) (msg : String) : DecodeState :=
  { st with saved := st.saved <|> some msg }

/-- Apply a field's outcome to the state. -/
def Outcome.apply (set : α → Revision → Revision) (st : DecodeState) :
    Outcome α → Except String DecodeState
  | .store a => .ok { st with rev := set a st.rev }
  | .keep => .ok st
  | .save msg => .ok (st.save msg)
  | .abort msg => .error msg

/-- `SetMapIndex` on the vars map. -/
def DecodeState.setVar (st : DecodeState) (k v : String) : DecodeState :=
  { st with rev := { st.rev with vars := some ((st.rev.vars.getD .empty).insert k v) } }

/-- The members of an object decoded into the vars map: each key unquoted, each value into a
zero string, which `null` leaves empty. -/
def decodeVarsMembers : List (List UInt8 × JValue) → DecodeState → Except String DecodeState
  | [], st => .ok st
  | (key, v) :: ms, st =>
    match unquoteBytes key with
    | none => .error phasePanicMsg
    | some k =>
      match decodeString "vars" "string" v with
      | .store s => decodeVarsMembers ms (st.setVar k s)
      | .keep => decodeVarsMembers ms (st.setVar k "")
      | .save msg => decodeVarsMembers ms ((st.save msg).setVar k "")
      | .abort msg => .error msg

/-- `d.value` into the vars map: `null` makes it nil; an object is added to it, made first if
nil. -/
def decodeVars (st : DecodeState) : JValue → Except String DecodeState
  | .literal item =>
    match Literal.read item with
    | .error e => .error e
    | .ok .empty => .ok (st.save (emptyLiteralError "map[string]string"))
    | .ok .null => .ok { st with rev := { st.rev with vars := none } }
    | .ok .bool => .ok (st.save (typeError "bool" "vars" "map[string]string"))
    | .ok (.string _) => .ok (st.save (typeError "string" "vars" "map[string]string"))
    | .ok (.number _) => .ok (st.save (typeError "number" "vars" "map[string]string"))
  | .array _ => .ok (st.save (typeError "array" "vars" "map[string]string"))
  | .object ms =>
    decodeVarsMembers ms { st with rev := { st.rev with vars := some (st.rev.vars.getD .empty) } }

/-- `d.value` into the field `f` of the record. -/
def decodeField (lib : Library) (st : DecodeState) : Field → JValue → Except String DecodeState
  | .formatable, v => (decodeFormatable lib v).apply (fun _ r => { r with formatable := none }) st
  | .id, v => (decodeString "id" "string" v).apply (fun s r => { r with id := s }) st
  | .type, v => (decodeString "type" "core.LFType" v).apply (fun s r => { r with type := ⟨s⟩ }) st
  | .status, v =>
    (decodeString "status" "core.RevStatus" v).apply (fun s r => { r with status := ⟨s⟩ }) st
  | .checksum, v =>
    (decodeUint "checksum" "uint64" v).apply (fun n r => { r with checksum := UInt64.ofNat n }) st
  | .timestamp, v =>
    (decodeTime lib st.rev.timestamp v).apply (fun t r => { r with timestamp := t }) st
  | .externalID, v =>
    (decodeString "external_id" "string" v).apply (fun s r => { r with externalID := s }) st
  | .vars, v => decodeVars st v

/-- One member of the record's object: the key is unquoted and looked up, and the value decoded
into that field; a key that names no field is skipped. -/
def decodeMember (lib : Library) (st : DecodeState) (key : List UInt8) (v : JValue) :
    Except String DecodeState :=
  match unquoteBytes key with
  | none => .error phasePanicMsg
  | some k =>
    match fieldOf k with
    | none => .ok st
    | some f => decodeField lib st f v

/-- The members of the record's object, in order. -/
def decodeMembers (lib : Library) : List (List UInt8 × JValue) → DecodeState →
    Except String DecodeState
  | [], st => .ok st
  | (key, v) :: ms, st => (decodeMember lib st key v).bind (decodeMembers lib ms)

/-- `UnmarshalTypeError.Error()` for the record itself. -/
def valueTypeError (kind : String) : String :=
  "json: cannot unmarshal " ++ kind ++ " into Go value of type core.Revision"

/-- `d.value` into `*Revision`: `null` leaves the record, an object fills it, anything else is
saved as an error. -/
def decodeRevision (lib : Library) (st : DecodeState) : JValue → Except String DecodeState
  | .literal item =>
    match Literal.read item with
    | .error e => .error e
    | .ok .empty => .ok (st.save (emptyLiteralError "core.Revision"))
    | .ok .null => .ok st
    | .ok .bool => .ok (st.save (valueTypeError "bool"))
    | .ok (.string _) => .ok (st.save (valueTypeError "string"))
    | .ok (.number _) => .ok (st.save (valueTypeError "number"))
  | .array _ => .ok (st.save (valueTypeError "array"))
  | .object ms => decodeMembers lib ms st

/-- The zero `Revision` that `ParseRevisionFile` decodes into. -/
def Revision.zero : Revision := ⟨none, "", ⟨""⟩, ⟨""⟩, 0, .zero, "", none⟩

/-- `json.Unmarshal(data, &rev)` into a zero `Revision`. -/
def unmarshal (lib : Library) (data : List UInt8) : Except String Revision :=
  match checkValid data with
  | .error e => .error e
  | .ok () =>
    match readDocument data with
    | none => .error phasePanicMsg
    | some v =>
      match decodeRevision lib ⟨Revision.zero, none⟩ v with
      | .error e => .error e
      | .ok st =>
        match st.saved with
        | some e => .error e
        | none => .ok st.rev

/-- `ParseRevisionFile(fpath)`; `readFile` is `ioutil.ReadFile`. -/
def parseRevisionFile (readFile : String → Except String (List UInt8)) (lib : Library)
    (fpath : String) : Except String Revision :=
  match readFile fpath with
  | .error e => .error e
  | .ok data => unmarshal lib data

end Laforge.Core
