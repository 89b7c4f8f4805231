import Laforge.Go.Filepath
import Laforge.Go.Time

/-!
# Laforge.Core.Revision

The revision record (`core/revision.go`): the `.lfrevision` file kept for every node of a
build, what `Touch`, `TouchWithID` and `Taint` do to it, and where `AbsPath` puts it.

1. `RevStatus` and `LFType` are Go `string` types; a record read from disk may hold any string
   in them, so they are strings here too, with the `RevStatus` constants of the source.
2. The `LFType` constants `AbsPath` and `Filename` test (`LFTypeEnvironment`,
   `LFTypeConnection`, `LFTypeProvisioningStep`) are declared outside the sources; the model
   takes their values as a parameter `Kinds`.
3. `Touch`, `TouchWithID` and `Taint` read the clock; the model passes the time `time.Now`
   returns as an argument.
4. A Go `string` holds any bytes; a Lean `String` is a sequence of Unicode scalar values, so
   the model's records are those whose strings are valid UTF-8, as every string the HCL loader
   produces is.  `json.Marshal` would replace the bytes of an invalid sequence with U+FFFD; such
   a record is outside the model.
-/

namespace Laforge.Core

open Laforge.Go

/-- `RevStatus`, the status of a revision. -/
structure RevStatus where
  val : String
deriving DecidableEq, Repr

namespace RevStatus

/-- `RevStatusUnknown`: the resource can be assumed destroyed or missing. -/
def unknown : RevStatus := ⟨"UNKNOWN"⟩
/-- `RevStatusStale`: the resource is no longer used by outside systems. -/
def stale : RevStatus := ⟨"STALE"⟩
/-- `RevStatusActive`: the resource was created successfully. -/
def active : RevStatus := ⟨"ACTIVE"⟩
/-- `RevStatusPlanned`: the resource needs no configuration change but is not created yet. -/
def planned : RevStatus := ⟨"PLANNED"⟩
/-- `RevStatusFailed`: creating the resource was attempted and failed. -/
def failed : RevStatus := ⟨"FAILED"⟩

/-- The statuses the constants name. -/
def IsKnown (s : RevStatus) : Prop := s ∈ [unknown, stale, active, planned, failed]

instance : DecidablePred IsKnown := fun s => inferInstanceAs (Decidable (s ∈ _))

end RevStatus

/-- `LFType`, the kind of a node. -/
@[ext] structure LFType where
  val : String
deriving DecidableEq, Repr

/-- The values of the `LFType` constants the record path depends on. -/
structure Kinds where
  /-- `LFTypeEnvironment` -/
  environment : LFType
  /-- `LFTypeConnection` -/
  connection : LFType
  /-- `LFTypeProvisioningStep` -/
  provisioningStep : LFType
  /-- The three constants name different kinds. -/
  distinct : environment ≠ connection ∧ environment ≠ provisioningStep ∧
    connection ≠ provisioningStep

/-- `Revision`, one `.lfrevision` record whose strings are valid UTF-8.  The embedded
`formatter.Formatable` interface field is `none` when nil; otherwise the model keeps the JSON
text its dynamic value marshals to, the only thing of it any function here reads. -/
structure Revision where
  formatable : Option (List UInt8)
  id : String
  type : LFType
  status : RevStatus
  checksum : UInt64
  timestamp : Time
  externalID : String
  vars : Option GoMap

namespace Revision

/-- `Touch`: the record becomes active, stamped with the current time. -/
def touch (now : Time) (r : Revision) : Revision :=
  { r with status := .active, timestamp := now }

/-- `TouchWithID`: `Touch`, then record the external resource identifier. -/
def touchWithID (now : Time) (s : String) (r : Revision) : Revision :=
  { r.touch now with externalID := s }

/-- `Taint`: the record becomes stale, with the checksum `666`. -/
def taint (now : Time) (r : Revision) : Revision :=
  { r with status := .stale, timestamp := now, checksum := 666 }

/-- `Filename`: `.<base of the ID>.pstep.lfrevision` for a provisioning step,
`.<type>.lfrevision` otherwise. -/
def filename (k : Kinds) (r : Revision) : String :=
  if r.type = k.provisioningStep then "." ++ Filepath.base r.id ++ ".pstep.lfrevision"
  else "." ++ r.type.val ++ ".lfrevision"

/-- `AbsPath`: the environment's record has a fixed name; a connection's record sits in the
directory above its ID, every other record in the directory its ID names. -/
def absPath (k : Kinds) (r : Revision) (basedir : String) : String :=
  if r.type = k.environment then ".env.lfrevision"
  else if r.type = k.connection then Filepath.join [basedir, Filepath.dir r.id, r.filename k]
  else Filepath.join [basedir, r.id, r.filename k]

end Revision

end Laforge.Core
