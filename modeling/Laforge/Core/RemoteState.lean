import Mathlib.Data.List.Sort
import Laforge.Go.Basic
import Laforge.Go.Xxhash

/-!
# Laforge.Core.RemoteState

The fingerprint of a remote-state definition (`core/remote_state_config.go`): `Remote.Hash`
hashes the text

```
fmt.Sprintf("id=%v type=%v config=%v", r.ID, r.Type, r.Config)
```

in which `fmt` writes the map as `map[k:v k:v]` with its keys in increasing order
(`internal/fmtsort`), whatever order the map iterates in.

1. Sorting makes the text, hence the hash, a function of the map's entries as a set
   (`hash_eq_of_equiv`).
2. Nothing is escaped, so the text does not determine the definition when a field holds a
   separator (`hashInput_separator_collision`).  When the ID, the type and the values hold no
   space and the keys no `:`, it does (`hashInput_injective`): each key is read up to its `:`,
   so it may hold spaces, and each value up to the next space.
-/

namespace Laforge.Core

open Laforge.Go

/-- `Remote`, with the fields `Hash` reads.  A nil `Config` prints as an empty map, so it is the
empty `GoMap` here. -/
structure Remote where
  id : String
  type : String
  config : GoMap

/-- The order `fmt` prints a map's entries in: by key. -/
def KeyLE (a b : String × String) : Prop := GoLE a.1 b.1

instance : DecidableRel KeyLE := fun _ _ => inferInstanceAs (Decidable (GoLE _ _))

instance : IsTotal (String × String) KeyLE := ⟨fun a b => goLE_total a.1 b.1⟩

instance : IsTrans (String × String) KeyLE := ⟨fun _ _ _ => goLE_trans⟩

/-- A map's entries in the order `fmt` prints them. -/
def sortedEntries (m : GoMap) : List (String × String) := m.entries.insertionSort KeyLE

/-- One entry as `%v` prints it: `k:v`. -/
def entryText (e : String × String) : List Char := e.1.data ++ ':' :: e.2.data

/-- `%v` of a `map[string]string`. -/
def fmtMap (m : GoMap) : String :=
  "map[" ++ ⟨[' '].intercalate ((sortedEntries m).map entryText)⟩ ++ "]"

namespace Remote

/-- The text `Hash` passes to `xxhash.Sum64String`. -/
def hashInput (r : Remote) : String :=
  "id=" ++ r.id ++ " type=" ++ r.type ++ " config=" ++ fmtMap r.config

/-- `Remote.Hash`. -/
def hash (r : Remote) : UInt64 := Xxhash.sum64String r.hashInput

/-- No separator of the hash text where it would end a field early: no space in the ID, the
type or a value, and no `:` in a key.  A key may hold spaces: it is read up to its `:`. -/
def SeparatorFree (r : Remote) : Prop :=
  ' ' ∉ r.id.data ∧ ' ' ∉ r.type.data ∧ ∀ e ∈ r.config.entries, ':' ∉ e.1.data ∧ ' ' ∉ e.2.data

instance : DecidablePred SeparatorFree := fun _ => inferInstanceAs (Decidable (_ ∧ _ ∧ _))

end Remote

/-! ## The printed order depends on the entries only -/

/-- Keys strictly increasing. -/
def KeyLT (a b : String × String) : Prop := GoLess a.1 b.1

instance : IsAntisymm (String × String) KeyLT :=
  ⟨fun _ _ h h' => absurd (goLess_trans h h') (goLess_irrefl _)⟩

theorem sortedEntries_perm (m : GoMap) : (sortedEntries m).Perm m.entries :=
  List.perm_insertionSort _ _

/-- A map's keys are distinct, so its printed entries are strictly increasing. -/
theorem sorted_sortedEntries (m : GoMap) : (sortedEntries m).Sorted KeyLT := by
  have hnd : ((sortedEntries m).map Prod.fst).Nodup :=
    ((sortedEntries_perm m).map Prod.fst).nodup_iff.mpr m.nodup_keys
  rw [List.Nodup, List.pairwise_map] at hnd
  exact ((List.sorted_insertionSort KeyLE m.entries).and hnd).imp
    fun h => goLess_of_goLE_of_ne h.1 h.2

/-- Maps with the same entries print them in the same order. -/
theorem sortedEntries_eq_of_equiv {m₁ m₂ : GoMap} (h : m₁.Equiv m₂) :
    sortedEntries m₁ = sortedEntries m₂ :=
  List.eq_of_perm_of_sorted ((sortedEntries_perm m₁).trans (h.trans (sortedEntries_perm m₂).symm))
    (sorted_sortedEntries m₁) (sorted_sortedEntries m₂)

theorem hashInput_eq_of_equiv {r₁ r₂ : Remote} (hid : r₁.id = r₂.id) (ht : r₁.type = r₂.type)
    (hc : r₁.config.Equiv r₂.config) : r₁.hashInput = r₂.hashInput := by
  simp only [Remote.hashInput, fmtMap, hid, ht, sortedEntries_eq_of_equiv hc]

/-- **The hash does not see the map's order.**  Two definitions with the same ID and type whose
configurations hold the same entries, in whatever order, hash alike. -/
theorem Remote.hash_eq_of_equiv {r₁ r₂ : Remote} (hid : r₁.id = r₂.id) (ht : r₁.type = r₂.type)
    (hc : r₁.config.Equiv r₂.config) : r₁.hash = r₂.hash :=
  congrArg Xxhash.sum64String (hashInput_eq_of_equiv hid ht hc)

/-- One configuration built in two orders. -/
theorem Remote.hash_eq_of_equiv_two_orders :
    Remote.hash ⟨"state", "s3", ⟨[("bucket", "b"), ("region", "r")], by decide⟩⟩ =
      Remote.hash ⟨"state", "s3", ⟨[("region", "r"), ("bucket", "b")], by decide⟩⟩ :=
  Remote.hash_eq_of_equiv rfl rfl (by decide)

/-! ## What the text determines -/

theorem hashInput_data (r : Remote) : r.hashInput.data = "id=".data ++ (r.id.data ++ ' ' ::
    ("type=".data ++ (r.type.data ++ ' ' :: ("config=map[".data ++
      ([' '].intercalate ((sortedEntries r.config).map entryText) ++ "]".data))))) := by
  simp only [Remote.hashInput, fmtMap, String.data_append, List.append_assoc]
  rfl

theorem intercalate_entryText_ne_nil (e : String × String) (es : List (String × String)) :
    [' '].intercalate ((e :: es).map entryText) ≠ [] := by
  intro h
  have := congrArg List.head? h
  rw [List.map_cons, head?_intercalate _ (by simp [entryText])] at this
  cases hk : e.1.data <;> simp [entryText, hk] at this

/-- The printed entries, read from the left: a key up to its `:`, then a value up to the space
before the next entry. -/
theorem intercalate_entryText_inj {l l' : List (String × String)}
    (h : ∀ e ∈ l, ':' ∉ e.1.data ∧ ' ' ∉ e.2.data) (h' : ∀ e ∈ l', ':' ∉ e.1.data ∧ ' ' ∉ e.2.data)
    (he : [' '].intercalate (l.map entryText) = [' '].intercalate (l'.map entryText)) : l = l' := by
  induction l generalizing l' with
  | nil =>
    cases l' with
    | nil => rfl
    | cons e' es' => exact absurd he.symm (intercalate_entryText_ne_nil e' es')
  | cons e es ih =>
    cases l' with
    | nil => exact absurd he (intercalate_entryText_ne_nil e es)
    | cons e' es' =>
      obtain ⟨hk, hv⟩ := h e (.head _)
      obtain ⟨hk', hv'⟩ := h' e' (.head _)
      have hsp : ∀ {v x rest : List Char}, ' ' ∉ v → v ≠ x ++ ' ' :: rest :=
        fun hv heq => hv (by rw [heq]; simp)
      cases es <;> cases es' <;> simp only [List.map_cons, List.map_nil, intercalate_cons_cons,
        intercalate_singleton, entryText, List.append_assoc, List.cons_append] at he <;>
        obtain ⟨hk₁, hv₁⟩ := append_cons_inj_of_not_mem hk hk' he
      · exact congrArg (· :: []) (Prod.ext (String.ext hk₁) (String.ext hv₁))
      · exact absurd hv₁ (hsp hv)
      · exact absurd hv₁.symm (hsp hv')
      · obtain ⟨hv₂, hrest⟩ := append_cons_inj_of_not_mem hv hv' hv₁
        rw [ih (fun x hx => h x (.tail _ hx)) (fun x hx => h' x (.tail _ hx))
          (by simpa only [List.map_cons, entryText] using hrest)]
        exact congrArg (· :: _) (Prod.ext (String.ext hk₁) (String.ext hv₂))

/-- The printed entries of a separator-free map determine its entries. -/
theorem entries_of_sortedText {m₁ m₂ : GoMap}
    (h₁ : ∀ e ∈ m₁.entries, ':' ∉ e.1.data ∧ ' ' ∉ e.2.data)
    (h₂ : ∀ e ∈ m₂.entries, ':' ∉ e.1.data ∧ ' ' ∉ e.2.data)
    (h : [' '].intercalate ((sortedEntries m₁).map entryText) =
      [' '].intercalate ((sortedEntries m₂).map entryText)) : m₁.Equiv m₂ := by
  have hs := intercalate_entryText_inj (fun e he => h₁ e ((sortedEntries_perm m₁).subset he))
    (fun e he => h₂ e ((sortedEntries_perm m₂).subset he)) h
  exact (sortedEntries_perm m₁).symm.trans (hs ▸ sortedEntries_perm m₂)

/-- **Without separators in its fields, the hashed text determines the definition**: its ID,
its type and its configuration's entries. -/
theorem Remote.hashInput_injective {r₁ r₂ : Remote} (h₁ : r₁.SeparatorFree)
    (h₂ : r₂.SeparatorFree) (h : r₁.hashInput = r₂.hashInput) :
    r₁.id = r₂.id ∧ r₁.type = r₂.type ∧ r₁.config.Equiv r₂.config := by
  have hd := congrArg String.data h
  rw [hashInput_data, hashInput_data, List.append_cancel_left_eq] at hd
  obtain ⟨hid, hd⟩ := append_cons_inj_of_not_mem h₁.1 h₂.1 hd
  rw [List.append_cancel_left_eq] at hd
  obtain ⟨ht, hd⟩ := append_cons_inj_of_not_mem h₁.2.1 h₂.2.1 hd
  rw [List.append_cancel_left_eq, List.append_cancel_right_eq] at hd
  exact ⟨String.ext hid, String.ext ht, entries_of_sortedText h₁.2.2 h₂.2.2 hd⟩

/-- A configuration built in two orders, with a space in a key and a `:` in a value, read back
from its hashed text. -/
theorem Remote.hashInput_injective_two_orders :
    let r₁ : Remote := ⟨"state", "s3", ⟨[("bucket name", "b"), ("endpoint", "http://s3")], by decide⟩⟩
    let r₂ : Remote := ⟨"state", "s3", ⟨[("endpoint", "http://s3"), ("bucket name", "b")], by decide⟩⟩
    r₁.hashInput = r₂.hashInput ∧ (r₁.id = r₂.id ∧ r₁.type = r₂.type ∧ r₁.config.Equiv r₂.config) :=
  have h : Remote.hashInput
      ⟨"state", "s3", ⟨[("bucket name", "b"), ("endpoint", "http://s3")], by decide⟩⟩ =
      Remote.hashInput
        ⟨"state", "s3", ⟨[("endpoint", "http://s3"), ("bucket name", "b")], by decide⟩⟩ :=
    hashInput_eq_of_equiv rfl rfl (by decide)
  ⟨h, Remote.hashInput_injective (by decide) (by decide) h⟩

/-- A space in the ID shifts the fields: two definitions with different IDs print, and hash,
alike. -/
theorem hashInput_separator_collision :
    let r₁ : Remote := ⟨"a type=b", "c", .empty⟩
    let r₂ : Remote := ⟨"a", "b type=c", .empty⟩
    r₁.id ≠ r₂.id ∧ r₁.hashInput = r₂.hashInput ∧ r₁.hash = r₂.hash :=
  have h : Remote.hashInput ⟨"a type=b", "c", .empty⟩ = Remote.hashInput ⟨"a", "b type=c", .empty⟩ :=
    by decide
  ⟨by decide, h, congrArg Xxhash.sum64String h⟩

end Laforge.Core
