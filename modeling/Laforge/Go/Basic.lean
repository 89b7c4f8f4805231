import Mathlib.Data.List.Nodup
import Mathlib.Data.List.Sort

/-!
# Laforge.Go.Basic

The Go runtime values the rest of the model is written over.

1. A Go `string` is a Lean `String`: every string the model meets is valid UTF-8 (the loader,
   the JSON decoder and the templates only produce such strings), and its characters are its
   runes.  Functions that split on an ASCII separator work on `String.data`, where a rune
   and a byte of that separator agree.
2. A Go `map[string]string` is a `GoMap`: its entries in the order one `range` over it visits
   them, keys pairwise distinct.  Go leaves that order unspecified (and varies it from one
   `range` to the next), so every statement over a `GoMap` holds for every order, and two maps
   are the same Go value exactly when their entry lists are permutations of each other.

The list lemmas about `List.splitOn` and `List.intercalate` at the end are the plumbing the
path and format proofs share.
-/

namespace Laforge.Go

/-! ## Ordering strings -/

/-- Go's `<` on strings.  Go compares bytes, which on valid UTF-8 orders runes by code point, as
the lexicographic order on `String.data` does. -/
def GoLess (a b : String) : Prop := List.lt a.data b.data

instance : DecidableRel GoLess := fun a b => List.hasDecidableLt a.data b.data

/-- Go's `<=` on strings. -/
def GoLE (a b : String) : Prop := ¬ GoLess b a

instance : DecidableRel GoLE := fun _ _ => inferInstanceAs (Decidable (¬ _))

theorem char_lt_irrefl (x : Char) : ¬ x < x := Nat.lt_irrefl _

theorem char_lt_trans {x y z : Char} : x < y → y < z → x < z := Nat.lt_trans

theorem char_not_lt_trans {x y z : Char} (h : ¬ x < y) (h' : ¬ y < z) : ¬ x < z :=
  Nat.not_lt.mpr (Nat.le_trans (Nat.not_lt.mp h') (Nat.not_lt.mp h))

theorem char_eq_of_not_lt {x y : Char} (h : ¬ x < y) (h' : ¬ y < x) : x = y :=
  Char.ext (UInt32.eq_of_val_eq (Fin.ext (Nat.le_antisymm (Nat.not_lt.mp h') (Nat.not_lt.mp h))))

theorem goLess_irrefl (a : String) : ¬ GoLess a a := List.lt_irrefl char_lt_irrefl a.data

theorem goLess_trans {a b c : String} (h₁ : GoLess a b) (h₂ : GoLess b c) : GoLess a c :=
  List.lt_trans char_lt_trans char_not_lt_trans h₁ h₂

theorem eq_of_not_goLess {a b : String} (h₁ : ¬ GoLess a b) (h₂ : ¬ GoLess b a) : a = b :=
  String.ext (List.lt_antisymm char_eq_of_not_lt h₁ h₂)

theorem goLE_total (a b : String) : GoLE a b ∨ GoLE b a :=
  (Classical.em (GoLess b a)).elim (fun h => .inr fun h' => goLess_irrefl b (goLess_trans h h'))
    .inl

theorem goLE_trans {a b c : String} (h₁ : GoLE a b) (h₂ : GoLE b c) : GoLE a c := by
  intro hca
  by_cases hab : GoLess a b
  · exact h₂ (goLess_trans hca hab)
  · exact h₂ (eq_of_not_goLess hab h₁ ▸ hca)

theorem goLess_of_goLE_of_ne {a b : String} (h : GoLE a b) (hne : a ≠ b) : GoLess a b :=
  Classical.byContradiction fun h' => hne (eq_of_not_goLess h' h)

instance : IsTotal String GoLE := ⟨goLE_total⟩

instance : IsTrans String GoLE := ⟨fun _ _ _ => goLE_trans⟩

instance : IsAntisymm String GoLess := ⟨fun _ _ h h' => absurd (goLess_trans h h') (goLess_irrefl _)⟩

/-- `sort.Strings`: increasing order. -/
def sortStrings (ks : List String) : List String := ks.insertionSort GoLE

theorem sortStrings_perm (ks : List String) : (sortStrings ks).Perm ks := List.perm_insertionSort _ _

theorem sorted_sortStrings {ks : List String} (h : ks.Nodup) : (sortStrings ks).Sorted GoLess :=
  ((List.sorted_insertionSort GoLE ks).and ((sortStrings_perm ks).nodup_iff.mpr h)).imp
    fun h => goLess_of_goLE_of_ne h.1 h.2

/-- Sorting distinct strings gives one list, whatever order they came in. -/
theorem sortStrings_eq_of_perm {ks ks' : List String} (h : ks.Perm ks') (hn : ks.Nodup) :
    sortStrings ks = sortStrings ks' :=
  List.eq_of_perm_of_sorted ((sortStrings_perm ks).trans (h.trans (sortStrings_perm ks').symm))
    (sorted_sortStrings hn) (sorted_sortStrings (h.nodup_iff.mp hn))

/-- The message of the run-time panic for `xs[i]` with `len(xs) = n`. -/
def indexOutOfRange (i n : Nat) : String :=
  "runtime error: index out of range [" ++ toString i ++ "] with length " ++ toString n

/-! ## Maps -/

/-- A Go `map[string]string`, as the entries one `range` visits, in that order. -/
structure GoMap where
  /-- The key/value pairs, in iteration order. -/
  entries : List (String × String)
  /-- A map holds each key once. -/
  nodup_keys : (entries.map Prod.fst).Nodup

namespace GoMap

/-- The empty map `make(map[string]string)`. -/
def empty : GoMap := ⟨[], List.nodup_nil⟩

/-- The keys, in iteration order. -/
def keys (m : GoMap) : List String := m.entries.map Prod.fst

/-- The index expression `m[k]`: the value stored under `k`, or `""` when there is none. -/
def get (m : GoMap) (k : String) : String := ((m.entries.lookup k)).getD ""

/-- Replace the value under an existing key, in place. -/
def setValue (k v : String) : List (String × String) → List (String × String)
  | [] => []
  | (k', v') :: es => if k' = k then (k, v) :: es else (k', v') :: setValue k v es

theorem map_fst_setValue (k v : String) (es : List (String × String)) :
    (setValue k v es).map Prod.fst = es.map Prod.fst := by
  induction es with
  | nil => rfl
  | cons e es ih =>
    obtain ⟨k', v'⟩ := e
    by_cases h : k' = k
    · simp [setValue, h]
    · simp [setValue, h, ih]

/-- The assignment `m[k] = v`: an existing entry takes the new value; a new key is added. -/
def insert (m : GoMap) (k v : String) : GoMap :=
  if h : k ∈ m.keys then
    ⟨setValue k v m.entries, by rw [map_fst_setValue]; exact m.nodup_keys⟩
  else
    ⟨m.entries ++ [(k, v)], by
      rw [List.map_append, List.nodup_append]
      exact ⟨m.nodup_keys, List.nodup_singleton _, by simpa [keys] using h⟩⟩

theorem lookup_eq_none_of_not_mem {l : List (String × String)} {k : String}
    (h : k ∉ l.map Prod.fst) : l.lookup k = none :=
  List.lookup_eq_none_iff.mpr fun _ hp => bne_iff_ne.mpr fun e => h (e ▸ List.mem_map_of_mem _ hp)

theorem lookup_ne_none_of_mem {l : List (String × String)} {k : String}
    (h : k ∈ l.map Prod.fst) : l.lookup k ≠ none := fun hn => by
  obtain ⟨p, hp, rfl⟩ := List.mem_map.mp h
  simpa using List.lookup_eq_none_iff.mp hn p hp

theorem lookup_cons_ite (k k' v : String) (es : List (String × String)) :
    ((k, v) :: es).lookup k' = if k' = k then some v else es.lookup k' := by
  by_cases h : k' = k
  · simp [h]
  · simp [List.lookup_cons, beq_false_of_ne h, h]

theorem lookup_setValue (k v k' : String) (es : List (String × String)) :
    (setValue k v es).lookup k' = if k' = k ∧ k ∈ es.map Prod.fst then some v else es.lookup k' := by
  induction es with
  | nil => simp [setValue]
  | cons e es ih =>
    obtain ⟨k₀, v₀⟩ := e
    by_cases h : k₀ = k
    · subst h; by_cases h' : k' = k₀ <;> simp [setValue, lookup_cons_ite, h']
    · simp only [setValue, h, if_false, lookup_cons_ite, ih]
      by_cases h' : k' = k₀
      · simp [h', h]
      · simp only [h', false_and, if_false, List.map_cons, List.mem_cons, Ne.symm h, false_or]

@[simp] theorem get_insert (m : GoMap) (k v k' : String) :
    (m.insert k v).get k' = if k' = k then v else m.get k' := by
  unfold insert get
  split
  · rw [lookup_setValue]; by_cases h : k' = k <;> simp_all [keys]
  · rw [List.lookup_append]
    by_cases h : k' = k
    · subst h
      simp [lookup_eq_none_of_not_mem (show k' ∉ m.entries.map Prod.fst from ‹k' ∉ m.keys›)]
    · cases m.entries.lookup k' <;> simp [lookup_cons_ite, h]

@[simp] theorem mem_keys_insert (m : GoMap) (k v k' : String) :
    k' ∈ (m.insert k v).keys ↔ k' = k ∨ k' ∈ m.keys := by
  unfold insert keys
  split
  · rw [map_fst_setValue]; constructor
    · exact .inr
    · rintro (rfl | h) <;> assumption
  · simp [or_comm]

theorem keys_nodup (m : GoMap) : m.keys.Nodup := m.nodup_keys

/-- A run of assignments `m[k] = v`, in order. -/
def insertAll (m : GoMap) (ps : List (String × String)) : GoMap :=
  ps.foldl (fun m p => m.insert p.1 p.2) m

/-- The value the last of a run of assignments gives `k`. -/
def lastValue (ps : List (String × String)) (k : String) : String := (ps.reverse.lookup k).getD ""

theorem mem_keys_insertAll (m : GoMap) (ps : List (String × String)) (k : String) :
    k ∈ (m.insertAll ps).keys ↔ k ∈ ps.map Prod.fst ∨ k ∈ m.keys := by
  induction ps generalizing m with
  | nil => simp [insertAll]
  | cons p ps ih =>
    simp only [insertAll, List.foldl_cons] at ih ⊢
    rw [ih, mem_keys_insert, List.map_cons, List.mem_cons]
    tauto

theorem lastValue_cons (p : String × String) (ps : List (String × String)) (k : String) :
    lastValue (p :: ps) k = if k ∈ ps.map Prod.fst then lastValue ps k
      else if k = p.1 then p.2 else "" := by
  obtain ⟨k₀, v₀⟩ := p
  unfold lastValue
  rw [List.reverse_cons, List.lookup_append]
  split
  · have := lookup_ne_none_of_mem (show k ∈ ps.reverse.map Prod.fst by simpa using ‹k ∈ ps.map Prod.fst›)
    cases h : ps.reverse.lookup k with
    | none => exact absurd h this
    | some v => rfl
  · rw [lookup_eq_none_of_not_mem (by simpa using ‹k ∉ ps.map Prod.fst›)]
    by_cases h : k = k₀ <;> simp [lookup_cons_ite, h]

/-- After a run of assignments, a key holds the value of its last assignment, or what it held
before when the run does not assign it. -/
theorem get_insertAll (m : GoMap) (ps : List (String × String)) (k : String) :
    (m.insertAll ps).get k = if k ∈ ps.map Prod.fst then lastValue ps k else m.get k := by
  induction ps generalizing m with
  | nil => simp [insertAll]
  | cons p ps ih =>
    simp only [insertAll, List.foldl_cons] at ih ⊢
    simp only [ih, get_insert, lastValue_cons, List.map_cons, List.mem_cons]
    by_cases h₁ : k ∈ ps.map Prod.fst <;> by_cases h₂ : k = p.1 <;> simp [h₁, h₂]

/-- Assigning keys the map does not hold, each once, appends them in order. -/
theorem entries_insertAll_of_fresh (m : GoMap) (ps : List (String × String))
    (hn : (ps.map Prod.fst).Nodup) (hf : ∀ k ∈ ps.map Prod.fst, k ∉ m.keys) :
    (m.insertAll ps).entries = m.entries ++ ps := by
  induction ps generalizing m with
  | nil => simp [insertAll]
  | cons p ps ih =>
    rw [List.map_cons, List.nodup_cons] at hn
    have hp : p.1 ∉ m.keys := hf p.1 (.head _)
    have hins : (m.insert p.1 p.2).entries = m.entries ++ [p] := by simp [insert, hp]
    simp only [insertAll, List.foldl_cons] at ih ⊢
    rw [ih _ hn.2 fun k hk => ?_, hins, List.append_assoc, List.singleton_append]
    simp only [keys, hins, List.map_append, List.mem_append, List.map_cons, List.map_nil,
      List.mem_singleton, not_or]
    exact ⟨hf k (.tail _ hk), fun e => hn.1 (e ▸ hk)⟩

/-- A map is its keys, each with the value it holds. -/
theorem map_keys_get (m : GoMap) : m.keys.map (fun k => (k, m.get k)) = m.entries := by
  obtain ⟨es, hn⟩ := m
  simp only [keys, get, List.map_map]
  induction es with
  | nil => rfl
  | cons e es ih =>
    obtain ⟨k, v⟩ := e
    rw [List.map_cons, List.nodup_cons] at hn
    simp only [List.map_cons, Function.comp_apply, List.lookup_cons_self, Option.getD_some,
      List.cons.injEq, true_and]
    conv_rhs => rw [← ih hn.2]
    refine List.map_congr_left fun x hx => ?_
    have hne : x.1 ≠ k := fun e => hn.1 (e ▸ List.mem_map.mpr ⟨_, hx, rfl⟩)
    simp only [Function.comp_apply, lookup_cons_ite, if_neg hne]

/-- Two maps are the same Go value: they hold the same entries. -/
def Equiv (m₁ m₂ : GoMap) : Prop := m₁.entries.Perm m₂.entries

instance (m₁ m₂ : GoMap) : Decidable (m₁.Equiv m₂) := inferInstanceAs (Decidable (List.Perm _ _))

end GoMap

/-! ## Splitting and joining -/

/-- Whether `pat` occurs in `cs` at some position. -/
def isInfix (pat : List Char) : List Char → Bool
  | [] => pat.isEmpty
  | c :: cs => pat.isPrefixOf (c :: cs) || isInfix pat cs

/-- `strings.Contains(s, substr)`. -/
def contains (s substr : String) : Bool := isInfix substr.data s.data

/-- `strings.Split(s, sep)` for a one-character separator: the pieces between separators. -/
def split (s : String) (sep : Char) : List String := (s.data.splitOn sep).map String.mk

theorem length_split (s : String) (sep : Char) : (split s sep).length = (s.data.splitOn sep).length :=
  List.length_map _ _

theorem splitOn_append_sep {c : Char} (xs ys : List Char) :
    (xs ++ c :: ys).splitOn c = xs.splitOn c ++ ys.splitOn c := by
  induction xs with
  | nil => simp [List.splitOn]
  | cons x xs ih =>
    simp only [List.splitOn, List.cons_append, List.splitOnP_cons] at ih ⊢
    by_cases hx : x = c
    · simp [hx, ih]
    · have hne := List.splitOnP_ne_nil (· == c) xs
      rw [if_neg (by simpa using hx), if_neg (by simpa using hx), ih]
      cases h : xs.splitOnP (· == c) with
      | nil => exact absurd h hne
      | cons _ _ => rfl

theorem not_mem_of_mem_splitOn {c : Char} {xs l : List Char} (h : l ∈ xs.splitOn c) : c ∉ l := by
  induction xs generalizing l with
  | nil => simp_all
  | cons x xs ih =>
    simp only [List.splitOn, List.splitOnP_cons] at h ih
    split at h
    · rcases List.mem_cons.mp h with rfl | h
      · simp
      · exact ih h
    · next hx =>
      cases hs : xs.splitOnP (· == c) with
      | nil => exact absurd hs (List.splitOnP_ne_nil _ _)
      | cons a as =>
        rw [hs, List.modifyHead_cons] at h
        rcases List.mem_cons.mp h with rfl | h
        · have ha := ih (by rw [hs]; exact List.mem_cons_self a as)
          simp only [beq_iff_eq] at hx
          simp [ha, Ne.symm hx]
        · exact ih (by rw [hs]; exact List.mem_cons_of_mem a h)

/-- A separator that occurs in neither of two prefixes ends both at the same place. -/
theorem append_cons_inj_of_not_mem {c : Char} {a a' x x' : List Char} (ha : c ∉ a) (ha' : c ∉ a')
    (h : a ++ c :: x = a' ++ c :: x') : a = a' ∧ x = x' := by
  induction a generalizing a' with
  | nil =>
    cases a' with
    | nil => exact ⟨rfl, (List.cons.inj h).2⟩
    | cons b bs => exact absurd (List.cons.inj h).1 fun e => ha' (by simp [e])
  | cons b bs ih =>
    cases a' with
    | nil => exact absurd (List.cons.inj h).1.symm fun e => ha (by simp [e])
    | cons b' bs' =>
      obtain ⟨rfl, ht⟩ := List.cons.inj h
      obtain ⟨rfl, rfl⟩ := ih (fun m => ha (List.mem_cons_of_mem b m))
        (fun m => ha' (List.mem_cons_of_mem b m)) ht
      exact ⟨rfl, rfl⟩

theorem splitOn_eq_single {c : Char} {xs : List Char} (h : c ∉ xs) : xs.splitOn c = [xs] :=
  List.splitOnP_eq_single _ _ fun x hx hxc => h (by rwa [← eq_of_beq hxc])

theorem head?_intercalate {c : Char} {e : List Char} (es : List (List Char)) (he : e ≠ []) :
    ([c].intercalate (e :: es)).head? = e.head? := by
  obtain ⟨x, xs, rfl⟩ := List.exists_cons_of_ne_nil he
  cases es <;> simp [List.intercalate]

theorem intercalate_singleton {c : Char} (x : List Char) : [c].intercalate [x] = x := by
  simp [List.intercalate]

theorem intercalate_cons_cons {c : Char} (x y : List Char) (ys : List (List Char)) :
    [c].intercalate (x :: y :: ys) = x ++ c :: [c].intercalate (y :: ys) := by
  simp [List.intercalate, List.intersperse_cons₂]

theorem intercalate_append_singleton {c : Char} {xs : List (List Char)} (y : List Char)
    (h : xs ≠ []) : [c].intercalate (xs ++ [y]) = [c].intercalate xs ++ c :: y := by
  induction xs with
  | nil => exact absurd rfl h
  | cons x xs ih =>
    cases xs with
    | nil => simp [List.intercalate]
    | cons x' xs' =>
      simp only [List.intercalate, List.cons_append, List.intersperse_cons₂,
        List.flatten_cons] at ih ⊢
      rw [ih (List.cons_ne_nil _ _)]
      simp

end Laforge.Go
