import Laforge.Go.Basic

/-!
# Laforge.Go.Filepath

Go's lexical path functions on a Unix system, as `Revision.AbsPath` and `Revision.Filename`
call them: `filepath.Clean`, `filepath.Join`, `filepath.Dir` and `path.Base`.

`clean` is the walk its documentation describes, one element of the `/`-separated path at a
time:

1. empty elements (repeated separators) and `.` elements are dropped;
2. a `..` element removes the element kept before it, unless that is itself a `..`;
3. a `..` with nothing before it is dropped in a rooted path and kept in a relative one;
4. an empty relative result is `.`, an empty rooted one `/`.

The lemmas at the end are what the record-path proofs need: names (elements that are not
empty, `.` or `..`) pass through the walk unchanged, and a cleaned path that starts with a
common prefix determines the names that follow it.
-/

namespace Laforge.Go.Filepath

open Laforge.Go

/-- A path element that the walk keeps as it is: not empty, not `.`, not `..`. -/
def IsName (e : List Char) : Prop := e ≠ [] ∧ e ≠ ['.'] ∧ e ≠ ['.', '.']

instance : DecidablePred IsName := fun _ => inferInstanceAs (Decidable (_ ∧ _ ∧ _))

/-- One element of the walk, over the elements kept so far, last kept first. -/
def cleanStep (rooted : Bool) (kept : List (List Char)) (e : List Char) : List (List Char) :=
  if e = [] ∨ e = ['.'] then kept
  else if e = ['.', '.'] then
    match kept with
    | l :: rest => if l = ['.', '.'] then e :: kept else rest
    | [] => if rooted then [] else [e]
  else e :: kept

/-- The elements the walk keeps, in path order. -/
def cleanElems (rooted : Bool) (es : List (List Char)) : List (List Char) :=
  (es.foldl (cleanStep rooted) []).reverse

/-- How the walk writes the kept elements back. -/
def render (rooted : Bool) : List (List Char) → List Char
  | [] => if rooted then ['/'] else ['.']
  | e :: es => (if rooted then ['/'] else []) ++ ['/'].intercalate (e :: es)

/-- `filepath.Clean`: the shortest path naming the same file, by lexical processing alone. -/
def clean (path : String) : String :=
  let rooted := path.data.head? == some '/'
  ⟨render rooted (cleanElems rooted (path.data.splitOn '/'))⟩

/-- `filepath.Join`: the elements from the first non-empty one on, joined with separators and
cleaned; `""` when every element is empty. -/
def join (elem : List String) : String :=
  match elem.dropWhile (· == "") with
  | [] => ""
  | e :: es => clean ⟨['/'].intercalate ((e :: es).map String.data)⟩

/-- `filepath.Dir`: the path up to its last separator, cleaned. -/
def dir (path : String) : String :=
  clean ⟨(path.data.reverse.dropWhile (· != '/')).reverse⟩

/-- `path.Base`: the last element once trailing slashes are removed; `.` for the empty path and
`/` for a path of slashes only. -/
def base (path : String) : String :=
  if path = "" then "." else
    match ((path.data.reverse.dropWhile (· == '/')).takeWhile (· != '/')).reverse with
    | [] => "/"
    | c :: cs => ⟨c :: cs⟩

example : clean "a//b/./../c/" = "a/c" := by decide
example : clean "/../a/.." = "/" := by decide
example : dir "envs/h/conn" = "envs/h" := by decide

/-! ## Names pass through the walk -/

theorem cleanStep_name {r : Bool} {e : List Char} (h : IsName e) (kept : List (List Char)) :
    cleanStep r kept e = e :: kept := by
  obtain ⟨h0, h1, h2⟩ := h
  simp [cleanStep, h0, h1, h2]

theorem foldl_cleanStep_names {r : Bool} {T : List (List Char)} (h : ∀ e ∈ T, IsName e)
    (kept : List (List Char)) : T.foldl (cleanStep r) kept = T.reverse ++ kept := by
  induction T generalizing kept with
  | nil => rfl
  | cons e T ih =>
    rw [List.foldl_cons, cleanStep_name (h e (List.mem_cons_self e T)),
      ih (fun x hx => h x (List.mem_cons_of_mem e hx))]
    simp

theorem cleanElems_append_names {r : Bool} (S : List (List Char)) {T : List (List Char)}
    (h : ∀ e ∈ T, IsName e) : cleanElems r (S ++ T) = cleanElems r S ++ T := by
  simp [cleanElems, List.foldl_append, foldl_cleanStep_names h]

theorem cleanElems_append_dot (r : Bool) (S : List (List Char)) :
    cleanElems r (S ++ [['.']]) = cleanElems r S := by
  simp [cleanElems, cleanStep]

/-- The walk only keeps separator-free elements when it is given such elements. -/
theorem not_mem_of_mem_cleanElems {r : Bool} {es : List (List Char)}
    (h : ∀ e ∈ es, '/' ∉ e) : ∀ e ∈ cleanElems r es, '/' ∉ e := by
  have step : ∀ (kept : List (List Char)) (e : List Char), (∀ x ∈ kept, '/' ∉ x) →
      '/' ∉ e → ∀ x ∈ cleanStep r kept e, '/' ∉ x := by
    intro kept e hk he x hx
    unfold cleanStep at hx
    split at hx
    · exact hk x hx
    split at hx
    · split at hx
      · split at hx
        · rcases List.mem_cons.mp hx with rfl | hx
          · exact he
          · exact hk x hx
        · exact hk x (List.mem_cons_of_mem _ hx)
      · split at hx
        · simp at hx
        · rcases List.mem_singleton.mp hx with rfl; exact he
    · rcases List.mem_cons.mp hx with rfl | hx
      · exact he
      · exact hk x hx
  have fold : ∀ (es : List (List Char)) (kept : List (List Char)), (∀ e ∈ es, '/' ∉ e) →
      (∀ x ∈ kept, '/' ∉ x) → ∀ x ∈ es.foldl (cleanStep r) kept, '/' ∉ x := by
    intro es
    induction es with
    | nil => intro kept _ hk; exact hk
    | cons e es ih =>
      intro kept he hk
      exact ih _ (fun x hx => he x (List.mem_cons_of_mem e hx))
        (step kept e hk (he e (List.mem_cons_self e es)))
  intro e he
  exact fold es [] h (by simp) e (List.mem_reverse.mp he)

/-! ## A cleaned path determines the names after a common prefix -/

theorem render_of_ne_nil (r : Bool) {L : List (List Char)} (h : L ≠ []) :
    render r L = (if r then ['/'] else []) ++ ['/'].intercalate L := by
  cases L with
  | nil => exact absurd rfl h
  | cons e es => rfl

/-- Two cleaned paths that keep the same prefix elements `K` and go on with non-empty runs of
separator-free elements are equal only if those runs are. -/
theorem render_append_inj {r : Bool} {K T₁ T₂ : List (List Char)}
    (hK : ∀ e ∈ K, '/' ∉ e) (h₁ : ∀ e ∈ T₁, '/' ∉ e) (h₂ : ∀ e ∈ T₂, '/' ∉ e)
    (ne₁ : T₁ ≠ []) (ne₂ : T₂ ≠ []) (h : render r (K ++ T₁) = render r (K ++ T₂)) :
    T₁ = T₂ := by
  have ne : ∀ {T : List (List Char)}, T ≠ [] → K ++ T ≠ [] := fun hT hK => hT (by simp_all)
  have sep : ∀ {T : List (List Char)}, (∀ e ∈ T, '/' ∉ e) → ∀ e ∈ K ++ T, '/' ∉ e :=
    fun hT e he => (List.mem_append.mp he).elim (hK e) (hT e)
  rw [render_of_ne_nil r (ne ne₁), render_of_ne_nil r (ne ne₂), List.append_cancel_left_eq] at h
  have := congrArg (List.splitOn '/') h
  rwa [List.splitOn_intercalate _ _ (sep h₁) (ne ne₁), List.splitOn_intercalate _ _ (sep h₂) (ne ne₂),
    List.append_cancel_left_eq] at this

/-! ## Joining a base directory, a directory and a file name -/

/-- Whether a base directory makes the joined path rooted. -/
def baseRooted (b : String) : Bool := b.data.head? == some '/'

/-- The elements a base directory contributes to a join (none when it is empty). -/
def baseElems (b : String) : List (List Char) := if b = "" then [] else b.data.splitOn '/'

theorem splitOn_baseElems {b : String} : ∀ e ∈ baseElems b, '/' ∉ e := by
  intro e he
  unfold baseElems at he
  split at he
  · simp at he
  · exact not_mem_of_mem_splitOn he

theorem join_empty_base (x f : String) (hx : x ≠ "") :
    join ["", x, f] = clean ⟨x.data ++ '/' :: f.data⟩ := by
  have : (x == "") = false := by simpa using hx
  simp [join, List.dropWhile_cons, this, List.intercalate]

theorem join_base {b : String} (x f : String) (hb : b ≠ "") :
    join [b, x, f] = clean ⟨b.data ++ '/' :: (x.data ++ '/' :: f.data)⟩ := by
  have : (b == "") = false := by simpa using hb
  simp [join, List.dropWhile_cons, this, List.intercalate]

/-- `join [b, x, f]` walks the elements of the three parts in order; the base directory decides
whether the result is rooted, as long as `x` does not start with a separator. -/
theorem join_three (b x f : String) (hx : x ≠ "") (hroot : x.data.head? ≠ some '/') :
    (join [b, x, f]).data = render (baseRooted b)
      (cleanElems (baseRooted b) (baseElems b ++ x.data.splitOn '/' ++ f.data.splitOn '/')) := by
  by_cases hb : b = ""
  · subst hb
    have hxd : x.data ≠ [] := fun h => hx (String.ext h)
    have hr : ((x.data ++ '/' :: f.data).head? == some '/') = baseRooted "" := by
      cases hxs : x.data with
      | nil => exact absurd hxs hxd
      | cons c cs => rw [hxs] at hroot; simpa [baseRooted] using hroot
    rw [join_empty_base x f hx]
    simp only [clean, hr, splitOn_append_sep, baseElems, if_true, List.nil_append]
  · have hbd : b.data ≠ [] := fun h => hb (String.ext h)
    have hr : ((b.data ++ '/' :: (x.data ++ '/' :: f.data)).head? == some '/') = baseRooted b := by
      cases hbs : b.data with
      | nil => exact absurd hbs hbd
      | cons c cs => simp [baseRooted, hbs]
    rw [join_base x f hb]
    simp only [clean, hr, splitOn_append_sep, baseElems, hb, if_false, List.append_assoc]

end Laforge.Go.Filepath
