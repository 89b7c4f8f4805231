import Laforge.Go.Basic

/-!
# Laforge.Core.Formatter

The tree introspector (`core/formatter/formatter.go`): `GetStrings` walks a `Formatable` and its
children, and `FormatChild` prefixes the lines of one node's text.

A Go call here either returns or panics.  The model writes its result in `Except String`, where
`.error msg` is a run-time panic with Go's message; a Go `error` result is an ordinary value
(`Option String`).

Two things decide what `GetStrings` produces:

1. `FormatChild` ranges over the runes of its argument, not over its lines: it writes
   `tmpData[k]` at the byte offset `k` of every rune, so it panics as soon as an offset reaches
   the number of lines (`formatChild_ok_iff`), and what it writes is the rune formatted with
   `%s` (`%!s(int32=…)`), not a prefixed line.
2. `GetStrings` drops the text of a child whose own walk returned an error, and the error with
   it (`getStrings_failed_child`).
-/

namespace Laforge.Core

open Laforge.Go

/-- A value of a type implementing `formatter.Formatable`, as `GetStrings` sees it: the text its
`ToString` returns, and the children and the error its `Iter` returns. -/
inductive Formatable where
  | mk (str : String) (kids : List Formatable) (iterErr : Option String)

/-- What `fmt.Sprintf(" ┃ %s", v)` writes for a rune `v`: the verb `%s` does not apply to an
`int32`, so fmt writes the value with its type. -/
def runeLine (v : Char) : String := " ┃ %!s(int32=" ++ toString v.toNat ++ ")"

/-- The loop `for k, v := range child { tmpData[k] = ... }`: `k` is the byte offset of the
rune `v`. -/
def formatChildLoop : List Char → Nat → List String → Except String (List String)
  | [], _, tmpData => .ok tmpData
  | v :: cs, k, tmpData =>
    if k < tmpData.length then formatChildLoop cs (k + v.utf8Size) (tmpData.set k (runeLine v))
    else .error (indexOutOfRange k tmpData.length)

/-- `Formatter.FormatChild`. -/
def formatChild (child : String) : Except String String := do
  let tmpData ← formatChildLoop child.data 0 (split child '\n')
  return "\n".intercalate tmpData

mutual
/-- `Formatter.GetStrings`.  `maxDepth` is passed down unread, `curDepth` only incremented. -/
def getStrings : Formatable → Int → Int → Except String (String × Option String)
  | .mk str kids iterErr, maxDepth, curDepth => do
    let outHead ← formatChild str
    match iterErr with
    | some err => return (outHead, some err)
    | none =>
      let (cur, _) ← getStringsKids kids maxDepth (curDepth + 1)
      return (outHead ++ cur, none)

/-- The loop of `GetStrings` over the children: the text of each child whose walk returned no
error, and the errors collected in `tmpErr`. -/
def getStringsKids : List Formatable → Int → Int → Except String (String × List String)
  | [], _, _ => return ("", [])
  | v :: vs, maxDepth, curDepth => do
    let (cur, err) ← getStrings v maxDepth curDepth
    let (rest, tmpErr) ← getStringsKids vs maxDepth curDepth
    match err with
    | some e => return (rest, e :: tmpErr)
    | none => return (cur ++ rest, tmpErr)
end

/-! ## `FormatChild` -/

/-- The byte offsets at which `range` visits the runes of `cs`, starting at `k`. -/
def runeOffsets : List Char → Nat → List Nat
  | [], _ => []
  | v :: cs, k => k :: runeOffsets cs (k + v.utf8Size)

theorem formatChildLoop_ok_iff (cs : List Char) (k : Nat) (tmpData : List String) :
    (∃ r, formatChildLoop cs k tmpData = .ok r) ↔ ∀ o ∈ runeOffsets cs k, o < tmpData.length := by
  induction cs generalizing k tmpData with
  | nil => simp [formatChildLoop, runeOffsets]
  | cons v cs ih =>
    simp only [formatChildLoop, runeOffsets, List.mem_cons, forall_eq_or_imp]
    split
    · rw [ih, List.length_set]; simp [*]
    · simp [*]

/-- `FormatChild` returns exactly when every rune's byte offset indexes a line. -/
theorem formatChild_ok_iff (s : String) :
    (∃ r, formatChild s = .ok r) ↔ ∀ o ∈ runeOffsets s.data 0, o < (s.data.splitOn '\n').length := by
  rw [← length_split, ← formatChildLoop_ok_iff]
  unfold formatChild
  cases formatChildLoop s.data 0 (split s '\n') <;> simp [bind, Except.bind, pure, Except.pure]

/-- `FormatChild` panics on the text `"ab"`: the rune `b` sits at byte 1 of a one-line text. -/
theorem formatChild_ab :
    formatChild "ab" = .error "runtime error: index out of range [1] with length 1" := rfl

/-! ## `GetStrings` -/

/-- A head with one child whose `Iter` fails: `GetStrings` returns no error, and the child's
text is gone. -/
theorem getStrings_failed_child :
    getStrings (.mk "" [.mk "x" [] (some "iter failed")] none) 0 0 = .ok ("", none) := rfl

end Laforge.Core
