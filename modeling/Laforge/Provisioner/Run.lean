import Mathlib.Data.List.Forall2
import Laforge.Go.Basic

/-!
# Laforge.Provisioner.Run

What the script provisioners do outside themselves while they run: the calls they make on the
machine they provision (through `packer.Communicator`), on the local file system and on the
clock.

1. The environment (`Env`) answers each call from the calls made before it and their answers,
   so every behaviour of the machine, the network and the file system is one `Env`.  An answer
   says how long its call took.  A run (`Op`) moves the `World` on: the time, and the log of the
   calls made, each with its answer and the time it was made at.  An `Op` never moves the clock
   back or forgets a call; it carries that as a field.
2. A Go function returns a value or an error, or panics (`Res`); `defer` keeps a call for the
   end of the running function, which makes it however the body ends (`withDefers`).  A call
   whose error ends the function (`if err != nil { return ... }`) is `checked`.
3. Three kinds of facts about runs compose along `>>=`: which calls a run makes (`Op.Only`),
   that it defers none (`Op.Keeps`), and that it returns with no error (`Op.Yields`).

How a call's output reaches the user (`UI.Say`, the debug lines on `Stdout` and `Stderr`, the
`log` package) is not modelled.
-/

namespace Laforge.Provisioner

/-! ## Calls and answers -/

/-- What a provisioner uploads: a local file, read as it is or through `shell.UnixReader` (which
turns its line endings into LF), or a text it built in memory. -/
inductive Content where
  | file (path : String)
  | unixFile (path : String)
  | text (s : String)
deriving DecidableEq

/-- A call a provisioner makes outside itself. -/
inductive Call where
  /-- `ioutil.TempFile(dir, pattern)` -/
  | tempFile (pattern : String)
  /-- `writer.WriteString(content)` on the `bufio.Writer` of the temporary file `name` -/
  | write (name content : String)
  /-- `writer.Flush()` on the `bufio.Writer` of the temporary file `name` -/
  | flush (name : String)
  /-- `os.Open(path)` -/
  | open (path : String)
  /-- `f.Seek(0, 0)` on the opened script `path` -/
  | seek (path : String)
  /-- `Close` of the opened file `path` -/
  | close (path : String)
  /-- `os.Remove(path)` -/
  | remove (path : String)
  /-- `p.Comm.Upload(dst, content, nil)` -/
  | upload (dst : String) (content : Content)
  /-- a remote command started and waited for: `p.Comm.Start(cmd)` then `cmd.Wait()`, or
  `cmd.StartWithUi(p.Comm, p.UI)` -/
  | start (command : String)
  /-- `uuid.TimeOrderedUUID()` -/
  | uuid
deriving DecidableEq

/-- The environment's answer to a call. -/
structure Answer where
  /-- the error the call returns, `none` for `nil` -/
  err : Option String
  /-- for a command that started, its `ExitStatus` -/
  exitStatus : Int
  /-- the name of a temporary file, or a UUID -/
  text : String
  /-- how long the call took, in nanoseconds -/
  took : Nat

/-- A call made, with the time it was made at and its answer. -/
structure Event where
  time : Nat
  call : Call
  answer : Answer

/-- What a call did, as the results below speak of it: the call, its error, and for a command
the exit status it ended with. -/
def Event.outcome (e : Event) : Call × Option String × Int :=
  (e.call, e.answer.err, match e.call with
    | .start _ => e.answer.exitStatus
    | _ => 0)

/-- The machine, the network, the local file system and the clock, as a provisioner sees them:
the answer to a call, given the calls made before it. -/
def Env := List Event → Call → Answer

/-- Where a run is: the time in nanoseconds, the calls made so far, and the calls the running
function has deferred, the last first. -/
structure World where
  now : Nat
  log : List Event
  deferred : List Call

/-- `w'` comes after `w`: no earlier, with the calls of `w` at the start of its log. -/
structure World.Le (w w' : World) : Prop where
  now_le : w.now ≤ w'.now
  log_prefix : w.log <+: w'.log

theorem World.Le.refl (w : World) : w.Le w := ⟨Nat.le_refl _, List.prefix_refl _⟩

theorem World.Le.trans {w₁ w₂ w₃ : World} (h₁ : w₁.Le w₂) (h₂ : w₂.Le w₃) : w₁.Le w₃ :=
  ⟨Nat.le_trans h₁.now_le h₂.now_le, h₁.log_prefix.trans h₂.log_prefix⟩

/-- The calls made between `w` and a later `w'`. -/
def World.since (w' w : World) : List Event := w'.log.drop w.log.length

/-- The world after the call `c`. -/
def World.after (env : Env) (c : Call) (w : World) : World :=
  ⟨w.now + (env w.log c).took, w.log ++ [⟨w.now, c, env w.log c⟩], w.deferred⟩

theorem World.Le.log_eq {w w' : World} (h : w.Le w') : w'.log = w.log ++ w'.since w :=
  (List.prefix_iff_eq_append.mp h.log_prefix).symm

theorem World.le_after (env : Env) (c : Call) (w : World) : w.Le (w.after env c) :=
  ⟨Nat.le_add_right _ _, List.prefix_append _ _⟩

/-- Waiting `d` nanoseconds comes after. -/
theorem World.le_wait (w : World) (d : Nat) : w.Le { w with now := w.now + d } :=
  ⟨Nat.le_add_right _ _, List.prefix_refl _⟩

theorem since_trans {w₁ w₂ w₃ : World} (h₁ : w₁.Le w₂) (h₂ : w₂.Le w₃) :
    w₃.since w₁ = w₂.since w₁ ++ w₃.since w₂ := by
  rw [World.since, h₂.log_eq, h₁.log_eq, List.append_assoc, List.drop_left]

theorem since_self (w : World) : w.since w = [] := by simp [World.since]

theorem since_after (env : Env) (c : Call) (w : World) :
    (w.after env c).since w = [⟨w.now, c, env w.log c⟩] := by
  simp [World.after, World.since]

/-! ## Runs -/

/-- How a Go call ends: with its value, with the error it returns, or in a panic. -/
inductive Res (α : Type) where
  | ok (a : α)
  | error (msg : String)
  | panic (msg : String)

/-- A run of provisioner code: what it does to the world, and how it ends. -/
structure Op (α : Type) where
  run : World → Res α × World
  le : ∀ w : World, w.Le (run w).2

namespace Op

/-- Return `a`. -/
def pure (a : α) : Op α := ⟨fun w => (.ok a, w), World.Le.refl⟩

/-- Run `m`, then `f` of its value; an error or a panic ends the run. -/
def bind (m : Op α) (f : α → Op β) : Op β where
  run w := match m.run w with
    | (.ok a, w') => (f a).run w'
    | (.error e, w') => (.error e, w')
    | (.panic e, w') => (.panic e, w')
  le w := by
    have h := m.le w
    dsimp only
    revert h
    cases m.run w with
    | mk r w' => cases r <;> intro h <;> first | exact h | exact h.trans ((f _).le _)

instance : Monad Op where
  pure := Op.pure
  bind := Op.bind

theorem run_pure (a : α) (w : World) : (Pure.pure a : Op α).run w = (.ok a, w) := rfl

theorem run_bind (m : Op α) (f : α → Op β) (w : World) :
    (m >>= f).run w = match m.run w with
      | (.ok a, w') => (f a).run w'
      | (.error e, w') => (.error e, w')
      | (.panic e, w') => (.panic e, w') := rfl

end Op

/-- Return the error `msg`. -/
def fail (msg : String) : Op α := ⟨fun w => (.error msg, w), World.Le.refl⟩

/-- Panic with `msg`. -/
def crash (msg : String) : Op α := ⟨fun w => (.panic msg, w), World.Le.refl⟩

/-- A computation that makes no call, as a run. -/
def ofRes : Res α → Op α
  | .ok a => pure a
  | .error e => fail e
  | .panic e => crash e

/-- Make the call `c` and take the environment's answer. -/
def call (env : Env) (c : Call) : Op Answer :=
  ⟨fun w => (.ok (env w.log c), w.after env c), World.le_after env c⟩

/-- Make the call `c`; on an error, end the run with `wrap` of its text, else go on with the
answer: Go's `if err != nil { return ... }` after a call. -/
def checked (env : Env) (c : Call) (wrap : String → String) (k : Answer → Op β) : Op β := do
  let a ← call env c
  match a.err with
  | some err => fail (wrap err)
  | none => k a

/-- `time.Sleep(d)`. -/
def sleep (d : Nat) : Op Unit :=
  ⟨fun w => (.ok (), { w with now := w.now + d }), fun _ => ⟨Nat.le_add_right _ _, List.prefix_refl _⟩⟩

/-- `defer` of the call `c`. -/
def defer (c : Call) : Op Unit :=
  ⟨fun w => (.ok (), { w with deferred := c :: w.deferred }), fun _ => ⟨Nat.le_refl _, List.prefix_refl _⟩⟩

/-- Turn an error of `m` into a value, as Go code does that looks at `err` and goes on. -/
def tryCatch (m : Op α) : Op (Except String α) where
  run w := match m.run w with
    | (.ok a, w') => (.ok (.ok a), w')
    | (.error e, w') => (.ok (.error e), w')
    | (.panic e, w') => (.panic e, w')
  le w := by
    have h := m.le w
    dsimp only
    revert h
    cases m.run w with
    | mk r w' => cases r <;> exact id

/-- `m`, with the error it returns wrapped by `wrap`: Go's
`if err != nil { return fmt.Errorf(..., err) }` after a function call. -/
def wrapError (wrap : String → String) (m : Op α) : Op α := do
  let r ← tryCatch m
  match r with
  | .ok a => pure a
  | .error err => fail (wrap err)

/-- Make the calls `cs` in order; their answers are dropped. -/
def callAll (env : Env) : List Call → Op Unit
  | [] => pure ()
  | c :: cs => do
    let _ ← call env c
    callAll env cs

/-- A function with `defer`s: its body, then the calls it deferred, the last first, however
the body ended. -/
def withDefers (env : Env) (body : Op α) : Op α where
  run w :=
    let (r, w') := body.run { w with deferred := [] }
    ((callAll env w'.deferred).run { w' with deferred := w.deferred }).2 |> fun w'' => (r, w'')
  le w := by
    have h₁ := body.le { w with deferred := [] }
    have h₂ := (callAll env (body.run { w with deferred := [] }).2.deferred).le
      { (body.run { w with deferred := [] }).2 with deferred := w.deferred }
    exact ⟨Nat.le_trans h₁.now_le h₂.now_le, h₁.log_prefix.trans h₂.log_prefix⟩

/-! ## Steps of a run -/

section Steps

variable {env : Env} {c : Call} {w w' w₁ : World}

theorem le_of_run {m : Op α} {r : Res α} (h : m.run w = (r, w₁)) : w.Le w₁ := by
  have := m.le w; rwa [h] at this

theorem run_call (env : Env) (c : Call) (w : World) :
    (call env c).run w = (.ok (env w.log c), w.after env c) := rfl

theorem since_bind_of_ok {m : Op α} {k : α → Op β} {a : α} (h : m.run w = (.ok a, w₁)) :
    ((m >>= k).run w).2.since w = w₁.since w ++ ((k a).run w₁).2.since w₁ := by
  rw [Op.run_bind, h]
  exact since_trans (le_of_run h) ((k a).le w₁)

theorem since_bind_call (env : Env) (c : Call) (k : Answer → Op β) (w : World) :
    ((call env c >>= k).run w).2.since w =
      ⟨w.now, c, env w.log c⟩ ::
        ((k (env w.log c)).run (w.after env c)).2.since (w.after env c) := by
  rw [since_bind_of_ok (run_call env c w), since_after]; rfl

/-- A run that ends with no error: each of its two parts did. -/
theorem bind_ok {m : Op α} {k : α → Op β} {b : β} (h : (m >>= k).run w = (.ok b, w')) :
    ∃ a w₁, m.run w = (.ok a, w₁) ∧ (k a).run w₁ = (.ok b, w') := by
  rw [Op.run_bind] at h
  rcases hm : m.run w with ⟨r, w₁⟩
  rw [hm] at h
  cases r with
  | ok a => exact ⟨a, w₁, rfl, h⟩
  | error e => cases h
  | panic e => cases h

theorem fail_ne_ok {msg : String} {a : α} : (fail msg : Op α).run w ≠ (.ok a, w') :=
  fun h => by cases h

variable {wrap : String → String} {k : Answer → Op β}

theorem run_checked_none (h : (env w.log c).err = none) :
    (checked env c wrap k).run w = (k (env w.log c)).run (w.after env c) := by
  simp only [checked, Op.run_bind, run_call, h]

theorem run_checked_some {e : String} (h : (env w.log c).err = some e) :
    (checked env c wrap k).run w = (.error (wrap e), w.after env c) := by
  simp only [checked, Op.run_bind, run_call, h]; rfl

/-- A checked call in a run that ends with no error had no error. -/
theorem checked_ok {b : β} (h : (checked env c wrap k).run w = (.ok b, w')) :
    (env w.log c).err = none ∧ (k (env w.log c)).run (w.after env c) = (.ok b, w') := by
  cases he : (env w.log c).err with
  | none => exact ⟨rfl, (run_checked_none he).symm.trans h⟩
  | some e => rw [run_checked_some he] at h; cases h

theorem wrapError_ok {m : Op α} {a : α} (h : (wrapError wrap m).run w = (.ok a, w')) :
    m.run w = (.ok a, w') := by
  obtain ⟨r, w₁, hr, h⟩ := bind_ok h
  rcases hm : m.run w with ⟨_ | e | e, w₂⟩ <;>
    simp only [tryCatch, hm, Prod.mk.injEq, Res.ok.injEq, reduceCtorEq, false_and] at hr
  · obtain ⟨rfl, rfl⟩ := hr
    exact h
  · obtain ⟨rfl, rfl⟩ := hr
    exact absurd h fail_ne_ok

theorem run_wrapError_ok {m : Op α} {a : α} (h : m.run w = (.ok a, w₁)) :
    (wrapError wrap m).run w = (.ok a, w₁) := by
  simp only [wrapError, Op.run_bind, tryCatch, h]
  rfl

theorem run_wrapError_error {m : Op α} {e : String} (h : m.run w = (.error e, w₁)) :
    (wrapError wrap m).run w = (.error (wrap e), w₁) := by
  simp only [wrapError, Op.run_bind, tryCatch, h]
  rfl

end Steps

/-! ## Functions with `defer` -/

section Defers

variable {env : Env} {body : Op α} {w w' w₁ : World}

/-- A function ends as its body does, and the calls of the body come first among its calls. -/
theorem withDefers_body (env : Env) (body : Op α) (w : World) :
    ((withDefers env body).run w).1 = (body.run { w with deferred := [] }).1 ∧
      (body.run { w with deferred := [] }).2.since w <+:
        ((withDefers env body).run w).2.since w := by
  have h₁ := body.le { w with deferred := [] }
  rcases hb : body.run { w with deferred := [] } with ⟨r, w₁⟩
  rw [hb] at h₁
  have h₂ := (callAll env w₁.deferred).le { w₁ with deferred := w.deferred }
  simp only [withDefers, hb, true_and]
  rw [since_trans (show w.Le w₁ from ⟨h₁.now_le, h₁.log_prefix⟩)
    (show w₁.Le _ from ⟨h₂.now_le, h₂.log_prefix⟩)]
  exact List.prefix_append _ _

theorem withDefers_run {r : Res α} (h : body.run { w with deferred := [] } = (r, w₁)) :
    (withDefers env body).run w =
      (r, ((callAll env w₁.deferred).run { w₁ with deferred := w.deferred }).2) := by
  simp only [withDefers, h]

theorem withDefers_ok {a : α} (h : (withDefers env body).run w = (.ok a, w')) :
    ∃ w₁, body.run { w with deferred := [] } = (.ok a, w₁) ∧ w₁.since w <+: w'.since w := by
  obtain ⟨hr, hp⟩ := withDefers_body env body w
  rw [h] at hr hp
  exact ⟨(body.run { w with deferred := [] }).2, Prod.ext hr.symm rfl, hp⟩

end Defers

/-! ## Calls found in a run

`Event.outcome` of the calls made between two worlds; a call found in a part of a run is found in
the run. -/

section Outcomes

variable {w w₀ w₁ w₂ w' : World}

theorem sublist_since (h₀ : w.Le w₀) (h₁ : w₀.Le w') :
    List.Sublist ((w'.since w₀).map Event.outcome) ((w'.since w).map Event.outcome) := by
  rw [since_trans h₀ h₁, List.map_append]
  exact List.sublist_append_right _ _

theorem sublist_since_of_le (h₀ : w.Le w₁) (h₁ : w₁.Le w') :
    List.Sublist ((w₁.since w).map Event.outcome) ((w'.since w).map Event.outcome) := by
  rw [since_trans h₀ h₁, List.map_append]
  exact List.sublist_append_left _ _

/-- Calls found in two parts of a run, in order, are found in the run. -/
theorem sublist_since_append {a b : List (Call × Option String × Int)}
    (h₁ : w.Le w₁) (h₂ : w₁.Le w₂) (ha : List.Sublist a ((w₁.since w).map Event.outcome))
    (hb : List.Sublist b ((w₂.since w₁).map Event.outcome)) :
    List.Sublist (a ++ b) ((w₂.since w).map Event.outcome) := by
  rw [since_trans h₁ h₂, List.map_append]
  exact ha.append hb

/-- The outcomes of a checked call that succeeded, and of the rest of the run after it. -/
theorem outcomes_checked {env : Env} {c : Call} {wrap : String → String} {k : Answer → Op β}
    {b : β} (h : (checked env c wrap k).run w = (.ok b, w')) :
    (w'.since w).map Event.outcome = (c, none, (Event.outcome ⟨w.now, c, env w.log c⟩).2.2) ::
      (w'.since (w.after env c)).map Event.outcome := by
  obtain ⟨he, hk⟩ := checked_ok h
  rw [since_trans (World.le_after env c w) (le_of_run hk), since_after]
  simp only [List.singleton_append, List.map_cons, Event.outcome, he]

end Outcomes

/-! ## The calls a run makes -/

/-- Every call `m` makes satisfies `P`. -/
def Op.Only (P : Call → Prop) (m : Op α) : Prop := ∀ w, ∀ e ∈ (m.run w).2.since w, P e.call

section Only

variable {P : Call → Prop}

theorem only_pure (a : α) : (Pure.pure a : Op α).Only P := fun w e he => by
  simp [Op.run_pure, since_self] at he

theorem only_fail (msg : String) : (fail msg : Op α).Only P := fun w e he => by
  simp [fail, since_self] at he

theorem only_crash (msg : String) : (crash msg : Op α).Only P := fun w e he => by
  simp [crash, since_self] at he

theorem only_defer (c : Call) : (defer c).Only P := fun w e he => by
  simp [defer, World.since] at he

theorem only_sleep (d : Nat) : (sleep d).Only P := fun w e he => by
  simp [sleep, World.since] at he

theorem only_call {env : Env} {c : Call} (hc : P c) : (call env c).Only P := fun w e he => by
  rw [run_call, since_after, List.mem_singleton] at he
  rw [he]; exact hc

theorem only_bind {m : Op α} {f : α → Op β} (hm : m.Only P) (hf : ∀ a, (f a).Only P) :
    (m >>= f).Only P := fun w e he => by
  rw [Op.run_bind] at he
  rcases hmw : m.run w with ⟨r, w₁⟩
  have hm' := hm w
  rw [hmw] at hm'
  simp only [hmw] at he
  cases r with
  | ok a =>
    rw [since_trans (le_of_run hmw) ((f a).le w₁)] at he
    rcases List.mem_append.mp he with he | he
    · exact hm' e he
    · exact hf a w₁ e he
  | error msg => exact hm' e he
  | panic msg => exact hm' e he

theorem only_ofRes (r : Res α) : (ofRes r).Only P := by
  cases r
  · exact only_pure _
  · exact only_fail _
  · exact only_crash _

theorem only_checked {env : Env} {c : Call} {wrap : String → String} {k : Answer → Op β}
    (hc : P c) (hk : ∀ a, (k a).Only P) : (checked env c wrap k).Only P :=
  only_bind (only_call hc) fun a => by
    split
    · exact only_fail _
    · exact hk a

end Only

/-- The path an `os.Remove` call removes. -/
def Call.removedPath : Call → Option String
  | .remove p => some p
  | _ => none

/-- The paths of the calls to `os.Remove`, in order. -/
def removed (es : List Event) : List String := es.filterMap fun e => e.call.removedPath

/-- A call that removes no file. -/
def NotRemove (c : Call) : Prop := ∀ p, c ≠ .remove p

theorem removed_append (a b : List Event) : removed (a ++ b) = removed a ++ removed b :=
  List.filterMap_append _ _ _

theorem removedPath_eq_none {c : Call} (h : NotRemove c) : c.removedPath = none := by
  cases c <;> simp_all [NotRemove, Call.removedPath]

theorem removed_eq_nil {es : List Event} (h : ∀ e ∈ es, NotRemove e.call) : removed es = [] :=
  List.filterMap_eq_nil_iff.mpr fun e he => removedPath_eq_none (h e he)

/-- The deferred calls a function makes at its end remove what they name. -/
theorem removed_callAll (env : Env) (cs : List Call) (w : World) :
    removed (((callAll env cs).run w).2.since w) = cs.filterMap Call.removedPath := by
  induction cs generalizing w with
  | nil => simp [callAll, Op.run_pure, since_self, removed]
  | cons c cs ih =>
    rw [callAll, since_bind_call, List.filterMap_cons, ← ih]
    rfl

/-! ## Runs that defer nothing -/

/-- `m` defers no call. -/
def Op.Keeps (m : Op α) : Prop := ∀ w, (m.run w).2.deferred = w.deferred

theorem keeps_pure (a : α) : (Pure.pure a : Op α).Keeps := fun _ => rfl

theorem keeps_fail (msg : String) : (fail msg : Op α).Keeps := fun _ => rfl

theorem keeps_call (env : Env) (c : Call) : (call env c).Keeps := fun _ => rfl

theorem keeps_sleep (d : Nat) : (sleep d).Keeps := fun _ => rfl

theorem keeps_crash (msg : String) : (crash msg : Op α).Keeps := fun _ => rfl

theorem keeps_ofRes (r : Res α) : (ofRes r).Keeps := by
  cases r
  · exact keeps_pure _
  · exact keeps_fail _
  · exact keeps_crash _

theorem keeps_bind {m : Op α} {f : α → Op β} (hm : m.Keeps) (hf : ∀ a, (f a).Keeps) :
    (m >>= f).Keeps := fun w => by
  rw [Op.run_bind]
  rcases hmw : m.run w with ⟨r, w₁⟩
  have h := hm w
  rw [hmw] at h
  cases r with
  | ok a => exact (hf a w₁).trans h
  | error msg => exact h
  | panic msg => exact h

theorem keeps_checked {env : Env} {c : Call} {wrap : String → String} {k : Answer → Op β}
    (hk : ∀ a, (k a).Keeps) : (checked env c wrap k).Keeps :=
  keeps_bind (keeps_call _ _) fun a => by
    split
    · exact keeps_fail _
    · exact hk a

/-! ## The removals a run defers

A function removes a file at its end when it deferred `os.Remove`: what matters of the deferred
calls is the list of paths they remove (`Call.removedPath`). -/

/-- `m` defers no removal. -/
def Op.DefersNoRemove (m : Op α) : Prop :=
  ∀ w, (m.run w).2.deferred.filterMap Call.removedPath = w.deferred.filterMap Call.removedPath

/-- From `w`, the removals `m` defers are that of `path` alone. -/
def Op.DefersRemoval (path : String) (m : Op α) (w : World) : Prop :=
  (m.run w).2.deferred.filterMap Call.removedPath = path :: w.deferred.filterMap Call.removedPath

section Removals

variable {env : Env} {c : Call} {wrap : String → String} {path : String} {w : World}

theorem Op.Keeps.defersNoRemove {m : Op α} (h : m.Keeps) : m.DefersNoRemove := fun w => by
  rw [h w]

theorem defersNoRemove_defer (h : NotRemove c) : (defer c).DefersNoRemove := fun _ => by
  simp only [defer, List.filterMap_cons, removedPath_eq_none h]

theorem defersNoRemove_bind {m : Op α} {f : α → Op β} (hm : m.DefersNoRemove)
    (hf : ∀ a, (f a).DefersNoRemove) : (m >>= f).DefersNoRemove := fun w => by
  rw [Op.run_bind]
  rcases hmw : m.run w with ⟨r, w₁⟩
  have h := hm w
  rw [hmw] at h
  cases r with
  | ok a => exact (hf a w₁).trans h
  | error msg => exact h
  | panic msg => exact h

theorem defersNoRemove_checked {k : Answer → Op β} (hk : ∀ a, (k a).DefersNoRemove) :
    (checked env c wrap k).DefersNoRemove :=
  defersNoRemove_bind (keeps_call _ _).defersNoRemove fun a => by
    split
    · exact (keeps_fail _).defersNoRemove
    · exact hk a

theorem defersRemoval_defer {f : Unit → Op β} (hf : ∀ a, (f a).DefersNoRemove) :
    (defer (.remove path) >>= f).DefersRemoval path w := by
  rw [Op.DefersRemoval, Op.run_bind]
  exact hf () _

theorem defersRemoval_bind {m : Op α} {f : α → Op β} (hm : m.DefersRemoval path w)
    (hf : ∀ a, (f a).DefersNoRemove) : (m >>= f).DefersRemoval path w := by
  rw [Op.DefersRemoval, Op.run_bind]
  rcases hmw : m.run w with ⟨r, w₁⟩
  rw [Op.DefersRemoval, hmw] at hm
  cases r with
  | ok a => exact (hf a w₁).trans hm
  | error msg => exact hm
  | panic msg => exact hm

theorem defersRemoval_checked {k : Answer → Op β} (he : (env w.log c).err = none)
    (hk : (k (env w.log c)).DefersRemoval path (w.after env c)) :
    (checked env c wrap k).DefersRemoval path w := by
  rw [Op.DefersRemoval, run_checked_none he]
  exact hk

/-- **A function removes at its end the files it deferred the removal of**: when the body's
calls remove nothing and it defers the removal of `path` alone, the one file the function
removes is `path`. -/
theorem removed_withDefers {body : Op α} (honly : body.Only NotRemove)
    (hb : body.DefersRemoval path { w with deferred := [] }) :
    removed (((withDefers env body).run w).2.since w) = [path] := by
  rcases hbw : body.run { w with deferred := [] } with ⟨r, w₁⟩
  have hle := le_of_run hbw
  have hcalls : ∀ e ∈ w₁.since w, NotRemove e.call := by
    have := honly { w with deferred := [] }
    rwa [hbw] at this
  rw [Op.DefersRemoval, hbw] at hb
  have hc := removed_callAll env w₁.deferred { w₁ with deferred := w.deferred }
  have hle₂ := (callAll env w₁.deferred).le { w₁ with deferred := w.deferred }
  rw [withDefers_run hbw, since_trans (show w.Le w₁ from ⟨hle.now_le, hle.log_prefix⟩)
    (show w₁.Le _ from ⟨hle₂.now_le, hle₂.log_prefix⟩), removed_append, removed_eq_nil hcalls,
    List.nil_append]
  exact hc.trans (by simpa using hb)

end Removals

/-! ## Runs that end with no error

`m.Yields P`: from every world, `m` returns, with no error, a value satisfying `P`.  Against a
machine that answers every call without error and runs every command to exit status 0
(`Cooperative`), the provisioners' runs yield, which gives concrete runs to the results about
them. -/

/-- `m` returns from every world with no error, and its value satisfies `P`. -/
def Op.Yields (P : α → Prop) (m : Op α) : Prop := ∀ w, ∃ a, P a ∧ (m.run w).1 = .ok a

/-- A machine that answers every call with no error, and runs every command to exit status 0. -/
def Cooperative (env : Env) : Prop := ∀ l c, (env l c).err = none ∧ (env l c).exitStatus = 0

section Yields

variable {P : α → Prop} {Q : β → Prop}

theorem Op.Yields.ok {m : Op α} (h : m.Yields P) (w : World) :
    ∃ a w', P a ∧ m.run w = (.ok a, w') := by
  obtain ⟨a, ha, hr⟩ := h w
  exact ⟨a, (m.run w).2, ha, Prod.ext hr rfl⟩

theorem Op.Yields.mono {m : Op α} {R : α → Prop} (h : m.Yields P) (hPR : ∀ a, P a → R a) :
    m.Yields R :=
  fun w => (h w).imp fun a ha => ⟨hPR a ha.1, ha.2⟩

theorem yields_pure {a : α} (h : P a) : (Pure.pure a : Op α).Yields P := fun _ => ⟨a, h, rfl⟩

theorem yields_bind {m : Op α} {f : α → Op β} (hm : m.Yields P) (hf : ∀ a, P a → (f a).Yields Q) :
    (m >>= f).Yields Q := fun w => by
  obtain ⟨a, w₁, ha, hr⟩ := hm.ok w
  rw [Op.run_bind, hr]
  exact hf a ha w₁

theorem yields_call {env : Env} {c : Call} {R : Answer → Prop} (h : ∀ l, R (env l c)) :
    (call env c).Yields R :=
  fun w => ⟨_, h w.log, rfl⟩

theorem yields_defer (c : Call) : (defer c).Yields fun _ => True := fun _ => ⟨(), trivial, rfl⟩

theorem yields_sleep (d : Nat) : (sleep d).Yields fun _ => True := fun _ => ⟨(), trivial, rfl⟩

theorem yields_tryCatch {m : Op α} (hm : m.Yields P) :
    (tryCatch m).Yields fun r => ∃ a, P a ∧ r = .ok a := fun w => by
  obtain ⟨a, w₁, ha, hr⟩ := hm.ok w
  exact ⟨.ok a, ⟨a, ha, rfl⟩, by simp only [tryCatch, hr]⟩

theorem yields_wrapError {m : Op α} {wrap : String → String} (hm : m.Yields P) :
    (wrapError wrap m).Yields P :=
  yields_bind (yields_tryCatch hm) fun _ ⟨_, ha, hr⟩ => by
    subst hr
    exact yields_pure ha

theorem yields_withDefers {env : Env} {body : Op α} (hb : body.Yields P) :
    (withDefers env body).Yields P := fun w => by
  obtain ⟨a, ha, hr⟩ := hb { w with deferred := [] }
  exact ⟨a, ha, (withDefers_body env body w).1.trans hr⟩

theorem yields_call_ok {env : Env} (henv : Cooperative env) (c : Call) :
    (call env c).Yields fun a => a.err = none ∧ a.exitStatus = 0 :=
  yields_call fun l => henv l c

/-- Against a cooperative machine, a checked call goes on with an answer with no error and exit
status 0. -/
theorem yields_checked {env : Env} (henv : Cooperative env) {c : Call} {wrap : String → String}
    {k : Answer → Op β} (hk : ∀ a : Answer, a.err = none → a.exitStatus = 0 → (k a).Yields Q) :
    (checked env c wrap k).Yields Q :=
  yields_bind (yields_call_ok henv c) fun a ha => by
    simp only [ha.1]
    exact hk a ha.1 ha.2

end Yields

end Laforge.Provisioner
