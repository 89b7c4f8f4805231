import Laforge.Go.Basic

/-!
# Laforge.Provisioner.WindowsRestart

The channel protocol of the Windows restart provisioner (`provisioner/windows_restart.go`):
one `Provision` run, the goroutine `waitForRestart` starts, the timer of
`time.After(p.Config.RestartTimeout)`, and at most one call of `Cancel`.

The run is a state machine (`State`, `step`); a schedule is a list of the parties' atomic
actions, and `run` plays it, refusing an action that is not enabled (a `select` with no ready
case blocks, and Go picks any ready case, so every enabled action may come next).  Three channel
operations can panic:

1. `close(p.cancel)` by `WaitLoop` on success or on timeout, and by `Cancel`;
2. `close(waitDone)` by `WaitLoop` on an interrupt;
3. the goroutine's `waitDone <- true`.

Results (the first two from an invariant that every `Step` keeps, carried over a whole
schedule by `run_inv`):

* `run_no_cancel_no_panic`: without `Cancel`, no schedule panics.  The invariant `NoCancelInv`
  says why: `p.cancel` stays open while `Provision` runs, so `WaitLoop` closes it once, and
  `waitDone` is never closed, so the goroutine's one send finds room in its buffer.
* `run_returned_ok_confirmed`: `Provision` returns `nil` only once the goroutine's checks
  confirmed the restart; the invariant `ConfirmInv` follows the goroutine's error from the
  check that set it, through `waitDone`, to `WaitLoop`.
* `restart_schedules_panic`: with one `Cancel`, two schedules panic.  A `Cancel` after a
  successful run closes `p.cancel` a second time; a `Cancel` during the wait makes `WaitLoop`
  close `waitDone`, and the goroutine, woken by the same `p.cancel`, then sends on it.

The commands the provisioner runs on the machine are not modelled; only their outcome is: the
restart command fails (`restartFails`) or not, the user's restart check succeeds or not, and
the module-load check prints some text.  The restart phase itself, with its reboot check, is a
run in `Laforge.Provisioner.RebootCheck`.
-/

namespace Laforge.Provisioner.WindowsRestart

open Laforge.Go

/-! ## Configuration -/

/-- The fields of `restart.Config` the provisioner reads; `RestartTimeout` in nanoseconds. -/
structure Config where
  restartCommand : String
  restartCheckCommand : String
  restartTimeout : Int
deriving DecidableEq

/-- `Prepare`, given `restart.DefaultRestartCommand` and `restart.DefaultRestartCheckCommand`;
it returns no error. -/
def prepare (defaultRestartCommand defaultRestartCheckCommand : String) (c : Config) : Config :=
  { restartCommand := if c.restartCommand = "" then defaultRestartCommand else c.restartCommand
    restartCheckCommand := if c.restartCheckCommand = "" then defaultRestartCheckCommand
      else c.restartCheckCommand
    -- `5 * time.Minute`
    restartTimeout := if c.restartTimeout = 0 then 5 * 60 * 1000000000 else c.restartTimeout }

/-- The start value of `runCustomRestartCheck` in `waitForCommunicator`. -/
def runCustomRestartCheck (defaultRestartCheckCommand : String) (c : Config) : Bool :=
  c.restartCheckCommand != defaultRestartCheckCommand

/-! ## The state machine -/

/-- Where `Provision` is. -/
inductive MainPc where
  /-- not started -/
  | init
  /-- `p.cancel` made; running the restart command and the reboot check -/
  | restarting
  /-- in the `select` of `WaitLoop` -/
  | waiting
  /-- returned, with its error (`none` for `nil`) -/
  | returned (err : Option String)
deriving DecidableEq

/-- Where the goroutine of `waitForRestart` is. -/
inductive GPc where
  /-- not started -/
  | idle
  /-- at the `select` of `waitForCommunicator`'s loop; `custom` is `runCustomRestartCheck` -/
  | polling (custom : Bool)
  /-- past the `select`, at the checks -/
  | checking (custom : Bool)
  /-- `waitForCommunicator` has returned; the goroutine is at `waitDone <- true` -/
  | sending
  /-- the goroutine has ended -/
  | finished
deriving DecidableEq

/-- A channel: not made, open, or closed. -/
inductive Chan where
  | nil | open | closed
deriving DecidableEq

/-- The two channels the run closes. -/
inductive ChanName where
  | cancel | waitDone
deriving DecidableEq

/-- A run-time panic of a channel operation. -/
inductive Panic where
  | closeOfNil (ch : ChanName)
  | closeOfClosed (ch : ChanName)
  | sendOnClosed (ch : ChanName)
deriving DecidableEq

/-- The state of a run. -/
structure State where
  main : MainPc
  g : GPc
  /-- `p.cancel` -/
  cancel : Chan
  /-- `waitDone`, made with a buffer of one -/
  waitDone : Chan
  /-- the goroutine's value waits in `waitDone`'s buffer -/
  waitBuf : Bool
  /-- the error `waitForCommunicator` returned, which the goroutine stores in `err` -/
  err : Option String
  /-- the timer has fired and its value waits in the timeout channel -/
  timerFired : Bool
  /-- `Cancel` has been called -/
  cancelCalled : Bool
  /-- the run has panicked -/
  panicked : Option Panic
  /-- the start value of `runCustomRestartCheck` -/
  customCheck : Bool
deriving DecidableEq

/-- The state before `Provision`. -/
def init (customCheck : Bool) : State :=
  ⟨.init, .idle, .nil, .nil, false, none, false, false, none, customCheck⟩

/-- An atomic action of one of the parties. -/
inductive Action where
  /-- `Provision` makes `p.cancel` -/
  | provision
  /-- the restart command does not start before the timeout, or exits non-zero: `Provision`
  returns that error -/
  | restartFails (err : String)
  /-- `waitForRestart` makes `waitDone` and the timer, runs the reboot check, and starts the
  goroutine -/
  | startWait
  /-- `WaitLoop`'s `select` takes `<-waitDone` -/
  | recvWaitDone
  /-- `WaitLoop`'s `select` takes `<-timeout` -/
  | recvTimeout
  /-- `WaitLoop`'s `select` takes `<-p.cancel` -/
  | recvCancel
  /-- the timer fires -/
  | timerFires
  /-- `waitForCommunicator`'s `select` takes `<-p.cancel` -/
  | commCancelled
  /-- `waitForCommunicator`'s `select` takes `<-time.After(retryableSleep)` -/
  | commTick
  /-- the user's restart check runs, and succeeds or not -/
  | commCustomCheck (ok : Bool)
  /-- the module-load check runs and prints `out` -/
  | commModuleCheck (out : String)
  /-- the goroutine's `waitDone <- true` -/
  | send
  /-- `Cancel()` -/
  | cancelCall
deriving DecidableEq

/-- `close(ch)`: the channel after it, and the panic it raises. -/
def closeChan (name : ChanName) : Chan → Chan × Option Panic
  | .nil => (.nil, some (.closeOfNil name))
  | .open => (.closed, none)
  | .closed => (.closed, some (.closeOfClosed name))

/-- `close(p.cancel)`. -/
def State.closeCancel (s : State) : State :=
  { s with cancel := (closeChan .cancel s.cancel).1, panicked := (closeChan .cancel s.cancel).2 }

/-- `close(waitDone)`. -/
def State.closeWaitDone (s : State) : State :=
  { s with waitDone := (closeChan .waitDone s.waitDone).1, panicked := (closeChan .waitDone s.waitDone).2 }

/-- One action, when it is enabled. -/
def stepLive (s : State) : Action → Option State
  | .provision =>
    if s.main = .init then some { s with main := .restarting, cancel := .open } else none
  | .restartFails err =>
    if s.main = .restarting then some { s with main := .returned (some err) } else none
  | .startWait =>
    if s.main = .restarting then
      some { s with main := .waiting, waitDone := .open, g := .polling s.customCheck }
    else none
  | .recvWaitDone =>
    if s.main = .waiting ∧ s.waitBuf then
      match s.err with
      | some e => some { s with waitBuf := false, main := .returned (some e) }
      | none => some (State.closeCancel { s with waitBuf := false, main := .returned none })
    else none
  | .recvTimeout =>
    if s.main = .waiting ∧ s.timerFired then
      some (State.closeCancel
        { s with timerFired := false, main := .returned (some "Timeout waiting for machine to restart") })
    else none
  | .recvCancel =>
    if s.main = .waiting ∧ s.cancel = .closed then
      some (State.closeWaitDone
        { s with main := .returned (some "Interrupt detected, quitting waiting for machine to restart") })
    else none
  | .timerFires =>
    if s.main = .waiting ∧ s.timerFired = false then some { s with timerFired := true } else none
  | .commCancelled =>
    match s.g with
    | .polling _ =>
      if s.cancel = .closed then some { s with g := .sending, err := some "Communicator wait canceled" }
      else none
    | _ => none
  | .commTick =>
    match s.g with
    | .polling c => some { s with g := .checking c }
    | _ => none
  | .commCustomCheck ok =>
    if s.g = .checking true then some { s with g := if ok then .checking false else .polling true }
    else none
  | .commModuleCheck out =>
    if s.g = .checking false then
      some (if contains out "restarted." then { s with g := .sending, err := none }
        else { s with g := .polling false })
    else none
  | .send =>
    if s.g = .sending then
      match s.waitDone with
      | .closed => some { s with panicked := some (.sendOnClosed .waitDone) }
      | .open => if s.waitBuf then none else some { s with g := .finished, waitBuf := true }
      | .nil => none
    else none
  | .cancelCall =>
    if s.cancelCalled then none else
    match s.cancel with
    | .nil => some { s with cancelCalled := true }
    | _ => some (State.closeCancel { s with cancelCalled := true })

/-- One action, when it is enabled.  After a panic nothing runs: the program has crashed. -/
def step (s : State) (a : Action) : Option State :=
  if s.panicked.isSome then none else stepLive s a

/-- Play a schedule; `none` when one of its actions is not enabled. -/
def run (s : State) : List Action → Option State
  | [] => some s
  | a :: as => (step s a).bind fun s' => run s' as

theorem run_cons (s : State) (a : Action) (as : List Action) :
    run s (a :: as) = (step s a).bind fun s' => run s' as := rfl

/-! ## What a step can do -/

/-- The enabled actions and their effects, case by case. -/
inductive Step : State → Action → State → Prop
  | provision {s : State} (h : s.main = .init) :
      Step s .provision { s with main := .restarting, cancel := .open }
  | restartFails {s : State} (err : String) (h : s.main = .restarting) :
      Step s (.restartFails err) { s with main := .returned (some err) }
  | startWait {s : State} (h : s.main = .restarting) :
      Step s .startWait { s with main := .waiting, waitDone := .open, g := .polling s.customCheck }
  | recvWaitDoneErr {s : State} (e : String) (h : s.main = .waiting) (hb : s.waitBuf = true)
      (he : s.err = some e) :
      Step s .recvWaitDone { s with waitBuf := false, main := .returned (some e) }
  | recvWaitDoneOk {s : State} (h : s.main = .waiting) (hb : s.waitBuf = true) (he : s.err = none) :
      Step s .recvWaitDone (State.closeCancel { s with waitBuf := false, main := .returned none })
  | recvTimeout {s : State} (h : s.main = .waiting) (ht : s.timerFired = true) :
      Step s .recvTimeout (State.closeCancel
        { s with timerFired := false, main := .returned (some "Timeout waiting for machine to restart") })
  | recvCancel {s : State} (h : s.main = .waiting) (hc : s.cancel = .closed) :
      Step s .recvCancel (State.closeWaitDone
        { s with main := .returned (some "Interrupt detected, quitting waiting for machine to restart") })
  | timerFires {s : State} (h : s.main = .waiting) (ht : s.timerFired = false) :
      Step s .timerFires { s with timerFired := true }
  | commCancelled {s : State} (c : Bool) (hg : s.g = .polling c) (hc : s.cancel = .closed) :
      Step s .commCancelled { s with g := .sending, err := some "Communicator wait canceled" }
  | commTick {s : State} (c : Bool) (hg : s.g = .polling c) :
      Step s .commTick { s with g := .checking c }
  | commCustomCheck {s : State} (ok : Bool) (hg : s.g = .checking true) :
      Step s (.commCustomCheck ok) { s with g := if ok then .checking false else .polling true }
  | commModuleDone {s : State} (out : String) (hg : s.g = .checking false)
      (ho : contains out "restarted." = true) :
      Step s (.commModuleCheck out) { s with g := .sending, err := none }
  | commModuleRetry {s : State} (out : String) (hg : s.g = .checking false)
      (ho : contains out "restarted." = false) :
      Step s (.commModuleCheck out) { s with g := .polling false }
  | sendOnClosed {s : State} (hg : s.g = .sending) (hw : s.waitDone = .closed) :
      Step s .send { s with panicked := some (.sendOnClosed .waitDone) }
  | send {s : State} (hg : s.g = .sending) (hw : s.waitDone = .open) (hb : s.waitBuf = false) :
      Step s .send { s with g := .finished, waitBuf := true }
  | cancelNil {s : State} (hc : s.cancelCalled = false) (hn : s.cancel = .nil) :
      Step s .cancelCall { s with cancelCalled := true }
  | cancelClose {s : State} (hc : s.cancelCalled = false) (hn : s.cancel ≠ .nil) :
      Step s .cancelCall (State.closeCancel { s with cancelCalled := true })

/-- Every step `step` takes is one of the cases of `Step`, taken before any panic. -/
theorem step_sound {s s' : State} {a : Action} (h : step s a = some s') :
    s.panicked = none ∧ Step s a s' := by
  unfold step at h
  by_cases hp : s.panicked.isSome
  · rw [if_pos hp] at h; cases h
  rw [if_neg hp] at h
  refine ⟨Option.not_isSome_iff_eq_none.mp hp, ?_⟩
  cases a with
  | provision =>
    rw [stepLive] at h
    split at h <;> cases h; exact .provision ‹_›
  | restartFails err =>
    rw [stepLive] at h
    split at h <;> cases h; exact .restartFails err ‹_›
  | startWait =>
    rw [stepLive] at h
    split at h <;> cases h; exact .startWait ‹_›
  | recvWaitDone =>
    rw [stepLive] at h
    split at h
    · rename_i hm
      split at h <;> cases h
      · exact .recvWaitDoneErr _ hm.1 hm.2 ‹_›
      · exact .recvWaitDoneOk hm.1 hm.2 ‹_›
    · cases h
  | recvTimeout =>
    rw [stepLive] at h
    split at h
    · cases h; exact .recvTimeout ‹_ ∧ _›.1 ‹_ ∧ _›.2
    · cases h
  | recvCancel =>
    rw [stepLive] at h
    split at h
    · cases h; exact .recvCancel ‹_ ∧ _›.1 ‹_ ∧ _›.2
    · cases h
  | timerFires =>
    rw [stepLive] at h
    split at h
    · cases h; exact .timerFires ‹_ ∧ _›.1 ‹_ ∧ _›.2
    · cases h
  | commCancelled =>
    rw [stepLive] at h
    split at h
    · split at h <;> cases h; exact .commCancelled _ ‹_› ‹_›
    · cases h
  | commTick =>
    rw [stepLive] at h
    split at h <;> cases h; exact .commTick _ ‹_›
  | commCustomCheck ok =>
    rw [stepLive] at h
    split at h <;> cases h; exact .commCustomCheck ok ‹_›
  | commModuleCheck out =>
    rw [stepLive] at h
    split at h
    · cases h
      by_cases ho : contains out "restarted." = true
      · rw [if_pos ho]; exact .commModuleDone out ‹_› ho
      · rw [if_neg ho]; exact .commModuleRetry out ‹_› (Bool.eq_false_iff.mpr ho)
    · cases h
  | send =>
    rw [stepLive] at h
    split at h
    · split at h
      · cases h; exact .sendOnClosed ‹_› ‹_›
      · split at h
        · cases h
        · cases h; exact .send ‹_› ‹_› (Bool.eq_false_iff.mpr ‹_›)
      · cases h
    · cases h
  | cancelCall =>
    rw [stepLive] at h
    split at h
    · cases h
    · rename_i hc
      split at h <;> cases h
      · exact .cancelNil (by simpa using hc) ‹_›
      · exact .cancelClose (by simpa using hc) (by assumption)

/-- A property of a state and of the actions played to reach it that every step keeps holds
after every schedule. -/
theorem run_inv {Inv : State → List Action → Prop}
    (hstep : ∀ s a s' done, Inv s done → Step s a s' → Inv s' (done ++ [a])) :
    ∀ (sched : List Action) (s₀ s : State) (done : List Action), Inv s₀ done →
      run s₀ sched = some s → Inv s (done ++ sched) := by
  intro sched
  induction sched with
  | nil => intro s₀ s done hi h; cases h; rwa [List.append_nil]
  | cons a as ih =>
    intro s₀ s done hi h
    rw [run_cons] at h
    obtain ⟨s₁, h₁, h₂⟩ := Option.bind_eq_some.mp h
    rw [← List.singleton_append, ← List.append_assoc]
    exact ih s₁ s _ (hstep s₀ a s₁ done hi (step_sound h₁).2) h₂

/-! ## Without `Cancel`, no schedule panics -/

/-- What holds in every state a schedule without `Cancel` reaches. -/
structure NoCancelInv (s : State) : Prop where
  no_panic : s.panicked = none
  /-- only an interrupt closes `waitDone` -/
  waitDone_not_closed : s.waitDone ≠ .closed
  /-- `p.cancel` is open while `Provision` runs, so `WaitLoop`'s `close` finds it open -/
  cancel_open : s.main = .restarting ∨ s.main = .waiting → s.cancel = .open
  /-- the goroutine starts with `waitDone` made -/
  waitDone_open : s.g ≠ .idle → s.waitDone = .open
  /-- the goroutine has not started before the wait -/
  g_idle : s.main = .init ∨ s.main = .restarting → s.g = .idle
  /-- the only value in `waitDone` is the goroutine's, so its send finds the buffer empty -/
  buf_sent : s.waitBuf = true → s.g = .finished

theorem noCancelInv_init (customCheck : Bool) : NoCancelInv (init customCheck) :=
  ⟨rfl, by simp [init], by simp [init], by simp [init], fun _ => rfl, by simp [init]⟩

/-- The goroutine's own steps keep the invariant: they leave `Provision`, the channels and the
buffer alone, and move the goroutine between started states. -/
theorem noCancelInv_goroutine {s : State} (hi : NoCancelInv s) (g : GPc) (e : Option String)
    (hg : s.g ≠ .idle) (hf : s.g ≠ .finished) :
    NoCancelInv { s with g := g, err := e } :=
  ⟨hi.no_panic, hi.waitDone_not_closed, hi.cancel_open, fun _ => hi.waitDone_open hg,
    fun hm => absurd (hi.g_idle hm) hg, fun hb => absurd (hi.buf_sent hb) hf⟩

theorem noCancelInv_step {s s' : State} {a : Action} (hi : NoCancelInv s) (ha : a ≠ .cancelCall)
    (h : Step s a s') : NoCancelInv s' := by
  obtain ⟨hp, hw, hc, hwo, hg, hb⟩ := hi
  cases h with
  | provision h =>
    have hgi := hg (.inl h)
    exact ⟨hp, hw, fun _ => rfl, fun h' => absurd hgi h', fun _ => hgi,
      fun h' => absurd (hb h') (by rw [hgi]; decide)⟩
  | restartFails err h => exact ⟨hp, hw, by simp, hwo, by simp, hb⟩
  | startWait h =>
    have hbuf : s.waitBuf = false := by
      cases hs : s.waitBuf
      · rfl
      · exact absurd (hb hs) (by rw [hg (.inr h)]; decide)
    exact ⟨hp, by simp, fun _ => hc (.inl h), fun _ => rfl, by simp, by simp [hbuf]⟩
  | recvWaitDoneErr e h => exact ⟨hp, hw, by simp, hwo, by simp, by simp⟩
  | recvWaitDoneOk h =>
    simp only [State.closeCancel, hc (.inr h), closeChan]
    exact ⟨rfl, hw, by simp, hwo, by simp, by simp⟩
  | recvTimeout h =>
    simp only [State.closeCancel, hc (.inr h), closeChan]
    exact ⟨rfl, hw, by simp, hwo, by simp, hb⟩
  | recvCancel h hcl => exact absurd (hc (.inr h)) (by rw [hcl]; decide)
  | timerFires h => exact ⟨hp, hw, hc, hwo, hg, hb⟩
  | commCancelled c hgc =>
    exact noCancelInv_goroutine ⟨hp, hw, hc, hwo, hg, hb⟩ _ _ (by simp [hgc]) (by simp [hgc])
  | commTick c hgc =>
    exact noCancelInv_goroutine ⟨hp, hw, hc, hwo, hg, hb⟩ _ _ (by simp [hgc]) (by simp [hgc])
  | commCustomCheck ok hgc =>
    exact noCancelInv_goroutine ⟨hp, hw, hc, hwo, hg, hb⟩ _ _ (by simp [hgc]) (by simp [hgc])
  | commModuleDone out hgc =>
    exact noCancelInv_goroutine ⟨hp, hw, hc, hwo, hg, hb⟩ _ _ (by simp [hgc]) (by simp [hgc])
  | commModuleRetry out hgc =>
    exact noCancelInv_goroutine ⟨hp, hw, hc, hwo, hg, hb⟩ _ _ (by simp [hgc]) (by simp [hgc])
  | sendOnClosed hgs hwc => exact absurd hwc hw
  | send hgs hwd hbf => exact ⟨hp, by simp [hwd], hc, fun _ => hwd, fun hm => by simp_all,
      fun _ => rfl⟩
  | cancelNil => exact absurd rfl ha
  | cancelClose => exact absurd rfl ha

/-- **Without `Cancel`, no schedule panics**: from any start, every schedule of `Provision`,
its goroutine and the timer that contains no `Cancel` call reaches only states with no
panic. -/
theorem run_no_cancel_no_panic (customCheck : Bool) (sched : List Action)
    (hsched : Action.cancelCall ∉ sched) {s : State} (h : run (init customCheck) sched = some s) :
    s.panicked = none := by
  have hrun := @run_inv (fun s done => Action.cancelCall ∉ done → NoCancelInv s)
    (fun _ _ _ _ hi h hn => noCancelInv_step (hi fun hm => hn (List.mem_append_left _ hm))
      (fun e => hn (e ▸ List.mem_append_right _ (List.mem_singleton_self _))) h)
    sched _ s [] (fun _ => noCancelInv_init customCheck) h
  exact (hrun (by rwa [List.nil_append])).no_panic

/-- A successful run with no `Cancel`. -/
theorem run_no_cancel_no_panic_success :
    let sched := [Action.provision, .startWait, .commTick, .commModuleCheck "restarted.", .send,
      .recvWaitDone]
    Action.cancelCall ∉ sched ∧
      (run (init false) sched).map (·.main) = some (.returned none) ∧
      ∀ s, run (init false) sched = some s → s.panicked = none :=
  ⟨by decide, rfl, fun _ h => run_no_cancel_no_panic false _ (by decide) h⟩

/-! ## With one `Cancel`, two schedules panic -/

/-- **A `Cancel` panics the run**: after a successful wait, `Cancel` closes `p.cancel` a second
time; during the wait, it makes `WaitLoop` close `waitDone`, on which the cancelled goroutine
then sends. -/
theorem restart_schedules_panic :
    (run (init false) [.provision, .startWait, .commTick, .commModuleCheck "restarted.", .send,
        .recvWaitDone, .cancelCall]).map (·.panicked) = some (some (.closeOfClosed .cancel)) ∧
      (run (init false) [.provision, .startWait, .cancelCall, .recvCancel, .commCancelled,
        .send]).map (·.panicked) = some (some (.sendOnClosed .waitDone)) :=
  ⟨rfl, rfl⟩

/-! ## A restart `Provision` reports was confirmed -/

/-- The checks the goroutine ran confirm the restart: the user's restart check succeeded, when
there is one, and the module-load check printed `restarted.`. -/
def Confirmed (customCheck : Bool) (done : List Action) : Prop :=
  (customCheck = true → Action.commCustomCheck true ∈ done) ∧
    ∃ out, contains out "restarted." = true ∧ Action.commModuleCheck out ∈ done

theorem Confirmed.append {customCheck : Bool} {done : List Action}
    (h : Confirmed customCheck done) (a : Action) : Confirmed customCheck (done ++ [a]) :=
  ⟨fun hc => List.mem_append_left _ (h.1 hc),
    h.2.imp fun _ ho => ⟨ho.1, List.mem_append_left _ ho.2⟩⟩

/-- What holds of every state a schedule reaches, and of the schedule. -/
structure ConfirmInv (s : State) (done : List Action) : Prop where
  /-- the goroutine has not started before the wait, and `waitDone` holds nothing -/
  idle : s.main = .init ∨ s.main = .restarting → s.g = .idle ∧ s.waitBuf = false
  /-- the goroutine runs the module-load check only once the user's check succeeded -/
  custom : s.g = .polling false ∨ s.g = .checking false → s.customCheck = true →
    Action.commCustomCheck true ∈ done
  /-- the goroutine ends with no error only once the checks confirmed the restart -/
  sent : s.g = .sending ∨ s.g = .finished → s.err = none → Confirmed s.customCheck done
  /-- the only value in `waitDone` is the goroutine's -/
  buf : s.waitBuf = true → s.g = .finished
  /-- `Provision` returns `nil` only once the checks confirmed the restart -/
  ok : s.main = .returned none → Confirmed s.customCheck done

theorem confirmInv_init (customCheck : Bool) : ConfirmInv (init customCheck) [] :=
  ⟨fun _ => ⟨rfl, rfl⟩, by simp [init], by simp [init], by simp [init], by simp [init]⟩

variable {s : State} {done : List Action}

theorem ConfirmInv.append (hi : ConfirmInv s done) (a : Action) : ConfirmInv s (done ++ [a]) :=
  ⟨hi.idle, fun h hc => List.mem_append_left _ (hi.custom h hc),
    fun h he => (hi.sent h he).append a, hi.buf, fun h => (hi.ok h).append a⟩

/-- The invariant reads only `Provision`'s place, the goroutine's place and error, the buffer
and the configuration: a state that agrees on them keeps it. -/
theorem ConfirmInv.of_eq {s' : State} (hi : ConfirmInv s done) (hm : s'.main = s.main)
    (hg : s'.g = s.g) (he : s'.err = s.err) (hb : s'.waitBuf = s.waitBuf)
    (hc : s'.customCheck = s.customCheck) : ConfirmInv s' done := by
  refine ⟨?_, ?_, ?_, ?_, ?_⟩ <;> simp only [hm, hg, he, hb, hc]
  exacts [hi.idle, hi.custom, hi.sent, hi.buf, hi.ok]

/-- A step of the goroutine between started places keeps the invariant when its new place
and error do. -/
theorem ConfirmInv.goroutine (hi : ConfirmInv s done) (a : Action) (g : GPc) (e : Option String)
    (hg : s.g ≠ .idle) (hf : s.g ≠ .finished) (hgf : g ≠ .finished)
    (hcustom : g = .polling false ∨ g = .checking false → s.customCheck = true →
      Action.commCustomCheck true ∈ done ++ [a])
    (hsent : g = .sending → e = none → Confirmed s.customCheck (done ++ [a])) :
    ConfirmInv { s with g := g, err := e } (done ++ [a]) :=
  ⟨fun hm => absurd (hi.idle hm).1 hg, hcustom,
    fun h he => hsent (h.resolve_right hgf) he, fun hb => absurd (hi.buf hb) hf,
    fun h => (hi.ok h).append a⟩

/-- `Provision` leaves the wait, with the goroutine's error or its own. -/
theorem ConfirmInv.returned (hi : ConfirmInv s done) (a : Action) (err : Option String)
    (b : Bool) (herr : err = none → Confirmed s.customCheck (done ++ [a]))
    (hb : b = true → s.waitBuf = true) :
    ConfirmInv { s with main := .returned err, waitBuf := b } (done ++ [a]) :=
  ⟨fun hm => by cases hm <;> contradiction, fun h hc => List.mem_append_left _ (hi.custom h hc),
    fun h he => (hi.sent h he).append a, fun hb' => hi.buf (hb hb'),
    fun h => herr (MainPc.returned.inj h)⟩

/-- No step changes the configuration. -/
theorem customCheck_step {s' : State} {a : Action} (h : Step s a s') :
    s'.customCheck = s.customCheck := by
  cases h <;> rfl

theorem confirmInv_step {s' : State} {a : Action} (hi : ConfirmInv s done) (h : Step s a s') :
    ConfirmInv s' (done ++ [a]) := by
  have hmem : a ∈ done ++ [a] := List.mem_append_right _ (List.mem_singleton_self a)
  cases h with
  | provision h =>
    obtain ⟨hg, hb⟩ := hi.idle (.inl h)
    exact ⟨fun _ => ⟨hg, hb⟩, by simp [hg], by simp [hg], by simp [hb], by simp⟩
  | restartFails err h =>
    obtain ⟨hg, hb⟩ := hi.idle (.inr h)
    exact ⟨by simp, by simp [hg], by simp [hg], by simp [hb], by simp⟩
  | startWait h =>
    obtain ⟨-, hb⟩ := hi.idle (.inr h)
    exact ⟨by simp, fun hg hc => absurd hc (by simpa using hg), by simp, by simp [hb], by simp⟩
  | recvWaitDoneErr e h hb he =>
    exact hi.returned _ _ false (fun h => by cases h) (fun h => by cases h)
  | recvWaitDoneOk h hb he =>
    exact (hi.returned _ none false (fun _ => (hi.sent (.inr (hi.buf hb)) he).append _)
      (fun h => by cases h)).of_eq rfl rfl rfl rfl rfl
  | recvTimeout h ht =>
    exact (hi.returned _ (some _) s.waitBuf (fun h => by cases h) id).of_eq rfl rfl rfl rfl rfl
  | recvCancel h hc =>
    exact (hi.returned _ (some _) s.waitBuf (fun h => by cases h) id).of_eq rfl rfl rfl rfl rfl
  | timerFires h => exact (hi.append _).of_eq rfl rfl rfl rfl rfl
  | commCancelled c hg hc =>
    exact hi.goroutine _ _ _ (by simp [hg]) (by simp [hg]) (by simp) (by simp) (by simp)
  | commTick c hg =>
    refine hi.goroutine _ _ _ (by simp [hg]) (by simp [hg]) (by simp) (fun h hc => ?_) (by simp)
    have hc0 : c = false := by simpa using h
    subst hc0
    exact List.mem_append_left _ (hi.custom (.inl hg) hc)
  | commCustomCheck ok hg =>
    refine hi.goroutine _ _ _ (by simp [hg]) (by simp [hg]) (by cases ok <;> simp)
      (fun h _ => ?_) (by cases ok <;> simp)
    cases ok
    · simp at h
    · exact hmem
  | commModuleDone out hg ho =>
    exact hi.goroutine _ _ _ (by simp [hg]) (by simp [hg]) (by simp) (by simp)
      fun _ _ => ⟨fun hc => List.mem_append_left _ (hi.custom (.inr hg) hc), out, ho, hmem⟩
  | commModuleRetry out hg ho =>
    exact hi.goroutine _ _ _ (by simp [hg]) (by simp [hg]) (by simp)
      (fun _ hc => List.mem_append_left _ (hi.custom (.inr hg) hc)) (by simp)
  | sendOnClosed hg hw => exact (hi.append _).of_eq rfl rfl rfl rfl rfl
  | send hg hw hb =>
    exact ⟨fun hm => absurd (hi.idle hm).1 (by simp [hg]), by simp,
      fun _ he => (hi.sent (.inl hg) he).append _, fun _ => rfl, fun h => (hi.ok h).append _⟩
  | cancelNil => exact (hi.append _).of_eq rfl rfl rfl rfl rfl
  | cancelClose => exact (hi.append _).of_eq rfl rfl rfl rfl rfl

/-- **`Provision` reports a restart only once the machine confirmed it**: from any start, in
every schedule of `Provision`, its goroutine, the timer and `Cancel` after which `Provision`
has returned `nil`, the module-load check printed `restarted.`, and the user's restart check
succeeded when one is configured. -/
theorem run_returned_ok_confirmed (customCheck : Bool) (sched : List Action) {s : State}
    (h : run (init customCheck) sched = some s) (hs : s.main = .returned none) :
    Confirmed customCheck sched := by
  obtain ⟨hi, hc⟩ := @run_inv (fun s done => ConfirmInv s done ∧ s.customCheck = customCheck)
    (fun _ _ _ _ hi h => ⟨confirmInv_step hi.1 h, (customCheck_step h).trans hi.2⟩) sched _ s []
    ⟨confirmInv_init customCheck, rfl⟩ h
  exact hc ▸ hi.ok hs

/-- A run with a restart check of the user's, which succeeds at the first poll. -/
theorem run_returned_ok_confirmed_custom :
    let sched := [Action.provision, .startWait, .commTick, .commCustomCheck true,
      .commModuleCheck "vm-01 restarted.", .send, .recvWaitDone]
    ∃ s, run (init true) sched = some s ∧ s.main = .returned none ∧ Confirmed true sched :=
  ⟨_, rfl, rfl, run_returned_ok_confirmed true _ rfl rfl⟩

end Laforge.Provisioner.WindowsRestart
