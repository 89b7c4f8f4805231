import Laforge.Provisioner.Retry
import Laforge.Provisioner.WindowsRestart

/-!
# Laforge.Provisioner.RebootCheck

`Provision` of the Windows restart provisioner (`provisioner/windows_restart.go`) up to the
goroutine of `waitForRestart`, as a run (`Op`): the restart command through `retryable`, its
exit status, and the reboot check, "stolen from Vagrant reboot checker".  The state machine of
`Laforge.Provisioner.WindowsRestart` takes this phase as one action, `restartFails` or
`startWait`.

The reboot check is a `for` loop with no bound: it stops on a check that does not start or that
exits 1 or 0, and checks again on any other exit status.  `rebootCheck` runs it for at most
`fuel` checks and says whether it stopped.  Every result below comes from what one check does
(`rebootCheck_succ`), carried over the loop by induction on the fuel.

1. `rebootCheck_ok`: the loop never returns an error, and it stops at the first check that does
   not start or exits 0 or 1; every check before it started and exited neither.
2. `rebootCheck_abort_after_zero`: `AbortReboot` runs only as the loop's last call, right after
   a check that exited 0, so it cancels only the shutdown that check scheduled.
3. `restartPhase_outlasts_timeout`: the timer of `time.After(p.Config.RestartTimeout)` starts
   before the loop, and the loop never reads it; a machine that keeps answering that a reboot is
   in progress keeps the loop checking past any timeout.
4. `restartPhase_error`: the phase fails only with the retry loop's error once the timeout has
   passed, or with the restart command's non-zero exit status.

The restart package's commands (`restart.TryCheckReboot`, `restart.AbortReboot`) are outside
the sources and are parameters.
-/

namespace Laforge.Provisioner.WindowsRestart

/-! ## The restart phase -/

/-- `WindowsRestartProvisioner.retryable`: the loop with the timer of
`time.After(p.Config.RestartTimeout)`. -/
def retryable (c : Config) (f : Op α) : Op α :=
  Provisioner.retryable f c.restartTimeout retryableSleep

/-- One attempt of `Provision`'s restart: `cmd.StartWithUi` of `command`; its exit status. -/
def restartAttempt (env : Env) (command : String) : Op Int :=
  checked env (.start command) id fun cmd => pure cmd.exitStatus

/-- The exit statuses of the reboot check that say a reboot is already in progress. -/
def rebootInProgress (status : Int) : Bool :=
  status == 1115 || status == 1190 || status == 1717

/-- `1 * time.Second`, in nanoseconds. -/
def oneSecond : Nat := 1000000000

/-- `10 * time.Second`, in nanoseconds. -/
def tenSeconds : Nat := 10000000000

/-- The reboot check of `waitForRestart`, for at most `fuel` checks: run `tryCommand`; stop when
it does not start or exits 1; wait ten seconds while a reboot is in progress; on exit status 0
run `abortCommand`, whose result is not read, and stop; else check again.  `true` when the loop
stopped, `false` when it was still checking after `fuel` checks. -/
def rebootCheck (env : Env) (tryCommand abortCommand : String) : Nat → Op Bool
  | 0 => pure false
  | fuel + 1 => do
    let cmd ← call env (.start tryCommand)
    match cmd.err with
    | some _ => pure true
    | none =>
      if cmd.exitStatus = 1 then pure true
      else do
        if rebootInProgress cmd.exitStatus then sleep tenSeconds
        if cmd.exitStatus = 0 then do
          let _ ← call env (.start abortCommand)
          pure true
        else rebootCheck env tryCommand abortCommand fuel

/-- `Provision` up to the goroutine of `waitForRestart`: the restart command, retried; an error
for a non-zero exit status; then `waitForRestart`'s one-second sleep and at most `fuel` reboot
checks.  `true` when the goroutine starts. -/
def restartPhase (env : Env) (tryCommand abortCommand : String) (c : Config) (fuel : Nat) :
    Op Bool := do
  let exit ← retryable c (restartAttempt env c.restartCommand)
  if exit ≠ 0 then fail ("Restart script exited with non-zero exit status: " ++ toString exit)
  else do
    sleep oneSecond
    rebootCheck env tryCommand abortCommand fuel

theorem ne_of_rebootInProgress {status : Int} (h : rebootInProgress status = true) :
    status ≠ 0 ∧ status ≠ 1 := by
  simp only [rebootInProgress, Bool.or_eq_true, beq_iff_eq] at h
  omega

/-! ## One check -/

section RebootCheck

variable {env : Env} {tryCommand abortCommand : String}

/-- The calls of a run that starts after the call `c` and a wait: `c`, then the run's own. -/
theorem since_after_wait (m : Op α) (c : Call) (d : Nat) (w : World) :
    (m.run { w.after env c with now := (w.after env c).now + d }).2.since w =
      ⟨w.now, c, env w.log c⟩ ::
        (m.run { w.after env c with now := (w.after env c).now + d }).2.since
          { w.after env c with now := (w.after env c).now + d } := by
  rw [since_trans (World.le_after env c w) ((World.le_wait _ d).trans (m.le _)), since_after]
  rfl

/-- **What one check does**: it stops the loop when it does not start or exits 1; it runs
`abortCommand` and stops when it exits 0; otherwise the loop goes on, ten seconds later while a
reboot is in progress. -/
theorem rebootCheck_succ {w : World} {a : Answer} (ha : env w.log (.start tryCommand) = a)
    (n : Nat) :
    (a.err ≠ none ∨ a.exitStatus = 1) ∧
        (rebootCheck env tryCommand abortCommand (n + 1)).run w =
          (.ok true, w.after env (.start tryCommand)) ∨
      a.err = none ∧ a.exitStatus = 0 ∧
        (rebootCheck env tryCommand abortCommand (n + 1)).run w =
          (.ok true, (w.after env (.start tryCommand)).after env (.start abortCommand)) ∨
      a.err = none ∧ a.exitStatus ≠ 0 ∧ a.exitStatus ≠ 1 ∧
        ∃ d, (rebootInProgress a.exitStatus = true → d = tenSeconds) ∧
          (rebootCheck env tryCommand abortCommand (n + 1)).run w =
            (rebootCheck env tryCommand abortCommand n).run
              { w.after env (.start tryCommand) with
                now := (w.after env (.start tryCommand)).now + d } := by
  simp only [rebootCheck, Op.run_bind, run_call, ha]
  rcases hae : a.err with _ | e
  · by_cases h1 : a.exitStatus = 1
    · exact .inl ⟨.inr h1, by simp only [h1, if_true]; rfl⟩
    by_cases h0 : a.exitStatus = 0
    · refine .inr (.inl ⟨rfl, h0, ?_⟩)
      simp only [h0, if_true, show rebootInProgress 0 = false from rfl]; rfl
    refine .inr (.inr ⟨rfl, h0, h1, ?_⟩)
    simp only [h1, h0, if_false]
    cases hp : rebootInProgress a.exitStatus
    · exact ⟨0, nofun, rfl⟩
    · exact ⟨tenSeconds, fun _ => rfl, rfl⟩
  · exact .inl ⟨.inl nofun, rfl⟩

/-! ## The loop -/

/-- The reboot check never fails. -/
theorem rebootCheck_run_ok (n : Nat) (w : World) :
    ∃ b, ((rebootCheck env tryCommand abortCommand n).run w).1 = .ok b := by
  induction n generalizing w with
  | zero => exact ⟨false, rfl⟩
  | succ n ih =>
    rcases rebootCheck_succ rfl n with ⟨-, h⟩ | ⟨-, -, h⟩ | ⟨-, -, -, d, -, h⟩ <;> rw [h]
    iterate 2 exact ⟨true, rfl⟩
    exact ih _

/-- **The reboot check never fails, and it stops at the first check that does not start or
exits 0 or 1**: its calls are checks that started and exited neither 0 nor 1, `n` of them when
it ran out of checks; when it stopped, they are followed by one check that did not start or
exited 1, or by one that exited 0 and the abort, and by nothing else. -/
theorem rebootCheck_ok (n : Nat) (w : World) :
    ∃ b checks rest, ((rebootCheck env tryCommand abortCommand n).run w).1 = .ok b ∧
      ((rebootCheck env tryCommand abortCommand n).run w).2.since w = checks ++ rest ∧
      (∀ e ∈ checks, e.call = .start tryCommand ∧ e.answer.err = none ∧
        e.answer.exitStatus ≠ 0 ∧ e.answer.exitStatus ≠ 1) ∧
      (b = false → checks.length = n ∧ rest = []) ∧
      (b = true → ∃ c, c.call = .start tryCommand ∧
        ((c.answer.err ≠ none ∨ c.answer.exitStatus = 1) ∧ rest = [c] ∨
          c.answer.err = none ∧ c.answer.exitStatus = 0 ∧
            ∃ ab, ab.call = .start abortCommand ∧ rest = [c, ab])) := by
  induction n generalizing w with
  | zero => exact ⟨false, [], [], rfl, since_self w, nofun, fun _ => ⟨rfl, rfl⟩, nofun⟩
  | succ n ih =>
    rcases rebootCheck_succ rfl n with ⟨hs, h⟩ | ⟨he, h0, h⟩ | ⟨he, h0, h1, d, -, h⟩
    · refine ⟨true, [], _, by rw [h], by rw [h, since_after]; rfl, nofun, nofun,
        fun _ => ⟨⟨w.now, _, _⟩, rfl, .inl ⟨hs, rfl⟩⟩⟩
    · refine ⟨true, [], _, by rw [h], ?_, nofun, nofun,
        fun _ => ⟨⟨w.now, _, _⟩, rfl, .inr ⟨he, h0, ⟨(w.after env (.start tryCommand)).now,
          .start abortCommand, env (w.after env (.start tryCommand)).log (.start abortCommand)⟩,
          rfl, rfl⟩⟩⟩
      rw [h, since_trans (World.le_after env _ w) (World.le_after env _ _), since_after,
        since_after]
      rfl
    obtain ⟨b, checks, rest, hb, hs, hall, hf, ht⟩ := ih { w.after env (.start tryCommand) with
      now := (w.after env (.start tryCommand)).now + d }
    refine ⟨b, _ :: checks, rest, by rw [h, hb], by rw [h, since_after_wait, hs]; rfl, ?_,
      fun hb => ⟨by rw [List.length_cons, (hf hb).1], (hf hb).2⟩, ht⟩
    rintro e (_ | ⟨_, he'⟩)
    · exact ⟨rfl, he, h0, h1⟩
    · exact hall e he'

/-- **`AbortReboot` runs only to cancel the check's own shutdown**: a call of `abortCommand` is
the loop's last call, and the call before it is a check that started and exited 0. -/
theorem rebootCheck_abort_after_zero (hta : tryCommand ≠ abortCommand) (n : Nat) (w : World)
    {pre post : List Event} {e : Event}
    (h : ((rebootCheck env tryCommand abortCommand n).run w).2.since w = pre ++ e :: post)
    (he : e.call = .start abortCommand) :
    post = [] ∧ ∃ pre' check, pre = pre' ++ [check] ∧ check.call = .start tryCommand ∧
      check.answer.err = none ∧ check.answer.exitStatus = 0 := by
  have hcheck : ∀ {w : World}, e ≠ ⟨w.now, .start tryCommand, env w.log (.start tryCommand)⟩ :=
    fun heq => hta (Call.start.inj (he ▸ congrArg Event.call heq).symm)
  induction n generalizing w pre with
  | zero => simp only [rebootCheck, Op.run_pure, since_self, List.nil_eq_append_iff,
      reduceCtorEq, and_false] at h
  | succ n ih =>
    rcases rebootCheck_succ rfl n with ⟨-, hr⟩ | ⟨he₀, h0, hr⟩ | ⟨-, -, -, d, -, hr⟩
    · rw [hr, since_after] at h
      rcases pre with _ | ⟨p, pre⟩ <;> simp only [List.nil_append, List.cons_append,
        List.cons.injEq, List.nil_eq_append_iff, reduceCtorEq, and_false, false_and] at h
      exact absurd h.1.symm hcheck
    · rw [hr, since_trans (World.le_after env _ w) (World.le_after env _ _), since_after,
        since_after] at h
      rcases pre with _ | ⟨p, _ | ⟨q, pre⟩⟩ <;> simp only [List.nil_append, List.cons_append,
        List.singleton_append, List.cons.injEq, List.nil_eq_append_iff, reduceCtorEq, and_false,
        false_and] at h
      · exact absurd h.1.symm hcheck
      · obtain ⟨rfl, -, rfl⟩ := h
        exact ⟨rfl, [], _, rfl, rfl, he₀, h0⟩
    · rw [hr, since_after_wait] at h
      rcases pre with _ | ⟨p, pre⟩
      · exact absurd (List.cons.inj h).1.symm hcheck
      · obtain ⟨rfl, hrest⟩ := List.cons.inj h
        obtain ⟨rfl, pre', check, rfl, hc⟩ := ih _ hrest
        exact ⟨rfl, _ :: pre', check, rfl, hc⟩

/-- A first check that exits 0: the abort follows it and ends the run. -/
theorem rebootCheck_abort_after_zero_idle :
    ∃ pre e, ((rebootCheck (fun _ _ => ⟨none, 0, "", 0⟩) "shutdown.exe -f -r -t 60"
        "shutdown.exe -a" 1).run ⟨0, [], []⟩).2.since ⟨0, [], []⟩ = pre ++ [e] ∧
      e.call = .start "shutdown.exe -a" ∧
      ∃ pre' check, pre = pre' ++ [check] ∧ check.call = .start "shutdown.exe -f -r -t 60" ∧
        check.answer.err = none ∧ check.answer.exitStatus = 0 :=
  ⟨_, _, rfl, rfl, (@rebootCheck_abort_after_zero (fun _ _ => ⟨none, 0, "", 0⟩)
    "shutdown.exe -f -r -t 60" "shutdown.exe -a" (by decide) 1 ⟨0, [], []⟩
    [⟨0, .start "shutdown.exe -f -r -t 60", ⟨none, 0, "", 0⟩⟩] []
    ⟨0, .start "shutdown.exe -a", ⟨none, 0, "", 0⟩⟩ rfl rfl).2⟩

/-- While every check says that a reboot is in progress, the loop keeps checking, ten seconds
per check. -/
theorem rebootCheck_in_progress
    (hbusy : ∀ l, (env l (.start tryCommand)).err = none ∧
      rebootInProgress (env l (.start tryCommand)).exitStatus = true) (n : Nat) (w : World) :
    ((rebootCheck env tryCommand abortCommand n).run w).1 = .ok false ∧
      w.now + n * tenSeconds ≤ ((rebootCheck env tryCommand abortCommand n).run w).2.now := by
  induction n generalizing w with
  | zero => exact ⟨rfl, Nat.le_refl _⟩
  | succ n ih =>
    have hne := ne_of_rebootInProgress (hbusy w.log).2
    rcases @rebootCheck_succ env tryCommand abortCommand w _ rfl n with
      ⟨hs, -⟩ | ⟨-, h0, -⟩ | ⟨-, -, -, d, hd, h⟩
    · exact absurd hs (by simp [(hbusy w.log).1, hne.2])
    · exact absurd h0 hne.1
    rw [h, hd (hbusy w.log).2]
    obtain ⟨hf, hle⟩ := ih { w.after env (.start tryCommand) with
      now := (w.after env (.start tryCommand)).now + tenSeconds }
    have hafter := (World.le_after env (.start tryCommand) w).now_le
    refine ⟨hf, Nat.le_trans ?_ hle⟩
    show _ ≤ (w.after env (.start tryCommand)).now + tenSeconds + n * tenSeconds
    rw [Nat.succ_mul]
    omega

end RebootCheck

/-! ## The restart phase -/

section RestartPhase

variable {env : Env} {tryCommand abortCommand : String} {c : Config}

/-- After a restart command that started and exited 0, the phase sleeps a second and checks. -/
theorem restartPhase_of_restarted {n : Nat} {w w₁ : World}
    (h : (retryable c (restartAttempt env c.restartCommand)).run w = (.ok 0, w₁)) :
    (restartPhase env tryCommand abortCommand c n).run w =
      (rebootCheck env tryCommand abortCommand n).run { w₁ with now := w₁.now + oneSecond } := by
  simp only [restartPhase, Op.run_bind, h, ne_eq, not_true_eq_false, if_false]
  rfl

/-- **The restart timeout does not bound the reboot check**: after a restart command that exits
0, a machine that keeps answering that a reboot is in progress keeps the loop checking, past the
time the timer of `time.After(p.Config.RestartTimeout)` fires, for any number of checks that
fills the timeout. -/
theorem restartPhase_outlasts_timeout
    (hrestart : ∀ l, (env l (.start c.restartCommand)).err = none ∧
      (env l (.start c.restartCommand)).exitStatus = 0)
    (hbusy : ∀ l, (env l (.start tryCommand)).err = none ∧
      rebootInProgress (env l (.start tryCommand)).exitStatus = true)
    {n : Nat} (hn : c.restartTimeout.toNat ≤ n * tenSeconds) (w : World) :
    ((restartPhase env tryCommand abortCommand c n).run w).1 = .ok false ∧
      (w.after env (.start c.restartCommand)).now + c.restartTimeout.toNat <
        ((restartPhase env tryCommand abortCommand c n).run w).2.now := by
  have hattempt : (restartAttempt env c.restartCommand).run w =
      (.ok 0, w.after env (.start c.restartCommand)) := by
    rw [restartAttempt, run_checked_none (hrestart w.log).1, ← (hrestart w.log).2]; rfl
  rw [restartPhase_of_restarted (retryLoop_ok hattempt)]
  obtain ⟨hf, hle⟩ := @rebootCheck_in_progress env tryCommand abortCommand hbusy n
    { w.after env (.start c.restartCommand) with
      now := (w.after env (.start c.restartCommand)).now + oneSecond }
  refine ⟨hf, Nat.lt_of_lt_of_le ?_ hle⟩
  show _ < (w.after env (.start c.restartCommand)).now + oneSecond + n * tenSeconds
  have : 0 < oneSecond := by decide
  omega

/-- A machine that restarts at once and answers 1115 to every check, with a timeout of ten
seconds: after two checks the loop is still checking, past the timeout. -/
theorem restartPhase_outlasts_timeout_busy :
    ((restartPhase
        (fun _ c => ⟨none, if c = .start "shutdown.exe -f -r -t 60" then 1115 else 0, "", 0⟩)
        "shutdown.exe -f -r -t 60" "shutdown.exe -a" ⟨"shutdown /r /t 0", "", 10000000000⟩ 2).run
        ⟨0, [], []⟩).1 = .ok false :=
  (@restartPhase_outlasts_timeout
    (fun _ c => ⟨none, if c = .start "shutdown.exe -f -r -t 60" then 1115 else 0, "", 0⟩)
    "shutdown.exe -f -r -t 60" "shutdown.exe -a" ⟨"shutdown /r /t 0", "", 10000000000⟩
    (fun _ => ⟨rfl, rfl⟩) (fun _ => ⟨rfl, rfl⟩) 2 (by decide) _).1

/-- **The restart phase fails only in two ways**: with the retry loop's error, once the restart
timeout has passed, or with the restart command's non-zero exit status.  The reboot check adds
none. -/
theorem restartPhase_error {n : Nat} {w w' : World} {e : String}
    (h : (restartPhase env tryCommand abortCommand c n).run w = (.error e, w')) :
    (w.now + c.restartTimeout.toNat ≤ w'.now ∧ ∃ e₀, e = "Retryable error: " ++ e₀) ∨
      ∃ exit : Int, exit ≠ 0 ∧
        e = "Restart script exited with non-zero exit status: " ++ toString exit := by
  rcases hr : (retryable c (restartAttempt env c.restartCommand)).run w with ⟨exit | e' | e', w₁⟩
  · by_cases hx : exit = 0
    · subst hx
      rw [restartPhase_of_restarted hr] at h
      obtain ⟨b, hb⟩ := @rebootCheck_run_ok env tryCommand abortCommand n
        { w₁ with now := w₁.now + oneSecond }
      rw [h] at hb
      cases hb
    · simp only [restartPhase, Op.run_bind, hr, hx, ne_eq, not_false_eq_true, if_true] at h
      exact .inr ⟨exit, hx, (Res.error.inj (Prod.mk.inj h).1).symm⟩
  · simp only [restartPhase, Op.run_bind, hr, Prod.mk.injEq, Res.error.injEq] at h
    obtain ⟨rfl, rfl⟩ := h
    obtain ⟨hd, -, e₀, -, -, he⟩ := retryLoop_error hr
    exact .inl ⟨hd, e₀, he⟩
  · simp only [restartPhase, Op.run_bind, hr, Prod.mk.injEq, reduceCtorEq, false_and] at h

/-- A restart command that exits 3: the phase fails with that exit status. -/
theorem restartPhase_error_exit_three :
    ∃ w', (restartPhase (fun _ _ => ⟨none, 3, "", 0⟩) "shutdown.exe -f -r -t 60" "shutdown.exe -a"
        ⟨"shutdown /r /t 0", "", 0⟩ 0).run ⟨0, [], []⟩ =
        (.error "Restart script exited with non-zero exit status: 3", w') ∧
      ((0 ≤ w'.now ∧
          ∃ e₀, "Restart script exited with non-zero exit status: 3" = "Retryable error: " ++ e₀) ∨
        ∃ exit : Int, exit ≠ 0 ∧
          "Restart script exited with non-zero exit status: 3" =
            "Restart script exited with non-zero exit status: " ++ toString exit) := by
  have hr : (retryable ⟨"shutdown /r /t 0", "", 0⟩ (restartAttempt (fun _ _ => ⟨none, 3, "", 0⟩)
      "shutdown /r /t 0")).run ⟨0, [], []⟩ = (.ok 3, _) := retryLoop_ok rfl
  have h : (restartPhase (fun _ _ => ⟨none, 3, "", 0⟩) "shutdown.exe -f -r -t 60" "shutdown.exe -a"
      ⟨"shutdown /r /t 0", "", 0⟩ 0).run ⟨0, [], []⟩ =
      (.error "Restart script exited with non-zero exit status: 3",
        World.after (fun _ _ => ⟨none, 3, "", 0⟩) (.start "shutdown /r /t 0") ⟨0, [], []⟩) := by
    simp only [restartPhase, Op.run_bind, hr]; rfl
  exact ⟨_, h, restartPhase_error h⟩

end RestartPhase

end Laforge.Provisioner.WindowsRestart
