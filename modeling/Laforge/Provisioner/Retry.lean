import Laforge.Provisioner.Run

/-!
# Laforge.Provisioner.Retry

The loop of the four `retryable` methods (`WindowsCmdProvisioner`, `SSHProvisioner`,
`PowershellProvisioner`, `WindowsRestartProvisioner`): run the function; on an error wrap it in
`Retryable error: `, give up if the timer of `time.After(timeout)` has fired, else sleep and go
again.

The loop ends because every attempt and every sleep moves the clock on, which `Op` carries.  It
gives up only once the timeout has passed (`retryable_error`), and it makes at most one attempt
more than the sleeps that fit into the timeout (`attempts_retryable`).
-/

namespace Laforge.Provisioner

/-- A positive duration in nanoseconds: how long a retry loop sleeps between attempts. -/
structure Pause where
  ns : Nat
  pos : 0 < ns

/-- `2 * time.Second`. -/
def twoSeconds : Pause := ⟨2000000000, by decide⟩

/-- `retryableSleep`, the package's pause between attempts. -/
def retryableSleep : Pause := twoSeconds

/-- The loop of `retryable`, the timer firing at `deadline`: run `f`; on success return its
value; on an error, return it wrapped once the timer has fired, else sleep `pause` and go again.
A panic ends the loop. -/
def retryLoop (f : Op α) (deadline : Nat) (pause : Pause) (w : World) : Res α × World :=
  match _h : f.run w with
  | (.ok a, w') => (.ok a, w')
  | (.panic e, w') => (.panic e, w')
  | (.error e, w') =>
    if _hd : deadline ≤ w'.now then (.error ("Retryable error: " ++ e), w')
    else retryLoop f deadline pause { w' with now := w'.now + pause.ns }
termination_by deadline - w.now
decreasing_by
  have h₁ := (f.le w).now_le
  rw [_h] at h₁
  have := pause.pos
  show deadline - (w'.now + pause.ns) < deadline - w.now
  dsimp only at h₁
  omega

section RetryLoop

variable {f : Op α} {deadline : Nat} {pause : Pause} {w w₁ : World}

theorem retryLoop_ok {a : α} (h : f.run w = (.ok a, w₁)) :
    retryLoop f deadline pause w = (.ok a, w₁) := by
  rw [retryLoop]; split <;> simp_all

theorem retryLoop_panic {e : String} (h : f.run w = (.panic e, w₁)) :
    retryLoop f deadline pause w = (.panic e, w₁) := by
  rw [retryLoop]; split <;> simp_all

theorem retryLoop_giveUp {e : String} (h : f.run w = (.error e, w₁)) (hd : deadline ≤ w₁.now) :
    retryLoop f deadline pause w = (.error ("Retryable error: " ++ e), w₁) := by
  rw [retryLoop]; split <;> simp_all

theorem retryLoop_again {e : String} (h : f.run w = (.error e, w₁)) (hd : ¬ deadline ≤ w₁.now) :
    retryLoop f deadline pause w =
      retryLoop f deadline pause { w₁ with now := w₁.now + pause.ns } := by
  rw [retryLoop]; split <;> simp_all

end RetryLoop

theorem retryLoop_le (f : Op α) (deadline : Nat) (pause : Pause) (w : World) :
    w.Le (retryLoop f deadline pause w).2 := by
  induction w using retryLoop.induct f deadline pause with
  | case1 w a w' h => rw [retryLoop_ok h]; exact le_of_run h
  | case2 w e w' h => rw [retryLoop_panic h]; exact le_of_run h
  | case3 w e w' h hd => rw [retryLoop_giveUp h hd]; exact le_of_run h
  | case4 w e w' h hd ih =>
    rw [retryLoop_again h hd]
    exact (le_of_run h).trans ((w'.le_wait _).trans ih)

/-- The loop ends with its value only after an attempt that ended with it. -/
theorem retryLoop_ok_attempt {f : Op α} {deadline : Nat} {pause : Pause} {w w₁ : World} {a : α}
    (h : retryLoop f deadline pause w = (.ok a, w₁)) :
    ∃ w₀, w.Le w₀ ∧ f.run w₀ = (.ok a, w₁) := by
  induction w using retryLoop.induct f deadline pause with
  | case1 w a' w' h' => rw [retryLoop_ok h'] at h; cases h; exact ⟨w, .refl w, h'⟩
  | case2 w e w' h' => rw [retryLoop_panic h'] at h; cases h
  | case3 w e w' h' hd => rw [retryLoop_giveUp h' hd] at h; cases h
  | case4 w e w' h' hd ih =>
    rw [retryLoop_again h' hd] at h
    obtain ⟨w₀, hw₀, hr⟩ := ih h
    exact ⟨w₀, (le_of_run h').trans ((w'.le_wait _).trans hw₀), hr⟩

/-- **The loop gives up only once the timer has fired**, with the error of its last attempt,
the one that ended when the loop did, wrapped. -/
theorem retryLoop_error {f : Op α} {deadline : Nat} {pause : Pause} {w w₁ : World} {e : String}
    (h : retryLoop f deadline pause w = (.error e, w₁)) :
    deadline ≤ w₁.now ∧
      ∃ w₀ e₀, w.Le w₀ ∧ f.run w₀ = (.error e₀, w₁) ∧ e = "Retryable error: " ++ e₀ := by
  induction w using retryLoop.induct f deadline pause with
  | case1 w a w' h' => rw [retryLoop_ok h'] at h; cases h
  | case2 w e' w' h' => rw [retryLoop_panic h'] at h; cases h
  | case3 w e' w' h' hd =>
    rw [retryLoop_giveUp h' hd] at h
    cases h
    exact ⟨hd, w, e', .refl w, h', rfl⟩
  | case4 w e' w' h' hd ih =>
    rw [retryLoop_again h' hd] at h
    obtain ⟨hd', w₀, e₀, hw₀, hr⟩ := ih h
    exact ⟨hd', w₀, e₀, (le_of_run h').trans ((w'.le_wait _).trans hw₀), hr⟩

/-- How many of the calls made between `w` and `w'` satisfy `P`. -/
def World.count (P : Call → Bool) (w' w : World) : Nat := (w'.since w).countP fun e => P e.call

theorem count_trans (P : Call → Bool) {w₁ w₂ w₃ : World} (h₁ : w₁.Le w₂) (h₂ : w₂.Le w₃) :
    w₃.count P w₁ = w₂.count P w₁ + w₃.count P w₂ := by
  rw [World.count, since_trans h₁ h₂, List.countP_append]; rfl

/-- **The loop makes at most one attempt more than the pauses that fit before the timer
fires**, counting attempts by a call each of them makes once. -/
theorem attempts_retryLoop {f : Op α} {deadline : Nat} {pause : Pause} (P : Call → Bool)
    (hf : ∀ w, (f.run w).2.count P w = 1) (w : World) :
    ((retryLoop f deadline pause w).2.count P w - 1) * pause.ns < deadline - w.now + pause.ns := by
  have hp := pause.pos
  induction w using retryLoop.induct f deadline pause with
  | case1 w a w' h => rw [retryLoop_ok h, ← h, hf]; omega
  | case2 w e w' h => rw [retryLoop_panic h, ← h, hf]; omega
  | case3 w e w' h hd =>
    have h1 := hf w
    rw [h] at h1
    rw [retryLoop_giveUp h hd]
    dsimp only
    rw [h1]; omega
  | case4 w e w' h hd ih =>
    rw [retryLoop_again h hd]
    have hw := le_of_run h
    have hc := count_trans P (hw.trans (w'.le_wait pause.ns)) (retryLoop_le f deadline pause _)
    have h1 : ({ w' with now := w'.now + pause.ns } : World).count P w = 1 := by
      rw [← hf w, h]; rfl
    rw [hc, h1]
    generalize (retryLoop f deadline pause { w' with now := w'.now + pause.ns }).2.count P
      { w' with now := w'.now + pause.ns } = c at ih ⊢
    have hnow := hw.now_le
    simp only at ih hnow
    rcases c with _ | c
    · omega
    · rw [Nat.add_sub_cancel] at ih
      rw [Nat.add_comm, Nat.add_sub_cancel, Nat.succ_mul]
      by_cases hle : pause.ns ≤ deadline - w'.now
      · omega
      · have : c * pause.ns < 1 * pause.ns := by omega
        have := Nat.lt_of_mul_lt_mul_right this
        obtain rfl : c = 0 := by omega
        omega

/-- `retryable(f)`: the loop with the timer of `time.After(timeout)`, which has fired at once
for a timeout that is not positive. -/
def retryable (f : Op α) (timeout : Int) (pause : Pause) : Op α :=
  ⟨fun w => retryLoop f (w.now + timeout.toNat) pause w, fun w => retryLoop_le f _ pause w⟩

/-- **`retryable` returns an error only once its timeout has passed**, and the error is that of
the last attempt, the one that ended when the loop did, wrapped. -/
theorem retryable_error {f : Op α} {timeout : Int} {pause : Pause} {w w₁ : World} {e : String}
    (h : (retryable f timeout pause).run w = (.error e, w₁)) :
    w.now + timeout.toNat ≤ w₁.now ∧
      ∃ w₀ e₀, w.Le w₀ ∧ f.run w₀ = (.error e₀, w₁) ∧ e = "Retryable error: " ++ e₀ :=
  retryLoop_error h

/-- **`retryable` makes at most `⌈timeout / pause⌉ + 1` attempts**, counting them by a call each
attempt makes once. -/
theorem attempts_retryable {f : Op α} {timeout : Int} {pause : Pause} (P : Call → Bool)
    (hf : ∀ w, (f.run w).2.count P w = 1) (w : World) :
    ((retryable f timeout pause).run w).2.count P w ≤
      (timeout.toNat + pause.ns - 1) / pause.ns + 1 := by
  have h := @attempts_retryLoop α f (w.now + timeout.toNat) pause P hf w
  rw [Nat.add_sub_cancel_left] at h
  have hp := pause.pos
  show (retryLoop f (w.now + timeout.toNat) pause w).2.count P w ≤ _
  generalize (retryLoop f (w.now + timeout.toNat) pause w).2.count P w = c at h ⊢
  have := (Nat.le_div_iff_mul_le hp).mpr
    (show (c - 1) * pause.ns ≤ timeout.toNat + pause.ns - 1 by omega)
  omega

/-- An attempt that always fails, with a timeout of 3 ns and a pause of 2 ns: attempts at 0, 2
and 4 ns, the last one after the timer fired. -/
theorem retryable_error_always :
    let pause : Pause := ⟨2, by decide⟩
    (retryable (fail "boom" : Op Unit) 3 pause).run ⟨0, [], []⟩ =
        (.error "Retryable error: boom", ⟨4, [], []⟩) ∧
      0 + (3 : Int).toNat ≤ 4 ∧
        ∃ w₀ e₀, World.Le ⟨0, [], []⟩ w₀ ∧ (fail "boom" : Op Unit).run w₀ = (.error e₀, ⟨4, [], []⟩) ∧
          "Retryable error: boom" = "Retryable error: " ++ e₀ := by
  intro pause
  have h : (retryable (fail "boom" : Op Unit) 3 pause).run ⟨0, [], []⟩ =
      (.error "Retryable error: boom", ⟨4, [], []⟩) := by
    show retryLoop _ (0 + (3 : Int).toNat) pause _ = _
    rw [retryLoop_again rfl (by decide), retryLoop_again rfl (by decide),
      retryLoop_giveUp rfl (by decide)]
    rfl
  exact ⟨h, retryable_error h⟩

/-- A command that never starts, retried with a timeout of 3 ns and a pause of 2 ns: the bound
of three attempts is reached. -/
theorem attempts_retryable_refused :
    let env : Env := fun _ _ => ⟨some "connection refused", 0, "", 0⟩
    let f : Op Unit := checked env (.start "shutdown /r") id fun _ => pure ()
    let P : Call → Bool := fun c => decide (c = .start "shutdown /r")
    (∀ w, (f.run w).2.count P w = 1) ∧
      ((retryable f 3 ⟨2, by decide⟩).run ⟨0, [], []⟩).2.count P ⟨0, [], []⟩ ≤ (3 + 2 - 1) / 2 + 1 ∧
      ((retryable f 3 ⟨2, by decide⟩).run ⟨0, [], []⟩).2.count P ⟨0, [], []⟩ = 3 := by
  intro env f P
  have hf : ∀ w, (f.run w).2.count P w = 1 := fun w => by
    simp [f, P, World.count, run_checked_some (show (env w.log _).err = some _ from rfl), fail,
      since_after, Event.outcome]
  refine ⟨hf, attempts_retryable P hf _, ?_⟩
  show (retryLoop f (0 + (3 : Int).toNat) ⟨2, by decide⟩ ⟨0, [], []⟩).2.count P _ = 3
  rw [retryLoop_again (run_checked_some rfl) (by decide),
    retryLoop_again (run_checked_some rfl) (by decide),
    retryLoop_giveUp (run_checked_some rfl) (by decide)]
  rfl


/-! ## Facts about attempts that hold of the loop -/

theorem only_retryable {P : Call → Prop} {f : Op α} (hf : f.Only P) (timeout : Int)
    (pause : Pause) :
    (retryable f timeout pause).Only P := by
  intro w
  show ∀ e ∈ (retryLoop f (w.now + timeout.toNat) pause w).2.since w, P e.call
  generalize w.now + timeout.toNat = deadline
  induction w using retryLoop.induct f deadline pause with
  | case1 w a w' h => rw [retryLoop_ok h, ← h]; exact hf w
  | case2 w e w' h => rw [retryLoop_panic h, ← h]; exact hf w
  | case3 w e w' h hd =>
    have := hf w
    rw [h] at this
    rwa [retryLoop_giveUp h hd]
  | case4 w e w' h hd ih =>
    rw [retryLoop_again h hd]
    intro e he
    rw [since_trans ((le_of_run h).trans (w'.le_wait _)) (retryLoop_le f deadline pause _)] at he
    rcases List.mem_append.mp he with he | he
    · have := hf w
      rw [h] at this
      exact this e he
    · exact ih e he

theorem keeps_retryable {f : Op α} (hf : f.Keeps) (timeout : Int) (pause : Pause) :
    (retryable f timeout pause).Keeps := by
  intro w
  show (retryLoop f (w.now + timeout.toNat) pause w).2.deferred = w.deferred
  generalize w.now + timeout.toNat = deadline
  induction w using retryLoop.induct f deadline pause with
  | case1 w a w' h => rw [retryLoop_ok h, ← h]; exact hf w
  | case2 w e w' h => rw [retryLoop_panic h, ← h]; exact hf w
  | case3 w e w' h hd =>
    rw [retryLoop_giveUp h hd]
    simpa [h] using hf w
  | case4 w e w' h hd ih =>
    rw [retryLoop_again h hd, ih]
    simpa [h] using hf w

/-- `retryable` returns a value only when an attempt returned it. -/
theorem retryable_ok_attempt {f : Op α} {timeout : Int} {pause : Pause} {w w' : World} {a : α}
    (h : (retryable f timeout pause).run w = (.ok a, w')) :
    ∃ w₀, w.Le w₀ ∧ f.run w₀ = (.ok a, w') :=
  retryLoop_ok_attempt h

theorem yields_retryable {P : α → Prop} {f : Op α} (hf : f.Yields P) (timeout : Int)
    (pause : Pause) : (retryable f timeout pause).Yields P := fun w => by
  obtain ⟨a, w₁, ha, hr⟩ := hf.ok w
  exact ⟨a, ha, by rw [show (retryable f timeout pause).run w = _ from retryLoop_ok hr]⟩

end Laforge.Provisioner
