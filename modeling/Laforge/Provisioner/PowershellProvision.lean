import Laforge.Provisioner.Powershell
import Laforge.Provisioner.Scripts

/-!
# Laforge.Provisioner.PowershellProvision

`PowershellProvisioner.Provision` (`src/unnamed/part_003`) over `Laforge.Provisioner.Scripts`:
the loop of the script provisioners, with three parts of its own.

1. The command of each script comes from `createCommandText`.  For an elevated user it uploads
   a runner (`generateElevatedRunner`) and stores the password it rendered in the
   configuration, which the next script renders again: after `n` scripts the configuration
   holds the password rendered `n` times (`provision_elevatedPassword`).
2. A script succeeds when its exit status is one of `ValidExitCodes`; each script ran the
   command `createCommandText` returned from the configuration of its turn
   (`provision_runs_scripts_with_valid_exit`).  `Prepare` fills in `[0]` only for a `nil` list,
   so an empty one fails every script (`provision_fails_of_validExitCodes_nil`).
-/

namespace Laforge.Provisioner.Powershell

section Provision

variable (env : Provisioner.Env)
  (render : String → List (String × String) → String × Option String)

/-- `extractPowershellScript`: the inline commands, each on its line, in a new temporary file,
which a deferred `temp.Close()` closes; its name. -/
def extractPowershellScript (inline : List String) : Op String :=
  withDefers env (checked env (.tempFile "packer-powershell-provisioner") id fun temp => do
    defer (.close temp.text)
    writeScript env "Error preparing powershell script: " temp.text inline
    pure temp.text)

/-- `generateElevatedRunner` as a run: the two `uuid.TimeOrderedUUID()` calls, then the upload of
the runner `elevatedScript` builds from their answers; the runner's path, and the configuration
with the password rendered. -/
def generateElevatedRunnerRun (c : Config) (command : String) : Op (String × Config) := do
  let taskUUID ← call env .uuid
  let pathUUID ← call env .uuid
  let e : Env := ⟨taskUUID.text, pathUUID.text, render, fun _ _ => none⟩
  checked env (.upload (runnerPath e) (.text (elevatedScript e c command)))
    ("Error preparing elevated powershell script: " ++ ·) fun _ =>
      pure (runnerPath e, { c with elevatedPassword := renderedPassword e c })

/-- `createCommandText` as a run: the command and the configuration it leaves. -/
def createCommandTextRun (c : Config) : Op (String × Config) :=
  let data := [("Path", c.remotePath), ("Vars", c.remoteEnvVarPath),
    ("WinRMPassword", c.elevatedPassword)]
  if c.elevatedUser = "" then
    match render c.executeCommand data with
    | (_, some err) => fail ("Error processing command: " ++ err)
    | (command, none) => pure (command, c)
  else
    match render c.elevatedExecuteCommand data with
    | (_, some err) => fail ("Error processing command: " ++ err)
    | (command, none) => do
      let r ← wrapError ("Error generating elevated runner: " ++ ·)
        (generateElevatedRunnerRun env render c command)
      pure ("powershell -noprofile -executionpolicy bypass -file \"" ++ r.1 ++ "\"", r.2)

/-- The configuration `createCommandText` leaves in `p.Config`: for an elevated user, the
password rendered once more. -/
def renderedConfig (s : Config) : Config :=
  if s.elevatedUser = "" then s
  else { s with elevatedPassword := (render s.elevatedPassword [("WinRMPassword", s.elevatedPassword)]).1 }

/-- `fmt.Sprintf("%v", codes)` of an `[]int`. -/
def formatInts (codes : List Int) : String :=
  "[" ++ " ".intercalate (codes.map toString) ++ "]"

/-- The error an exit status gives: none when it is one of `ValidExitCodes`. -/
def exitError (c : Config) (exit : Int) : Option String :=
  if exit ∈ c.validExitCodes.getD [] then none
  else some ("Script exited with non-zero exit status: " ++ toString exit ++
    ". Allowed exit codes are: " ++ formatInts (c.validExitCodes.getD []))

/-- `PowershellProvisioner.retryable`. -/
def retryable (c : Config) (f : Op α) : Op α :=
  Provisioner.retryable f c.startRetryTimeout retryableSleep

/-- `PowershellProvisioner.cleanupRemoteFile`. -/
def cleanupRemoteFile (c : Config) (path : String) : Op Unit :=
  retryable c (cleanupAttempt env ("del /f " ++ path) path)

/-- What `Provision` does with each script; the state is `p.Config`.  The upload reads
`RemotePath` and `StartRetryTimeout` of the configuration `Provision` started with, which
`createCommandText` does not change. -/
def scriptSteps (c : Config) : ScriptSteps Config where
  openError := "Error opening powershell script: "
  command s := wrapError ("Error processing command: " ++ ·) (createCommandTextRun env render s)
  upload path command := retryable c (uploadAndRun env path c.remotePath command)
  closeAfter := true
  exitError := exitError
  cleanup s := cleanupRemoteFile env s s.remotePath

/-- `PowershellProvisioner.Provision`: the configuration it leaves in `p.Config`. -/
def provision (c : Config) : Op Config :=
  withDefers env do
    let scripts ← scriptsWithInline (extractPowershellScript env) (c.scripts.getD []) c.inline
    runScripts env (scriptSteps env render c) c scripts

end Provision

/-! ## What a run of `Provision` did -/

section ProvisionRuns

variable {env : Provisioner.Env} {render : String → List (String × String) → String × Option String}
  {c : Config}

/-- **`createCommandText` stores the password it rendered**: for an elevated user, the
configuration it leaves holds `ElevatedPassword` rendered once more; otherwise it is unchanged. -/
theorem createCommandTextRun_state {s s' : Config} {command : String} {w w' : World}
    (h : (createCommandTextRun env render s).run w = (.ok (command, s'), w')) :
    s' = renderedConfig render s := by
  dsimp only [createCommandTextRun] at h
  unfold renderedConfig
  split_ifs at h ⊢
  · split at h
    · exact absurd h fail_ne_ok
    · cases h
      rfl
  · split at h
    · exact absurd h fail_ne_ok
    obtain ⟨r, w₁, hr, h⟩ := bind_ok h
    cases h
    obtain ⟨_, _, -, hr⟩ := bind_ok (wrapError_ok hr)
    obtain ⟨_, _, -, hr⟩ := bind_ok hr
    obtain ⟨-, hr⟩ := checked_ok hr
    cases hr
    rfl

/-- A turn of the loop leaves the configuration as `createCommandText` left it. -/
theorem runScript_state {s s' : Config} {path : String} {w w' : World}
    (h : (runScript env (scriptSteps env render c) s path).run w = (.ok s', w')) :
    s' = renderedConfig render s := by
  obtain ⟨_, _, _, _, _, _, -, -, hc, -⟩ := runScript_ok h
  exact createCommandTextRun_state (wrapError_ok hc)

/-- After the scripts of an elevated user, the password has been rendered once for each. -/
theorem runScripts_elevatedPassword {s s' : Config} {w w' : World} (hu : s.elevatedUser ≠ "")
    (paths : List String)
    (h : (runScripts env (scriptSteps env render c) s paths).run w = (.ok s', w')) :
    s' = { s with elevatedPassword :=
      ((fun p => (render p [("WinRMPassword", p)]).1)^[paths.length] s.elevatedPassword) } := by
  induction paths generalizing s w with
  | nil => cases h; rfl
  | cons path paths ih =>
    obtain ⟨s₁, w₁, h₁, h₂⟩ := bind_ok h
    have hs₁ := runScript_state h₁
    rw [renderedConfig, if_neg hu] at hs₁
    subst hs₁
    rw [ih (by exact hu) h₂, List.length_cons, Function.iterate_succ_apply]

/-- **Every script of an elevated user renders the password once more**: a run of `Provision`
that succeeded leaves in `p.Config` the `ElevatedPassword` rendered once for each script it ran,
the inline one included; the runner of the `k`-th script was built from the password rendered
`k` times.  A password that does not render to itself changes from one script to the next. -/
theorem provision_elevatedPassword {c' : Config} {w w' : World} (hu : c.elevatedUser ≠ "")
    (h : (provision env render c).run w = (.ok c', w')) :
    c' = { c with elevatedPassword := (fun p => (render p [("WinRMPassword", p)]).1)^[
      (c.scripts.getD []).length + if c.inline.isSome then 1 else 0] c.elevatedPassword } := by
  obtain ⟨w₁, hb, -⟩ := withDefers_ok h
  obtain ⟨scripts, w₂, hs, hr⟩ := bind_ok hb
  obtain ⟨extra, rfl, hlen⟩ := scriptsWithInline_ok hs
  rw [runScripts_elevatedPassword hu _ hr, List.length_append, hlen]

/-- `createCommandText` changes no field but `ElevatedPassword`: the upload, the exit check and
the removal of every turn read what `Provision` started with. -/
theorem iterate_renderedConfig_fields (k : ℕ) :
    ((renderedConfig render)^[k] c).remotePath = c.remotePath ∧
      ((renderedConfig render)^[k] c).validExitCodes = c.validExitCodes := by
  induction k with
  | zero => exact ⟨rfl, rfl⟩
  | succ k ih =>
    rw [Function.iterate_succ_apply']
    unfold renderedConfig
    split <;> exact ih

/-- An exit status goes on exactly when it is one of `ValidExitCodes`. -/
theorem exitError_eq_none {s : Config} {x : Int} :
    exitError s x = none ↔ x ∈ s.validExitCodes.getD [] := by
  unfold exitError
  split_ifs with h <;> simp [h]

/-- A script's turn that succeeded, from the configuration of turn `k`: it opened the script,
rewound it, uploaded it to `RemotePath`, ran the command `createCommandText` returned from that
configuration to one of `ValidExitCodes`, and removed the uploaded copy with `del /f`; it leaves
the configuration of turn `k + 1`. -/
theorem runScript_block {k : ℕ} {s s' : Config} {path : String} {w w' : World}
    (hs : s = (renderedConfig render)^[k] c)
    (h : (runScript env (scriptSteps env render c) s path).run w = (.ok s', w')) :
    s' = (renderedConfig render)^[k + 1] c ∧
      ∃ b, (∃ command s₁ w₀ w₁ x,
          (createCommandTextRun env render ((renderedConfig render)^[k] c)).run w₀ =
            (.ok (command, s₁), w₁) ∧
          x ∈ c.validExitCodes.getD [] ∧
          b = [(.open path, none, 0), (.seek path, none, 0),
            (.upload c.remotePath (.file path), none, 0), (.start command, none, x),
            (.start ("del /f " ++ c.remotePath), none, 0)]) ∧
        List.Sublist b ((w'.since w).map Event.outcome) := by
  subst hs
  obtain ⟨command, exit, w₁, w₂, w₃, w₄, ho, hle₁, hc, hu, hx, hle₄, hcl⟩ := runScript_ok h
  have hcr := wrapError_ok hc
  have hs' : s' = (renderedConfig render)^[k + 1] c := by
    rw [Function.iterate_succ_apply']
    exact createCommandTextRun_state hcr
  obtain ⟨hpath, hcodes⟩ : s'.remotePath = c.remotePath ∧ s'.validExitCodes = c.validExitCodes :=
    hs' ▸ iterate_renderedConfig_fields (k + 1)
  refine ⟨hs', _, ⟨command, s', w₁, w₂, exit, hcr, hcodes ▸ exitError_eq_none.mp hx, rfl⟩, ?_⟩
  simp only [scriptSteps, cleanupRemoteFile, retryable, hpath] at hcl
  exact sublist_open_upload_cleanup ho (hle₁.trans (le_of_run hc)) hu hle₄ hcl

/-- **A run of `Provision` that succeeded ran each script of `Scripts` with the command
`createCommandText` returned for it, to an allowed exit status, in order**: for the script of
turn `k`, it opened the script, rewound it, uploaded it to `RemotePath`, ran the command
`createCommandText` returned from the configuration of turn `k` to one of `ValidExitCodes`,
and removed the uploaded copy with `del /f`, before it went on to the next script. -/
theorem provision_runs_scripts_with_valid_exit {c' : Config} {w w' : World}
    (h : (provision env render c).run w = (.ok c', w')) :
    ∃ bs, List.Forall₂ (fun turn b => ∃ command s₁ w₀ w₁ x,
          (createCommandTextRun env render ((renderedConfig render)^[turn.1] c)).run w₀ =
            (.ok (command, s₁), w₁) ∧
          x ∈ c.validExitCodes.getD [] ∧
          b = [(.open turn.2, none, 0), (.seek turn.2, none, 0),
            (.upload c.remotePath (.file turn.2), none, 0), (.start command, none, x),
            (.start ("del /f " ++ c.remotePath), none, 0)])
        (c.scripts.getD []).enum bs ∧
      List.Sublist bs.flatten ((w'.since w).map Event.outcome) := by
  obtain ⟨w₁, hb, hp⟩ := withDefers_ok h
  obtain ⟨scripts, w₂, hs, hr⟩ := bind_ok hb
  obtain ⟨extra, rfl, -⟩ := scriptsWithInline_ok hs
  obtain ⟨bs, hbs, hsub⟩ := forall₂_runScripts_enum
    (fun k s _ _ _ _ (hs : s = (renderedConfig render)^[k] c) h => runScript_block hs h)
    _ 0 _ _ _ _ rfl hr
  have hsplit := List.forall₂_take (c.scripts.getD []).length hbs
  rw [List.enumFrom_append, List.take_left' List.enumFrom_length] at hsplit
  refine ⟨_, hsplit, ?_⟩
  rw [← List.take_append_drop (c.scripts.getD []).length bs, List.flatten_append] at hsub
  exact (List.sublist_append_left _ _).trans (hsub.trans
    ((sublist_since (le_of_run hs) (le_of_run hr)).trans (hp.sublist.map _)))

/-- **An empty `ValidExitCodes` fails every script**: `Prepare` puts `[0]` only in place of a
`nil` list, and no exit status is one of `[]`, so when the list is empty and there is a script
to run, no run of `Provision` succeeds. -/
theorem provision_fails_of_validExitCodes_nil (hv : c.validExitCodes = some [])
    (hne : c.scripts.getD [] ≠ [] ∨ c.inline.isSome = true) (w : World) (c' : Config) :
    ((provision env render c).run w).1 ≠ .ok c' := by
  intro h
  obtain ⟨w₁, hb, -⟩ := withDefers_ok (Prod.ext h rfl)
  obtain ⟨scripts, w₂, hs, hr⟩ := bind_ok hb
  obtain ⟨extra, rfl, hlen⟩ := scriptsWithInline_ok hs
  have hne' : c.scripts.getD [] ++ extra ≠ [] := by
    rcases hne with hne | hne
    · simp [hne]
    · rw [hne, if_pos rfl] at hlen
      simp [← List.length_pos, hlen]
  obtain ⟨p, ps, hps⟩ := List.exists_cons_of_ne_nil hne'
  rw [hps] at hr
  obtain ⟨_, _, h₁, -⟩ := bind_ok hr
  obtain ⟨-, _, ⟨_, _, _, _, _, -, hx, -⟩, -⟩ :=
    runScript_block (show c = (renderedConfig render)^[0] c from rfl) h₁
  simp [hv] at hx

end ProvisionRuns

/-! ## Against a cooperative machine -/

section Cooperative

variable {env : Provisioner.Env} {render : String → List (String × String) → String × Option String}
  {c : Config}

theorem render_ne_error (hrender : ∀ t d, (render t d).2 = none) {t x err : String}
    {d : List (String × String)} : render t d ≠ (x, some err) :=
  fun h => by simpa [h] using hrender t d

theorem yields_generateElevatedRunnerRun (henv : Cooperative env) (s : Config) (command : String) :
    (generateElevatedRunnerRun env render s command).Yields fun r =>
      r.2.remotePath = s.remotePath ∧ r.2.validExitCodes = s.validExitCodes :=
  yields_bind (yields_call_ok henv _) fun _ _ => yields_bind (yields_call_ok henv _) fun _ _ =>
    yields_checked henv fun _ _ _ => yields_pure ⟨rfl, rfl⟩

theorem yields_createCommandTextRun (henv : Cooperative env)
    (hrender : ∀ t d, (render t d).2 = none) (s : Config) :
    (createCommandTextRun env render s).Yields fun r =>
      r.2.remotePath = s.remotePath ∧ r.2.validExitCodes = s.validExitCodes := by
  dsimp only [createCommandTextRun]
  split_ifs <;> split <;> rename_i heq
  · exact absurd heq (render_ne_error hrender)
  · exact yields_pure ⟨rfl, rfl⟩
  · exact absurd heq (render_ne_error hrender)
  · exact yields_bind (yields_wrapError (yields_generateElevatedRunnerRun henv s _))
      fun _ hr => yields_pure hr

theorem yields_extractPowershellScript (henv : Cooperative env) (inline : List String) :
    (extractPowershellScript env inline).Yields fun _ => True :=
  yields_withDefers (yields_checked henv fun _ _ _ => yields_bind (yields_defer _) fun _ _ =>
    yields_bind (yields_writeScript henv _ _ _) fun _ _ => yields_pure trivial)

/-- Against a cooperative machine, `Provision` succeeds when every command renders and exit
status 0 is allowed. -/
theorem yields_provision (henv : Cooperative env) (hrender : ∀ t d, (render t d).2 = none)
    (hvalid : 0 ∈ c.validExitCodes.getD []) :
    (provision env render c).Yields fun c' =>
      c'.remotePath = c.remotePath ∧ c'.validExitCodes = c.validExitCodes :=
  yields_withDefers (yields_bind
    (yields_scriptsWithInline (yields_extractPowershellScript henv) _ _) fun scripts _ =>
      yields_runScripts henv
        (fun s hs => (yields_wrapError (yields_createCommandTextRun henv hrender s)).mono
          fun _ hr => ⟨hr.1.trans hs.1, hr.2.trans hs.2⟩)
        (fun _ _ => yields_retryable (yields_uploadAndRun henv _ _ _) _ _)
        (fun _ hs => exitError_eq_none.mpr (by rw [hs.2]; exact hvalid))
        (fun _ => yields_retryable (yields_cleanupAttempt henv _ _) _ _) scripts c ⟨rfl, rfl⟩)

end Cooperative

/-- Two scripts run for an elevated user, with a render that appends to its text, against a
machine that answers every call at once and with no error: the password has grown twice. -/
theorem provision_elevatedPassword_twice :
    let env : Provisioner.Env := fun _ _ => ⟨none, 0, "", 0⟩
    let render : String → List (String × String) → String × Option String :=
      fun t _ => (t ++ "!", none)
    let c : Config := ⟨none, "", some ["a.ps1", "b.ps1"], some [], "c:/Windows/Temp/script.ps1",
      "c:/Windows/Temp/packer-ps-env-vars.ps1", defaultExecuteCommand, defaultExecuteCommand,
      "packer", "secret", "", "", 300000000000, some [0]⟩
    c.elevatedUser ≠ "" ∧ ∃ c' w', (provision env render c).run ⟨0, [], []⟩ = (.ok c', w') ∧
      c' = { c with elevatedPassword := "secret!!" } := by
  intro env render c
  have hu : c.elevatedUser ≠ "" := by decide
  have henv : Cooperative env := fun _ _ => ⟨rfl, rfl⟩
  have hrender : ∀ t d, (render t d).2 = none := fun _ _ => rfl
  have hvalid : 0 ∈ c.validExitCodes.getD [] := by decide
  obtain ⟨c', w', -, h⟩ := (yields_provision henv hrender hvalid).ok ⟨0, [], []⟩
  exact ⟨hu, c', w', h, provision_elevatedPassword hu h⟩

/-- Two scripts run with exit statuses 0 and 3010 allowed, against a machine that answers
every call at once and with no error. -/
theorem provision_runs_scripts_with_valid_exit_cooperative :
    let env : Provisioner.Env := fun _ _ => ⟨none, 0, "", 0⟩
    let render : String → List (String × String) → String × Option String := fun t _ => (t, none)
    let c : Config := ⟨none, "", some ["a.ps1", "b.ps1"], some [], "c:/Windows/Temp/script.ps1",
      "c:/Windows/Temp/packer-ps-env-vars.ps1", defaultExecuteCommand, defaultExecuteCommand,
      "", "", "", "", 300000000000, some [0, 3010]⟩
    ∃ c' w', (provision env render c).run ⟨0, [], []⟩ = (.ok c', w') ∧
      ∃ bs, List.Forall₂ (fun turn b => ∃ command s₁ w₀ w₁ x,
            (createCommandTextRun env render ((renderedConfig render)^[turn.1] c)).run w₀ =
              (.ok (command, s₁), w₁) ∧
            x ∈ c.validExitCodes.getD [] ∧
            b = [(.open turn.2, none, 0), (.seek turn.2, none, 0),
              (.upload c.remotePath (.file turn.2), none, 0), (.start command, none, x),
              (.start ("del /f " ++ c.remotePath), none, 0)])
          (c.scripts.getD []).enum bs ∧
        List.Sublist bs.flatten ((w'.since ⟨0, [], []⟩).map Event.outcome) := by
  intro env render c
  have henv : Cooperative env := fun _ _ => ⟨rfl, rfl⟩
  have hrender : ∀ t d, (render t d).2 = none := fun _ _ => rfl
  have hvalid : 0 ∈ c.validExitCodes.getD [] := by decide
  obtain ⟨c', w', -, h⟩ := (yields_provision henv hrender hvalid).ok ⟨0, [], []⟩
  exact ⟨c', w', h, provision_runs_scripts_with_valid_exit h⟩

/-- `valid_exit_codes = []`, for a script that runs to exit status 0. -/
theorem provision_fails_of_validExitCodes_nil_zero :
    let env : Provisioner.Env := fun _ _ => ⟨none, 0, "", 0⟩
    let render : String → List (String × String) → String × Option String := fun t _ => (t, none)
    let c : Config := ⟨none, "", some ["a.ps1"], some [], "c:/Windows/Temp/script.ps1",
      "c:/Windows/Temp/packer-ps-env-vars.ps1", defaultExecuteCommand, defaultExecuteCommand,
      "", "", "", "", 300000000000, some []⟩
    c.validExitCodes = some [] ∧ (c.scripts.getD [] ≠ [] ∨ c.inline.isSome = true) ∧
      ∀ c', ((provision env render c).run ⟨0, [], []⟩).1 ≠ .ok c' :=
  ⟨rfl, .inl (by decide), provision_fails_of_validExitCodes_nil rfl (.inl (by decide)) _⟩

end Laforge.Provisioner.Powershell
