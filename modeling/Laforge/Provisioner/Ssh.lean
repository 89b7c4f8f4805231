import Laforge.Provisioner.Checks
import Laforge.Provisioner.Scripts

/-!
# Laforge.Provisioner.Ssh

The shell provisioner over SSH (`SSHProvisioner` in `provisioner/cmd.go`): the defaults and checks
of `Prepare`, and the run of `Provision` over `Laforge.Provisioner.Scripts`.

Where its run differs from the Windows shell provisioner's:

1. an inline script starts with a `#!` line, its removal is deferred as soon as it exists, and
   a failure to create it ends `Provision` with its error before any script runs;
2. each attempt makes the uploaded copy executable (`chmod 0755`) before it runs the command;
3. a command whose connection drops (`packer.CmdDisconnect`) counts as a success when
   `ExpectDisconnect` is set;
4. the uploaded copy is left in place when `SkipClean` is set;
5. after the scripts it sleeps `PauseAfter`, but only when `pause_after` was given.

The main results say what a run that succeeds did, script by script
(`provision_chmods_and_runs_scripts`), and that, once the inline script exists, it is the one
file `Provision` removes, however the run ends (`provision_removes_inlineScript`).

`time.ParseDuration`, `rand.Intn(9999)`, `os.Stat` and `interpolate.Render` come from outside the
sources and are parameters.
-/

namespace Laforge.Provisioner.Ssh

/-- The fields of `shell.Config` the provisioner reads.  A `nil` slice is `none`. -/
structure Config where
  inline : Option (List String)
  inlineShebang : String
  script : String
  scripts : Option (List String)
  vars : Option (List String)
  remoteFolder : String
  remoteFile : String
  remotePath : String
  executeCommand : String
  useEnvVarFile : Bool
  binary : Bool
  expectDisconnect : Bool
  skipClean : Bool
  rawStartRetryTimeout : String
  rawPauseAfter : String
  /-- `PauseAfter`, a `time.Duration` in nanoseconds -/
  pauseAfter : Int
deriving DecidableEq

/-! ## `Prepare` -/

/-- The defaults `Prepare` fills in; `n` is what `rand.Intn(9999)` returns.  The default
`RemotePath` is built from the folder and file once they have their defaults. -/
def prepareDefaults (n : Nat) (c : Config) : Config :=
  let remoteFolder := if c.remoteFolder = "" then "/tmp" else c.remoteFolder
  let remoteFile := if c.remoteFile = "" then "script_" ++ toString n ++ ".sh" else c.remoteFile
  { c with
    executeCommand := if c.executeCommand = "" then
        if c.useEnvVarFile then "chmod +x \x7b\x7b.Path\x7d\x7d; . \x7b\x7b.EnvVarFile\x7d\x7d && \x7b\x7b.Path\x7d\x7d"
        else "chmod +x \x7b\x7b.Path\x7d\x7d; \x7b\x7b.Vars\x7d\x7d \x7b\x7b.Path\x7d\x7d"
      else c.executeCommand
    inline := if c.inline = some [] then none else c.inline
    inlineShebang := if c.inlineShebang = "" then "/bin/sh -e" else c.inlineShebang
    rawStartRetryTimeout := if c.rawStartRetryTimeout = "" then "5m" else c.rawStartRetryTimeout
    remoteFolder := remoteFolder
    remoteFile := remoteFile
    remotePath := if c.remotePath = "" then remoteFolder ++ "/" ++ remoteFile else c.remotePath
    scripts := some (c.scripts.getD [])
    vars := some (c.vars.getD []) }

/-- A duration field: `time.ParseDuration` of its text, with the error's text after `errPrefix`. -/
def parseField (parseDuration : String → Int × Option String) (errPrefix raw : String) :
    Int × List String :=
  let (d, err) := parseDuration raw
  (d, (err.map (errPrefix ++ ·)).toList)

/-- `SSHProvisioner.Prepare`: the configuration it leaves behind, the `StartRetryTimeout` it
sets on the provisioner, and the texts of the errors it collected.  `parseDuration` is
`time.ParseDuration`: the duration and the error's text. -/
def prepare (statErr : String → Option String) (parseDuration : String → Int × Option String)
    (n : Nat) (c : Config) : (Config × Int) × List String :=
  let c := prepareDefaults n c
  let errs := scriptAndScriptsErrs lowercaseMessages c.script (c.scripts.getD [])
  let c := { c with scripts := some (effectiveScripts c.script (c.scripts.getD [])) }
  let errs := errs ++
    scriptFieldErrs lowercaseMessages statErr (c.scripts.getD []) c.inline (c.vars.getD [])
  let (startRetryTimeout, errs) := if c.rawStartRetryTimeout ≠ "" then
      let (d, e) := parseField parseDuration "Failed parsing start_retry_timeout: "
        c.rawStartRetryTimeout
      (d, errs ++ e)
    -- `time.Duration(6 * time.Minute)`
    else (6 * 60 * 1000000000, errs)
  let (c, errs) := if c.rawPauseAfter ≠ "" then
      let (d, e) := parseField parseDuration "Failed parsing pause_after: " c.rawPauseAfter
      ({ c with pauseAfter := d }, errs ++ e)
    -- `time.Duration(5 * time.Second)`
    else ({ c with pauseAfter := 5 * 1000000000 }, errs)
  ((c, startRetryTimeout), errs)

/-! ## `Provision` -/

section Provision

variable (env : Env) (render : String → List (String × String) → String × Option String)

/-- The inline commands in a new temporary file after the `#!` line, whose error is not looked
at; its name.  Its removal is deferred to the end of `Provision` as soon as it exists. -/
def inlineScript (c : Config) (inline : List String) : Op String :=
  checked env (.tempFile "packer-shell") ("Error preparing shell script: " ++ ·) fun tf => do
    defer (.remove tf.text)
    let _ ← call env (.write tf.text ("#!" ++ c.inlineShebang ++ "\n"))
    writeScript env "Error preparing shell script: " tf.text inline
    let _ ← call env (.close tf.text)
    pure tf.text

/-- The scripts `Provision` runs: `Scripts`, then the inline script. -/
def provisionScripts (c : Config) : Op (List String) :=
  match c.inline with
  | none => pure (c.scripts.getD [])
  | some inline => do
    let temp ← inlineScript env c inline
    pure (c.scripts.getD [] ++ [temp])

/-- The command a script runs with: `ExecuteCommand` rendered with the fields of
`shell.ExecuteCommandTemplate`, of which `Provision` sets only `Path`, to `RemotePath`. -/
def createCommand (c : Config) : Res String :=
  match render c.executeCommand [("Vars", ""), ("EnvVarFile", ""), ("Path", c.remotePath)] with
  | (_, some err) => .error ("Error processing command: " ++ err)
  | (command, none) => .ok command

/-- `SSHProvisioner.retryable`, which sleeps `2 * time.Second` between attempts. -/
def retryable (startRetryTimeout : Int) (f : Op α) : Op α :=
  Provisioner.retryable f startRetryTimeout twoSeconds

/-- One attempt of the upload-and-run: rewind the script, upload it (through `shell.UnixReader`
unless `Binary`), make the copy executable, whose exit status is not looked at, and run the
command; its exit status. -/
def uploadAttempt (c : Config) (path command : String) : Op Int :=
  checked env (.seek path) id fun _ =>
    checked env (.upload c.remotePath (if c.binary then .file path else .unixFile path))
      ("Error uploading script: " ++ ·) fun _ =>
    checked env (.start ("chmod 0755 " ++ c.remotePath))
      ("Error chmodding script file to 0755 in remote machine: " ++ ·) fun _ =>
    checked env (.start command) id fun r => pure r.exitStatus

/-- `SSHProvisioner.cleanupRemoteFile`. -/
def cleanupRemoteFile (startRetryTimeout : Int) (path : String) : Op Unit :=
  retryable startRetryTimeout (cleanupAttempt env ("rm -f " ++ path) path)

/-- The error an exit status gives: a dropped connection is one only when it was not
expected. -/
def exitError (c : Config) (exit : Int) : Option String :=
  if exit = cmdDisconnect then
    if c.expectDisconnect then none
    else some ("script disconnected unexpectedly. If you expected your script to disconnect, " ++
      "i.e. from a restart, you can try adding `expect_disconnect = true` to the laforge " ++
      "script parameters")
  else if exit ≠ 0 then some ("Script exited with non-zero exit status: " ++ toString exit)
  else none

/-- What `Provision` does with each script.  The script is closed only by the deferred
`f.Close()`. -/
def scriptSteps (startRetryTimeout : Int) (c : Config) : ScriptSteps Unit where
  openError := "Error opening shell script: "
  command _ := do
    let command ← ofRes (createCommand render c)
    pure (command, ())
  upload path command := retryable startRetryTimeout (uploadAttempt env c path command)
  closeAfter := false
  exitError _ := exitError c
  cleanup _ := if c.skipClean then pure () else cleanupRemoteFile env startRetryTimeout c.remotePath

/-- `SSHProvisioner.Provision`, with the `StartRetryTimeout` `Prepare` set. -/
def provision (startRetryTimeout : Int) (c : Config) : Op Unit :=
  withDefers env do
    let scripts ← provisionScripts env c
    let _ ← runScripts env (scriptSteps env render startRetryTimeout c) () scripts
    if c.rawPauseAfter ≠ "" then sleep c.pauseAfter.toNat else pure ()

end Provision

/-! ## What a run of `Provision` did -/

section ProvisionRuns

variable {env : Env} {render : String → List (String × String) → String × Option String}
  {startRetryTimeout : Int} {c : Config}

/-- An exit status goes on exactly when it is 0, or a dropped connection that was expected. -/
theorem exitError_eq_none {x : Int} :
    exitError c x = none ↔ x = 0 ∨ c.expectDisconnect = true ∧ x = cmdDisconnect := by
  unfold exitError
  by_cases hd : x = cmdDisconnect
  · subst hd
    cases c.expectDisconnect <;> simp [cmdDisconnect]
  · rw [if_neg hd]
    by_cases h0 : x = 0 <;> simp [hd, h0]

/-- An attempt that succeeded rewound the script, uploaded it, made it executable and ran the
command, each with no error. -/
theorem uploadAttempt_ok {path command : String} {w w' : World} {exit : Int}
    (h : (uploadAttempt env c path command).run w = (.ok exit, w')) :
    ∃ m, (w'.since w).map Event.outcome = [(.seek path, none, 0),
      (.upload c.remotePath (if c.binary then .file path else .unixFile path), none, 0),
      (.start ("chmod 0755 " ++ c.remotePath), none, m), (.start command, none, exit)] := by
  rw [outcomes_checked h]
  obtain ⟨-, h⟩ := checked_ok h
  rw [outcomes_checked h]
  obtain ⟨-, h⟩ := checked_ok h
  rw [outcomes_checked h]
  obtain ⟨-, h⟩ := checked_ok h
  rw [outcomes_checked h]
  obtain ⟨-, h⟩ := checked_ok h
  cases h
  exact ⟨_, by simp only [since_self, List.map_nil]; rfl⟩

theorem provisionScripts_ok {scripts : List String} {w w' : World}
    (h : (provisionScripts env c).run w = (.ok scripts, w')) :
    ∃ extra, scripts = c.scripts.getD [] ++ extra := by
  unfold provisionScripts at h
  split at h
  · cases h; exact ⟨[], (List.append_nil _).symm⟩
  · obtain ⟨_, _, -, h⟩ := bind_ok h
    cases h
    exact ⟨_, rfl⟩

/-- A script's turn that succeeded opened the script, rewound it, uploaded it, made it
executable, ran the command to an exit status that goes on, and, unless `SkipClean`, removed
the uploaded copy with `rm -f`. -/
theorem runScript_block {command path : String} {w w' : World}
    (hcmd : createCommand render c = .ok command)
    (h : (runScript env (scriptSteps env render startRetryTimeout c) () path).run w =
      (.ok (), w')) :
    ∃ b, (∃ m x, (x = 0 ∨ c.expectDisconnect = true ∧ x = cmdDisconnect) ∧
        b = [(.open path, none, 0), (.seek path, none, 0),
          (.upload c.remotePath (if c.binary then .file path else .unixFile path), none, 0),
          (.start ("chmod 0755 " ++ c.remotePath), none, m), (.start command, none, x)] ++
          if c.skipClean then [] else [(.start ("rm -f " ++ c.remotePath), none, 0)]) ∧
      List.Sublist b ((w'.since w).map Event.outcome) := by
  obtain ⟨command', exit, w₁, w₂, w₃, w₄, ho, hle₁, hc, hu, hx, hle₄, hcl⟩ := runScript_ok h
  simp only [scriptSteps, hcmd, ofRes, Op.run_bind, Op.run_pure, Prod.mk.injEq, Res.ok.injEq]
    at hc
  obtain ⟨⟨rfl, -⟩, rfl⟩ := hc
  obtain ⟨w₀, hle₀, hu⟩ := retryable_ok_attempt hu
  obtain ⟨m, hum⟩ := uploadAttempt_ok hu
  refine ⟨_, ⟨m, exit, exitError_eq_none.mp hx, rfl⟩, ?_⟩
  have hle₂ := hle₁.trans hle₀
  have hle₃ := hle₄.trans (le_of_run hcl)
  refine @sublist_since_append _ _ _ [(.open path, none, 0)] _ (World.le_after env _ w)
    (hle₂.trans ((le_of_run hu).trans hle₃)) ?_ ?_
  · simp [since_after, Event.outcome, ho]
  refine @sublist_since_append _ _ _ [(.seek path, none, 0),
    (.upload c.remotePath (if c.binary then .file path else .unixFile path), none, 0),
    (.start ("chmod 0755 " ++ c.remotePath), none, m), (.start command, none, exit)] _
    (hle₂.trans (le_of_run hu)) hle₃ ?_ ?_
  · rw [← hum]
    exact sublist_since hle₂ (le_of_run hu)
  · cases hs : c.skipClean
    · simp only [scriptSteps, hs] at hcl
      obtain ⟨w₅, hle₅, hcl⟩ := retryable_ok_attempt hcl
      rw [if_neg Bool.false_ne_true, ← cleanupAttempt_ok hcl]
      exact sublist_since (hle₄.trans hle₅) (le_of_run hcl)
    · exact List.nil_sublist _

/-- **A run of `Provision` that succeeded ran each script of `Scripts`, in order**: it opened
the script, rewound it, uploaded it to `RemotePath` (through `shell.UnixReader` unless
`Binary`), made the copy executable, ran the command to exit status 0, or to a dropped
connection when `ExpectDisconnect` is set, and, unless `SkipClean`, removed the copy with
`rm -f`, before it went on to the next script. -/
theorem provision_chmods_and_runs_scripts {command : String} {w w' : World}
    (hcmd : createCommand render c = .ok command)
    (h : (provision env render startRetryTimeout c).run w = (.ok (), w')) :
    ∃ bs, List.Forall₂ (fun path b => ∃ m x, (x = 0 ∨ c.expectDisconnect = true ∧ x = cmdDisconnect) ∧
        b = [(.open path, none, 0), (.seek path, none, 0),
          (.upload c.remotePath (if c.binary then .file path else .unixFile path), none, 0),
          (.start ("chmod 0755 " ++ c.remotePath), none, m), (.start command, none, x)] ++
          if c.skipClean then [] else [(.start ("rm -f " ++ c.remotePath), none, 0)])
        (c.scripts.getD []) bs ∧
      List.Sublist bs.flatten ((w'.since w).map Event.outcome) := by
  obtain ⟨w₁, hb, hp⟩ := withDefers_ok h
  obtain ⟨scripts, w₂, hs, hb₂⟩ := bind_ok hb
  obtain ⟨_, w₃, hr, hb₃⟩ := bind_ok hb₂
  obtain ⟨extra, rfl⟩ := provisionScripts_ok hs
  obtain ⟨bs, hbs, hsub⟩ :=
    forall₂_runScripts (fun _ _ _ _ _ _ h => ⟨trivial, runScript_block hcmd h⟩) _ _ _ _ _ trivial hr
  have hsplit := List.forall₂_take (c.scripts.getD []).length hbs
  rw [List.take_left] at hsplit
  refine ⟨_, hsplit, ?_⟩
  rw [← List.take_append_drop (c.scripts.getD []).length bs, List.flatten_append] at hsub
  exact (List.sublist_append_left _ _).trans (hsub.trans
    ((sublist_since_of_le (le_of_run hr) (le_of_run hb₃)).trans ((sublist_since (le_of_run hs)
      ((le_of_run hr).trans (le_of_run hb₃))).trans (hp.sublist.map _))))

theorem yields_inlineScript (henv : Cooperative env) (inline : List String) :
    (inlineScript env c inline).Yields fun _ => True :=
  yields_checked henv fun _ _ _ => yields_bind (yields_defer _) fun _ _ =>
    yields_bind (yields_call_ok henv _) fun _ _ =>
      yields_bind (yields_writeScript henv _ _ _) fun _ _ =>
        yields_bind (yields_call_ok henv _) fun _ _ => yields_pure trivial

theorem yields_uploadAttempt (henv : Cooperative env) (path command : String) :
    (uploadAttempt env c path command).Yields fun exit => exit = 0 :=
  yields_checked henv fun _ _ _ => yields_checked henv fun _ _ _ =>
    yields_checked henv fun _ _ _ => yields_checked henv fun _ _ hx => yields_pure hx

/-- Against a cooperative machine, `Provision` succeeds once the command renders. -/
theorem yields_provision (henv : Cooperative env) {command : String}
    (hcmd : createCommand render c = .ok command) :
    (provision env render startRetryTimeout c).Yields fun _ => True := by
  have hscripts : (provisionScripts env c).Yields fun _ => True := by
    unfold provisionScripts
    split
    · exact yields_pure trivial
    · exact yields_bind (yields_inlineScript henv _) fun _ _ => yields_pure trivial
  have hrun : ∀ scripts,
      (runScripts env (scriptSteps env render startRetryTimeout c) () scripts).Yields
        fun _ => True := fun scripts =>
    yields_runScripts henv
      (fun _ _ _ => ⟨(command, ()), trivial, by simp only [scriptSteps, hcmd]; rfl⟩)
      (fun _ _ => yields_retryable (yields_uploadAttempt henv _ _) _ _) (fun _ _ => rfl)
      (fun _ => by
        simp only [scriptSteps]
        split
        · exact yields_pure trivial
        · exact yields_retryable (yields_cleanupAttempt henv _ _) _ _) scripts () trivial
  refine yields_withDefers (yields_bind hscripts fun scripts _ =>
    yields_bind (hrun scripts) fun _ _ => ?_)
  split
  · exact yields_sleep _
  · exact yields_pure trivial

/-- Two scripts run with `Binary` and `SkipClean` unset, so each uploaded copy is removed,
against a machine that answers every call at once and with no error. -/
theorem provision_chmods_and_runs_scripts_cooperative :
    let env : Env := fun _ _ => ⟨none, 0, "", 0⟩
    let c : Config := ⟨none, "/bin/sh -e", "", some ["a.sh", "b.sh"], some [], "/tmp",
      "script_42.sh", "/tmp/script_42.sh", "chmod +x \x7b\x7b.Path\x7d\x7d; \x7b\x7b.Path\x7d\x7d", false, false, true,
      false, "5m", "", 5000000000⟩
    let render : String → List (String × String) → String × Option String := fun t _ => (t, none)
    ∃ w', createCommand render c = .ok c.executeCommand ∧
      (provision env render 300000000000 c).run ⟨0, [], []⟩ = (.ok (), w') ∧
      ∃ bs, List.Forall₂ (fun path b => ∃ m x,
          (x = 0 ∨ c.expectDisconnect = true ∧ x = cmdDisconnect) ∧
          b = [(.open path, none, 0), (.seek path, none, 0),
            (.upload c.remotePath (if c.binary then .file path else .unixFile path), none, 0),
            (.start ("chmod 0755 " ++ c.remotePath), none, m), (.start c.executeCommand, none, x)] ++
            if c.skipClean then [] else [(.start ("rm -f " ++ c.remotePath), none, 0)])
          (c.scripts.getD []) bs ∧
        List.Sublist bs.flatten ((w'.since ⟨0, [], []⟩).map Event.outcome) := by
  intro env c render
  have hcmd : createCommand render c = .ok c.executeCommand := rfl
  have henv : Cooperative env := fun _ _ => ⟨rfl, rfl⟩
  obtain ⟨_, w', -, h⟩ := (yields_provision henv hcmd).ok ⟨0, [], []⟩
  exact ⟨w', hcmd, h, provision_chmods_and_runs_scripts hcmd h⟩

/-! ## The removal of the inline script -/

theorem keeps_uploadAttempt (path command : String) : (uploadAttempt env c path command).Keeps :=
  keeps_checked fun _ => keeps_checked fun _ => keeps_checked fun _ => keeps_checked fun _ =>
    keeps_pure _

theorem only_uploadAttempt (path command : String) :
    (uploadAttempt env c path command).Only NotRemove :=
  only_checked (fun _ h => Call.noConfusion h) fun _ => only_checked (fun _ h => Call.noConfusion h)
    fun _ => only_checked (fun _ h => Call.noConfusion h) fun _ =>
      only_checked (fun _ h => Call.noConfusion h) fun _ => only_pure _

/-- The steps of a script's turn defer nothing. -/
theorem keeps_scriptSteps : (scriptSteps env render startRetryTimeout c).Keeps where
  command _ := keeps_bind (keeps_ofRes _) fun _ => keeps_pure _
  upload _ _ := keeps_retryable (keeps_uploadAttempt _ _) _ _
  cleanup _ := by
    dsimp only [scriptSteps]
    split
    · exact keeps_pure _
    · exact keeps_retryable (keeps_cleanupAttempt _ _) _ _

/-- The steps of a script's turn remove no local file. -/
theorem only_scriptSteps : (scriptSteps env render startRetryTimeout c).Only NotRemove where
  command _ := only_bind (only_ofRes _) fun _ => only_pure _
  upload _ _ := only_retryable (only_uploadAttempt _ _) _ _
  cleanup _ := by
    dsimp only [scriptSteps]
    split
    · exact only_pure _
    · exact only_retryable (only_cleanupAttempt fun _ h => Call.noConfusion h) _ _

theorem provisionScripts_inline {inline : List String} (hi : c.inline = some inline) :
    provisionScripts env c = inlineScript env c inline >>= fun temp =>
      pure (c.scripts.getD [] ++ [temp]) := by
  rw [provisionScripts, hi]

/-- **The inline script is removed exactly once, however `Provision` ends**: once
`ioutil.TempFile` has created it, the one file `Provision` removes is that script, whether the
scripts all ran or writing it, opening a script, an upload, a command or the removal of an
uploaded copy failed. -/
theorem provision_removes_inlineScript {inline : List String} {w : World}
    (hi : c.inline = some inline) (ht : (env w.log (.tempFile "packer-shell")).err = none) :
    removed (((provision env render startRetryTimeout c).run w).2.since w) =
      [(env w.log (.tempFile "packer-shell")).text] := by
  have htail : ∀ u : Unit, (if c.rawPauseAfter ≠ "" then sleep c.pauseAfter.toNat
      else (pure u : Op Unit)).Keeps := fun _ => by
    split
    · exact keeps_sleep _
    · exact keeps_pure _
  refine removed_withDefers ?_ ?_
  · rw [provisionScripts_inline hi]
    refine only_bind (only_bind ?_ fun _ => only_pure _) fun scripts =>
      only_bind (only_runScripts only_scriptSteps (fun _ _ h => Call.noConfusion h)
        (fun _ _ h => Call.noConfusion h) _ _) fun _ => ?_
    · exact only_checked (fun _ h => Call.noConfusion h) fun _ => only_bind (only_defer _) fun _ =>
        only_bind (only_call fun _ h => Call.noConfusion h) fun _ =>
          only_bind (only_writeScript (fun _ _ h => Call.noConfusion h)
            (fun _ h => Call.noConfusion h) _) fun _ =>
            only_bind (only_call fun _ h => Call.noConfusion h) fun _ => only_pure _
    · split
      · exact only_sleep _
      · exact only_pure _
  · rw [provisionScripts_inline hi]
    refine defersRemoval_bind (defersRemoval_bind (defersRemoval_checked ht
      (defersRemoval_defer fun _ => (keeps_bind (keeps_call _ _) fun _ =>
        keeps_bind (keeps_writeScript _ _ _) fun _ =>
          keeps_bind (keeps_call _ _) fun _ => keeps_pure _).defersNoRemove))
      fun _ => (keeps_pure _).defersNoRemove) fun scripts =>
      defersNoRemove_bind (defersNoRemove_runScripts keeps_scriptSteps _ _) fun u =>
        (htail u).defersNoRemove

/-- The inline script is created, and opening it fails: the run ends with that error, and the
script is removed. -/
theorem provision_removes_inlineScript_open_error :
    let env : Env := fun _ call => match call with
      | .tempFile _ => ⟨none, 0, "/tmp/packer-shell123", 0⟩
      | .open _ => ⟨some "permission denied", 0, "", 0⟩
      | _ => ⟨none, 0, "", 0⟩
    let c : Config := ⟨some ["reboot"], "/bin/sh -e", "", some [], some [], "/tmp",
      "script_42.sh", "/tmp/script_42.sh", "chmod +x \x7b\x7b.Path\x7d\x7d; \x7b\x7b.Path\x7d\x7d", false, false, true,
      false, "5m", "", 5000000000⟩
    let render : String → List (String × String) → String × Option String := fun t _ => (t, none)
    let w : World := ⟨0, [], []⟩
    c.inline = some ["reboot"] ∧ (env w.log (.tempFile "packer-shell")).err = none ∧
      ((provision env render 300000000000 c).run w).1 =
        .error "Error opening shell script: permission denied" ∧
      removed (((provision env render 300000000000 c).run w).2.since w) =
        [(env w.log (.tempFile "packer-shell")).text] := by
  intro env c render w
  exact ⟨rfl, rfl, rfl, provision_removes_inlineScript rfl rfl⟩

end ProvisionRuns

end Laforge.Provisioner.Ssh
