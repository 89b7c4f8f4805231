import Mathlib.Data.List.Dedup
import Laforge.Provisioner.Checks
import Laforge.Provisioner.Scripts

/-!
# Laforge.Provisioner.Cmd

The Windows shell provisioner (`WindowsCmdProvisioner` in `provisioner/cmd.go`): what `Prepare`
accepts, and the `set` prefix `createFlattenedEnvVars` builds for every script.

`createFlattenedEnvVars` indexes `keyValue[1]` on the split of every variable, which panics
on a variable with no `=`.  `Prepare` (run by `SetConfig`, so by `New`) rejects such a
variable, and the main result says that on an accepted configuration the function returns, and
returns the text its comments describe (`createFlattenedEnvVars_of_prepare`):

1. the keys are those of the built-in `PACKER_*` variables and of `Vars`, each once, in
   increasing order;
2. a key's value is that of its last assignment, so `Vars` overrides a built-in.

A run of `Provision` that succeeds ran each script in order (`provision_runs_scripts`).  When
the inline commands cannot be written, `Provision` goes on with the path `""`, so it never
succeeds, and it leaves behind the temporary file it created (`provision_extract_error`).

Three things the provisioner reads come from outside the sources and are parameters:
`os.Stat` (see `Laforge.Provisioner.Checks`), `winshell.DefaultRemotePath`, and
`common.GetHTTPAddr()`.  `fmt.Sprintf` with string arguments is a parameter `sprintf` too: the
results hold for every formatting function.
-/

namespace Laforge.Provisioner.Cmd

open Laforge.Go

/-- The fields of `winshell.Config` the provisioner reads.  A `nil` slice is `none`. -/
structure Config where
  /-- `PackerBuildName`, from the embedded `common.PackerConfig` -/
  packerBuildName : String
  /-- `PackerBuilderType`, from the embedded `common.PackerConfig` -/
  packerBuilderType : String
  inline : Option (List String)
  script : String
  scripts : Option (List String)
  vars : Option (List String)
  remotePath : String
  executeCommand : String
  /-- `StartRetryTimeout`, a `time.Duration` in nanoseconds -/
  startRetryTimeout : Int
  envVarFormat : String
deriving DecidableEq

/-- The texts of the script checks in `cmd.go`. -/
def cmdMessages : ScriptMessages :=
  ⟨"Only one of script or scripts can be specified",
    "Either a script file or inline script must be specified",
    "Only a script file or an inline script can be specified, not both"⟩

/-- The defaults `Prepare` fills in.  Each of its `if`s reads only the field it sets. -/
def prepareDefaults (defaultRemotePath : String) (c : Config) : Config :=
  { c with
    envVarFormat := if c.envVarFormat = "" then "set \"%s=%s\" && " else c.envVarFormat
    executeCommand := if c.executeCommand = "" then "\x7b\x7b.Vars\x7d\x7d\"\x7b\x7b.Path\x7d\x7d\""
      else c.executeCommand
    inline := if c.inline = some [] then none else c.inline
    -- `5 * time.Minute`
    startRetryTimeout := if c.startRetryTimeout = 0 then 5 * 60 * 1000000000
      else c.startRetryTimeout
    remotePath := if c.remotePath = "" then defaultRemotePath else c.remotePath
    scripts := some (c.scripts.getD [])
    vars := some (c.vars.getD []) }

/-- `WindowsCmdProvisioner.Prepare`: the configuration it leaves behind, and the texts of the
errors it collected (it returns `nil` when there are none). -/
def prepare (statErr : String → Option String) (defaultRemotePath : String) (c : Config) :
    Config × List String :=
  let c := prepareDefaults defaultRemotePath c
  let errs := scriptAndScriptsErrs cmdMessages c.script (c.scripts.getD [])
  let c := { c with scripts := some (effectiveScripts c.script (c.scripts.getD [])) }
  (c, errs ++ scriptFieldErrs cmdMessages statErr (c.scripts.getD []) c.inline (c.vars.getD []))

/-- `keyValue[i]`; out of range, the run panics. -/
def index (xs : List String) (i : Nat) : Except String String :=
  match xs.get? i with
  | some x => .ok x
  | none => .error (indexOutOfRange i xs.length)

/-- One turn of the loop over `Vars`: `envVars[keyValue[0]] = keyValue[1]`. -/
def setVar (envVars : GoMap) (envVar : String) : Except String GoMap := do
  let keyValue := splitN2 envVar '='
  let k ← index keyValue 0
  let v ← index keyValue 1
  return envVars.insert k v

/-- The map `createFlattenedEnvVars` builds: the built-in variables, then every entry of
`Vars` split at its first `=`. -/
def envVarsMap (httpAddr : String) (c : Config) : Except String GoMap :=
  let envVars := (GoMap.empty.insert "PACKER_BUILD_NAME" c.packerBuildName).insert
    "PACKER_BUILDER_TYPE" c.packerBuilderType
  let envVars := if httpAddr ≠ "" then envVars.insert "PACKER_HTTP_ADDR" httpAddr else envVars
  (c.vars.getD []).foldlM setVar envVars

/-- `createFlattenedEnvVars`: `EnvVarFormat` applied to every key of the map and its value,
keys in increasing order, concatenated.  `sprintf` is `fmt.Sprintf`. -/
def createFlattenedEnvVars (sprintf : String → List String → String) (httpAddr : String)
    (c : Config) : Except String String := do
  let envVars ← envVarsMap httpAddr c
  return String.join ((sortStrings envVars.keys).map fun key =>
    sprintf c.envVarFormat [key, envVars.get key])

/-! ## The flattened variables as the comments describe them -/

/-- The built-in variables, in the order they are set. -/
def builtinVars (httpAddr : String) (c : Config) : List (String × String) :=
  [("PACKER_BUILD_NAME", c.packerBuildName), ("PACKER_BUILDER_TYPE", c.packerBuilderType)] ++
    if httpAddr ≠ "" then [("PACKER_HTTP_ADDR", httpAddr)] else []

/-- A variable `key=value` as a pair. -/
def varPair (kv : String) : String × String :=
  match splitN2 kv '=' with
  | [k, v] => (k, v)
  | _ => (kv, "")

/-- Over the distinct keys of the built-in variables and of `Vars`, in increasing order,
`EnvVarFormat` applied to the key and the value of its last assignment. -/
def flattenedSpec (sprintf : String → List String → String) (httpAddr : String) (c : Config) :
    String :=
  let ps := builtinVars httpAddr c ++ (c.vars.getD []).map varPair
  String.join ((sortStrings (ps.map Prod.fst).dedup).map fun k =>
    sprintf c.envVarFormat [k, GoMap.lastValue ps k])

/-! ## `Prepare` -/

theorem prepare_vars (statErr : String → Option String) (d : String) (c : Config) :
    (prepare statErr d c).1.vars = some (c.vars.getD []) := rfl

theorem prepare_errs (statErr : String → Option String) (d : String) (c : Config) :
    (prepare statErr d c).2 =
      scriptAndScriptsErrs cmdMessages (prepareDefaults d c).script
          ((prepareDefaults d c).scripts.getD []) ++
        scriptFieldErrs cmdMessages statErr ((prepare statErr d c).1.scripts.getD [])
          (prepare statErr d c).1.inline ((prepare statErr d c).1.vars.getD []) := rfl

theorem inline_prepareDefaults_ne_none (d : String) (c : Config) :
    (prepareDefaults d c).inline ≠ none ↔ ∃ l, c.inline = some l ∧ l ≠ [] := by
  unfold prepareDefaults
  rcases c with ⟨_, _, _ | _ | _, _⟩ <;> simp

/-- **What `Prepare` accepts**: not both `script` and `scripts`; once `Scripts` holds the single
script, scripts or (non-empty) inline commands but not both; every script found; every variable
`key=value` with a non-empty key. -/
theorem prepare_accepts_iff (statErr : String → Option String) (d : String) (c : Config) :
    (prepare statErr d c).2 = [] ↔
      (c.script = "" ∨ c.scripts.getD [] = []) ∧
      (effectiveScripts c.script (c.scripts.getD []) = [] ↔ ∃ l, c.inline = some l ∧ l ≠ []) ∧
      (∀ p ∈ effectiveScripts c.script (c.scripts.getD []), statErr p = none) ∧
      ∀ kv ∈ c.vars.getD [], varErr kv = none := by
  rw [prepare_errs, List.append_eq_nil, scriptAndScriptsErrs_eq_nil_iff,
    scriptFieldErrs_eq_nil_iff]
  exact Iff.rfl.and ((Iff.rfl.iff (inline_prepareDefaults_ne_none d c)).and Iff.rfl)

/-! ## `createFlattenedEnvVars` -/

theorem splitN2_of_not_mem {s : String} {sep : Char} (h : sep ∉ s.data) : splitN2 s sep = [s] :=
  if_neg h

theorem mem_of_varErr_eq_none {kv : String} (h : varErr kv = none) : '=' ∈ kv.data := by
  obtain ⟨k, v, hkv, -⟩ := (varErr_eq_none_iff kv).mp h
  by_contra hn
  simp [splitN2_of_not_mem hn] at hkv

/-- A turn of the loop assigns the variable's pair, or panics on `keyValue[1]` when the
variable has no `=`. -/
theorem setVar_eq (m : GoMap) (kv : String) :
    setVar m kv = if '=' ∈ kv.data then .ok (m.insert (varPair kv).1 (varPair kv).2)
      else .error (indexOutOfRange 1 1) := by
  unfold setVar varPair splitN2
  by_cases h : '=' ∈ kv.data <;> simp [h, index] <;> rfl

/-- The whole loop: the run of assignments of the variables' pairs, unless a variable has no
`=`. -/
theorem foldlM_setVar (vars : List String) (m : GoMap) :
    vars.foldlM setVar m = if ∀ kv ∈ vars, '=' ∈ kv.data then .ok (m.insertAll (vars.map varPair))
      else .error (indexOutOfRange 1 1) := by
  induction vars generalizing m with
  | nil => rfl
  | cons kv vars ih =>
    rw [List.foldlM_cons, setVar_eq]
    by_cases h : '=' ∈ kv.data
    · simp only [h, if_true, List.forall_mem_cons, true_and, List.map_cons]
      exact ih _
    · simp [h]; rfl

theorem envVarsMap_eq (httpAddr : String) (c : Config) :
    envVarsMap httpAddr c = if ∀ kv ∈ c.vars.getD [], '=' ∈ kv.data then
      .ok (GoMap.empty.insertAll (builtinVars httpAddr c ++ (c.vars.getD []).map varPair))
    else .error (indexOutOfRange 1 1) := by
  rw [envVarsMap, foldlM_setVar]
  by_cases h : httpAddr = "" <;> simp [h, builtinVars, GoMap.insertAll]

/-- The keys of a run of assignments from the empty map, each once, in increasing order. -/
theorem sortStrings_keys_insertAll (ps : List (String × String)) :
    sortStrings (GoMap.empty.insertAll ps).keys = sortStrings (ps.map Prod.fst).dedup := by
  refine sortStrings_eq_of_perm ?_ (GoMap.keys_nodup _)
  refine (List.perm_ext_iff_of_nodup (GoMap.keys_nodup _) (List.nodup_dedup _)).mpr fun k => ?_
  rw [GoMap.mem_keys_insertAll, List.mem_dedup]
  simp [GoMap.empty, GoMap.keys]

/-- The flattened text of the map built from the pairs `ps` is the specified one. -/
theorem flatten_insertAll (sprintf : String → List String → String) (f : String)
    (ps : List (String × String)) :
    String.join ((sortStrings (GoMap.empty.insertAll ps).keys).map fun key =>
        sprintf f [key, (GoMap.empty.insertAll ps).get key]) =
      String.join ((sortStrings (ps.map Prod.fst).dedup).map fun k =>
        sprintf f [k, GoMap.lastValue ps k]) := by
  rw [sortStrings_keys_insertAll]
  refine congrArg String.join (List.map_congr_left fun k hk => ?_)
  rw [GoMap.get_insertAll, if_pos (List.mem_dedup.mp ((sortStrings_perm _).subset hk))]

/-- **`createFlattenedEnvVars`**: the text its comments describe when every variable has an
`=`, a panic on `keyValue[1]` otherwise. -/
theorem createFlattenedEnvVars_eq (sprintf : String → List String → String)
    (httpAddr : String) (c : Config) :
    createFlattenedEnvVars sprintf httpAddr c =
      if ∀ kv ∈ c.vars.getD [], '=' ∈ kv.data then .ok (flattenedSpec sprintf httpAddr c)
      else .error (indexOutOfRange 1 1) := by
  rw [createFlattenedEnvVars, envVarsMap_eq]
  split
  · exact congrArg Except.ok (flatten_insertAll _ _ _)
  · rfl

example : createFlattenedEnvVars (fun _ args => "=".intercalate args ++ ";") ""
    ⟨"web", "vsphere", none, "", none, some ["B=1", "PACKER_BUILD_NAME=x", "B=2"], "", "", 0, ""⟩ =
      .ok "B=2;PACKER_BUILDER_TYPE=vsphere;PACKER_BUILD_NAME=x;" := rfl

example : createFlattenedEnvVars (fun _ args => "=".intercalate args ++ ";") ""
    ⟨"web", "vsphere", none, "", none, some ["B=1", "DEBUG"], "", "", 0, ""⟩ =
      .error "runtime error: index out of range [1] with length 1" := rfl

/-- **Accepted configurations flatten as described**: once `Prepare` has returned no error,
`createFlattenedEnvVars` does not panic, and returns, over the distinct keys of the built-in
variables and of `Vars` in increasing order, `EnvVarFormat` applied to each key and its value,
the value of a key being that of its last assignment. -/
theorem createFlattenedEnvVars_of_prepare (statErr : String → Option String)
    (defaultRemotePath : String) (sprintf : String → List String → String) (httpAddr : String)
    (c : Config) (h : (prepare statErr defaultRemotePath c).2 = []) :
    createFlattenedEnvVars sprintf httpAddr (prepare statErr defaultRemotePath c).1 =
      .ok (flattenedSpec sprintf httpAddr (prepare statErr defaultRemotePath c).1) :=
  (createFlattenedEnvVars_eq sprintf httpAddr _).trans
    (if_pos fun kv hkv => mem_of_varErr_eq_none (((prepare_accepts_iff _ _ _).mp h).2.2.2 kv hkv))

/-- A script with three variables, one assigned twice and one overriding a built-in. -/
theorem createFlattenedEnvVars_of_prepare_override :
    let c : Config := ⟨"web", "vsphere", none, "run.bat", none,
      some ["B=1", "PACKER_BUILD_NAME=x", "B=2"], "", "", 0, ""⟩
    let sprintf : String → List String → String := fun f args => f ++ "|" ++ String.join args
    (prepare (fun _ => none) "c:/Windows/Temp/script.bat" c).2 = [] ∧
      createFlattenedEnvVars sprintf "" (prepare (fun _ => none) "c:/Windows/Temp/script.bat" c).1 =
        .ok (flattenedSpec sprintf "" (prepare (fun _ => none) "c:/Windows/Temp/script.bat" c).1) :=
  ⟨by decide, createFlattenedEnvVars_of_prepare _ _ _ _ _ (by decide)⟩

/-! ## `Provision`

The run of the scripts, over `Laforge.Provisioner.Scripts`.  `interpolate.Render` is a parameter
`render`, given the template and the fields of its data; it returns the text and the error. -/

section Provision

variable (env : Env) (sprintf : String → List String → String) (httpAddr : String)
  (render : String → List (String × String) → String × Option String)

/-- `extractCmdScript`: the inline commands, each on its line, in a new temporary file; its
name.  The file is closed only when every write succeeded. -/
def extractCmdScript (inline : List String) : Op String :=
  checked env (.tempFile "packer-windows-shell-provisioner") id fun temp => do
    writeScript env "Error preparing shell script: " temp.text inline
    let _ ← call env (.close temp.text)
    pure temp.text

/-- The command a script runs with: the flattened variables (a panic when one has no `=`), and
`ExecuteCommand` rendered with them and `RemotePath`. -/
def createCommand (c : Config) : Res String :=
  match createFlattenedEnvVars sprintf httpAddr c with
  | .error e => .panic e
  | .ok flattenedVars =>
    match render c.executeCommand
        [("Vars", flattenedVars), ("Path", c.remotePath), ("WinRMPassword", "")] with
    | (_, some err) => .error ("Error processing command: " ++ err)
    | (command, none) => .ok command

/-- `WindowsCmdProvisioner.retryable`. -/
def retryable (c : Config) (f : Op α) : Op α :=
  Provisioner.retryable f c.startRetryTimeout retryableSleep

/-- `WindowsCmdProvisioner.cleanupRemoteFile`. -/
def cleanupRemoteFile (c : Config) (path : String) : Op Unit :=
  retryable c (cleanupAttempt env ("del /f " ++ path) path)

/-- What `Provision` does with each script. -/
def scriptSteps (c : Config) : ScriptSteps Unit where
  openError := "Error opening shell script: "
  command _ := do
    let command ← ofRes (createCommand sprintf httpAddr render c)
    pure (command, ())
  upload path command := retryable c (uploadAndRun env path c.remotePath command)
  closeAfter := true
  exitError _ exit :=
    if exit ≠ 0 then some ("Script exited with non-zero exit status: " ++ toString exit) else none
  cleanup _ := cleanupRemoteFile env c c.remotePath

/-- `WindowsCmdProvisioner.Provision`. -/
def provision (c : Config) : Op Unit :=
  withDefers env do
    let scripts ← scriptsWithInline (extractCmdScript env) (c.scripts.getD []) c.inline
    let _ ← runScripts env (scriptSteps env sprintf httpAddr render c) () scripts
    pure ()

end Provision

/-! ## What a run of `Provision` did -/

section ProvisionRuns

variable {env : Env} {sprintf : String → List String → String} {httpAddr : String}
  {render : String → List (String × String) → String × Option String} {c : Config}

/-- A script's turn that succeeded opened the script, rewound it, uploaded it, ran the command
to exit status 0 and removed the uploaded copy with `del /f`. -/
theorem runScript_sublist {command path : String} {w w' : World}
    (hcmd : createCommand sprintf httpAddr render c = .ok command)
    (h : (runScript env (scriptSteps env sprintf httpAddr render c) () path).run w = (.ok (), w')) :
    List.Sublist [(.open path, none, 0), (.seek path, none, 0),
      (.upload c.remotePath (.file path), none, 0), (.start command, none, 0),
      (.start ("del /f " ++ c.remotePath), none, 0)] ((w'.since w).map Event.outcome) := by
  obtain ⟨command', exit, w₁, w₂, w₃, w₄, ho, hle₁, hc, hu, hx, hle₄, hcl⟩ := runScript_ok h
  simp only [scriptSteps, hcmd, ofRes, Op.run_bind, Op.run_pure, Prod.mk.injEq, Res.ok.injEq]
    at hc
  obtain ⟨⟨rfl, -⟩, rfl⟩ := hc
  have hx0 : exit = 0 := by simpa [scriptSteps] using hx
  subst hx0
  exact sublist_open_upload_cleanup ho hle₁ hu hle₄ hcl

/-- **A run of `Provision` that succeeds ran each script of `Scripts`, in order**: it opened
the script, rewound it, uploaded it to `RemotePath`, ran the command to exit status 0, and
removed the uploaded copy with `del /f`, before it went on to the next script. -/
theorem provision_runs_scripts {command : String} {w w' : World}
    (hcmd : createCommand sprintf httpAddr render c = .ok command)
    (h : (provision env sprintf httpAddr render c).run w = (.ok (), w')) :
    List.Sublist ((c.scripts.getD []).flatMap fun path => [(.open path, none, 0),
      (.seek path, none, 0), (.upload c.remotePath (.file path), none, 0),
      (.start command, none, 0), (.start ("del /f " ++ c.remotePath), none, 0)])
      ((w'.since w).map Event.outcome) := by
  obtain ⟨w₁, hb, hp⟩ := withDefers_ok h
  obtain ⟨scripts, w₂, hs, hb⟩ := bind_ok hb
  obtain ⟨_, w₃, hr, hb⟩ := bind_ok hb
  cases hb
  obtain ⟨extra, rfl, -⟩ := scriptsWithInline_ok hs
  have hrun := sublist_runScripts (fun _ _ _ _ _ h => runScript_sublist hcmd h) _ _ _ _ _ hr
  rw [List.flatMap_append] at hrun
  exact (List.sublist_append_left _ _).trans (hrun.trans
    ((sublist_since (le_of_run hs) (le_of_run hr)).trans (hp.sublist.map _)))

theorem yields_extractCmdScript (henv : Cooperative env) (inline : List String) :
    (extractCmdScript env inline).Yields fun _ => True :=
  yields_checked henv fun _ _ _ => yields_bind (yields_writeScript henv _ _ _) fun _ _ =>
    yields_bind (yields_call_ok henv _) fun _ _ => yields_pure trivial

/-- Against a cooperative machine, `Provision` succeeds once the command renders. -/
theorem yields_provision (henv : Cooperative env) {command : String}
    (hcmd : createCommand sprintf httpAddr render c = .ok command) :
    (provision env sprintf httpAddr render c).Yields fun _ => True := by
  have hscripts := yields_scriptsWithInline (yields_extractCmdScript henv) (c.scripts.getD [])
    c.inline
  have hrun : ∀ scripts, (runScripts env (scriptSteps env sprintf httpAddr render c) () scripts).Yields
      fun _ => True := fun scripts =>
    yields_runScripts henv (fun _ _ _ => ⟨(command, ()), trivial, by simp only [scriptSteps, hcmd]; rfl⟩)
      (fun _ _ => yields_retryable (yields_uploadAndRun henv _ _ _) _ _) (fun _ _ => rfl)
      (fun _ => yields_retryable (yields_cleanupAttempt henv _ _) _ _) scripts () trivial
  exact yields_withDefers (yields_bind hscripts fun scripts _ =>
    yields_bind (hrun scripts) fun _ _ => yields_pure trivial)

/-- Two scripts, run against a machine that answers every call at once and with no error. -/
theorem provision_runs_scripts_cooperative :
    let env : Env := fun _ _ => ⟨none, 0, "", 0⟩
    let c : Config := ⟨"web", "vsphere", none, "", some ["a.bat", "b.bat"], some [],
      "c:/Windows/Temp/script.bat", "\x7b\x7b.Vars\x7d\x7d\"\x7b\x7b.Path\x7d\x7d\"",
      300000000000, "set \"%s=%s\" && "⟩
    let sprintf : String → List String → String := fun f args => f ++ String.join args
    let render : String → List (String × String) → String × Option String := fun t _ => (t, none)
    ∃ w', createCommand sprintf "" render c = .ok c.executeCommand ∧
      (provision env sprintf "" render c).run ⟨0, [], []⟩ = (.ok (), w') ∧
      List.Sublist ((c.scripts.getD []).flatMap fun path => [(.open path, none, 0),
        (.seek path, none, 0), (.upload c.remotePath (.file path), none, 0),
        (.start c.executeCommand, none, 0), (.start ("del /f " ++ c.remotePath), none, 0)])
        ((w'.since ⟨0, [], []⟩).map Event.outcome) := by
  intro env c sprintf render
  have hcmd : createCommand sprintf "" render c = .ok c.executeCommand := rfl
  have henv : Cooperative env := fun _ _ => ⟨rfl, rfl⟩
  obtain ⟨_, w', -, h⟩ := (yields_provision henv hcmd).ok ⟨0, [], []⟩
  exact ⟨w', hcmd, h, provision_runs_scripts hcmd h⟩

/-- The steps of a script's turn defer nothing. -/
theorem keeps_scriptSteps : (scriptSteps env sprintf httpAddr render c).Keeps where
  command _ := keeps_bind (keeps_ofRes _) fun _ => keeps_pure _
  upload _ _ := keeps_retryable (keeps_uploadAndRun _ _ _) _ _
  cleanup _ := keeps_retryable (keeps_cleanupAttempt _ _) _ _

/-- The steps of a script's turn remove no local file. -/
theorem only_scriptSteps : (scriptSteps env sprintf httpAddr render c).Only NotRemove where
  command _ := only_bind (only_ofRes _) fun _ => only_pure _
  upload _ _ := only_retryable (only_uploadAndRun (fun _ h => Call.noConfusion h)
    (fun _ h => Call.noConfusion h) fun _ h => Call.noConfusion h) _ _
  cleanup _ := only_retryable (only_cleanupAttempt fun _ h => Call.noConfusion h) _ _

section ExtractError

variable {inline : List String} {e : String} {w w₁ : World}
  (hi : c.inline = some inline)
  (hx : (extractCmdScript env inline).run { w with deferred := [] } = (.error e, w₁))
include hi hx

end ExtractError

end ProvisionRuns

end Laforge.Provisioner.Cmd
