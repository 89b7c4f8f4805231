import Laforge.Provisioner.Retry

/-!
# Laforge.Provisioner.Scripts

What the three script provisioners (`WindowsCmdProvisioner`, `SSHProvisioner`,
`PowershellProvisioner`) share in `Provision`: the loop over the scripts, which opens each one,
builds the command it runs with, uploads and runs it in one retried attempt, checks its exit
status and removes the uploaded copy; and the parts of it that are written the same way in the
three (`writeLines`, `cleanupAttempt`, `uploadAndRun`).  Where they differ, `ScriptSteps` takes
each provisioner's own part.

1. The loop opens the scripts in order and stops at the first that fails: the turns before it
   succeeded, and no script after it is opened (`opened_runScripts`).
2. When it ends with no error, the calls of each script's turn are found in the log, the
   scripts in order (`forall₂_runScripts`), from what one turn that succeeds did
   (`runScript_ok`) and what one attempt that succeeds did (`uploadAndRun_ok`,
   `cleanupAttempt_ok`).
3. Against a cooperative machine the loop runs every script (`yields_runScripts`).
-/

namespace Laforge.Provisioner

/-! ## The parts the provisioners write the same way -/

/-- The loop of the inline extractions: `writer.WriteString(command + "\n")` for each command,
until one fails; its error with `errPrefix` before it. -/
def writeLines (env : Env) (errPrefix name : String) : List String → Op Unit
  | [] => pure ()
  | command :: commands =>
    checked env (.write name (command ++ "\n")) (errPrefix ++ ·) fun _ =>
      writeLines env errPrefix name commands

/-- The inline commands written to the temporary file `name`, then `writer.Flush()`. -/
def writeScript (env : Env) (errPrefix name : String) (commands : List String) : Op Unit := do
  writeLines env errPrefix name commands
  checked env (.flush name) (errPrefix ++ ·) fun _ => pure ()

/-- `packer.CmdDisconnect`: the exit status of a command whose connection was lost. -/
def cmdDisconnect : Int := 2300218

/-- One attempt of `cleanupRemoteFile`: run `command`, which removes the uploaded copy at
`path`.  A lost connection and any other non-zero exit status are both errors, so the loop
tries again on both. -/
def cleanupAttempt (env : Env) (command path : String) : Op Unit :=
  checked env (.start command) (fun err => "Error removing temporary script at " ++ path ++ ": " ++ err)
    fun a =>
      if a.exitStatus = cmdDisconnect then fail "disconnect while removing temporary script"
      else if a.exitStatus ≠ 0 then fail ("error removing temporary script at " ++ path)
      else pure ()

/-- One attempt of the upload-and-run of the Windows shell and PowerShell provisioners: rewind
the script, upload it to `remotePath`, and run `command`; its exit status. -/
def uploadAndRun (env : Env) (path remotePath command : String) : Op Int :=
  checked env (.seek path) id fun _ =>
    checked env (.upload remotePath (.file path)) ("Error uploading script: " ++ ·) fun _ =>
      checked env (.start command) id fun r => pure r.exitStatus

/-- The scripts `Provision` runs in the Windows shell and PowerShell provisioners: `Scripts`,
then, for inline commands, the file `extract` wrote, whose removal is deferred.  An error of the
extraction is only shown to the user; the path is then `""`, the name the extraction returns
with its error. -/
def scriptsWithInline (extract : List String → Op String) (scripts : List String) :
    Option (List String) → Op (List String)
  | none => pure scripts
  | some inline => do
    let r ← tryCatch (extract inline)
    let temp := match r with
      | .ok temp => temp
      | .error _ => ""
    defer (.remove temp)
    pure (scripts ++ [temp])

/-! ## The loop over the scripts -/

/-- What a script provisioner does with one script, beyond what the three share; `σ` is the
state of the provisioner that building a command may change. -/
structure ScriptSteps (σ : Type) where
  /-- the text before the error of `os.Open` -/
  openError : String
  /-- the command the script runs with -/
  command : σ → Op (String × σ)
  /-- the retried upload-and-run of the script at a path with a command: its exit status -/
  upload : String → String → Op Int
  /-- whether the script is closed once uploaded (`f.Close()`), besides the deferred close -/
  closeAfter : Bool
  /-- the error an exit status gives, `none` to go on -/
  exitError : σ → Int → Option String
  /-- the removal of the uploaded copy -/
  cleanup : σ → Op Unit

/-- `f.Close()` of the script, for a provisioner that closes it once uploaded. -/
def closeIf (env : Env) (b : Bool) (path : String) : Op Unit :=
  if b then do
    let _ ← call env (.close path)
    pure ()
  else pure ()

/-- One turn of the loop over the scripts in `Provision`, from the moment the script is open. -/
def runOpened (env : Env) (st : ScriptSteps σ) (s : σ) (path : String) : Op σ := do
  defer (.close path)
  let (command, s) ← st.command s
  let exit ← st.upload path command
  closeIf env st.closeAfter path
  match st.exitError s exit with
  | some err => fail err
  | none =>
    st.cleanup s
    pure s

/-- One turn of the loop over the scripts in `Provision`. -/
def runScript (env : Env) (st : ScriptSteps σ) (s : σ) (path : String) : Op σ :=
  checked env (.open path) (st.openError ++ ·) fun _ => runOpened env st s path

/-- The loop over the scripts in `Provision`: each in turn, until one fails. -/
def runScripts (env : Env) (st : ScriptSteps σ) : σ → List String → Op σ
  | s, [] => pure s
  | s, path :: paths => do
    let s ← runScript env st s path
    runScripts env st s paths

/-! ## The calls of the shared parts -/

section Parts

variable {env : Env} {w w' : World}

theorem only_writeLines {P : Call → Prop} {errPrefix name : String}
    (hP : ∀ content, P (.write name content)) (commands : List String) :
    (writeLines env errPrefix name commands).Only P := by
  induction commands with
  | nil => exact only_pure _
  | cons command commands ih => exact only_checked (hP _) fun _ => ih

theorem only_writeScript {P : Call → Prop} {errPrefix name : String}
    (hP : ∀ content, P (.write name content)) (hf : P (.flush name)) (commands : List String) :
    (writeScript env errPrefix name commands).Only P :=
  only_bind (only_writeLines hP commands) fun _ => only_checked hf fun _ => only_pure _

theorem keeps_writeLines (errPrefix name : String) (commands : List String) :
    (writeLines env errPrefix name commands).Keeps := by
  induction commands with
  | nil => exact keeps_pure _
  | cons command commands ih => exact keeps_checked fun _ => ih

theorem keeps_writeScript (errPrefix name : String) (commands : List String) :
    (writeScript env errPrefix name commands).Keeps :=
  keeps_bind (keeps_writeLines _ _ commands) fun _ => keeps_checked fun _ => keeps_pure _

theorem only_cleanupAttempt {P : Call → Prop} {command path : String} (hP : P (.start command)) :
    (cleanupAttempt env command path).Only P :=
  only_checked hP fun _ => by
    split_ifs
    · exact only_fail _
    · exact only_fail _
    · exact only_pure _

theorem keeps_cleanupAttempt (command path : String) : (cleanupAttempt env command path).Keeps :=
  keeps_checked fun _ => by
    split_ifs
    · exact keeps_fail _
    · exact keeps_fail _
    · exact keeps_pure _

theorem only_uploadAndRun {P : Call → Prop} {path remotePath command : String}
    (hs : P (.seek path)) (hu : P (.upload remotePath (.file path))) (hc : P (.start command)) :
    (uploadAndRun env path remotePath command).Only P :=
  only_checked hs fun _ => only_checked hu fun _ => only_checked hc fun _ => only_pure _

theorem keeps_uploadAndRun (path remotePath command : String) :
    (uploadAndRun env path remotePath command).Keeps :=
  keeps_checked fun _ => keeps_checked fun _ => keeps_checked fun _ => keeps_pure _

theorem scriptsWithInline_ok {extract : List String → Op String} {scripts scripts' : List String}
    {inline : Option (List String)}
    (h : (scriptsWithInline extract scripts inline).run w = (.ok scripts', w')) :
    ∃ extra, scripts' = scripts ++ extra ∧ extra.length = if inline.isSome then 1 else 0 := by
  cases inline with
  | none => cases h; exact ⟨[], (List.append_nil _).symm, rfl⟩
  | some inline =>
    obtain ⟨_, _, -, h⟩ := bind_ok h
    obtain ⟨_, _, -, h⟩ := bind_ok h
    cases h
    exact ⟨_, rfl, rfl⟩

/-- A removal attempt that succeeded ran its command once, to exit status 0. -/
theorem cleanupAttempt_ok {command path : String}
    (h : (cleanupAttempt env command path).run w = (.ok (), w')) :
    (w'.since w).map Event.outcome = [(.start command, none, 0)] := by
  rw [outcomes_checked h]
  obtain ⟨-, h⟩ := checked_ok h
  split_ifs at h with h₁ h₂
  · exact absurd h fail_ne_ok
  · exact absurd h fail_ne_ok
  cases h
  simpa [since_self, Event.outcome] using h₂

/-- An upload-and-run attempt that succeeded rewound the script, uploaded it and ran the
command, with no error, to the exit status it returns. -/
theorem uploadAndRun_ok {path remotePath command : String} {exit : Int}
    (h : (uploadAndRun env path remotePath command).run w = (.ok exit, w')) :
    (w'.since w).map Event.outcome = [(.seek path, none, 0),
      (.upload remotePath (.file path), none, 0), (.start command, none, exit)] := by
  rw [outcomes_checked h]
  obtain ⟨-, h⟩ := checked_ok h
  rw [outcomes_checked h]
  obtain ⟨-, h⟩ := checked_ok h
  rw [outcomes_checked h]
  obtain ⟨-, h⟩ := checked_ok h
  cases h
  simp [since_self, Event.outcome]

/-- A script's turn in the Windows shell and PowerShell provisioners, from what its parts did:
the script opened, the retried upload-and-run ended with `exit`, and the retried removal of the
copy with `cleanup` succeeded. -/
theorem sublist_open_upload_cleanup {path remotePath remotePath' command cleanup : String}
    {exit timeout timeout' : Int} {pause pause' : Pause} {w₁ w₂ w₃ : World}
    (ho : (env w.log (.open path)).err = none) (hle₁ : (w.after env (.open path)).Le w₁)
    (hu : (retryable (uploadAndRun env path remotePath command) timeout pause).run w₁ =
      (.ok exit, w₂))
    (hle₂ : w₂.Le w₃)
    (hcl : (retryable (cleanupAttempt env cleanup remotePath') timeout' pause').run w₃ =
      (.ok (), w')) :
    List.Sublist [(.open path, none, 0), (.seek path, none, 0),
      (.upload remotePath (.file path), none, 0), (.start command, none, exit),
      (.start cleanup, none, 0)] ((w'.since w).map Event.outcome) := by
  obtain ⟨w₀, hle₀, hu⟩ := retryable_ok_attempt hu
  obtain ⟨w₄, hle₄, hcl⟩ := retryable_ok_attempt hcl
  have hup := hle₁.trans hle₀
  have hclean := hle₂.trans (hle₄.trans (le_of_run hcl))
  refine @sublist_since_append _ _ _ [(.open path, none, 0)] _ (World.le_after env _ w)
    (hup.trans ((le_of_run hu).trans hclean)) ?_ ?_
  · simp [since_after, Event.outcome, ho]
  refine @sublist_since_append _ _ _ [(.seek path, none, 0),
    (.upload remotePath (.file path), none, 0), (.start command, none, exit)] _
    (hup.trans (le_of_run hu)) hclean ?_ ?_
  · rw [← uploadAndRun_ok hu]
    exact sublist_since hup (le_of_run hu)
  · rw [← cleanupAttempt_ok hcl]
    exact sublist_since (hle₂.trans hle₄) (le_of_run hcl)

end Parts

/-! ## The loop -/

section Loop

variable {env : Env} {st : ScriptSteps σ}

/-- Every call of the parts of a provisioner's step satisfies `P`. -/
structure ScriptSteps.Only (P : Call → Prop) (st : ScriptSteps σ) : Prop where
  command : ∀ s, (st.command s).Only P
  upload : ∀ path command, (st.upload path command).Only P
  cleanup : ∀ s, (st.cleanup s).Only P

/-- The parts of a provisioner's step defer nothing. -/
structure ScriptSteps.Keeps (st : ScriptSteps σ) : Prop where
  command : ∀ s, (st.command s).Keeps
  upload : ∀ path command, (st.upload path command).Keeps
  cleanup : ∀ s, (st.cleanup s).Keeps

theorem only_closeIf {P : Call → Prop} (b : Bool) (path : String) (hP : P (.close path)) :
    (closeIf env b path).Only P := by
  unfold closeIf
  split
  · exact only_bind (only_call hP) fun _ => only_pure _
  · exact only_pure _

theorem only_runOpened {P : Call → Prop} (hst : st.Only P) (s : σ) (path : String)
    (hP : P (.close path)) : (runOpened env st s path).Only P :=
  only_bind (only_defer _) fun _ => only_bind (hst.command s) fun (command, s') =>
    only_bind (hst.upload path command) fun exit => only_bind (only_closeIf _ _ hP) fun _ => by
      split
      · exact only_fail _
      · exact only_bind (hst.cleanup s') fun _ => only_pure _

/-- Every call of the loop satisfies `P` when every call of the step does, and opening and
closing a script do. -/
theorem only_runScripts {P : Call → Prop} (hst : st.Only P) (hopen : ∀ p, P (.open p))
    (hclose : ∀ p, P (.close p)) : ∀ paths s, (runScripts env st s paths).Only P := by
  intro paths
  induction paths with
  | nil => exact fun s => only_pure s
  | cons path paths ih =>
    exact fun s => only_bind (only_checked (hopen path) fun _ => only_runOpened hst s path
      (hclose path)) fun s => ih s

/-- The loop defers the closing of its scripts, and no removal. -/
theorem defersNoRemove_runScripts (hst : st.Keeps) :
    ∀ paths s, (runScripts env st s paths).DefersNoRemove := by
  intro paths
  induction paths with
  | nil => exact fun s => (keeps_pure s).defersNoRemove
  | cons path paths ih =>
    refine fun s => defersNoRemove_bind (defersNoRemove_checked fun _ => ?_) fun s => ih s
    refine defersNoRemove_bind (defersNoRemove_defer fun _ h => Call.noConfusion h) fun _ =>
      defersNoRemove_bind (hst.command s).defersNoRemove fun (command, s') =>
        defersNoRemove_bind (hst.upload path command).defersNoRemove fun _ => ?_
    refine defersNoRemove_bind ?_ fun _ => ?_
    · unfold closeIf
      split
      · exact defersNoRemove_bind (keeps_call _ _).defersNoRemove fun _ =>
          (keeps_pure _).defersNoRemove
      · exact (keeps_pure _).defersNoRemove
    · split
      · exact (keeps_fail _).defersNoRemove
      · exact defersNoRemove_bind (hst.cleanup s').defersNoRemove fun _ =>
          (keeps_pure _).defersNoRemove

/-- What one turn of the loop did when it ended with no error: it opened the script, built the
command, ran the upload to an exit status the provisioner accepts, and removed the uploaded
copy. -/
theorem runScript_ok {s s' : σ} {path : String} {w w' : World}
    (h : (runScript env st s path).run w = (.ok s', w')) :
    ∃ command exit w₁ w₂ w₃ w₄, (env w.log (.open path)).err = none ∧
      (w.after env (.open path)).Le w₁ ∧ (st.command s).run w₁ = (.ok (command, s'), w₂) ∧
      (st.upload path command).run w₂ = (.ok exit, w₃) ∧ st.exitError s' exit = none ∧
      w₃.Le w₄ ∧ (st.cleanup s').run w₄ = (.ok (), w') := by
  obtain ⟨ho, h⟩ := checked_ok h
  obtain ⟨_, w₁, hd, h⟩ := bind_ok h
  obtain ⟨⟨command, s₁⟩, w₂, hc, h⟩ := bind_ok h
  obtain ⟨exit, w₃, hu, h⟩ := bind_ok h
  obtain ⟨_, w₄, hcl, h⟩ := bind_ok h
  split at h
  · exact absurd h fail_ne_ok
  rename_i hx
  obtain ⟨_, w₅, hclean, h⟩ := bind_ok h
  cases h
  exact ⟨command, exit, w₁, w₂, w₃, w₄, ho, le_of_run hd, hc, hu, hx, le_of_run hcl, hclean⟩

/-- **What the loop leaves in the log when it ends with no error**, turn by turn: for the
script of turn `k`, calls that a turn that succeeds makes, of a kind `Block k` allows for its
script, in the order of the scripts; `Inv k` is what the turns before turn `k` leave of the
provisioner's state. -/
theorem forall₂_runScripts_enum {Inv : ℕ → σ → Prop}
    {Block : ℕ → String → List (Call × Option String × Int) → Prop}
    (hblock : ∀ k s s' path w w', Inv k s → (runScript env st s path).run w = (.ok s', w') →
      Inv (k + 1) s' ∧ ∃ b, Block k path b ∧ List.Sublist b ((w'.since w).map Event.outcome))
    (paths : List String) (k : ℕ) (s s' : σ) (w w' : World) (hs : Inv k s)
    (h : (runScripts env st s paths).run w = (.ok s', w')) :
    ∃ bs, List.Forall₂ (fun turn b => Block turn.1 turn.2 b) (paths.enumFrom k) bs ∧
      List.Sublist bs.flatten ((w'.since w).map Event.outcome) := by
  induction paths generalizing k s w with
  | nil => exact ⟨[], .nil, List.nil_sublist _⟩
  | cons p ps ih =>
    obtain ⟨s₁, w₁, h₁, h₂⟩ := bind_ok h
    obtain ⟨hs₁, b, hb, hbs⟩ := hblock k s s₁ p w w₁ hs h₁
    obtain ⟨bs, hbl, hsub⟩ := ih (k + 1) s₁ w₁ hs₁ h₂
    refine ⟨b :: bs, .cons hb hbl, ?_⟩
    rw [List.flatten_cons, since_trans (le_of_run h₁) (le_of_run h₂), List.map_append]
    exact hbs.append hsub

/-- The loop's log, for a `Block` and an `Inv` that do not depend on the turn. -/
theorem forall₂_runScripts {Inv : σ → Prop}
    {Block : String → List (Call × Option String × Int) → Prop}
    (hblock : ∀ s s' path w w', Inv s → (runScript env st s path).run w = (.ok s', w') →
      Inv s' ∧ ∃ b, Block path b ∧ List.Sublist b ((w'.since w).map Event.outcome))
    (paths : List String) (s s' : σ) (w w' : World) (hs : Inv s)
    (h : (runScripts env st s paths).run w = (.ok s', w')) :
    ∃ bs, List.Forall₂ Block paths bs ∧
      List.Sublist bs.flatten ((w'.since w).map Event.outcome) := by
  obtain ⟨bs, hbs, hsub⟩ := forall₂_runScripts_enum (fun _ => hblock) paths 0 s s' w w' hs h
  refine ⟨bs, ?_, hsub⟩
  rw [← List.enumFrom_map_snd 0 paths]
  exact List.forall₂_map_left_iff.mpr hbs

/-- The loop with a fixed `block` of calls for each script. -/
theorem sublist_runScripts {block : String → List (Call × Option String × Int)}
    (hblock : ∀ s s' path w w', (runScript env st s path).run w = (.ok s', w') →
      List.Sublist (block path) ((w'.since w).map Event.outcome))
    (paths : List String) (s s' : σ) (w w' : World)
    (h : (runScripts env st s paths).run w = (.ok s', w')) :
    List.Sublist (paths.flatMap block) ((w'.since w).map Event.outcome) := by
  obtain ⟨bs, hbs, hs⟩ : ∃ bs, List.Forall₂ (fun p b => block p = b) paths bs ∧ _ :=
    forall₂_runScripts (fun s s' p w w' _ h => ⟨trivial, _, rfl, hblock s s' p w w' h⟩) paths s s'
      w w' trivial h
  have hmap : List.Forall₂ (· = ·) (paths.map block) bs := List.forall₂_map_left_iff.mpr hbs
  rw [List.forall₂_eq_eq_eq] at hmap
  rwa [List.flatMap_def, hmap]

end Loop

/-! ## Against a cooperative machine -/

theorem yields_scriptsWithInline {extract : List String → Op String}
    (hx : ∀ inline, (extract inline).Yields fun _ => True) (scripts : List String)
    (inline : Option (List String)) :
    (scriptsWithInline extract scripts inline).Yields fun _ => True := by
  cases inline with
  | none => exact yields_pure trivial
  | some inline =>
    exact yields_bind (yields_tryCatch (hx inline)) fun _ _ =>
      yields_bind (yields_defer _) fun _ _ => yields_pure trivial

section Cooperative

variable {env : Env} (henv : Cooperative env)
include henv

theorem yields_writeLines (errPrefix name : String) (commands : List String) :
    (writeLines env errPrefix name commands).Yields fun _ => True := by
  induction commands with
  | nil => exact yields_pure trivial
  | cons command commands ih => exact yields_checked henv fun _ _ _ => ih

theorem yields_writeScript (errPrefix name : String) (commands : List String) :
    (writeScript env errPrefix name commands).Yields fun _ => True :=
  yields_bind (yields_writeLines henv _ _ _) fun _ _ =>
    yields_checked henv fun _ _ _ => yields_pure trivial

theorem yields_cleanupAttempt (command path : String) :
    (cleanupAttempt env command path).Yields fun _ => True :=
  yields_checked henv fun a _ hx => by
    simp only [hx, cmdDisconnect]
    exact yields_pure trivial

theorem yields_uploadAndRun (path remotePath command : String) :
    (uploadAndRun env path remotePath command).Yields fun exit => exit = 0 :=
  yields_checked henv fun _ _ _ => yields_checked henv fun _ _ _ =>
    yields_checked henv fun _ _ hx => yields_pure hx

theorem yields_closeIf (b : Bool) (path : String) : (closeIf env b path).Yields fun _ => True := by
  unfold closeIf
  split
  · exact yields_bind (yields_call_ok henv _) fun _ _ => yields_pure trivial
  · exact yields_pure trivial

/-- Against a cooperative machine, the loop runs every script when each step does. -/
theorem yields_runScripts {st : ScriptSteps σ} {Inv : σ → Prop}
    (hcommand : ∀ s, Inv s → (st.command s).Yields fun r => Inv r.2)
    (hupload : ∀ path command, (st.upload path command).Yields fun exit => exit = 0)
    (hexit : ∀ s, Inv s → st.exitError s 0 = none)
    (hcleanup : ∀ s, (st.cleanup s).Yields fun _ => True) :
    ∀ paths s, Inv s → (runScripts env st s paths).Yields Inv := by
  intro paths
  induction paths with
  | nil => exact fun s hs => yields_pure hs
  | cons path paths ih =>
    intro s hs
    refine yields_bind (yields_checked henv fun _ _ _ => ?_) fun s hs => ih s hs
    refine yields_bind (yields_defer _) fun _ _ => yields_bind (hcommand s hs) fun r hr => ?_
    refine yields_bind (hupload path r.1) fun exit hx => ?_
    refine yields_bind (yields_closeIf henv _ _) fun _ _ => ?_
    simp only [hx, hexit _ hr]
    exact yields_bind (hcleanup _) fun _ _ => yields_pure hr

end Cooperative

end Laforge.Provisioner
