import Laforge.Provisioner.Checks

/-!
# Laforge.Provisioner.Powershell

The PowerShell provisioner (`PowershellProvisioner`, `src/unnamed/part_003`): `Prepare`, and the
elevated runner `generateElevatedRunner` writes when a command runs as another user.

The runner is the template `elevatedTemplate`, executed with the user name and the password
passed through `psEscape`, which puts a backtick before each of `$`, `"`, `` ` `` and `'`.  The
template places both inside double quotes in the call

```
$f.RegisterTaskDefinition($name, $t, 6, "{{.User}}", "{{.Password}}", 1, $null)
```

and PowerShell reads an expandable (double-quoted) string by these rules: a backtick escapes
the next character, `$` starts an expansion, and `"` as well as the typographic quotes U+201C,
U+201D and U+201E end the string (two quotes in a row stand for one).

1. A credential with no typographic quote reads back exactly (`readCredentials_registerCall`).
2. `psEscape` leaves the typographic quotes alone, so such a quote ends the string early: the
   rest of the credential is read as script (`readCredentials_typographic_quote`).
3. The error of `interpolate.Render` on the password is dropped; `interpolate.Render` returns
   `""` with its error, so a failed render registers the task with an empty password
   (`generateElevatedRunner_render_error`).

What the runner gets from outside the sources is a parameter (`Env`): the two values
`uuid.TimeOrderedUUID()` returns, `interpolate.Render`, and the communicator's `Upload`.
-/

namespace Laforge.Provisioner.Powershell

open Laforge.Go

/-! ## `psEscape` -/

/-- What `psEscape` writes for one character.  Its old strings are single bytes, so
`strings.NewReplacer` replaces byte by byte; no byte of a multi-byte character is one of them. -/
def psEscapeChar (c : Char) : List Char :=
  if c = '$' ∨ c = '"' ∨ c = '\x60' ∨ c = '\x27' then ['\x60', c] else [c]

/-- `psEscape.Replace`. -/
def psEscape (s : String) : String := ⟨s.data.flatMap psEscapeChar⟩

example : psEscape "p$w\"d" = "p`$w`\"d" := by decide

/-! ## PowerShell's expandable strings -/

/-- The characters PowerShell takes for a double quote. -/
def isDoubleQuote (c : Char) : Bool :=
  c == '"' || c == '\u201C' || c == '\u201D' || c == '\u201E'

/-- The typographic double quotes. -/
def IsTypographicQuote (c : Char) : Prop := c = '\u201C' ∨ c = '\u201D' ∨ c = '\u201E'

instance : DecidablePred IsTypographicQuote := fun _ => inferInstanceAs (Decidable (_ ∨ _ ∨ _))

/-- What a backtick followed by `c` stands for. -/
def escapedChar (c : Char) : Char :=
  match c with
  | '0' => '\x00'
  | 'a' => '\x07'
  | 'b' => '\x08'
  | 'e' => '\x1b'
  | 'f' => '\x0c'
  | 'n' => '\n'
  | 'r' => '\r'
  | 't' => '\t'
  | 'v' => '\x0b'
  | c => c

/-- How reading an expandable string ends. -/
inductive Read where
  /-- the string's value, and the text after its closing quote -/
  | literal (value rest : List Char)
  /-- an unescaped `$`: a variable or a subexpression is expanded -/
  | expansion
  /-- the text ends inside the string -/
  | unterminated
deriving DecidableEq

/-- The value read so far, in front of what the rest reads. -/
def Read.prepend (s : List Char) : Read → Read
  | .literal v r => .literal (s ++ v) r
  | r => r

/-- PowerShell reading the text after the opening quote of an expandable string. -/
def readExpandable : List Char → Read
  | [] => .unterminated
  | c :: cs =>
    if c = '\x60' then
      match cs with
      | [] => .unterminated
      | e :: cs => (readExpandable cs).prepend [escapedChar e]
    else if c = '$' then .expansion
    else if isDoubleQuote c then
      match cs with
      | d :: cs' => if isDoubleQuote d then (readExpandable cs').prepend [c] else .literal [] cs
      | [] => .literal [] []
    else (readExpandable cs).prepend [c]

theorem isDoubleQuote_quote : isDoubleQuote '"' = true := rfl

@[simp] theorem prepend_nil (r : Read) : r.prepend [] = r := by
  cases r <;> rfl

@[simp] theorem prepend_prepend (s t : List Char) (r : Read) :
    (r.prepend t).prepend s = r.prepend (s ++ t) := by
  cases r <;> simp [Read.prepend]

theorem readExpandable_psEscapeChar {c : Char} (hc : ¬ IsTypographicQuote c) (rest : List Char) :
    readExpandable (psEscapeChar c ++ rest) = (readExpandable rest).prepend [c] := by
  unfold psEscapeChar
  split
  · rename_i h
    rcases h with rfl | rfl | rfl | rfl <;> rfl
  · rename_i h
    simp only [IsTypographicQuote, not_or] at h hc
    have hq : isDoubleQuote c = false := by simp [isDoubleQuote, h.2.1, hc.1, hc.2.1, hc.2.2]
    show readExpandable (c :: rest) = _
    rw [readExpandable.eq_def]
    simp only [if_neg h.2.2.1, if_neg h.1, hq]
    rfl

/-- An escaped text with no typographic quote is read character by character. -/
theorem readExpandable_psEscape {s : List Char} (hs : ∀ c ∈ s, ¬ IsTypographicQuote c)
    (rest : List Char) :
    readExpandable (s.flatMap psEscapeChar ++ rest) = (readExpandable rest).prepend s := by
  induction s with
  | nil => simp
  | cons c s ih =>
    rw [List.flatMap_cons, List.append_assoc,
      readExpandable_psEscapeChar (hs c (List.mem_cons_self c s)),
      ih fun x hx => hs x (List.mem_cons_of_mem c hx), prepend_prepend]
    rfl

/-! ## `xml.EscapeText` -/

/-- `isInCharacterRange`: the characters XML allows. -/
def isInCharacterRange (c : Char) : Bool :=
  let r := c.toNat
  r == 0x09 || r == 0x0A || r == 0x0D || (0x20 ≤ r && r ≤ 0xD7FF) ||
    (0xE000 ≤ r && r ≤ 0xFFFD) || (0x10000 ≤ r && r ≤ 0x10FFFF)

/-- What `xml.EscapeText` writes for one character.  A Go string that is valid UTF-8 has no
lone byte `0xFFFD` stands for, so that case is absent. -/
def xmlEscapeChar (c : Char) : List Char :=
  match c with
  | '"' => "&#34;".data
  | '\x27' => "&#39;".data
  | '&' => "&amp;".data
  | '<' => "&lt;".data
  | '>' => "&gt;".data
  | '\t' => "&#x9;".data
  | '\n' => "&#xA;".data
  | '\r' => "&#xD;".data
  | c => if isInCharacterRange c then [c] else ['\uFFFD']

/-- `xml.EscapeText` into a buffer (writing to a `bytes.Buffer` does not fail). -/
def xmlEscapeText (s : String) : String := ⟨s.data.flatMap xmlEscapeChar⟩

/-! ## The template -/

/-- A field of `elevatedOptions`. -/
inductive Field where
  | user | password | taskName | taskDescription | logFile | xmlEscapedCommand

/-- `elevatedOptions`, the data the template is executed with. -/
structure ElevatedOptions where
  user : String
  password : String
  taskName : String
  taskDescription : String
  logFile : String
  xmlEscapedCommand : String

/-- The value of a field. -/
def ElevatedOptions.get (o : ElevatedOptions) : Field → String
  | .user => o.user
  | .password => o.password
  | .taskName => o.taskName
  | .taskDescription => o.taskDescription
  | .logFile => o.logFile
  | .xmlEscapedCommand => o.xmlEscapedCommand

/-- A piece of a `text/template` made of text and field actions only. -/
inductive Piece where
  | text (s : String)
  | field (f : Field)

/-- `Template.Execute` of such a template: the text as it is, and every action `{{.F}}` on a
string field replaced by the field's value, unescaped. -/
def execute : List Piece → ElevatedOptions → String
  | [], _ => ""
  | .text s :: t, o => s ++ execute t o
  | .field f :: t, o => o.get f ++ execute t o

/-- `elevatedTemplate` up to the opening quote of the `RegisterTaskDefinition` call's user. -/
def elevatedHead : List Piece := [
  .text ("\n" ++
      "$name = \""),
  .field .taskName,
  .text ("\"\n" ++
      "$log = [System.Environment]::ExpandEnvironmentVariables(\""),
  .field .logFile,
  .text ("\")\n" ++
      "$s = New-Object -ComObject \"Schedule.Service\"\n" ++
      "$s.Connect()\n" ++
      "$t = $s.NewTask($null)\n" ++
      "$t.XmlText = @'\n" ++
      "<?xml version=\"1.0\" encoding=\"UTF-16\"?>\n" ++
      "<Task version=\"1.2\" xmlns=\"http://schemas.microsoft.com/windows/2004/02/mit/task\">\n" ++
      "  <RegistrationInfo>\n" ++
      "\t<Description>"),
  .field .taskDescription,
  .text ("</Description>\n" ++
      "  </RegistrationInfo>\n" ++
      "  <Principals>\n" ++
      "    <Principal id=\"Author\">\n" ++
      "      <UserId>"),
  .field .user,
  .text ("</UserId>\n" ++
      "      <LogonType>Password</LogonType>\n" ++
      "      <RunLevel>HighestAvailable</RunLevel>\n" ++
      "    </Principal>\n" ++
      "  </Principals>\n" ++
      "  <Settings>\n" ++
      "    <MultipleInstancesPolicy>IgnoreNew</MultipleInstancesPolicy>\n" ++
      "    <DisallowStartIfOnBatteries>false</DisallowStartIfOnBatteries>\n" ++
      "    <StopIfGoingOnBatteries>false</StopIfGoingOnBatteries>\n" ++
      "    <AllowHardTerminate>true</AllowHardTerminate>\n" ++
      "    <StartWhenAvailable>false</StartWhenAvailable>\n" ++
      "    <RunOnlyIfNetworkAvailable>false</RunOnlyIfNetworkAvailable>\n" ++
      "    <IdleSettings>\n" ++
      "      <StopOnIdleEnd>false</StopOnIdleEnd>\n" ++
      "      <RestartOnIdle>false</RestartOnIdle>\n" ++
      "    </IdleSettings>\n" ++
      "    <AllowStartOnDemand>true</AllowStartOnDemand>\n" ++
      "    <Enabled>true</Enabled>\n" ++
      "    <Hidden>false</Hidden>\n" ++
      "    <RunOnlyIfIdle>false</RunOnlyIfIdle>\n" ++
      "    <WakeToRun>false</WakeToRun>\n" ++
      "    <ExecutionTimeLimit>PT24H</ExecutionTimeLimit>\n" ++
      "    <Priority>4</Priority>\n" ++
      "  </Settings>\n" ++
      "  <Actions Context=\"Author\">\n" ++
      "    <Exec>\n" ++
      "      <Command>cmd</Command>\n" ++
      "      <Arguments>/c "),
  .field .xmlEscapedCommand,
  .text ("</Arguments>\n" ++
      "    </Exec>\n" ++
      "  </Actions>\n" ++
      "</Task>\n" ++
      "'@\n" ++
      "if (Test-Path variable:global:ProgressPreference)\x7b$ProgressPreference=\"SilentlyContinue\"\x7d\n" ++
      "$f = $s.GetFolder(\"\\\")\n" ++
      "$f.RegisterTaskDefinition($name, $t, 6, \"")]

/-- The text after the closing quote of the `RegisterTaskDefinition` call's password. -/
def elevatedTail : String :=
  "\", 1, $null) | Out-Null\n" ++
    "$t = $f.GetTask(\"\\$name\")\n" ++
    "$t.Run($null) | Out-Null\n" ++
    "$timeout = 10\n" ++
    "$sec = 0\n" ++
    "while ((!($t.state -eq 4)) -and ($sec -lt $timeout)) \x7b\n" ++
    "  Start-Sleep -s 1\n" ++
    "  $sec++\n" ++
    "\x7d\n" ++
    "$line = 0\n" ++
    "do \x7b\n" ++
    "  Start-Sleep -m 100\n" ++
    "  if (Test-Path $log) \x7b\n" ++
    "    Get-Content $log | select -skip $line | ForEach \x7b\n" ++
    "      $line += 1\n" ++
    "      Write-Output \"$_\"\n" ++
    "    \x7d\n" ++
    "  \x7d\n" ++
    "\x7d while (!($t.state -eq 3))\n" ++
    "$result = $t.LastTaskResult\n" ++
    "if (Test-Path $log) \x7b\n" ++
    "    Remove-Item $log -Force -ErrorAction SilentlyContinue | Out-Null\n" ++
    "\x7d\n" ++
    "[System.Runtime.Interopservices.Marshal]::ReleaseComObject($s) | Out-Null\n" ++
    "exit $result"

/-- The `RegisterTaskDefinition` call from its user on. -/
def registerCall : List Piece :=
  [.field .user, .text "\", \"", .field .password, .text elevatedTail]

/-- `elevatedTemplate`. -/
def elevatedTemplate : List Piece := elevatedHead ++ registerCall

/-- The two credentials PowerShell reads in the `RegisterTaskDefinition` call, from just after
the opening quote of the first: two expandable strings separated by `, `. -/
def readCredentials (t : List Char) : Option (List Char × List Char) :=
  match readExpandable t with
  | .literal u (',' :: ' ' :: q :: r) =>
    if isDoubleQuote q then
      match readExpandable r with
      | .literal p (',' :: _) => some (u, p)
      | _ => none
    else none
  | _ => none

/-- A quote followed by anything but a quote closes the string. -/
theorem readExpandable_close (c : Char) (hc : isDoubleQuote c = false) (r : List Char) :
    readExpandable ('"' :: c :: r) = .literal [] (c :: r) := by
  rw [readExpandable, if_neg (by decide), if_neg (by decide), if_pos isDoubleQuote_quote, hc]
  rfl

/-- Escaped credentials with no typographic quote read back as they were. -/
theorem readCredentials_execute {u p : String} (hu : ∀ c ∈ u.data, ¬ IsTypographicQuote c)
    (hp : ∀ c ∈ p.data, ¬ IsTypographicQuote c) (o : ElevatedOptions) (ho : o.user = psEscape u)
    (hop : o.password = psEscape p) :
    readCredentials (execute registerCall o).data = some (u.data, p.data) := by
  obtain ⟨r, hr⟩ : ∃ r, elevatedTail.data = '"' :: ',' :: r := ⟨_, rfl⟩
  have hsep : ("\", \"" : String).data = ['"', ',', ' ', '"'] := rfl
  simp only [registerCall, execute, ElevatedOptions.get, ho, hop, psEscape, String.data_append,
    hsep, hr, String.append_empty, List.cons_append, List.nil_append]
  rw [readCredentials, readExpandable_psEscape hu, readExpandable_close ',' rfl]
  simp only [Read.prepend, List.append_nil]
  rw [if_pos isDoubleQuote_quote, readExpandable_psEscape hp, readExpandable_close ',' rfl]
  simp only [Read.prepend, List.append_nil]

/-! ## The provisioner -/

/-- The fields of `powershell.Config` the provisioner reads.  A `nil` slice is `none`. -/
structure Config where
  inline : Option (List String)
  script : String
  scripts : Option (List String)
  vars : Option (List String)
  remotePath : String
  remoteEnvVarPath : String
  executeCommand : String
  elevatedExecuteCommand : String
  elevatedUser : String
  elevatedPassword : String
  envVarFormat : String
  elevatedEnvVarFormat : String
  /-- `StartRetryTimeout`, a `time.Duration` in nanoseconds -/
  startRetryTimeout : Int
  validExitCodes : Option (List Int)
deriving DecidableEq

/-- The command `Prepare` runs a script with, elevated or not, when none is given. -/
def defaultExecuteCommand : String :=
  "powershell -noprofile -executionpolicy bypass \"& \x7b if (Test-Path " ++
    "variable:global:ProgressPreference)\x7bset-variable -name variable:global:ProgressPreference " ++
    "-value 'SilentlyContinue'\x7d; &'\x7b\x7b.Path\x7d\x7d'; exit $LastExitCode \x7d\""

/-- The defaults `Prepare` fills in; `uuid₁` and `uuid₂` are what `uuid.TimeOrderedUUID()`
returns for the two remote paths.  Each `if` reads only the field it sets. -/
def prepareDefaults (uuid₁ uuid₂ : String) (c : Config) : Config :=
  { c with
    envVarFormat := if c.envVarFormat = "" then "$env:%s=\"%s\"; " else c.envVarFormat
    elevatedEnvVarFormat := if c.elevatedEnvVarFormat = "" then "$env:%s=\"%s\"; "
      else c.elevatedEnvVarFormat
    executeCommand := if c.executeCommand = "" then defaultExecuteCommand else c.executeCommand
    elevatedExecuteCommand := if c.elevatedExecuteCommand = "" then defaultExecuteCommand
      else c.elevatedExecuteCommand
    inline := if c.inline = some [] then none else c.inline
    -- `5 * time.Minute`
    startRetryTimeout := if c.startRetryTimeout = 0 then 5 * 60 * 1000000000
      else c.startRetryTimeout
    remotePath := if c.remotePath = "" then "c:/Windows/Temp/script-" ++ uuid₁ ++ ".ps1"
      else c.remotePath
    remoteEnvVarPath := if c.remoteEnvVarPath = "" then
        "c:/Windows/Temp/packer-ps-env-vars-" ++ uuid₂ ++ ".ps1"
      else c.remoteEnvVarPath
    scripts := some (c.scripts.getD [])
    vars := some (c.vars.getD [])
    validExitCodes := some (c.validExitCodes.getD [0]) }

/-- The checks on the elevated credentials: a user needs a password, and a password a user. -/
def elevatedErrs (user password : String) : List String :=
  (if user ≠ "" ∧ password = "" then
    ["Must supply an 'elevated_password' if 'elevated_user' provided"] else []) ++
  (if user = "" ∧ password ≠ "" then
    ["Must supply an 'elevated_user' if 'elevated_password' provided"] else [])

/-- `PowershellProvisioner.Prepare`: the configuration it leaves behind, and the texts of the
errors it collected (it returns `nil` when there are none). -/
def prepare (statErr : String → Option String) (uuid₁ uuid₂ : String) (c : Config) :
    Config × List String :=
  let c := prepareDefaults uuid₁ uuid₂ c
  let errs := scriptAndScriptsErrs lowercaseMessages c.script (c.scripts.getD []) ++
    elevatedErrs c.elevatedUser c.elevatedPassword
  let c := { c with scripts := some (effectiveScripts c.script (c.scripts.getD [])) }
  (c, errs ++ scriptFieldErrs lowercaseMessages statErr (c.scripts.getD []) c.inline
    (c.vars.getD []))

/-- What the provisioner gets from outside the sources. -/
structure Env where
  /-- what `uuid.TimeOrderedUUID()` returns for the task name -/
  taskUUID : String
  /-- what `uuid.TimeOrderedUUID()` returns for the runner's path -/
  pathUUID : String
  /-- `interpolate.Render(v, ctx)`, the context's data given as field/value pairs: the text and
  the error it returns -/
  render : String → List (String × String) → String × Option String
  /-- the error `p.Comm.Upload(path, content, nil)` returns -/
  upload : String → String → Option String

/-- The password once rendered; the error of the render is dropped. -/
def renderedPassword (env : Env) (c : Config) : String :=
  (env.render c.elevatedPassword [("WinRMPassword", c.elevatedPassword)]).1

/-- The options `generateElevatedRunner` executes the template with. -/
def elevatedOptions (env : Env) (c : Config) (command : String) : ElevatedOptions :=
  let taskName := "packer-" ++ env.taskUUID
  let logFile := "%SYSTEMROOT%/Temp/" ++ taskName ++ ".out"
  { user := psEscape c.elevatedUser
    password := psEscape (renderedPassword env c)
    taskName := taskName
    taskDescription := "Packer elevated task"
    logFile := logFile
    xmlEscapedCommand := xmlEscapeText (command ++ " > " ++ logFile ++ " 2>&1") }

/-- Where the runner is uploaded. -/
def runnerPath (env : Env) : String :=
  "C:/Windows/Temp/packer-elevated-shell-" ++ env.pathUUID ++ ".ps1"

/-- The runner script `generateElevatedRunner` uploads. -/
def elevatedScript (env : Env) (c : Config) (command : String) : String :=
  execute elevatedTemplate (elevatedOptions env c command)

/-- `generateElevatedRunner`: the path of the uploaded runner or the error, and the
configuration, whose `ElevatedPassword` it overwrites with the rendered one.  `xml.EscapeText`
and `elevatedTemplate.Execute` write to a `bytes.Buffer` and do not fail. -/
def generateElevatedRunner (env : Env) (c : Config) (command : String) :
    Except String String × Config :=
  let c' := { c with elevatedPassword := renderedPassword env c }
  match env.upload (runnerPath env) (elevatedScript env c command) with
  | some err => (.error ("Error preparing elevated powershell script: " ++ err), c')
  | none => (.ok (runnerPath env), c')

/-! ## The credentials of the runner -/

/-- A user with a typographic quote, accepted by `Prepare`: the runner is uploaded, and
PowerShell reads the user in the `RegisterTaskDefinition` call as `a`, the rest of it as
script. -/
theorem readCredentials_typographic_quote :
    let c : Config := ⟨none, "run.ps1", none, none, "", "", "", "", "a\u201Db", "pw", "", "", 0,
      none⟩
    let env : Env := ⟨"1", "2", fun v _ => (v, none), fun _ _ => none⟩
    (prepare (fun _ => none) "3" "4" c).2 = [] ∧
      (generateElevatedRunner env (prepare (fun _ => none) "3" "4" c).1 "whoami").1 =
        .ok "C:/Windows/Temp/packer-elevated-shell-2.ps1" ∧
      ∃ rest, readExpandable
        (execute registerCall (elevatedOptions env (prepare (fun _ => none) "3" "4" c).1
          "whoami")).data = .literal ['a'] ('b' :: rest) :=
  ⟨by decide, rfl, _, rfl⟩

/-- **A failed render gives an empty password**: when `interpolate.Render` fails, as it does,
with `""` and an error, the runner is still generated, and its `RegisterTaskDefinition` call
reads an empty password. -/
theorem generateElevatedRunner_render_error (env : Env) (c : Config) (command e : String)
    (hrender : env.render c.elevatedPassword [("WinRMPassword", c.elevatedPassword)] = ("", some e))
    (hup : env.upload (runnerPath env) (elevatedScript env c command) = none)
    (hu : ∀ ch ∈ c.elevatedUser.data, ¬ IsTypographicQuote ch) :
    (generateElevatedRunner env c command).1 = .ok (runnerPath env) ∧
      readCredentials (execute registerCall (elevatedOptions env c command)).data =
        some (c.elevatedUser.data, []) := by
  have hr : renderedPassword env c = "" := by rw [renderedPassword, hrender]
  refine ⟨by simp only [generateElevatedRunner, hup], ?_⟩
  rw [@readCredentials_execute c.elevatedUser (renderedPassword env c) hu (by simp [hr])
    (elevatedOptions env c command) rfl rfl, hr]

end Laforge.Provisioner.Powershell
