import Laforge.Go.Basic

/-!
# Laforge.Provisioner.Checks

The checks that the `Prepare` of the shell (`SSHProvisioner`), Windows shell
(`WindowsCmdProvisioner`) and PowerShell (`PowershellProvisioner`) provisioners share, once each
has filled in its defaults:

1. a single `script` and a list of `scripts` exclude each other;
2. after `Scripts` takes the single script, exactly one of scripts and inline commands is
   given;
3. every script path is found by `os.Stat`;
4. every environment variable splits at its first `=` into a non-empty key and a value.

`Prepare` collects the failures with `packer.MultiErrorAppend` and returns `nil` when there are
none; the model keeps the list of their texts, in order.  The three provisioners write the texts
of checks 1 and 2 with different capitals (`ScriptMessages`); everything else is shared.

`os.Stat` is the file system's answer: the model takes it as a function from a path to the
text of the error it returns, `none` when the file exists.
-/

namespace Laforge.Provisioner

open Laforge.Go

/-- `strings.SplitN(s, sep, 2)` for a one-character separator: the text before its first
occurrence and the text after it, or `[s]` when it does not occur. -/
def splitN2 (s : String) (sep : Char) : List String :=
  if sep ∈ s.data then [⟨s.data.takeWhile (· != sep)⟩, ⟨(s.data.dropWhile (· != sep)).tail⟩]
  else [s]

/-- The texts of checks 1 and 2, which differ in capitals between the provisioners. -/
structure ScriptMessages where
  /-- both `script` and `scripts` given -/
  scriptAndScripts : String
  /-- neither scripts nor inline commands -/
  neither : String
  /-- both scripts and inline commands -/
  both : String

/-- The texts of checks 1 and 2 in the shell and PowerShell provisioners. -/
def lowercaseMessages : ScriptMessages :=
  ⟨"only one of script or scripts can be specified",
    "either a script file or inline script must be specified",
    "only a script file or an inline script can be specified, not both"⟩

/-- `if Script != "" && len(Scripts) > 0`. -/
def scriptAndScriptsErrs (msgs : ScriptMessages) (script : String) (scripts : List String) :
    List String :=
  if script ≠ "" ∧ 0 < scripts.length then [msgs.scriptAndScripts] else []

/-- `if Script != "" { Scripts = []string{Script} }`. -/
def effectiveScripts (script : String) (scripts : List String) : List String :=
  if script ≠ "" then [script] else scripts

/-- Exactly one of scripts and inline commands.  `Inline` is `nil` here when it was empty. -/
def sourceErrs (msgs : ScriptMessages) (scripts : List String) (inline : Option (List String)) :
    List String :=
  if scripts.length = 0 ∧ inline = none then [msgs.neither]
  else if 0 < scripts.length ∧ inline ≠ none then [msgs.both] else []

/-- `os.Stat(path)` failed. -/
def badScriptErr (statErr : String → Option String) (path : String) : Option String :=
  (statErr path).map fun err => "Bad script '" ++ path ++ "': " ++ err

/-- `if len(vs) != 2 || vs[0] == ""` for `vs := strings.SplitN(kv, "=", 2)`. -/
def varErr (kv : String) : Option String :=
  let vs := splitN2 kv '='
  if vs.length ≠ 2 ∨ vs.headD "" = "" then
    some ("Environment variable not in format 'key=value': " ++ kv)
  else none

/-- Checks 2 to 4, in the order `Prepare` makes them. -/
def scriptFieldErrs (msgs : ScriptMessages) (statErr : String → Option String)
    (scripts : List String) (inline : Option (List String)) (vars : List String) : List String :=
  sourceErrs msgs scripts inline ++ scripts.filterMap (badScriptErr statErr) ++
    vars.filterMap varErr

/-! ## What passing the checks means -/

theorem varErr_eq_none_iff (kv : String) :
    varErr kv = none ↔ ∃ k v, splitN2 kv '=' = [k, v] ∧ k ≠ "" := by
  unfold varErr
  match h : splitN2 kv '=' with
  | [k, v] => by_cases hk : k = "" <;> simp [hk]
  | [] | [_] | _ :: _ :: _ :: _ => simp

theorem scriptAndScriptsErrs_eq_nil_iff (msgs : ScriptMessages) (script : String)
    (scripts : List String) :
    scriptAndScriptsErrs msgs script scripts = [] ↔ script = "" ∨ scripts = [] := by
  unfold scriptAndScriptsErrs
  cases scripts <;> by_cases h : script = "" <;> simp [h]

theorem sourceErrs_eq_nil_iff (msgs : ScriptMessages) (scripts : List String)
    (inline : Option (List String)) :
    sourceErrs msgs scripts inline = [] ↔ (scripts = [] ↔ inline ≠ none) := by
  unfold sourceErrs
  cases scripts <;> cases inline <;> simp

/-- **Passing checks 2 to 4**: scripts or inline commands but not both, every script found, and
every variable of the form `key=value` with a non-empty key. -/
theorem scriptFieldErrs_eq_nil_iff (msgs : ScriptMessages) (statErr : String → Option String)
    (scripts : List String) (inline : Option (List String)) (vars : List String) :
    scriptFieldErrs msgs statErr scripts inline vars = [] ↔
      (scripts = [] ↔ inline ≠ none) ∧ (∀ p ∈ scripts, statErr p = none) ∧
        ∀ kv ∈ vars, varErr kv = none := by
  simp [scriptFieldErrs, sourceErrs_eq_nil_iff, badScriptErr, List.filterMap_eq_nil_iff,
    and_assoc]

end Laforge.Provisioner
