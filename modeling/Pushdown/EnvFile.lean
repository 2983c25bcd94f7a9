import Pushdown.EnvFile.Line
import Pushdown.EnvFile.Reference
import Pushdown.Named
import Pushdown.Text.Case

/-!
Files of environment settings. What is set already stays as it is, and a setting that no
environment can hold is refused.
-/
namespace Pushdown.EnvFile

/-- Why an environment cannot hold a setting. -/
inductive SettingFault
  | zeroCharacter
  | equalsInName
  deriving DecidableEq, Repr

def SettingFault.message : SettingFault → String
  | .zeroCharacter => "embedded null byte"
  | .equalsInName => "illegal environment variable name"

abbrev Settings := Named (Option String)

/-- The values of the bindings in order. A reference sees the environment first, then the lines
before; a later line replaces an earlier one. -/
def resolve (env : Environment) : List Binding → Settings → Settings
  | [], done => done
  | ⟨none, _⟩ :: rest, done => resolve env rest done
  | ⟨some key, value⟩ :: rest, done =>
    let known : Environment := env ++ done.map fun (name, value) => (name, value.getD "")
    let result := value.map fun v => String.ofList (expand known v)
    resolve env rest (done.put (String.ofList key) result)

/-- The settings that have a value and are not in the environment yet. -/
def Settings.newIn (env : Environment) (settings : Settings) : Environment :=
  settings.filterMap fun (name, value) =>
    if (env.lookup name).isSome then none else value.map (name, ·)

def checkSetting : String × String → Except SettingFault (String × String)
  | (name, value) =>
    if name.toList.contains '\x00' || value.toList.contains '\x00' then .error .zeroCharacter
    else if name.toList.contains '=' then .error .equalsInName
    else .ok (name, value)

/-- The name that turns settings files off. -/
def disablingName : String := "PYTHON_DOTENV_DISABLED"

def disablingWords : List String := ["1", "true", "t", "yes", "y"]

/-- Whether the environment asks for no settings files, in words of either case. -/
def isDisabled (env : Environment) : Bool :=
  match env.lookup disablingName with
  | some word => disablingWords.contains (Text.lower (Text.upper word))
  | none => false

/-- The environment with the settings of a file added. -/
def load (env : Environment) (text : String) : Except SettingFault Environment :=
  if isDisabled env then .ok env
  else do
    let settings ← (Settings.newIn env (resolve env (bindings text) [])).mapM checkSetting
    return env ++ settings

end Pushdown.EnvFile
