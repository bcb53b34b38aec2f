import RedactedBundle.Failure
import RedactedBundle.Settings.OfToml

/-!
# Layers of settings

The settings for a folder come from the built-in values, the file of the user, the file of the
folder, a file named on the command line, and the environment, each over the ones before. The
files of the user and the folder may be missing, but not the one that was named.

## Main definitions

- `Environment`: what the surroundings of the program set
- `Settings.load`: the settings for a folder
-/

namespace RedactedBundle

/-- What the surroundings of the program set. -/
structure Environment where
  /-- The folder of the user's settings of all programs, if there is one. -/
  userFolder : Option Path
  outputFile : Option String
  theme : Option String
  deriving Repr, DecidableEq, Inhabited

namespace Settings

variable [TomlReader]

/-- The settings in a file. -/
def fromFile (fs : FileSystem) (path : Path) : Except Failure Settings :=
  match fs.readText path with
  | .error error => .error (.access .settings path error)
  | .ok cs =>
    match ofToml? cs with
    | some settings => .ok settings
    | none => .error (.settings path (TomlReader.fault? cs))

/-- The settings in a file, which may be missing, over those so far. -/
def mergeFound (fs : FileSystem) (settings : Settings) (path : Path) : Except Failure Settings :=
  if fs.holds path then (fromFile fs path).map settings.merge else .ok settings

/-- The settings with those of the environment over them. -/
def override (settings : Settings) (env : Environment) : Settings :=
  { settings with
    project := { settings.project with
      outputFile := env.outputFile.getD settings.project.outputFile }
    theme := env.theme.getD settings.theme }

/-- The settings file of the user. -/
def userFile? (env : Environment) : Option Path :=
  env.userFolder.map (·.join (.ofString "capsule/config.toml"))

/-- The settings file of a folder. -/
def folderFile (root : Path) : Path := root.join (.ofString ".capsule/config.toml")

/-- The settings for a folder, with a file named on the command line or without. -/
def load (fs : FileSystem) (env : Environment) (root : Path) (named : Option Path) :
    Except Failure Settings := do
  let settings ← match userFile? env with
    | some path => mergeFound fs builtin path
    | none => .ok builtin
  let settings ← mergeFound fs settings (folderFile root)
  let settings ← match named with
    | some path => (fromFile fs path).map settings.merge
    | none => .ok settings
  pure (settings.override env)

end Settings

end RedactedBundle
