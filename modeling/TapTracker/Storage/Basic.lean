import TapTracker.Config.Settings

/-!
# Reading and writing configuration files

A `Storage` reads and writes texts under paths; where it fails it gives the reason in words.

`Settings.load` resolves the settings of a command line together with the file that it names, and
`writeTemplate` writes the configuration file for a start.
-/

namespace TapTracker

/-- A place for files. -/
structure Storage (m : Type → Type) where
  /-- The text in a file. -/
  readText : (path : String) → m (Except String String)
  /-- Makes a text the content of a file. -/
  writeText : (path text : String) → m (Except String Unit)

variable {m : Type → Type} [Monad m]

/-- The configuration file under a path. -/
def ConfigFile.load (storage : Storage m) (path : String) :
    m (Except ConfigError ConfigFile) := do
  match ← storage.readText path with
  | .error reason => return .error (.fileRead path reason)
  | .ok text => return (ConfigFile.ofText text).mapError .toml

/-- The settings of a command line.  The file is read first, so that its faults are found before
those of the settings. -/
def Settings.load (storage : Storage m) (line : CommandLine) : m (Except ConfigError Settings) := do
  match line.config with
  | none => return Settings.resolve line .empty
  | some path =>
    let file ← ConfigFile.load storage path
    return file.bind (Settings.resolve line)

/-- Writes the configuration file for a start. -/
def writeTemplate (storage : Storage m) (path : String) : m (Except ConfigError Unit) := do
  let answer ← storage.writeText path Defaults.template
  return answer.mapError (.fileWrite path)

end TapTracker
