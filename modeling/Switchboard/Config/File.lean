import Switchboard.Config.Reader
import Switchboard.Config.Writer
import Switchboard.Host.Basic

/-!
# Settings in files

Loading settings from a file and saving them to one, and the file that log records are added to.
-/

namespace Switchboard

/-- Why settings cannot be loaded or saved. -/
inductive ConfigError
  | io (e : IoError)
  | parse (e : ParseError)
  /-- A number is too large for a document. -/
  | unwritable
  | notFound (path : String)
  deriving DecidableEq, Repr

def ConfigError.message : ConfigError → String
  | .io e => "IO error: " ++ e.message
  | .parse e => "Parse error: " ++ e.message
  | .unwritable => "Serialize error: out-of-range value for u64 type"
  | .notFound path => "Config file not found: " ++ path

namespace Config

/-- Loads settings from a file. -/
def load (h : Host) (path : String) : Except ConfigError Config :=
  let p := FilePath.ofString path
  if h.files.isPresent p then do
    let text ← (h.files.readText p).mapError .io
    (parse h.name text).mapError .parse
  else .error (.notFound path)

/-- Loads the first of several files that is there; without any the defaults hold. A file that is
there but cannot be read is an error. -/
def loadFirst (h : Host) (paths : List String) : Except ConfigError Config :=
  match paths.find? fun path => h.files.isPresent (FilePath.ofString path) with
  | some path => load h path
  | none => .ok (default h.name)

/-- Where settings are looked for. -/
def defaultPaths (h : Host) : List String :=
  (h.userDirectory.map (· ++ "/msgproc/config.toml")).toList ++ ["./msgproc.toml"]

/-- Loads settings from where they are looked for. -/
def loadDefault (h : Host) : Except ConfigError Config :=
  loadFirst h (defaultPaths h)

/-- Saves settings to a file, making the directories around it. -/
def save (c : Config) (files : FileTree) (path : String) : Except ConfigError Unit × FileTree :=
  match c.text? with
  | none => (.error .unwritable, files)
  | some text =>
    let p := FilePath.ofString path
    match files.makeParents p with
    | (.error e, files) => (.error (.io e), files)
    | (.ok (), files) =>
      match files.write p (Utf8.ofString text) with
      | .error e => (.error (.io e), files)
      | .ok files => (.ok (), files)

end Config

/-- Opens the log file, if one is set, making the directories around it. -/
def GeneralConfig.openLog (c : GeneralConfig) (files : FileTree) :
    Except ConfigError (Option Place) × FileTree :=
  match c.logFile with
  | none => (.ok none, files)
  | some path =>
    let p := FilePath.ofString path
    match files.makeParents p with
    | (.error e, files) => (.error (.io e), files)
    | (.ok (), files) =>
      match files.openToAppend p with
      | .error e => (.error (.io e), files)
      | .ok (place, files) => (.ok (some place), files)

end Switchboard
