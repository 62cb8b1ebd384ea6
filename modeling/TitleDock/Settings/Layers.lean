import TitleDock.Files.Tree
import TitleDock.Settings.Environment
import TitleDock.Settings.Fields
import TitleDock.Settings.Toml.Document

/-! Where settings come from: the standard ones, a file, the environment and the command line, each
layer over the ones before. Only the result is checked against the fields. -/

namespace TitleDock

inductive SettingsError where
  | fileNotFound (path : String)
  | invalid
deriving DecidableEq, Repr

def SettingsError.message : SettingsError → String
  | .fileNotFound path => "Config file not found: " ++ path
  | .invalid => "Failed to load configuration"

namespace Settings

def defaultFile : String := "nxlink.toml"

def outward (p : Files.Place) : List Files.Place :=
  (List.range (p.length + 1)).map fun n => p.take (p.length - n)

/-- The content of the nearest file at the path: in the working folder or in one of the folders
around it, unless the path is absolute. -/
def find? (t : Files.Tree) (path : String) : Option Bytes :=
  if Files.isAbsolute path then t.readAt? path
  else (outward t.workingFolder).findSome? fun p =>
    Files.Tree.readAt? { t with workingFolder := p } path

def fileLayer (content : Option Bytes) : Option SettingValue :=
  match content with
  | none => some (.table [])
  | some bytes => (Utf8.decode? bytes).bind Toml.parse?

def commandLayer : Option SettingValue → Option SettingValue
  | none => some (.table [])
  | some (.table entries) => some (.table entries)
  | some _ => none

def layered (tempDir : String) (file environment command : SettingValue) : SettingValue :=
  command.onto (environment.onto (file.onto (standard tempDir).toValue))

/-- The settings of a run: `file` is a file named on the command line, which must be there. -/
def load (t : Files.Tree) (file : Option String) (envVars : List (String × String))
    (command : Option SettingValue) : Except SettingsError Settings :=
  let missing := match file with
    | some path => !t.existsAt path
    | none => false
  if missing then .error (.fileNotFound (file.getD defaultFile))
  else
    let tempDir := Environment.tempDir envVars
    let result := do
      let fileValue ← fileLayer (find? t (file.getD defaultFile))
      let commandValue ← commandLayer command
      ofValue? tempDir (layered tempDir fileValue (Environment.layer envVars) commandValue)
    match result with
    | some s => .ok s
    | none => .error .invalid

end Settings

end TitleDock
