import AlertRelay.Config.Files
import AlertRelay.Config.Service
import AlertRelay.Yaml.Content

namespace AlertRelay.Config

open AlertRelay.Text AlertRelay.Validation

structure LoggingConfig where
  level : String
  format : String
  deriving DecidableEq, Repr

def LoggingConfig.default : LoggingConfig := ⟨"INFO", "json"⟩

def LoggingConfig.check (v : Value) : Checked LoggingConfig :=
  (modelEntries "LoggingConfig" v).bind fun es =>
    LoggingConfig.mk <$> optionalField es ["level"] LoggingConfig.default.level checkText
      <*> optionalField es ["format"] LoggingConfig.default.format checkText

structure Settings where
  service : ServiceConfig
  logging : LoggingConfig
  deriving DecidableEq, Repr

def Settings.check (es : Entries) : Checked Settings :=
  Settings.mk <$> optionalField es ["servicenow"] .default ServiceConfig.check
    <*> optionalField es ["logging"] .default LoggingConfig.check

inductive LoadError where
  | directory (path : String)
  | longPath (path : String)
  | yaml (e : Yaml.Error)
  | foreignKey
  | invalid (ps : List Problem)
  deriving DecidableEq, Repr

def LoadError.message : LoadError → String
  | .directory path => "[Errno 21] Is a directory: " ++ quoted path
  | .longPath path => "[Errno 36] File name too long: " ++ quoted path
  | .yaml e => e.message
  | .foreignKey => "keywords must be strings"
  | .invalid _ => "Settings"

def plainLines : List Char → List Char
  | [] => []
  | '\r' :: '\n' :: rest => '\n' :: plainLines rest
  | '\r' :: rest => '\n' :: plainLines rest
  | c :: rest => c :: plainLines rest

def Settings.ofText (text : String) : Except LoadError Settings :=
  match Yaml.Content.ofText (String.ofList (plainLines text.toList)) with
  | .error e => .error (.yaml e)
  | .ok content =>
    if content.foreignKey then .error .foreignKey
    else
      match Settings.check content.entries with
      | .ok s => .ok s
      | .problems ps => .error (.invalid ps)

def Settings.default : Settings := ⟨.default, .default⟩

def defaultPath : String := "config/settings.yaml"

def pathFor (path : Option String) : String :=
  match path with
  | none => defaultPath
  | some p => if p.isEmpty then defaultPath else plainPath p

/-- The settings of a file; those by default if there is no such file. -/
def readSettings (files : Files) (path : Option String) : Except LoadError Settings :=
  let p := pathFor path
  match files p with
  | .file text => Settings.ofText text
  | .nothing => .ok .default
  | .directory => .error (.directory p)
  | .tooLong => .error (.longPath p)

/-- Settings that were loaded, told apart from others by a number. -/
structure Loaded where
  settings : Settings
  serial : Nat
  deriving DecidableEq, Repr

structure Cache where
  held : Option Loaded
  next : Nat
  deriving DecidableEq, Repr

namespace Cache

def empty : Cache := ⟨none, 0⟩

/-- Loads settings and holds them. A failure leaves the cache as it is. -/
def load (c : Cache) (files : Files) (path : Option String) : Except LoadError (Loaded × Cache) :=
  match readSettings files path with
  | .ok s =>
    let l : Loaded := ⟨s, c.next⟩
    .ok (l, ⟨some l, c.next + 1⟩)
  | .error e => .error e

def get (c : Cache) (files : Files) : Except LoadError (Loaded × Cache) :=
  match c.held with
  | some l => .ok (l, c)
  | none => c.load files none

def reset (c : Cache) : Cache := { c with held := none }

end Cache

end AlertRelay.Config
