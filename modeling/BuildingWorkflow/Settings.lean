import BuildingWorkflow.Options.Bag

/-!
Settings of the application.

A setting is given directly or by a variable of the environment whose name has a mark in front; what
is given directly wins. Names are matched in any case, and names that are no settings are ignored.
Of several spellings the first one given directly counts, but the last one of the environment.
-/
namespace BuildingWorkflow

/-- Where the application runs. -/
inductive Stage
  | development
  | staging
  | production
deriving DecidableEq

instance : Choice Stage where
  all := [.development, .staging, .production]
  name
    | .development => "development"
    | .staging => "staging"
    | .production => "production"

inductive LogLevel
  | debug
  | info
  | warning
  | error
  | critical
deriving DecidableEq

instance : Choice LogLevel where
  all := [.debug, .info, .warning, .error, .critical]
  name
    | .debug => "DEBUG"
    | .info => "INFO"
    | .warning => "WARNING"
    | .error => "ERROR"
    | .critical => "CRITICAL"

inductive LogFormat
  | json
  | console
deriving DecidableEq

instance : Choice LogFormat where
  all := [.json, .console]
  name
    | .json => "json"
    | .console => "console"

structure Settings where
  appName : String
  appVersion : String
  debug : Bool
  stage : Stage
  /-- How many nodes are evaluated at once. -/
  maxConcurrency : Int
  /-- After how many seconds a node is given up; never if there is none. -/
  nodeTimeout : Option Binary64
  maxFileSizeMb : Int
  uploadFolder : String
  exportFolder : String
  apiHost : String
  apiPort : Int
  logLevel : LogLevel
  logFormat : LogFormat
  logFile : Option String

namespace Settings

open Scalar

/-- The settings when nothing is given. -/
def usual : Settings where
  appName := "ifc_flow"
  appVersion := "0.1.0"
  debug := false
  stage := .development
  maxConcurrency := 4
  nodeTimeout := none
  maxFileSizeMb := 500
  uploadFolder := "/tmp/ifc_flow_uploads"
  exportFolder := "/tmp/ifc_flow_exports"
  apiHost := "127.0.0.1"
  apiPort := 8080
  logLevel := .info
  logFormat := .console
  logFile := none

/-- The names of the settings, in order. -/
def names : List String :=
  ["app_name", "app_version", "debug", "environment", "max_concurrency", "node_timeout_seconds",
    "max_file_size_mb", "upload_dir", "export_dir", "api_host", "api_port", "log_level",
    "log_format", "log_file"]

/-- The mark in front of the names of variables. -/
def variableMark : String := "ifc_flow_"

/-- The values of a name in any case, in order. -/
def spelledInAnyCase (bag : Bag) (name : String) : List Value :=
  (bag.filter fun entry => lower entry.1 == name).map Prod.snd

/-- The settings that are given, directly or by variables of the environment. -/
def given (direct ambient : Bag) : Bag :=
  names.filterMap fun name =>
    ((spelledInAnyCase direct name).head?.or
      (spelledInAnyCase ambient (variableMark ++ name)).getLast?).map (name, ·)

/-- A level of logging, in any case. -/
def readLogLevel : Reader LogLevel := fun v =>
  choice LogLevel (match v with
    | .text s => .text (upper s)
    | v => v)

def readFields (bag : Bag) : Reading Settings :=
  let field {α : Type} (name : String) (default : α) (read : Reader α) :=
    optionAt bag [name] default (.ofScalar read)
  Settings.mk <$> field "app_name" usual.appName text
    <*> field "app_version" usual.appVersion text
    <*> field "debug" usual.debug flag
    <*> field "environment" usual.stage (choice Stage)
    <*> field "max_concurrency" usual.maxConcurrency (wholeBetween 1 64)
    <*> field "node_timeout_seconds" usual.nodeTimeout (optional (numberAbove 0))
    <*> field "max_file_size_mb" usual.maxFileSizeMb (wholeBetween 10 2000)
    <*> field "upload_dir" usual.uploadFolder text
    <*> field "export_dir" usual.exportFolder text
    <*> field "api_host" usual.apiHost text
    <*> field "api_port" usual.apiPort (wholeBetween 1 65535)
    <*> field "log_level" usual.logLevel readLogLevel
    <*> field "log_format" usual.logFormat (choice LogFormat)
    <*> field "log_file" usual.logFile (optional text)

/-- The settings that follow from what is given; what is not given has a default. -/
def read (direct ambient : Bag) : Except (List OptionFault) Settings :=
  (readFields (given direct ambient)).toExcept

/-- The largest file that is imported, in bytes. -/
def maxFileSize (s : Settings) : Int := s.maxFileSizeMb * 1024 * 1024

def record (s : Settings) : Value :=
  .map [("app_name", .text s.appName), ("app_version", .text s.appVersion),
    ("debug", .bool s.debug), ("environment", Choice.value s.stage),
    ("max_concurrency", .int s.maxConcurrency),
    ("node_timeout_seconds", s.nodeTimeout.elim .null .float),
    ("max_file_size_mb", .int s.maxFileSizeMb), ("upload_dir", .text s.uploadFolder),
    ("export_dir", .text s.exportFolder), ("api_host", .text s.apiHost),
    ("api_port", .int s.apiPort), ("log_level", Choice.value s.logLevel),
    ("log_format", Choice.value s.logFormat), ("log_file", s.logFile.elim .null .text),
    ("max_file_size_bytes", .int s.maxFileSize)]

end Settings

end BuildingWorkflow
