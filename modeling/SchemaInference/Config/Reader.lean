/-
This file reads configurations.
-/

import SchemaInference.Config.Basic
import SchemaInference.Config.JsonFormat
import SchemaInference.Config.YamlFormat

namespace SchemaInference

namespace Options

variable {Part : Type}

def read (format : Format Part) (part : Part) : Reading Options := do
  let names :=
    ["max_depth", "root_type_name", "fallback_field", "type_name_suffix", "strict_names"]
  match ← format.record names part with
  | [maxDepth, rootTypeName, fallbackField, typeNameSuffix, strictNames] => do
      pure ⟨← Format.partOr format.natural standard.maxDepth maxDepth,
        ← Format.partOr format.text standard.rootTypeName rootTypeName,
        ← Format.partOr format.text standard.fallbackField fallbackField,
        ← Format.partOr format.text standard.typeNameSuffix typeNameSuffix,
        ← Format.partOr format.truth standard.strictNames strictNames⟩
  | _ => failure

end Options

namespace SourceConfig

def fileOfSetting? (setting : Setting) : Option SourceConfig := do
  match ← setting.record? ["path"] with
  | [some path] => some (.file (← path.text?))
  | _ => none

def httpOfSetting? (setting : Setting) : Option SourceConfig := do
  match ← setting.record? ["url", "timeout_secs", "headers"] with
  | [some url, timeoutSeconds, headers] =>
      some (.http (← url.text?)
        (← Setting.partOr Setting.natural? Config.standardTimeoutSeconds timeoutSeconds)
        (← Setting.partOr Setting.texts? .empty headers))
  | _ => none

/-- The type decides which settings a source has. -/
def ofSettings? (type : String) (setting : Setting) : Option SourceConfig :=
  if type = "file" then fileOfSetting? setting
  else if type = "http" then httpOfSetting? setting
  else none

end SourceConfig

namespace Config

variable {Part : Type}

def readSource (format : Format Part) (part : Part) : Reading SourceConfig := do
  let (type, setting) ← format.source part
  .ofOption (SourceConfig.ofSettings? type setting)

def readLogLevel (format : Format Part) (part : Part) : Reading LogLevel := do
  .ofOption (LogLevel.ofName? (← format.choice part))

/-- Only the source has to be given. -/
def read (format : Format Part) (part : Part) : Reading Config := do
  let names := ["source", "refresh_interval_secs", "schema", "log_level"]
  match ← format.record names part with
  | [some source, refreshSeconds, options, logLevel] => do
      pure ⟨← readSource format source,
        ← Format.partOr format.natural standardRefreshSeconds refreshSeconds,
        ← Format.partOr (Options.read format) Options.standard options,
        ← Format.partOr (readLogLevel format) LogLevel.info logLevel⟩
  | _ => failure

/-- This function reads a JSON text without checking the configuration. -/
def ofJson (text : String) : Outcome Config :=
  match (Json.Tree.read? text.toList).bind fun tree => (read Json.format tree).run? 0 with
  | some config => .ok config
  | none => .error .malformedJson

def parseYaml (text : String) : Outcome Config :=
  match (Yaml.Document.read? text.toList).bind fun document =>
      (read document.format document.root).run? document.jumpLimit with
  | some config => .ok config
  | none => .error .malformedYaml

/-- This function reads a YAML text and checks the configuration. -/
def ofYaml (text : String) : Outcome Config := do
  let config ← parseYaml text
  config.validate
  return config

end Config

end SchemaInference
