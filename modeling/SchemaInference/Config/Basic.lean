/-
This file defines the configuration of a service and checks it.
-/

import SchemaInference.Document
import SchemaInference.Inference.Assembly
import SchemaInference.LogLevel
import SchemaInference.Schema.Form
import SchemaInference.Url.Basic

namespace SchemaInference

/-- A configured source is a file or a web address. -/
inductive SourceConfig where
  | file (path : String)
  | http (url : String) (timeoutSeconds : Nat) (headers : Dict String)
deriving DecidableEq

structure Config where
  source : SourceConfig
  refreshSeconds : Nat
  options : Options
  logLevel : LogLevel
deriving DecidableEq

/-- A provider of web documents needs a URL that can be read. -/
def Origin.ofUrl (url : String) : Outcome Origin :=
  match Url.read url with
  | .ok _ => .ok (.remote url)
  | .error fault => .error (.invalidUrl fault)

namespace SourceConfig

def describe : SourceConfig → String
  | file path => "file " ++ path
  | http url _ _ => "url " ++ url

def origin : SourceConfig → Outcome Origin
  | file path => .ok (.file path)
  | http url _ _ => Origin.ofUrl url

def validate : SourceConfig → Outcome Unit
  | file path =>
      if path.isEmpty then .error (.invalidSetting "source.path" "cannot be empty") else .ok ()
  | http url timeoutSeconds _ =>
      match Url.read url with
      | .error fault => .error (.invalidSetting "source.url" fault.message)
      | .ok address =>
          if address.scheme != "http" && address.scheme != "https" then
            .error (.invalidSetting "source.url"
              ("unsupported scheme '" ++ address.scheme ++ "'"))
          else if timeoutSeconds = 0 then
            .error (.invalidSetting "source.timeout_secs" "must be greater than 0")
          else .ok ()

end SourceConfig

namespace Config

def standardRefreshSeconds : Nat := 5

def standardTimeoutSeconds : Nat := 30

/-- The first fault in the order of the settings is reported, the source last. -/
def validate (config : Config) : Outcome Unit :=
  if config.refreshSeconds = 0 then
    .error (.invalidSetting "refresh_interval_secs" "must be greater than 0")
  else if config.options.rootTypeName.isEmpty then
    .error (.invalidSetting "schema.root_type_name" "cannot be empty")
  else if config.options.fallbackField.isEmpty then
    .error (.invalidSetting "schema.fallback_field" "cannot be empty")
  else config.source.validate

def refreshMilliseconds (config : Config) : Nat :=
  1000 * config.refreshSeconds

def assembler (config : Config) : Assembler :=
  .ofOptions config.options

end Config

/-! The JSON form of a configuration -/

def naturalJson (value : Nat) : Json :=
  .number (.natural (UInt64.ofNat value))

def Options.json (options : Options) : Json :=
  .object [("max_depth", naturalJson options.maxDepth),
    ("root_type_name", .string options.rootTypeName),
    ("fallback_field", .string options.fallbackField),
    ("type_name_suffix", .string options.typeNameSuffix),
    ("strict_names", .boolean options.strictNames)]

def SourceConfig.json : SourceConfig → Json
  | file path => .object [("type", .string "file"), ("path", .string path)]
  | http url timeoutSeconds headers =>
      .object [("type", .string "http"), ("url", .string url),
        ("timeout_secs", naturalJson timeoutSeconds), ("headers", headers.json Json.string)]

def Config.json (config : Config) : Json :=
  .object [("source", config.source.json),
    ("refresh_interval_secs", naturalJson config.refreshSeconds),
    ("schema", config.options.json), ("log_level", .string config.logLevel.name)]

end SchemaInference
