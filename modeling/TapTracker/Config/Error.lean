import TapTracker.Pattern.Basic
import TapTracker.Toml.Value

/-!
# Errors of the configuration

`ConfigError.hint?` is the advice that is given with an error, where there is one to give.
-/

namespace TapTracker

/-- A setting that is a pattern. -/
inductive PatternSetting
  | adapterClass
  | signature
deriving DecidableEq, Repr

/-- The name of the setting. -/
def PatternSetting.name : PatternSetting → String
  | adapterClass => "adapter_class"
  | signature => "signature"

/-- Why there is no configuration. -/
inductive ConfigError
  | fileRead (path reason : String)
  | fileWrite (path reason : String)
  | toml (cause : Toml.Error)
  | invalidPattern (setting : PatternSetting) (text : String) (cause : PatternError)
  /-- The time limit of the installer is zero. -/
  | noTime
  | emptyAlias
  | invalidAlias (aliasName : String) (character : Char)
deriving DecidableEq, Repr

namespace ConfigError

/-- The error in words. -/
def message : ConfigError → String
  | fileRead path reason => "Failed to read config file '" ++ path ++ "': " ++ reason
  | fileWrite path reason => "Failed to write config file '" ++ path ++ "': " ++ reason
  | toml cause => "Failed to parse TOML config: " ++ cause.message
  | invalidPattern setting text cause =>
    "Invalid regex pattern for " ++ setting.name ++ " '" ++ text ++ "': " ++ cause.message
  | noTime => "Invalid duration for install_timeout: must be greater than 0"
  | emptyAlias => "Product alias must not be empty"
  | invalidAlias aliasName character =>
    "Product alias '" ++ aliasName ++ "' must not contain '" ++ character.toString ++ "'"

/-- The messages of the causes. -/
def causes : ConfigError → List String
  | fileRead _ reason => [reason]
  | fileWrite _ reason => [reason]
  | toml cause => [cause.message]
  | invalidPattern _ _ cause => [cause.message]
  | _ => []

/-- Advice for mending the error. -/
def hint? : ConfigError → Option String
  | fileRead _ _ => some "Run 'driverlogic init' to generate a configuration template."
  | invalidPattern .signature _ _ =>
    some ("The signature is a regular expression over the adapter alias. " ++
      "Omit it to match the product alias exactly.")
  | invalidPattern .adapterClass _ _ =>
    some "Patterns are regular expressions; escape characters such as '(' with '\\'."
  | _ => none

end ConfigError

end TapTracker
