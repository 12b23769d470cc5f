import TapTracker.Adapter.Class
import TapTracker.CommandLine.Basic
import TapTracker.Config.Defaults
import TapTracker.Config.Error
import TapTracker.Config.File
import TapTracker.Text.Blank

/-!
# Settings

The settings of a run are resolved one by one: the command line comes first, then the configuration
file, then the defaults.  Two rules go further.  A signature that is set nowhere is derived from the
alias of the product.  A command that keeps the alias of the new adapter cannot be overruled by the
file.

The settings are resolved in a fixed order (class, alias, signature, time limit), and the first one
that cannot be used is the error.
-/

namespace TapTracker

/-- The settings of a run. -/
structure Settings where
  adapterClass : AdapterClass
  signature : AliasSignature
  productAlias : String
  /-- The time limit of the installer in seconds. -/
  installTimeout : Nat
  /-- A new adapter is given the alias of the product. -/
  rename : Bool
  verbose : Bool

namespace Settings

/-- The class of devices. -/
def resolveClass (line : CommandLine) (file : ConfigFile) : Except ConfigError AdapterClass :=
  let text := (line.adapterClass.or file.adapterClass).getD Defaults.adapterClass
  (AdapterClass.ofPattern text).mapError (.invalidPattern .adapterClass text)

/-- The alias, if a connection can have it as its name. -/
def checkAlias (aliasName : String) : Except ConfigError String :=
  if aliasName.isEmpty then .error .emptyAlias
  else
    match aliasName.toList.find? (· ∈ Defaults.forbiddenCharacters) with
    | some c => .error (.invalidAlias aliasName c)
    | none => .ok aliasName

/-- The alias of the product, without blanks around it. -/
def resolveAlias (line : CommandLine) (file : ConfigFile) : Except ConfigError String :=
  checkAlias
    (Text.trim ((line.productAlias.or file.productAlias).getD Defaults.productAlias))

/-- The signature of the adapters of the product. -/
def resolveSignature (line : CommandLine) (file : ConfigFile) (productAlias : String) :
    Except ConfigError AliasSignature :=
  match line.signature.or file.signature with
  | some text => (AliasSignature.ofPattern text).mapError (.invalidPattern .signature text)
  | none =>
    (AliasSignature.ofAlias productAlias).mapError (.invalidPattern .signature productAlias)

/-- The time limit of the installer. -/
def resolveTimeout (line : CommandLine) (file : ConfigFile) : Except ConfigError Nat :=
  let seconds := (line.installTimeout.or file.installTimeout).getD Defaults.installTimeout
  if seconds = 0 then .error .noTime else .ok seconds

/-- A new adapter is given the alias of the product. -/
def resolveRename (line : CommandLine) (file : ConfigFile) : Bool :=
  !line.keepsAlias && file.rename.getD Defaults.rename

/-- The settings of a command line and of a configuration file, which sets nothing if there is
none. -/
def resolve (line : CommandLine) (file : ConfigFile) : Except ConfigError Settings := do
  let adapterClass ← resolveClass line file
  let productAlias ← resolveAlias line file
  let signature ← resolveSignature line file productAlias
  let installTimeout ← resolveTimeout line file
  .ok
    { adapterClass, signature, productAlias, installTimeout
      rename := resolveRename line file
      verbose := line.verbose }

/-- The settings in one line. -/
def describe (s : Settings) : String :=
  "Config \x7b class: " ++ s.adapterClass.text ++ ", product_alias: " ++ s.productAlias ++
    ", signature: " ++ s.signature.text ++ ", install_timeout: " ++ toString s.installTimeout ++
    "s, rename: " ++ (if s.rename then "true" else "false") ++ " \x7d"

/-- The adapter belongs to the product. -/
def owns (s : Settings) (a : TapAdapter) : Bool := s.signature.owns a

end Settings

end TapTracker
