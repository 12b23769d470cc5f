/-!
# Default settings

What holds where neither the command line nor the configuration file says anything, and the
configuration file that is written for a start.  The file sets nothing that does not hold without
it.
-/

namespace TapTracker.Defaults

/-- The pattern of the descriptions of the devices. -/
def adapterClass : String := "^TAP-Windows Adapter V9"

/-- The alias of the adapter of the product. -/
def productAlias : String := "Mullvad"

/-- The characters that the name of a connection cannot have. -/
def forbiddenCharacters : List Char := ['\\', '/', ':', '*', '?', '"', '<', '>', '|']

/-- The time limit of the installer in seconds. -/
def installTimeout : Nat := 300

/-- A new adapter is given the alias of the product. -/
def rename : Bool := true

/-- The lines of the configuration file for a start. -/
def templateLines : List String :=
  ["# driverlogic Configuration File",
   "",
   "[adapter]",
   "# Regex over the OS device description selecting the virtual adapter class",
   "# (case-insensitive, default: \"^TAP-Windows Adapter V9\")",
   "# class = \"^TAP-Windows Adapter V9\"",
   "",
   "[product]",
   "# Alias given to the product's adapter after installation (default: \"Mullvad\")",
   "alias = \"Mullvad\"",
   "",
   "# Regex over the alias recognising product-owned adapters",
   "# (case-insensitive, default: exactly the alias above)",
   "# signature = \"^Mullvad$\"",
   "",
   "[install]",
   "# Seconds to wait for the driver installer (default: 300)",
   "# timeout = 300",
   "",
   "# Rename the new adapter to the product alias (default: true)",
   "# rename = true",
   ""]

/-- The configuration file for a start. -/
def template : String := "\n".intercalate templateLines

end TapTracker.Defaults
