import PagePilot.Options.Basic

/-!
# Launch parameters

What an engine needs to start: the size of its window, and flags by name.

## Main definitions

- `LaunchParams` - size and flags
- `LaunchParams.flag?`, `LaunchParams.flagEnabled` - looking flags up
- `SessionOptions.launchParams` - the parameters that the options ask for
-/

namespace PagePilot

/-- What an engine needs to start. -/
structure LaunchParams where
  width : UInt32
  height : UInt32
  /-- Flags and their values, in ascending order of their names. -/
  flags : List (String × String)
deriving DecidableEq

namespace LaunchParams

/-- The value of a flag. -/
def flag? (params : LaunchParams) (name : String) : Option String :=
  (params.flags.find? fun (key, _) => key == name).map (·.2)

/-- Whether a flag is on; `default` if it is missing. Any value but `true` counts as off. -/
def flagEnabled (params : LaunchParams) (name : String) (default : Bool) : Bool :=
  match params.flag? name with
  | none => default
  | some value => value == "true"

/-- The flags in one line. -/
def flagsReport (params : LaunchParams) : String := Text.entries params.flags

end LaunchParams

/-- A flag that is there only if it has a value. -/
def optionalFlag (name : String) : Option String → List (String × String)
  | none => []
  | some value => [(name, value)]

/-- The launch parameters that the options ask for. Truth values are always passed on, texts where
they are set. -/
def SessionOptions.launchParams (o : SessionOptions) : LaunchParams where
  width := o.width
  height := o.height
  flags :=
    optionalFlag "cookies-file" o.cookiesFile
      ++ [("ignore-ssl-errors", toString o.ignoreSslErrors),
          ("load-images", toString o.loadImages)]
      ++ optionalFlag "proxy" o.proxy
      ++ optionalFlag "proxy-auth" o.proxyAuth
      ++ optionalFlag "proxy-type" o.proxyType
      ++ optionalFlag "ssl-protocol" o.sslProtocol
      ++ [("web-security", toString o.webSecurity)]

end PagePilot
