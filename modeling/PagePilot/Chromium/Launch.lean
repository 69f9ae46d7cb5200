import PagePilot.Host
import PagePilot.Launch

/-!
# Launching Chromium

The command-line switches that launch flags become, and everything else that the browser is started
with.

## Main definitions

- `Chromium.Options` - how the browser is to be started
- `Chromium.switches`, `Chromium.unsupported` - the switches, and the flags that have none
- `Chromium.LaunchSettings` - what the browser is started with
-/

namespace PagePilot.Chromium

/-- How the browser is to be started. -/
structure Options where
  /-- Without a window. -/
  headless : Bool := true
  sandbox : Bool := true
  /-- The browser's program; looked for if missing. -/
  chromePath : Option String := none
  /-- The directory of the profile; a temporary one if missing. -/
  userDataDir : Option String := none
  /-- How long the browser may be left alone. Sessions are idle between runs, hence an hour. -/
  idleTimeout : Duration := .ofMillis 3600000
deriving DecidableEq

/-- A letter of the first 128 characters in lower case; other characters as they are. -/
def lowercase (s : String) : String := String.ofList (s.toList.map Char.toLower)

/-- The switch that keeps images away. -/
def imageSwitch : String := "--blink-settings=imagesEnabled=false"

/-- The switch that lets pages see each other. -/
def webSecuritySwitch : String := "--disable-web-security"

/-- The switch for a protocol; any protocol needs none. -/
def protocolSwitch (protocol : String) : List String :=
  if lowercase protocol = "any" then [] else ["--ssl-version-min=" ++ lowercase protocol]

/-- The switch for a proxy, whose scheme is `http` unless another is asked for. -/
def proxySwitch (scheme : Option String) (proxy : String) : String :=
  "--proxy-server=" ++ scheme.getD "http" ++ "://" ++ proxy

/-- The command-line switches for launch flags. -/
def switches (params : LaunchParams) : List String :=
  (if params.flagEnabled "load-images" true then [] else [imageSwitch])
    ++ (if params.flagEnabled "web-security" true then [] else [webSecuritySwitch])
    ++ (match params.flag? "ssl-protocol" with
        | some protocol => protocolSwitch protocol
        | none => [])
    ++ (match params.flag? "proxy" with
        | some proxy => [proxySwitch (params.flag? "proxy-type") proxy]
        | none => [])

/-- The flags that are set but that the browser has no switch for. -/
def unsupported (params : LaunchParams) : List String :=
  ["proxy-auth", "cookies-file"].filter fun name => (params.flag? name).isSome

/-- The warning about a flag without a switch. -/
def unsupportedWarning (name : String) : String :=
  "Launch parameter '" ++ name ++ "' is not supported by Chromium and is ignored"

/-- Warns of every flag that the browser has no switch for. -/
def warnUnsupported (params : LaunchParams) : Host ε τ Unit :=
  (unsupported params).forM fun name => Host.warn (unsupportedWarning name)

/-- What the browser is started with. -/
structure LaunchSettings where
  args : List String
  headless : Bool
  sandbox : Bool
  windowSize : UInt32 × UInt32
  ignoreCertificateErrors : Bool
  path : Option String
  userDataDir : Option String
  idleTimeout : Duration
deriving DecidableEq

/-- What the browser is started with for given options and launch parameters. -/
def Options.settings (options : Options) (params : LaunchParams) : LaunchSettings where
  args := switches params
  headless := options.headless
  sandbox := options.sandbox
  windowSize := (params.width, params.height)
  ignoreCertificateErrors := params.flagEnabled "ignore-ssl-errors" true
  path := options.chromePath
  userDataDir := options.userDataDir
  idleTimeout := options.idleTimeout

end PagePilot.Chromium
