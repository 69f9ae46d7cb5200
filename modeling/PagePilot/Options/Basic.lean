import PagePilot.Time.Poll
import PagePilot.Text.Quoted

/-!
# Session options

What a session can be told before it starts: where locations begin, how long to wait, how large
the page is, and how the browser is to be launched.

## Main definitions

- `SessionOptions` - the options, with their defaults
- `SessionOptions.withTimeout` and its kin - options with one entry changed
- `SessionOptions.report` - all options in one line
-/

namespace PagePilot

/-- The options of a session. -/
structure SessionOptions where
  /-- Put in front of every location that is opened. -/
  baseUrl : String := ""
  /-- The time limit of every wait. -/
  timeout : Duration := .ofMillis 5000
  /-- The pause between two checks of a wait. -/
  pollInterval : Duration := .ofMillis 50
  /-- The default size of the page. -/
  width : UInt32 := 1920
  height : UInt32 := 1080
  /-- Whether every executed action is logged. -/
  debug : Bool := false
  loadImages : Bool := true
  ignoreSslErrors : Bool := true
  sslProtocol : Option String := none
  webSecurity : Bool := true
  proxy : Option String := none
  proxyType : Option String := none
  proxyAuth : Option String := none
  cookiesFile : Option String := none
deriving DecidableEq

namespace SessionOptions

instance : Inhabited SessionOptions := ⟨{}⟩

variable (o : SessionOptions)

def withBaseUrl (url : String) : SessionOptions := { o with baseUrl := url }

def withTimeout (limit : Duration) : SessionOptions := { o with timeout := limit }

def withPollInterval (pause : Duration) : SessionOptions := { o with pollInterval := pause }

def withViewport (width height : UInt32) : SessionOptions :=
  { o with width := width, height := height }

def withDebug (on : Bool) : SessionOptions := { o with debug := on }

def withLoadImages (on : Bool) : SessionOptions := { o with loadImages := on }

def withIgnoreSslErrors (on : Bool) : SessionOptions := { o with ignoreSslErrors := on }

def withSslProtocol (protocol : String) : SessionOptions := { o with sslProtocol := protocol }

def withWebSecurity (on : Bool) : SessionOptions := { o with webSecurity := on }

/-- Traffic goes through the proxy at `host:port`. -/
def withProxy (host : String) : SessionOptions := { o with proxy := host }

def withProxyType (kind : String) : SessionOptions := { o with proxyType := kind }

def withProxyAuth (auth : String) : SessionOptions := { o with proxyAuth := auth }

def withCookiesFile (path : String) : SessionOptions := { o with cookiesFile := path }

/-- The time limit and the pause of every wait of the session. -/
def waitConfig : WaitConfig := ⟨o.timeout, o.pollInterval⟩

/-- All options in one line, in the order of their declaration. -/
def report : String :=
  let shown : List (String × String) :=
    [("base_url", Text.quoted o.baseUrl), ("timeout", o.timeout.text),
     ("poll_interval", o.pollInterval.text), ("width", toString o.width),
     ("height", toString o.height), ("debug", toString o.debug),
     ("load_images", toString o.loadImages), ("ignore_ssl_errors", toString o.ignoreSslErrors),
     ("ssl_protocol", Text.optional (o.sslProtocol.map Text.quoted)),
     ("web_security", toString o.webSecurity),
     ("proxy", Text.optional (o.proxy.map Text.quoted)),
     ("proxy_type", Text.optional (o.proxyType.map Text.quoted)),
     ("proxy_auth", Text.optional (o.proxyAuth.map Text.quoted)),
     ("cookies_file", Text.optional (o.cookiesFile.map Text.quoted))]
  "SessionOptions " ++ Text.fields shown

end SessionOptions

end PagePilot
