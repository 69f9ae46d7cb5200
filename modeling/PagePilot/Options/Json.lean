import PagePilot.Json.Reader.Record
import PagePilot.Options.Basic

/-!
# Options as JSON

Options are written as an object with one member for each of them, durations in milliseconds, and
read from an object in which any member may be missing.

## Main definitions

- `SessionOptions.toJson` - the object with every option, in the order of declaration
- `SessionOptions.record` - the members that are read
- `SessionOptions.ofJson` - options from the text of an object, defaults where it says nothing
-/

namespace PagePilot

namespace SessionOptions

/-- A text that may be missing. -/
def optionalText : Option String → Json
  | none => .null
  | some s => .str s

/-- The object with every option. Durations are rounded down to milliseconds, of whose number the
low 64 bits are kept. -/
def toJson (o : SessionOptions) : Json :=
  .obj
    [("baseUrl", .str o.baseUrl),
     ("timeout", .nat o.timeout.millisWord.toNat),
     ("pollInterval", .nat o.pollInterval.millisWord.toNat),
     ("width", .nat o.width.toNat),
     ("height", .nat o.height.toNat),
     ("debug", .bool o.debug),
     ("loadImages", .bool o.loadImages),
     ("ignoreSslErrors", .bool o.ignoreSslErrors),
     ("sslProtocol", optionalText o.sslProtocol),
     ("webSecurity", .bool o.webSecurity),
     ("proxy", optionalText o.proxy),
     ("proxyType", optionalText o.proxyType),
     ("proxyAuth", optionalText o.proxyAuth),
     ("cookiesFile", optionalText o.cookiesFile)]

/-- A duration in whole milliseconds. -/
def readMillis : Json.Reader Duration := fun text => do
  let (ms, rest) ← Json.readWord64 text
  .ok (.ofMillis ms, rest)

/-- A text or `null`. -/
def readText? : Json.Reader (Option String) := Json.readOptional (Json.readString "a string")

/-- The options as a record: every one of them may be left out. -/
def record : Json.Record SessionOptions where
  title := "struct SessionOptions"
  fields :=
    [.of "baseUrl" (Json.readString "a string") fun v o => { o with baseUrl := v },
     .of "timeout" readMillis fun v o => { o with timeout := v },
     .of "pollInterval" readMillis fun v o => { o with pollInterval := v },
     .of "width" Json.readWord32 fun v o => { o with width := v },
     .of "height" Json.readWord32 fun v o => { o with height := v },
     .of "debug" Json.readTruth fun v o => { o with debug := v },
     .of "loadImages" Json.readTruth fun v o => { o with loadImages := v },
     .of "ignoreSslErrors" Json.readTruth fun v o => { o with ignoreSslErrors := v },
     .of "sslProtocol" readText? fun v o => { o with sslProtocol := v },
     .of "webSecurity" Json.readTruth fun v o => { o with webSecurity := v },
     .of "proxy" readText? fun v o => { o with proxy := v },
     .of "proxyType" readText? fun v o => { o with proxyType := v },
     .of "proxyAuth" readText? fun v o => { o with proxyAuth := v },
     .of "cookiesFile" (Json.readOptional (Json.readString "path string"))
       fun v o => { o with cookiesFile := v }]

/-- Options from the text of a JSON object. -/
def ofJson (text : String) : Except Failure SessionOptions :=
  match record.parse {} text with
  | .ok o => .ok o
  | .error fault => .error (.invalidOptions (fault.message text.toList))

end SessionOptions

end PagePilot
