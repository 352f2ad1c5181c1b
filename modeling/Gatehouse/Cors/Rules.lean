import Gatehouse.Cors.Config
import Gatehouse.Http.Token
import Gatehouse.Service.World
import Gatehouse.Text.Blank

/-!
Answers to calls from foreign pages. The rules follow from the configuration once; entries that
cannot be used are dropped. Every `OPTIONS` request is answered by the rules alone.
-/
namespace Gatehouse.Cors

/-- The origins that may call: any, or those of a list. -/
inductive Origins where
  | any
  | listed (origins : List Bytes)
  deriving DecidableEq, Repr

/-- What is put into answers. A list that is empty puts nothing. -/
structure Rules where
  origins : Origins
  methods : Option String
  headers : Option String
  exposed : Option String
  credentials : Bool
  maxAge : Nat
  deriving DecidableEq, Repr

/-- Why no rules can be made, or why they cannot be put in front of a handler. -/
inductive Defect where
  | wildcardInList
  | credentialsWithAny (field : String)
  deriving DecidableEq, Repr

def Defect.message : Defect → String
  | wildcardInList =>
    "Wildcard origin (\x60*\x60) cannot be passed to \x60AllowOrigin::list\x60. " ++
      "Use \x60AllowOrigin::any()\x60 instead"
  | credentialsWithAny field =>
    "Invalid CORS configuration: Cannot combine \x60Access-Control-Allow-Credentials: true\x60 " ++
      "with \x60" ++ field ++ ": *\x60"

/-- Whether bytes may be the value of a header field. -/
def isFieldValue (value : Bytes) : Bool :=
  value.all fun b => (0x20 ≤ b && b ≠ 0x7F) || b = 0x09

/-- The texts of a list that are tokens once the blanks around them are gone. -/
def tokens (texts : List String) : List String :=
  (texts.map Blank.trim).filter HttpToken.isToken

/-- A list as one field value. -/
def joined (texts : List String) : Option String :=
  if texts.isEmpty then none else some (",".intercalate texts)

/-- How long a header name may be. -/
def longestName : Nat := 65535

/-- Header names in lower case. Texts that are too long for one are dropped. -/
def headerNames (texts : List String) : List String :=
  ((tokens texts).filter (·.length ≤ longestName)).map fun name =>
    String.ofList (name.toList.map Char.toLower)

/-- Whether any origin is configured, which takes a text that is the wildcard and nothing else. -/
def allowsAny (config : CorsConfig) : Bool := config.origins.contains "*"

/-- The listed origins without the blanks around them. -/
def listedOrigins (config : CorsConfig) : List Bytes :=
  (config.origins.map fun origin => Utf8.encode (Blank.trim origin)).filter isFieldValue

/-- What the log gets while the rules are made. -/
def buildEvents (config : CorsConfig) : List Event :=
  if config.credentials && allowsAny config then
    [⟨.warn, "CORS credentials ignored with wildcard origin", []⟩]
  else []

/-- The rules of a configuration. Credentials are dropped where any origin may call. -/
def rules (config : CorsConfig) : Except Defect Rules :=
  let any := allowsAny config
  let listed := listedOrigins config
  if !any && listed.contains (Utf8.encode "*") then .error .wildcardInList
  else .ok {
    origins := if any then .any else .listed listed
    methods := joined (tokens config.methods)
    headers := joined (headerNames config.headers)
    exposed := joined (headerNames config.exposed)
    credentials := config.credentials && !any
    maxAge := config.maxAge }

/-- Rules with credentials may not allow any header, method, origin or exposed header. -/
def Rules.check (rules : Rules) : Except Defect Unit :=
  if !rules.credentials then .ok ()
  else if rules.headers = some "*" then
    .error (.credentialsWithAny "Access-Control-Allow-Headers")
  else if rules.methods = some "*" then
    .error (.credentialsWithAny "Access-Control-Allow-Methods")
  else if rules.origins = .any then
    .error (.credentialsWithAny "Access-Control-Allow-Origin")
  else if rules.exposed = some "*" then
    .error (.credentialsWithAny "Access-Control-Expose-Headers")
  else .ok ()

/-- What caches are told that answers depend on. -/
def varyValue : String :=
  "origin, access-control-request-method, access-control-request-headers"

/-- The origin that an answer allows: any, or the request's first one if it is listed. -/
def Rules.allowedOrigin (rules : Rules) (request : Headers) : Option Bytes :=
  match rules.origins with
  | .any => some (Utf8.encode "*")
  | .listed origins => (request.get? "origin").filter origins.contains

/-- A field that is set where there is a value. -/
def field (name : String) (value : Option String) : List (String × Bytes) :=
  match value with
  | some text => [(name, Utf8.encode text)]
  | none => []

/-- The field for the allowed origin. -/
def Rules.originField (rules : Rules) (request : Headers) : List (String × Bytes) :=
  match rules.allowedOrigin request with
  | some value => [("access-control-allow-origin", value)]
  | none => []

def Rules.credentialsField (rules : Rules) : List (String × Bytes) :=
  field "access-control-allow-credentials" (if rules.credentials then some "true" else none)

/-- The answer to an `OPTIONS` request. -/
def Rules.preflight (rules : Rules) (request : Headers) : Response :=
  ⟨200, ⟨rules.credentialsField ++ [("vary", Utf8.encode varyValue)] ++
    field "access-control-allow-methods" rules.methods ++
    field "access-control-allow-headers" rules.headers ++
    field "access-control-max-age" (some (Numeral.decimal rules.maxAge)) ++
    rules.originField request⟩, [], true⟩

/-- What is put into the answer of a handler: `vary` is added, other fields replace those the
handler has set. -/
def Rules.decorate (rules : Rules) (request : Headers) (answer : Headers) : Headers :=
  (rules.credentialsField ++ field "access-control-expose-headers" rules.exposed ++
      rules.originField request).foldl
    (fun headers (name, value) => headers.insert name value)
    (answer.append "vary" (Utf8.encode varyValue))

/-- The rules in front of a handler. -/
def Rules.layer {σ : Type} (rules : Rules) : Layer σ := fun next request => do
  if request.method = "OPTIONS" then return rules.preflight request.headers
  else
    let response ← next request
    return response.mapHeaders (rules.decorate request.headers)

end Gatehouse.Cors
