import ImageVault.Http.CrossOrigin
import ImageVault.Http.Endpoint
import ImageVault.Identity
import ImageVault.Metrics.Exposition
import ImageVault.Metrics.PathLabel
import ImageVault.Settings
import ImageVault.Upload.SpooledFile
import ImageVault.Vault

/-!
# The site

The site answers requests from the vault. The image endpoints ask for the identity of the
caller first; only then do they look at what else the request holds. All requests are
counted, those for the metrics themselves apart.

The host that requests name is left out: it is a plain name, so the path of an address starts
right behind it, and what a request is counted under depends on its path alone.
-/
namespace ImageVault

structure Site where
  serverUrl : Option String
  sizeLimit : Option Int
  chunkSize : Int
  environment : String
  /-- The origins that are admitted. -/
  origins : List String
  /-- Bytes that can be had at a time. -/
  room : Nat

namespace Site

/-- The site that is set up from some settings. -/
def ofSettings (settings : Settings) (room : Nat) : Site :=
  { serverUrl := settings.serverUrl
    sizeLimit := settings.maxUploadSize
    chunkSize := settings.uploadChunkSize
    environment := settings.environment
    origins := settings.corsOrigins
    room }

def policy (site : Site) : Policy :=
  ⟨site.serverUrl, site.sizeLimit⟩

/-- What an uploaded part arrives as. -/
def stream (site : Site) (part : Part) : ChunkStream :=
  Upload.stream site.room site.chunkSize part.content

def identify (request : Request) : Except Problem Uuid :=
  Identity.ofHeader (request.header? "x-user-id")

def unprocessable (location : List String) (defect : Schema.Defect) : Response :=
  .detail 422 (Schema.Report.list [⟨location.map .member, defect⟩])

/-- The last part that is named for the file; a plain field is none. -/
def uploadedPart (request : Request) : Except Schema.Defect Part :=
  match (request.parts.filter (·.field = "file")).getLast? with
  | none => .error .missing
  | some part =>
    if part.filename.isSome then .ok part
    else if part.content.isEmpty then .error .missing
    else .error .notUpload

/-- The resource of a stored image, as it is shown to the caller. -/
def created (image : StoredImage) : Except Fault Response :=
  match (ImageResource.validate image.attributes).toExcept with
  | .ok resource => .ok (.json 201 (.object resource.attributes))
  | .error reports => .error (.resource reports)

def upload (site : Site) (vault : Vault) (request : Request) (moment : Moment) (owner : Uuid) :
    Vault × Outcome Response :=
  match uploadedPart request with
  | .error defect => (vault, .value (unprocessable ["body", "file"] defect))
  | .ok part =>
    let (vault, ended) :=
      vault.upload site.policy (site.stream part) part.contentType owner moment
    (vault, ended.respond created)

/-- Plain text of one kind or another is declared with its encoding. -/
def contentType (mime : String) : String :=
  let lowered := Text.lower mime.toList
  let isDeclared := (List.range (lowered.length + 1)).any fun start =>
    "charset=".toList.isPrefixOf (lowered.drop start)
  if "text/".isPrefixOf mime && !isDeclared then mime ++ "; charset=utf-8" else mime

/-- Headers are written with one byte a character. -/
def isHeaderText (text : String) : Bool :=
  text.toList.all (·.toNat < 256)

def served (image : StoredImage) : Except Fault Response :=
  if isHeaderText image.filename && isHeaderText image.mime then
    .ok ⟨200, [("content-disposition", "inline; filename=\"" ++ image.filename ++ "\""),
      ("content-type", contentType image.mime)], .content image.content⟩
  else .error .headerText

def download (vault : Vault) (filename : String) (moment : Moment) : Vault × Outcome Response :=
  let (vault, found) := vault.download filename moment
  (vault, found.respond served)

def info (vault : Vault) (id : List Char) : Outcome Response :=
  match Uuid.ofStrict? id with
  | none => .value (unprocessable ["path", "image_id"] .uuidText)
  | some id => (vault.info id).respond fun info => .ok (.json 200 (.object info.attributes))

def welcome (site : Site) : Response :=
  .json 200 (.object
    [("message", .string "Mediahub API"), ("version", .string "0.1.0"),
     ("environment", .string site.environment)])

/-- Tables are not needed to be healthy. The cause of bad health is elided. -/
def health (vault : Vault) : Response :=
  if vault.store.condition = .unreachable then
    .detail 503 (.object [("status", .string "unhealthy"), ("database", .string "error: *")])
  else .json 200 (.object [("status", .string "healthy"), ("database", .string "connected")])

/-- What a page of the manual says is generated from the endpoints, and elided. -/
def manual (page : Manual) : Response :=
  if page = .schema then .json 200 (.string "*")
  else ⟨200, [("content-type", "text/html; charset=utf-8")], .content "*".toUTF8.toList⟩

/-- Runs an image endpoint for a caller who is known. -/
def asCaller (vault : Vault) (request : Request)
    (run : Uuid → Vault × Outcome Response) : Vault × Outcome Response :=
  match identify request with
  | .ok owner => run owner
  | .error problem => (vault, .value (.ofProblem problem))

def run (site : Site) (vault : Vault) (request : Request) (moment : Moment) :
    Endpoint → Vault × Outcome Response
  | .root => (vault, .value site.welcome)
  | .metrics => (vault, .value ⟨200, [], .samples (Exposition.lines vault.metrics)⟩)
  | .health => (vault, .value (health vault))
  | .upload => asCaller vault request (site.upload vault request moment)
  | .info id => asCaller vault request fun _ => (vault, info vault id)
  | .image filename =>
    asCaller vault request fun _ => download vault (String.ofList filename) moment
  | .manual page => (vault, .value (manual page))

def notFound : Response :=
  .detail 404 (.string "Not Found")

def notAllowed (endpoint : Endpoint) : Response :=
  (Response.detail 405 (.string "Method Not Allowed")).withHeaders
    [("allow", ", ".intercalate endpoint.methods)]

def moved (path : List Char) : Response :=
  ⟨307, [("location", RequestAddress.location path)], .content []⟩

/-- The answer of the endpoint that the path leads to. -/
def dispatch (site : Site) (vault : Vault) (request : Request) (moment : Moment) :
    Vault × Outcome Response :=
  match Endpoint.ofPath? request.path.toList with
  | some endpoint =>
    -- A known path with another method is told apart from an unknown path.
    if endpoint.methods.contains request.method then site.run vault request moment endpoint
    else (vault, .value (notAllowed endpoint))
  | none =>
    match Endpoint.redirect? request.path.toList with
    | some path => (vault, .value (moved path))
    | none => (vault, .value notFound)

/-- The answer with what other origins need to know. -/
def answer (site : Site) (vault : Vault) (request : Request) (moment : Moment) :
    Vault × Outcome Response :=
  if CrossOrigin.isPreflight request then
    (vault, .value (CrossOrigin.preflight site.origins request))
  else
    let (vault, outcome) := site.dispatch vault request moment
    (vault, { outcome with result := outcome.result.map (CrossOrigin.share site.origins request) })

def isCounted (request : Request) : Bool :=
  RequestAddress.path request.path ≠ "/metrics"

def route (request : Request) : Route :=
  ⟨request.method, PathLabel.ofPath (RequestAddress.path request.path)⟩

/-- Counts how a request ended. -/
def countAnswer (request : Request) (elapsed : Float) (metrics : Metrics)
    (result : Except Fault Response) : Metrics :=
  if !isCounted request then metrics
  else
    match result with
    | .ok response => metrics.answered (route request) response.status elapsed
    | .error _ => metrics.crashed

/-- Answers a request and counts it. -/
def serve (site : Site) (vault : Vault) (request : Request) (moment : Moment)
    (elapsed : Float) : Vault × Outcome Response :=
  let (vault, outcome) := site.answer vault request moment
  ({ vault with metrics := countAnswer request elapsed vault.metrics outcome.result }, outcome)

end Site

end ImageVault
