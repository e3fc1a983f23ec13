import ImageVault.Http.Message
import ImageVault.Text.Blank
import ImageVault.Text.LowerCase
import ImageVault.Text.Split

/-!
# Requests from other origins

Origins are admitted by name, or all of them with a star. Credentials are allowed, so an
origin that is admitted is given back by name. A request that asks for leave beforehand is
answered here: it may name certain methods and headers.
-/
namespace ImageVault.CrossOrigin

def allowedMethods : List String :=
  ["GET", "OPTIONS", "POST", "PUT"]

/-- The headers that may be named, in lower case. -/
def allowedHeaders : List String :=
  ["accept", "accept-language", "authorization", "content-language", "content-type", "x-user-id"]

/-- Whether a request asks for leave beforehand. -/
def isPreflight (request : Request) : Bool :=
  request.method = "OPTIONS" && (request.header? "origin").isSome
    && (request.header? "access-control-request-method").isSome

def allowsHeaders (names : String) : Bool :=
  (Text.splitOn ',' names.toList).all fun name =>
    allowedHeaders.any fun allowed => allowed.toList = Text.trim (Text.lower name)

def admits (origins : List String) (origin : String) : Bool :=
  origins.contains "*" || origins.contains origin

/-- What a request asks for that is not allowed. -/
def refused (origins : List String) (request : Request) : List String :=
  let asked (name : String) := request.header? name
  let forOrigin :=
    match asked "origin" with
    | some origin => if admits origins origin then [] else ["origin"]
    | none => []
  let forMethod :=
    match asked "access-control-request-method" with
    | some method => if allowedMethods.contains method then [] else ["method"]
    | none => []
  let forHeaders :=
    match asked "access-control-request-headers" with
    | some names => if allowsHeaders names then [] else ["headers"]
    | none => []
  let forNetwork :=
    match asked "access-control-request-private-network" with
    | some _ => ["private-network"]
    | none => []
  forOrigin ++ forMethod ++ forHeaders ++ forNetwork

/-- Credentials are allowed whoever asks; it is the missing origin that keeps others out. -/
def leave (origins : List String) (origin : String) : List (String × String) :=
  (if admits origins origin then [("access-control-allow-origin", origin)] else [])
    ++ [("access-control-allow-credentials", "true")]

def preflightHeaders (origins : List String) (origin : String) : List (String × String) :=
  [("vary", "Origin, Access-Control-Request-Method, Access-Control-Request-Headers, "
      ++ "Access-Control-Request-Private-Network"),
   ("access-control-allow-methods", "GET, OPTIONS, POST, PUT"),
   ("access-control-max-age", "600"),
   ("access-control-allow-headers",
     "Accept, Accept-Language, Authorization, Content-Language, Content-Type, X-User-Id")]
    ++ leave origins origin

def preflight (origins : List String) (request : Request) : Response :=
  let headers := preflightHeaders origins ((request.header? "origin").getD "")
  match refused origins request with
  | [] => (Response.text 200 "OK").withHeaders headers
  | refused =>
    (Response.text 400 ("Disallowed CORS " ++ ", ".intercalate refused)).withHeaders headers

/-- The headers that every other response gets. -/
def share (origins : List String) (request : Request) (response : Response) : Response :=
  let shared :=
    match request.header? "origin" with
    | some origin => leave origins origin
    | none => []
  response.withHeaders (shared ++ [("vary", "Origin")])

end ImageVault.CrossOrigin
