import ImageVault.Outcome
import ImageVault.Http.Problem
import ImageVault.Text.Hex

/-!
# Requests and responses

A request may carry a form, whose parts are plain fields or files. Names of headers are
compared without regard to case, and of several headers of one name the first counts.
Headers of responses are named in lower case.
-/
namespace ImageVault

structure Part where
  field : String
  filename : Option String
  contentType : Option String
  content : Bytes

structure Request where
  method : String
  path : String
  headers : List (String × String)
  parts : List Part

/-- The first header of this name, which is given in lower case. -/
def Request.header? (request : Request) (name : String) : Option String :=
  (request.headers.find? (·.1.toLower == name)).map (·.2)

inductive Body where
  | json (value : Json)
  | content (bytes : Bytes)
  | samples (lines : List String)

structure Response where
  status : Nat
  headers : List (String × String)
  body : Body

namespace Response

def json (status : Nat) (value : Json) : Response :=
  ⟨status, [("content-type", "application/json")], .json value⟩

def text (status : Nat) (text : String) : Response :=
  ⟨status, [("content-type", "text/plain; charset=utf-8")], .content text.toUTF8.toList⟩

def withHeaders (response : Response) (headers : List (String × String)) : Response :=
  { response with headers := response.headers ++ headers }

def detail (status : Nat) (detail : Json) : Response :=
  json status (.object [("detail", detail)])

def ofProblem (problem : Problem) : Response :=
  (detail problem.status problem.detail).withHeaders
    (problem.headers.map fun (name, value) => (name.toLower, value))

/-- What is sent instead of an answer that could not be made. -/
def crash : Response :=
  text 500 "Internal Server Error"

end Response

/-- Failures become problems; whatever else went wrong stays a fault. -/
def Outcome.respond {α : Type} (outcome : Outcome α) (respond : α → Except Fault Response) :
    Outcome Response :=
  match outcome.result with
  | .ok value => ⟨outcome.logs, respond value⟩
  | .error (.failure failure) => ⟨outcome.logs, .ok (.ofProblem (.ofFailure failure))⟩
  | .error fault => ⟨outcome.logs, .error fault⟩

end ImageVault
