import ImageVault.Failure

/-!
# Problems shown to the caller

A request that is refused is answered with a status, a detail and possibly headers. For
each kind of failure there is one status. Failures on the serving side keep their message
to themselves: of them the caller learns the code alone.
-/
namespace ImageVault

namespace FailureKind

def status : FailureKind → Nat
  | payloadTooLarge => 413
  | read => 400
  | decode => 422
  | unsupportedFormat => 415
  | notFound => 404
  | persistence => 503
  | config => 500
  | media => 500

end FailureKind

structure Problem where
  status : Nat
  detail : Json
  headers : List (String × String)

namespace Problem

/-- What the caller is told instead of the message of a failure on the serving side. -/
def concealed : String :=
  "Unable to process image"

def shownMessage (failure : Failure) : String :=
  if 500 ≤ failure.kind.status then concealed else failure.message

def ofFailure (failure : Failure) : Problem :=
  ⟨failure.kind.status,
    .object [("error", .string failure.code), ("message", .string (shownMessage failure))], []⟩

/-- The caller has to authenticate. -/
def unauthorized (detail : String) : Problem :=
  ⟨401, .string detail, [("WWW-Authenticate", "Bearer")]⟩

end Problem

end ImageVault
