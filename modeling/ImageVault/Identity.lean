import ImageVault.Http.Problem
import ImageVault.Uuid.Lenient

/-!
# Identity of the caller

The identity arrives in a header that the authenticating proxy has set. It is only read
here: any lenient spelling of an identifier will do, and everything else is refused.
-/
namespace ImageVault.Identity

def missing : Problem :=
  .unauthorized "Missing authenticated user"

def invalid : Problem :=
  .unauthorized "Invalid authenticated user id"

/-- An empty header counts as a missing one. -/
def ofHeader (header : Option String) : Except Problem Uuid :=
  match (header.getD "").toList with
  | [] => .error missing
  | text =>
    match Uuid.ofLenient? text with
    | some id => .ok id
    | none => .error invalid

end ImageVault.Identity
