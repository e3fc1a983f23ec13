import ImageVault.Http.Site

/-!
# Sessions

A session is a run of operations on one vault: direct accesses to the store, operations of
the pipeline, and requests to a site. Only the vault is carried from one to the next.
-/
namespace ImageVault

inductive Operation where
  | save (id owner : Uuid) (image : NewImage)
  | load (filename : String)
  | info (id : Uuid)
  | draft (policy : Policy) (stream : ChunkStream) (declared : Option String) (moment : Moment)
  | upload (policy : Policy) (stream : ChunkStream) (declared : Option String) (owner : Uuid)
    (moment : Moment)
  | download (filename : String) (moment : Moment)
  | request (site : Site) (request : Request) (moment : Moment) (elapsed : Float)

/-- How an operation ended. -/
inductive Reply where
  | stored (outcome : Outcome StoredImage)
  | drafted (outcome : Outcome NewImage)
  | described (outcome : Outcome ImageInfo)
  | answered (outcome : Outcome Response)

namespace Vault

def perform (vault : Vault) : Operation → Vault × Reply
  | .save id owner image =>
    let (vault, outcome) := vault.save id owner image
    (vault, .stored outcome)
  | .load filename => (vault, .stored (vault.store.download filename))
  | .info id => (vault, .described (vault.info id))
  | .draft policy stream declared moment =>
    (vault, .drafted (draft policy stream declared moment))
  | .upload policy stream declared owner moment =>
    let (vault, outcome) := vault.upload policy stream declared owner moment
    (vault, .stored outcome)
  | .download filename moment =>
    let (vault, outcome) := vault.download filename moment
    (vault, .stored outcome)
  | .request site request moment elapsed =>
    let (vault, outcome) := site.serve vault request moment elapsed
    (vault, .answered outcome)

/-- Performs the operations in their order. -/
def run (vault : Vault) : List Operation → Vault × List Reply
  | [] => (vault, [])
  | operation :: rest =>
    let (vault, reply) := vault.perform operation
    let (vault, replies) := vault.run rest
    (vault, reply :: replies)

end Vault

end ImageVault
