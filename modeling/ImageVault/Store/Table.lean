/-!
# Tables

The two tables of the store with their columns, and for each column whether its values may
be absent.
-/
namespace ImageVault

structure Column where
  name : String
  mayBeAbsent : Bool
  deriving DecidableEq, Repr

structure Table where
  name : String
  columns : List Column
  deriving DecidableEq, Repr

namespace Table

def images : Table :=
  ⟨"images",
    [⟨"created_at", false⟩, ⟨"filename", false⟩, ⟨"height", false⟩, ⟨"id", false⟩,
     ⟨"image", false⟩, ⟨"mime", false⟩, ⟨"owner_id", false⟩, ⟨"size", false⟩, ⟨"url", false⟩,
     ⟨"width", false⟩]⟩

def users : Table :=
  ⟨"users", [⟨"created_at", false⟩, ⟨"email", true⟩, ⟨"id", false⟩]⟩

def all : List Table := [images, users]

end Table

end ImageVault
