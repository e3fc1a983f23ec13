import ImageVault.Digest.Blake2b
import ImageVault.MediaType
import ImageVault.Number.Decimal
import ImageVault.Uuid.Basic

/-!
# Filenames of stored images

A filename is a digest of eight bytes and the extension of the media type. What is hashed
is a fresh token, the size, the extension and the time in whole milliseconds, separated by
underscores, so that equal images get different names.
-/
namespace ImageVault.Filename

def seed (token : Uuid) (size : Int) (type : ImageType) (nanoseconds : Int) : List Char :=
  token.chars ++ '_' :: Number.intText size ++ '_' :: type.extension.toList
    ++ '_' :: Number.intText (nanoseconds.fdiv 1000000)

def digestText (seed : List Char) : List Char :=
  Text.hexOfBytes (Digest.blake2b 8 (String.ofList seed).toUTF8.toList)

def ofType (token : Uuid) (size : Int) (type : ImageType) (nanoseconds : Int) : String :=
  String.ofList (digestText (seed token size type nanoseconds) ++ '.' :: type.extension.toList)

/-- Only supported media types have filenames. -/
def make (token : Uuid) (size : Int) (mime : String) (nanoseconds : Int) :
    Except Failure String :=
  (ImageType.ofMime mime).map fun type => ofType token size type nanoseconds

end ImageVault.Filename
