import ImageVault.Json.Basic

/-!
# Failures of the image pipeline

Every stage that refuses its input says so by one of eight kinds. A kind has a code, which
an individual failure may replace, and all kinds refine the general one; an oversized
payload is also a failed read.
-/
namespace ImageVault

inductive FailureKind where
  | media
  | read
  | payloadTooLarge
  | decode
  | unsupportedFormat
  | persistence
  | notFound
  | config
  deriving DecidableEq, Repr

namespace FailureKind

def code : FailureKind → String
  | media => "MEDIA_ERROR"
  | read => "READ_ERROR"
  | payloadTooLarge => "PAYLOAD_TOO_LARGE"
  | decode => "DECODE_ERROR"
  | unsupportedFormat => "UNSUPPORTED_FORMAT"
  | persistence => "PERSISTENCE_ERROR"
  | notFound => "NOT_FOUND"
  | config => "CONFIG_ERROR"

/-- The kind itself and every kind that it refines. -/
def refines : FailureKind → List FailureKind
  | media => [media]
  | payloadTooLarge => [payloadTooLarge, read, media]
  | kind => [kind, media]

/-- Failures on the serving side, whose cause the caller cannot mend. -/
def isServerSide : FailureKind → Bool
  | persistence => true
  | config => true
  | _ => false

end FailureKind

structure Failure where
  kind : FailureKind
  message : String
  code : String
  details : Json.Members

namespace Failure

/-- A failure with the code of its kind. -/
def of (kind : FailureKind) (message : String) (details : Json.Members) : Failure :=
  ⟨kind, message, kind.code, details⟩

/-- A failure whose code is replaced when another one is given. -/
def withCode (kind : FailureKind) (message : String) (code : Option String)
    (details : Json.Members) : Failure :=
  ⟨kind, message, code.getD kind.code, details⟩

end Failure

end ImageVault
