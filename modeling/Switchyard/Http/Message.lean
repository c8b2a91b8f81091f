import Switchyard.Http.Uri
import Switchyard.Request

/-!
# Messages of the protocol

A message carries a checked method and a checked address. Most messages that a server receives
have no scheme in their address, so the request is read with a scheme to fall back on.
-/

namespace Switchyard.Http

/-- What routing reads of a message. -/
structure Message where
  method : String
  uri : Uri
  deriving Repr, DecidableEq

namespace Message

/-- A character that may stand in a method. -/
def isMethodChar (c : Char) : Bool :=
  c.isAlphanum ||
    ['!', '#', '$', '%', '&', '\x27', '*', '+', '-', '.', '^', '_', '\x60', '|', '~'].contains c

/-- The message of a method and an address, when both are sound. -/
def parse? (method uri : String) : Option Message :=
  if method ≠ "" ∧ method.toList.all isMethodChar then
    (Uri.parse? uri.toList).map fun uri => { method, uri }
  else none

/-- The scheme of a message whose address has none. -/
def defaultScheme : String := "http"

/-- The request of a message, with the scheme to fall back on. -/
def request (message : Message) (fallback : String := defaultScheme) : Request :=
  { method := message.method
    scheme := (message.uri.scheme.map String.ofList).getD fallback
    path := String.ofList message.uri.path }

end Message

end Switchyard.Http
