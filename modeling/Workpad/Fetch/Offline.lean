import Workpad.Fetch.Load
import Workpad.Location.Basic

/-!
A client without a network: it reads addresses, and no request of its reaches a server.
-/
namespace Workpad.Fetch

def Client.offline : Client Location where
  parse text := (Location.ofText text).mapError LocationError.message
  scheme l := String.ofList l.scheme
  send l := .failed ("error sending request for url (" ++ l.render ++ ")")

end Workpad.Fetch
