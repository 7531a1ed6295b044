import Switchboard.Http.Status

/-!
# The admin service

Tells over HTTP whether the gateway is alive and whether it is ready, whatever the method of the
request.
-/

set_option autoImplicit false

namespace Switchboard.Admin

/-- What the gateway answers when all is well. -/
def fine : Http.Response := ⟨.ok, "ok\n"⟩

/-- The answer to a request for a path. -/
def respond (path : String) (ready : Bool) : Http.Response :=
  if path = "/health" then fine
  else if path = "/ready" then if ready then fine else .failure .serviceUnavailable
  else .failure .notFound

/-- The path of a request target: without the scheme and the host, if it names them, and without
the query and the fragment. -/
def path (target : String) : String :=
  let chars := target.toList
  let local_ := if "http://".toList.isPrefixOf chars || "https://".toList.isPrefixOf chars then
      let rest := ((chars.dropWhile (· ≠ '/')).drop 2).dropWhile fun c =>
        c ≠ '/' && c ≠ '?' && c ≠ '#'
      if rest.head? = some '/' then rest else '/' :: rest
    else chars
  String.ofList (local_.takeWhile fun c => c ≠ '?' && c ≠ '#')

/-- What a client receives. -/
structure Exchange where
  status : Http.Status
  /-- The length of the body that the answer has or would have. -/
  length : Nat
  body : String
  deriving DecidableEq, Repr

/-- What a client receives for a request: the answer to `HEAD` has no body. -/
def exchange (method target : String) (ready : Bool) : Exchange :=
  let answer := respond (path target) ready
  ⟨answer.status, answer.body.utf8ByteSize, if method = "HEAD" then "" else answer.body⟩

end Switchboard.Admin
