import FluentAssist.Json.Value

/-!
# Envelopes

The four kinds of messages between two parties: requests carry a mark that their answer repeats, and
an answer has a result or an error. A message without a mark is a notice.
-/

set_option autoImplicit false

namespace FluentAssist.Wire

/-- A message with the mark of the protocol's version. -/
def envelope (members : List (String × Json)) : Json := .obj (("jsonrpc", .str "2.0") :: members)

/-- A request. -/
def request (id : Json) (method : String) (params : Json) : Json :=
  envelope [("id", id), ("method", .str method), ("params", params)]

/-- A notice. -/
def notice (method : String) (params : Json) : Json :=
  envelope [("method", .str method), ("params", params)]

/-- The answer to a request. -/
def result (id value : Json) : Json := envelope [("id", id), ("result", value)]

/-- The refusal of a request. -/
def error (id fault : Json) : Json := envelope [("id", id), ("error", fault)]

end FluentAssist.Wire
