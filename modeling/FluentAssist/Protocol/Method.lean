import FluentAssist.Protocol.RequestShapes

/-!
# Methods

The methods of the language server protocol by what the server does with them. Many are known but
not offered: a request for one of them is refused, and a notice is passed over.
-/

set_option autoImplicit false

namespace FluentAssist.Protocol

/-- What a method asks for. -/
inductive Method
  /-- The editor introduces itself. -/
  | start
  /-- The editor is ready. -/
  | ready
  | shutdown
  | exit
  /-- Gives up a request. -/
  | cancel
  | opened
  | changed
  | closed
  | configured
  | completion
  | hover
  | command
  /-- A request that is known but not offered, with the shape of its parameters. -/
  | unofferedRequest (shape : Shape)
  /-- A notice that is known but not used. -/
  | unusedNotice

namespace Method

/-- The methods that the server handles. -/
def handled : List (String × Method) := [
  ("initialize", .start),
  ("initialized", .ready),
  ("shutdown", .shutdown),
  ("exit", .exit),
  ("$/cancelRequest", .cancel),
  ("textDocument/didOpen", .opened),
  ("textDocument/didChange", .changed),
  ("textDocument/didClose", .closed),
  ("workspace/didChangeConfiguration", .configured),
  ("textDocument/completion", .completion),
  ("textDocument/hover", .hover),
  ("workspace/executeCommand", .command)]

/-- The names of notices that are known but not used. -/
def unusedNotices : List String := [
  "textDocument/willSave", "textDocument/didSave", "workspace/didChangeWorkspaceFolders",
  "workspace/didCreateFiles", "workspace/didRenameFiles", "workspace/didDeleteFiles",
  "workspace/didChangeWatchedFiles"]

/-- The method of a name. -/
def ofName? (name : String) : Option Method :=
  match handled.lookup name with
  | some method => some method
  | none =>
    match Shape.unoffered.lookup name with
    | some shape => some (.unofferedRequest shape)
    | none => if unusedNotices.contains name then some .unusedNotice else none

/-- Whether calls of a method are answered. -/
def isAnswered : Method → Bool
  | .start | .shutdown | .completion | .hover | .command | .unofferedRequest _ => true
  | _ => false

/-- Whether a name is of the implementation's own kind, which may be passed over. -/
def isPrivate (name : String) : Bool := name.startsWith "$/"

end Method

end FluentAssist.Protocol
