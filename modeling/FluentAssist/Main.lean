import FluentAssist.CommandLine.Run
import FluentAssist.Server.Pool

/-!
# The program

Reads the arguments, runs the command and reports. The language server speaks over the standard
streams. Programs cannot be started from here, so it runs without type analysis.
-/

set_option autoImplicit false

namespace FluentAssist.Program

/-- The text of a file of the current directory. -/
def readText (path : Path) : IO (Except FileError String) := do
  if path.bytes.isEmpty then return .error .notFound
  let place := (← IO.currentDir) / String.ofList path.text
  if ← place.isDir then return .error .isADirectory
  if !(← place.pathExists) then return .error .notFound
  try
    let bytes ← IO.FS.readBinFile place
    return match Utf8.decode? bytes.toList with
      | some text => .ok (String.ofList text)
      | none => .error .invalidText
  catch _ => return .error .permissionDenied

/-- The files of the machine. -/
def files : FileSystem IO where
  read := readText
  holds path := do ((← IO.currentDir) / String.ofList path.text).pathExists
  isFile path := do
    let place := (← IO.currentDir) / String.ofList path.text
    return (← place.pathExists) && !(← place.isDir)

/-- The machine, on which no other program is started. -/
def host : Host IO where
  files := files
  processId := 0
  spawn _ := return .error .notFound

/-- Writes what is seen of the work. -/
def report (output : IO.FS.Stream) (marks : List (Nat × Json)) (event : Event) : IO Unit := do
  let write (message : Json) : IO Unit := do
    output.write (ByteArray.mk (Frame.write message).toArray)
    output.flush
  match event with
  | .sent (.toClient message) => write (message.message (.str message.method))
  | .sent (.toAnalyzer _ _) => return
  | .answered ticket reply =>
    match (marks.lookup ticket).bind reply.message? with
    | some message => write message
    | none => return

/-- Serves messages one after another. -/
def serveMessages (output : IO.FS.Stream) (pool : Pool) (ticket : Nat) :
    List Json → IO (Pool × Nat)
  | [] => return (pool, ticket)
  | message :: later => do
    match Protocol.Call.ofMessage? message with
    | none => serveMessages output pool ticket later
    | some call =>
      let (pool, events) ← pool.start host [(ticket, call)]
      let marks := call.id.toList.map fun mark => (ticket, mark)
      events.forM (report output marks)
      serveMessages output pool (ticket + 1) later

/-- Serves until the editor lets the server exit or the input ends. -/
partial def serve (input output : IO.FS.Stream) (pool : Pool) (ticket : Nat)
    (unread : List UInt8) : IO Unit := do
  let bytes ← input.read 65536
  let stream := unread ++ bytes.toList
  let (pool, ticket) ←
    serveMessages output pool ticket (Frame.values (Frame.readAll bytes.isEmpty stream))
  if pool.server.phase = .exited then return
  match Frame.unread? bytes.isEmpty stream with
  | some unread => serve input output pool ticket unread
  | none => return

/-- How the program is used. -/
def usage : String :=
  "Language server for NiceGUI element props, classes, style, events and icons\n\n" ++
  "Usage: nicegui-lsp [--assets <DIR>] [--config <FILE>] [--format text|json] [COMMAND]\n\n" ++
  "Commands:\n" ++
  "  serve      Run the language server over stdio\n" ++
  "  complete   Get completions at position\n" ++
  "  context    Show the cursor context at position\n" ++
  "  hover      Show hover documentation at position\n" ++
  "  companion  Find the companion script/component file\n" ++
  "  preview    Print the preview page for a URL\n" ++
  "  stats      Show knowledge base statistics\n"

end FluentAssist.Program

open FluentAssist FluentAssist.Program in
/-- Runs the program. -/
def main (arguments : List String) : IO UInt32 := do
  let assets ← IO.getEnv "NICEGUI_LSP_ASSETS"
  let start ← CommandLine.run files (assets.map String.toList) (arguments.map String.toList)
  match start with
  | .explain =>
    IO.print usage
    return 0
  | .done result =>
    IO.print (String.ofList result.output)
    IO.eprint (if result = .misuse then usage else String.ofList result.errors)
    return UInt32.ofNat result.exit
  | .serve settings =>
    serve (← IO.getStdin) (← IO.getStdout) { server := { settings := settings } } 0 []
    return 0
