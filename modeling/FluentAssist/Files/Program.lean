import FluentAssist.Files.Tree

/-!
# Starting programs

A command names a program by a path or, without a slash, by a name that is looked up in the
directories for programs. In a file tree nothing can be executed, so every command fails there;
`FileTree.startFault` tells how.
-/

set_option autoImplicit false

namespace FluentAssist

/-- Why a program could not be started. -/
inductive SpawnFault
  | notFound
  | permissionDenied
  | notADirectory
  | nameTooLong
  | nulByte
  deriving DecidableEq, Repr

/-- The wording of a failed start. -/
def SpawnFault.message : SpawnFault → String
  | .notFound => "No such file or directory (os error 2)"
  | .permissionDenied => "Permission denied (os error 13)"
  | .notADirectory => "Not a directory (os error 20)"
  | .nameTooLong => "File name too long (os error 36)"
  | .nulByte => "nul byte found in provided data"

namespace FileTree

/-- The directories for programs. -/
def programDirectories : List String := ["/usr/local/bin", "/usr/bin", "/bin"]

/-- Why what stands at a path is not executed. -/
def executeFault (tree : FileTree) (path : Path) : SpawnFault :=
  match tree.resolve path with
  | .ok _ | .error .permissionDenied => .permissionDenied
  | .error .notADirectory => .notADirectory
  | .error .nameTooLong => .nameTooLong
  | .error _ => .notFound

/-- Why a command is not started. A name is tried in every directory for programs, and a directory
that only lacks it is passed over. -/
def startFault (tree : FileTree) (command : List String) : SpawnFault :=
  let program := Path.ofString (command.headD "")
  if command.any (·.toList.any (·.toNat == 0)) then .nulByte
  else if program.bytes.isEmpty then .notFound
  else if program.bytes.contains Path.slash then tree.executeFault program
  else
    let faults := programDirectories.map fun directory =>
      tree.executeFault ((Path.ofString directory).join program)
    if faults.contains .nameTooLong then .nameTooLong
    else if faults.contains .permissionDenied then .permissionDenied
    else .notFound

end FileTree

end FluentAssist
