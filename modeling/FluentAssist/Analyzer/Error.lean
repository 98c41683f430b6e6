import FluentAssist.Files.Program

/-!
# Faults of the type analysis

The type analysis is a program of its own that may be missing, fall silent, refuse a request or
answer with something else than was asked for.
-/

set_option autoImplicit false

namespace FluentAssist

/-- Why the type analysis did not answer. -/
inductive AnalyzerError
  /-- It is not running. -/
  | unavailable
  /-- It closed the connection while a request was waiting. -/
  | closed
  /-- It refused the request. -/
  | refused (code : Int) (reason : String)
  /-- Its answer is not understood. -/
  | notUnderstood
  /-- It did not answer in time. -/
  | late (method : String)
  | notStarted (cause : SpawnFault)
  deriving DecidableEq, Repr

/-- The wording of a fault. -/
def AnalyzerError.message : AnalyzerError → String
  | .unavailable => "analysis service is not running"
  | .closed => "analysis service closed the connection"
  | .refused code reason => "analysis service error " ++ toString code ++ ": " ++ reason
  | .notUnderstood => "unexpected response"
  | .late method => "analysis service did not answer " ++ method ++ " in time"
  | .notStarted cause => "failed to start analysis service: " ++ cause.message

end FluentAssist
