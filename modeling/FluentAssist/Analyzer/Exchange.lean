import FluentAssist.Analyzer.Connection

/-!
# Single exchanges

A call or notice, and what the analysis says to it before anything else happens. A request that gets
no answer is given up; one with a time limit fails then.
-/

set_option autoImplicit false

namespace FluentAssist.Analyzer

/-- What an exchange leaves behind. -/
structure Exchange where
  connection : Connection
  /-- The messages to the analysis. -/
  sent : List Json
  /-- What the caller is told; none if no answer came. -/
  answer : Option (Except AnalyzerError Answer)

/-- The messages to the analysis among effects. -/
def repliesIn (effects : List Effect) : List Json := effects.filterMap fun
  | .reply message => some message
  | .outcome _ _ => none

/-- The result of a request among effects. -/
def resultIn? (id : Nat) (effects : List Effect) : Option (Except AnalyzerError Json) :=
  effects.findSome? fun
    | .outcome number result => if number = id then some result else none
    | .reply _ => none

/-- The analysis speaks without being asked. -/
def Connection.listen (connection : Connection) (said : List UInt8 × Bool) : Exchange :=
  let (next, effects) := connection.receive said.1 said.2
  ⟨next, repliesIn effects, none⟩

/-- Makes a request; `speak` is what the analysis says to the request with a number. An analysis
that is gone need not be shut down. -/
def Call.exchange (call : Call) (connection : Connection) (speak : Nat → List UInt8 × Bool) :
    Exchange :=
  if call = .shutdown && !connection.alive then ⟨connection, [], some (.ok .done)⟩
  else
    match call.start connection with
    | .error fault => ⟨connection, [], some (.error fault)⟩
    | .ok (connection, id, message) =>
      let (next, effects) := connection.receive (speak id).1 (speak id).2
      let settled := next.settle id
      let sent := message.json :: repliesIn effects
      let late : Option (Except AnalyzerError Json) :=
        if call.isTimed then some (.error (.late call.method)) else none
      match (resultIn? id effects).or late with
      | some result =>
        let (more, answer) := call.conclude settled result
        ⟨settled, sent ++ more.map Notice.message, some answer⟩
      | none => ⟨settled, sent, none⟩

/-- Sends a notice. -/
def Notice.exchange (notice : Notice) (connection : Connection) (said : List UInt8 × Bool) :
    Exchange :=
  match notice.send connection with
  | .error fault => ⟨connection, [], some (.error fault)⟩
  | .ok message =>
    let heard := connection.listen said
    ⟨heard.connection, message.json :: heard.sent, some (.ok .done)⟩

end FluentAssist.Analyzer
