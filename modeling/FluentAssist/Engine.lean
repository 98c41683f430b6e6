import FluentAssist.Hover

/-!
# Completion without type analysis

The engine answers from the knowledge base alone. By itself it never knows the component of an
element, so attributes come from the generic lists, and only icons have hover texts. `completeFor?`
and `hoverFor?` answer for an element whose component is known from elsewhere.
-/

set_option autoImplicit false

namespace FluentAssist

/-- A knowledge base and the size of the window before the cursor. -/
structure Engine where
  kb : KnowledgeBase
  lookback : Nat := Cursor.defaultLookback

namespace Engine

/-- What is being typed at an offset. -/
def context (engine : Engine) (text : Text) (offset : Nat) :
    Except WindowFault (Option Context) :=
  Cursor.classify text offset engine.lookback

/-- The candidates at an offset, for an element whose component may be known: element functions
after `ui.`, else those of the context, if there is one. -/
def completeFor? (engine : Engine) (className : Option String) (text : Text) (offset : Nat) :
    Except WindowFault (Option (List Candidate)) :=
  match Cursor.uiFunction? text offset with
  | some ui => .ok (some (Completion.uiFunctions engine.kb ui))
  | none => do
    return (← engine.context text offset).map fun context =>
      Completion.assemble engine.kb context className

/-- The candidates at an offset. -/
def complete (engine : Engine) (text : Text) (offset : Nat) :
    Except WindowFault (List Candidate) := do
  return (← engine.completeFor? none text offset).getD []

/-- The hover text at an offset, for an element whose component may be known. -/
def hoverFor? (engine : Engine) (className : Option String) (text : Text) (offset : Nat) :
    Except WindowFault (Option HoverInfo) := do
  return (← engine.context text offset).bind fun context => Hover.at? engine.kb context className

/-- The hover text at an offset. -/
def hover (engine : Engine) (text : Text) (offset : Nat) : Except WindowFault (Option HoverInfo) :=
  engine.hoverFor? none text offset

end Engine

end FluentAssist
