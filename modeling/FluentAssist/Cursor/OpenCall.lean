import FluentAssist.Cursor.Kind
import FluentAssist.Text.Blank
import FluentAssist.Text.Search
import FluentAssist.Text.WordChar

/-!
# Open calls and open icon arguments

Before the cursor a window of the document is searched for a builder call whose argument list is
still open: a dot, the name of a builder method and an opening parenthesis, each possibly
followed by white space, then at least one character and no closing parenthesis up to the cursor.
The last such call counts.

Without one, an icon keyword argument counts whose string literal is still open at the cursor.
-/

set_option autoImplicit false

namespace FluentAssist.Cursor

/-- A builder method and the text after its opening parenthesis, if `text` starts with a dot, the
method's name and the parenthesis. -/
def opensWith? (text : Text) (method : BuilderMethod) : Option Text :=
  match text with
  | '.' :: rest =>
    match Text.dropLiteral? method.name.toList (Text.trimStart rest) with
    | some afterName =>
      match Text.trimStart afterName with
      | '(' :: arguments => some arguments
      | _ => none
    | none => none
  | _ => none

/-- The builder method whose call opens at the start of a text, and the text after the opening
parenthesis. -/
def opener? (text : Text) : Option (BuilderMethod × Text) :=
  BuilderMethod.all.findSome? fun method =>
    (opensWith? text method).map fun arguments => (method, arguments)

/-- An argument list that has begun and is not closed. -/
def isOpenArguments (arguments : Text) : Bool := !arguments.isEmpty && arguments.all (· != ')')

/-- The builder method whose call opens at the start of a text and is still open at its end. -/
def openCallAt? (text : Text) : Option BuilderMethod :=
  match opener? text with
  | some (method, arguments) => if isOpenArguments arguments then some method else none
  | none => none

/-- A call that is open at the end of a window: where in the window it starts, its method, and the
text from there on. -/
structure OpenCall where
  start : Nat
  method : BuilderMethod
  matched : Text
  deriving DecidableEq, Repr

/-- The last call that is open at the end of a window. -/
def lastOpenCall? : Text → Option OpenCall
  | [] => none
  | c :: rest =>
    match lastOpenCall? rest with
    | some call => some { call with start := c.utf8Size + call.start }
    | none => (openCallAt? (c :: rest)).map fun method => ⟨0, method, c :: rest⟩

/-- The keyword arguments that take an icon name. -/
def iconKeywords : List String := ["icon", "icon-right"]

/-- Either quotation mark. -/
def isQuote (c : Char) : Bool := c == '\'' || c == '"'

/-- A string literal that has begun and is not closed on its line. -/
def isOpenLiteral : Text → Bool
  | quote :: rest => isQuote quote && rest.all (fun c => !isQuote c && !Text.isNewline c)
  | [] => false

/-- Whether an icon keyword, an equals sign and an open literal stand at a place that may start a
word. -/
def opensIcon (previous : Option Char) (text : Text) : Bool :=
  Text.wordMayStartAfter previous &&
    iconKeywords.any fun keyword =>
      match Text.dropLiteral? (keyword.toList ++ ['=']) text with
      | some rest => isOpenLiteral rest
      | none => false

/-- The icon argument that is open at the end of a window: where it starts and its text. -/
def openIcon? (window : Text) : Option (Nat × Text) :=
  Text.findPlace? (fun previous text => if opensIcon previous text then some text else none)
    none window

end FluentAssist.Cursor
