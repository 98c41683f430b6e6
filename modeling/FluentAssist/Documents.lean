import FluentAssist.Resolution.Lookup

/-!
# Open documents

The documents that an editor has open, each with its current version. A change of a document that is
not open is ignored, and opening a document again replaces it.
-/

set_option autoImplicit false

namespace FluentAssist

/-- The open documents, every address once. -/
structure Documents where
  entries : List Snapshot := []
  deriving DecidableEq, Repr

namespace Documents

/-- The current version of a document. -/
def snapshot? (documents : Documents) (uri : Url) : Option Snapshot :=
  documents.entries.find? (·.uri = uri)

/-- Closes a document. -/
def close (documents : Documents) (uri : Url) : Documents :=
  ⟨documents.entries.filter (·.uri ≠ uri)⟩

/-- Opens a document. -/
def openDocument (documents : Documents) (document : Snapshot) : Documents :=
  ⟨(documents.close document.uri).entries ++ [document]⟩

/-- Replaces the version of a document that is open. -/
def update (documents : Documents) (document : Snapshot) : Documents :=
  ⟨documents.entries.map fun entry => if entry.uri = document.uri then document else entry⟩

end Documents

end FluentAssist
