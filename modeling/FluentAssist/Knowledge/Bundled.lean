import FluentAssist.Knowledge.Bundled.Buttons
import FluentAssist.Knowledge.Bundled.Displays
import FluentAssist.Knowledge.Bundled.Fields
import FluentAssist.Knowledge.Bundled.Names

/-!
# The bundled knowledge base

The tables that are used when a workspace brings none of its own.
-/

set_option autoImplicit false

namespace FluentAssist

/-- The knowledge base that comes with the program. -/
def KnowledgeBase.bundled : KnowledgeBase where
  components := .ofList [
    ("qbtn", Bundled.qbtn), ("qinput", Bundled.qinput), ("qselect", Bundled.qselect),
    ("qimg", Bundled.qimg), ("qcard", Bundled.qcard), ("qicon", Bundled.qicon),
    ("qtable", Bundled.qtable), ("qslider", Bundled.qslider), ("quploader", Bundled.quploader),
    ("qtoggle", Bundled.qtoggle), ("qchatmessage", Bundled.qchatmessage)]
  generic := Bundled.generic
  utilityClasses := Bundled.utilityClasses
  icons := Bundled.icons
  uiFunctions := Bundled.uiFunctions
  classMap := Bundled.classMap

end FluentAssist
