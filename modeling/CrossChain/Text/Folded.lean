import CrossChain.Text.Blank
import CrossChain.Text.LetterCase

/-!
# Folded texts

The form under which names are looked up: without the white space around them and in lower case.
-/

namespace CrossChain.Text

def folded (s : String) : String := lower (trim s)

end CrossChain.Text
