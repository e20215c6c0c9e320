import Scriptorium.Text.Blank
import Scriptorium.Text.Search
set_option autoImplicit false

/-!
# Allowed origins

The origins that may send requests are given in one text with commas between them.
-/

namespace Scriptorium

/-- The origins of a text (`cors_origins_list`): what stands between commas, without the blanks
around it, unless nothing is left. -/
def origins (s : String) : List String :=
  ((Text.splitAtChar ',' s.toList).map Text.trimChars).filterMap fun part =>
    if part.isEmpty then none else some (String.ofList part)

end Scriptorium
