import Mathlib.Data.List.Infix

/-!
# Words in a text

Whether a word occurs in a text, as `strstr` finds out, and where it can lie in a text that is put
together with separators.
-/

namespace TextSearch

variable {α : Type*}

variable {c : α} {word a b : List α}

end TextSearch
