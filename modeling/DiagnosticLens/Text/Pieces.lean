/-!
# Pieces

A list is cut at its separators: paths at slashes, domains at dots, tables at blanks.
-/

namespace DiagnosticLens

/-- The pieces between the separators, of which there is one more than there are separators. -/
def splitAll {α : Type} (isSeparator : α → Bool) : List α → List (List α)
  | [] => [[]]
  | c :: cs =>
    if isSeparator c then [] :: splitAll isSeparator cs
    else match splitAll isSeparator cs with
      | [] => [[c]]
      | piece :: pieces => (c :: piece) :: pieces

end DiagnosticLens
