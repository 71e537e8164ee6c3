/-!
# Pieces of a text

Cutting a list at a separator, and dropping a class of items at its ends. The
pieces are all that stands between the separators, so there is always one more
of them than separators, and a list without any is its own only piece. The items
are characters or symbols.
-/

namespace ManifestAudit.Text

variable {α : Type}

/-- Put an item in front of the first of several pieces. -/
def consFirst (item : α) : List (List α) → List (List α)
  | [] => [[item]]
  | piece :: pieces => (item :: piece) :: pieces

/-- Cut at every occurrence of an item. -/
def split [DecidableEq α] (separator : α) : List α → List (List α)
  | [] => [[]]
  | item :: rest =>
    if item = separator then [] :: split separator rest
    else consFirst item (split separator rest)

/-- Cut at every doubled occurrence of an item, from the left. -/
def splitDouble [DecidableEq α] (separator : α) : List α → List (List α)
  | [] => [[]]
  | [item] => [[item]]
  | item :: next :: rest =>
    if item = separator ∧ next = separator then [] :: splitDouble separator rest
    else consFirst item (splitDouble separator (next :: rest))

/-- Drop the items of a class at the end. -/
def dropEnd (accepts : α → Bool) (items : List α) : List α :=
  (items.reverse.dropWhile accepts).reverse

/-- Drop the items of a class at both ends. -/
def dropEnds (accepts : α → Bool) (items : List α) : List α :=
  dropEnd accepts (items.dropWhile accepts)

end ManifestAudit.Text
