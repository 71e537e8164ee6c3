/-!
# Association lists in order of first appearance

Objects, mappings and the outcomes of a report all keep their keys in the order
in which they first appeared, each key once. Which keys count as the same is a
parameter.
-/

namespace ManifestAudit.Association

variable {Key Value : Type}

/-- The value under a key. -/
def get? (same : Key → Key → Bool) (key : Key) : List (Key × Value) → Option Value
  | [] => none
  | (other, value) :: entries => if same other key then some value else get? same key entries

/-- Put a value under a key: in place if the key is there already, at the end if not. -/
def put (same : Key → Key → Bool) (key : Key) (value : Value) :
    List (Key × Value) → List (Key × Value)
  | [] => [(key, value)]
  | (other, held) :: entries =>
    if same other key then (other, value) :: entries
    else (other, held) :: put same key value entries

/-- Collect entries one after another. -/
def collect (same : Key → Key → Bool) (entries : List (Key × Value)) : List (Key × Value) :=
  entries.foldl (fun held entry => put same entry.1 entry.2 held) []

end ManifestAudit.Association
