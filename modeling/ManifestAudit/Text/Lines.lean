import ManifestAudit.Text.Pieces

/-!
# Lines

Two notions of line. A file that is read has its line ends unified, so that
only the line feed is left. A message that is laid out is cut at every
character that Unicode counts as a line break.
-/

namespace ManifestAudit.Text

/-- Unify line ends: a carriage return, with or without a line feed behind it,
becomes one line feed. -/
def unifyNewlines : List Char → List Char
  | [] => []
  | '\r' :: '\n' :: rest => '\n' :: unifyNewlines rest
  | '\r' :: rest => '\n' :: unifyNewlines rest
  | c :: rest => c :: unifyNewlines rest

/-- A character that ends a line of a message. -/
def isLineBreak (c : Char) : Bool :=
  let code := c.toNat
  (0x0A ≤ code && code ≤ 0x0D) || (0x1C ≤ code && code ≤ 0x1E) ||
    code == 0x85 || code == 0x2028 || code == 0x2029

/-- Cut a message into lines. A carriage return and a line feed behind it are
one break, and a break at the end does not start another line. -/
def splitLines : List Char → List (List Char)
  | [] => []
  | [c] => if isLineBreak c then [[]] else [[c]]
  | c :: d :: rest =>
    if c = '\r' ∧ d = '\n' then [] :: splitLines rest
    else if isLineBreak c then [] :: splitLines (d :: rest)
    else consFirst c (splitLines (d :: rest))

/-- Put lines together with a line feed between neighbours. -/
def joinLines (lines : List String) : String :=
  "\n".intercalate lines

/-- Fill a text up with spaces on its right. -/
def padRight (width : Nat) (text : String) : String :=
  text ++ String.ofList (List.replicate (width - text.length) ' ')

/-- Fill a text up with spaces on its left. -/
def padLeft (width : Nat) (text : String) : String :=
  String.ofList (List.replicate (width - text.length) ' ') ++ text

end ManifestAudit.Text
