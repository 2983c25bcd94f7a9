/-!
Search for pieces of text.
-/
namespace Pushdown.Text

/-- Whether `piece` occurs in the text. -/
def occurs (piece : List Char) : List Char → Bool
  | [] => piece.isEmpty
  | c :: rest => piece.isPrefixOf (c :: rest) || occurs piece rest

/-- The text after a given beginning. -/
def afterPrefix? (front cs : List Char) : Option (List Char) :=
  if front.isPrefixOf cs then some (cs.drop front.length) else none

/-- The text before the first character of class `p` and, if there is one, the text after it. -/
def cutAt (p : Char → Bool) (cs : List Char) : List Char × Option (List Char) :=
  match cs.span (!p ·) with
  | (front, []) => (front, none)
  | (front, _ :: back) => (front, some back)

end Pushdown.Text
