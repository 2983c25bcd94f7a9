/-!
Quoting by doubling: content is put between two quotes, and every occurrence of the quote inside
is written twice. The quote may be longer than one character; occurrences are then found from
the left and do not overlap.
-/
namespace Pushdown.Text

/-- Doubles the occurrences of `quote`. The first `skip` characters belong to an occurrence that
has been written already. -/
def doubleFrom (quote : List Char) : Nat → List Char → List Char
  | _, [] => []
  | skip + 1, _ :: rest => doubleFrom quote skip rest
  | 0, c :: rest =>
    if quote.isPrefixOf (c :: rest) then
      quote ++ quote ++ doubleFrom quote (quote.length - 1) rest
    else c :: doubleFrom quote 0 rest

def enclosed (quote content : List Char) : List Char :=
  quote ++ doubleFrom quote 0 content ++ quote

/-- An identifier between identifier quotes; with an empty quote it stands bare. -/
def quoteIdentifier (quote name : String) : String :=
  if quote = "" then name else String.ofList (enclosed quote.toList name.toList)

/-- Text as a string literal. -/
def quoteString (content : String) : String :=
  String.ofList (enclosed ['\''] content.toList)

@[simp] theorem quoteString_toList (s : String) :
    (quoteString s).toList = enclosed ['\''] s.toList := by
  simp [quoteString]

@[simp] theorem doubleFrom_one_cons (q c : Char) (rest : List Char) :
    doubleFrom [q] 0 (c :: rest) =
      if q = c then q :: q :: doubleFrom [q] 0 rest else c :: doubleFrom [q] 0 rest := by
  by_cases h : q = c <;> simp [doubleFrom, h]

end Pushdown.Text
