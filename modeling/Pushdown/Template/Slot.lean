/-!
The pieces of a template: characters and slots in braces; a doubled brace stands for one. A slot
has a name, and may have a conversion after `!` and a layout after a colon.
-/
namespace Pushdown.Template

inductive SlotFault
  | loneOpen
  | loneClose
  | unclosed
  | openInName
  | noConversion
  | afterConversion
  | unclosedLayout
  deriving DecidableEq, Repr

def SlotFault.message : SlotFault → String
  | .loneOpen => "Single '\x7b' encountered in format string"
  | .loneClose => "Single '\x7d' encountered in format string"
  | .unclosed => "expected '\x7d' before end of string"
  | .openInName => "unexpected '\x7b' in field name"
  | .noConversion => "end of string while looking for conversion specifier"
  | .afterConversion => "expected ':' after conversion specifier"
  | .unclosedLayout => "unmatched '\x7b' in format spec"

structure Slot where
  name : List Char
  conversion : Option Char
  layout : List Char
  deriving DecidableEq, Repr

/-- A template is a list of these; nothing follows a broken one. -/
inductive Piece
  | char (c : Char)
  | slot (s : Slot)
  | broken (fault : SlotFault)
  deriving DecidableEq, Repr

/-- Where a reader of templates is. What it has seen of a name or a layout is kept last character
first; a layout ends at the brace that closes none of its own. -/
inductive Reading
  | plain
  | name (seen : List Char)
  | brackets (seen : List Char)
  | conversion (name : List Char)
  | converted (name : List Char) (conversion : Char)
  | layout (name : List Char) (conversion : Option Char) (seen : List Char) (inner : Nat)

def pieces : Reading → List Char → List Piece
  | .plain, [] => []
  | .plain, '{' :: '{' :: rest => .char '{' :: pieces .plain rest
  | .plain, ['{'] => [.broken .loneOpen]
  | .plain, '{' :: rest => pieces (.name []) rest
  | .plain, '}' :: '}' :: rest => .char '}' :: pieces .plain rest
  | .plain, '}' :: _ => [.broken .loneClose]
  | .plain, c :: rest => .char c :: pieces .plain rest
  | .name _, [] => [.broken .unclosed]
  | .name _, '{' :: _ => [.broken .openInName]
  | .name seen, '[' :: rest => pieces (.brackets ('[' :: seen)) rest
  | .name seen, '}' :: rest => .slot ⟨seen.reverse, none, []⟩ :: pieces .plain rest
  | .name seen, '!' :: rest => pieces (.conversion seen.reverse) rest
  | .name seen, ':' :: rest => pieces (.layout seen.reverse none [] 0) rest
  | .name seen, c :: rest => pieces (.name (c :: seen)) rest
  | .brackets _, [] => [.broken .unclosed]
  | .brackets seen, ']' :: rest => pieces (.name (']' :: seen)) rest
  | .brackets seen, c :: rest => pieces (.brackets (c :: seen)) rest
  | .conversion _, [] => [.broken .noConversion]
  | .conversion name, c :: rest => pieces (.converted name c) rest
  | .converted _ _, [] => [.broken .unclosedLayout]
  | .converted name c, '}' :: rest => .slot ⟨name, some c, []⟩ :: pieces .plain rest
  | .converted name c, ':' :: rest => pieces (.layout name (some c) [] 0) rest
  | .converted _ _, _ :: _ => [.broken .afterConversion]
  | .layout .., [] => [.broken .unclosedLayout]
  | .layout name c seen inner, '{' :: rest => pieces (.layout name c ('{' :: seen) (inner + 1)) rest
  | .layout name c seen (inner + 1), '}' :: rest => pieces (.layout name c ('}' :: seen) inner) rest
  | .layout name c seen 0, '}' :: rest => .slot ⟨name, c, seen.reverse⟩ :: pieces .plain rest
  | .layout name c seen inner, d :: rest => pieces (.layout name c (d :: seen) inner) rest

end Pushdown.Template
