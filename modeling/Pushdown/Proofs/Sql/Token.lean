import Pushdown.Condition

/-!
SQL text as tokens. A quoted name and a string end at the first quote that is not doubled, and
outside of them a statement has no comments.
-/
namespace Pushdown.Sql

inductive Word
  | SELECT | FROM | WHERE | AND | OR | IS | NOT | NULL | TRUE | FALSE
  | DATE | TIMESTAMP | TO_TIMESTAMP
  deriving DecidableEq, Repr

namespace Word

def text : Word → String
  | .SELECT => "SELECT"
  | .FROM => "FROM"
  | .WHERE => "WHERE"
  | .AND => "AND"
  | .OR => "OR"
  | .IS => "IS"
  | .NOT => "NOT"
  | .NULL => "NULL"
  | .TRUE => "TRUE"
  | .FALSE => "FALSE"
  | .DATE => "DATE"
  | .TIMESTAMP => "TIMESTAMP"
  | .TO_TIMESTAMP => "TO_TIMESTAMP"

def all : List Word :=
  [.SELECT, .FROM, .WHERE, .AND, .OR, .IS, .NOT, .NULL, .TRUE, .FALSE, .DATE, .TIMESTAMP,
    .TO_TIMESTAMP]

def ofChars? (cs : List Char) : Option Word := all.find? (·.text.toList == cs)

end Word

/-- A quoted name and a string are known by what they stand for, a number by how it is written. -/
inductive Token
  | word (w : Word)
  | name (s : String)
  | string (s : String)
  | number (cs : List Char)
  | compare (op : Comparison)
  | opening
  | closing
  | comma
  | dot
  deriving DecidableEq, Repr

namespace Token

def name? : Token → Option String
  | .name s => some s
  | _ => none

def string? : Token → Option String
  | .string s => some s
  | _ => none

def ofSymbol? : Char → Option Token
  | '=' => some (.compare .eq)
  | '<' => some (.compare .lt)
  | '>' => some (.compare .gt)
  | '(' => some .opening
  | ')' => some .closing
  | ',' => some .comma
  | '.' => some .dot
  | _ => none

/-- What is between two quotes: a string if the quote is an apostrophe. -/
def ofQuoted (quote : Char) (cs : List Char) : Token :=
  if quote = '\'' then .string (String.ofList cs) else .name (String.ofList cs)

end Token

/-- The part of a number that a reader is in. -/
inductive NumberPart
  | whole
  | point
  | fraction
  | exponent
  | sign
  | power
  deriving DecidableEq, Repr

namespace NumberPart

/-- The part that a character leads to. A point and an exponent need digits after them. -/
def next? (p : NumberPart) (c : Char) : Option NumberPart :=
  match p with
  | .whole =>
    if c.isDigit then some .whole else if c = '.' then some .point
    else if c = 'e' then some .exponent else none
  | .point => if c.isDigit then some .fraction else none
  | .fraction =>
    if c.isDigit then some .fraction else if c = 'e' then some .exponent else none
  | .exponent =>
    if c.isDigit then some .power else if c = '+' ∨ c = '-' then some .sign else none
  | .sign | .power => if c.isDigit then some .power else none

def isEnd : NumberPart → Bool
  | .whole | .fraction | .power => true
  | .point | .exponent | .sign => false

end NumberPart

/-- Where a reader of tokens is. What it has seen of a token is kept last character first. After a
quote inside quotes it cannot tell yet whether the quote is doubled or the last one. -/
inductive Lexing
  | gap
  | quoted (quote : Char) (seen : List Char)
  | quoteSeen (quote : Char) (seen : List Char)
  | word (seen : List Char)
  | minus
  | number (part : NumberPart) (seen : List Char)
  | symbol (t : Token)

namespace Lexing

def isWordChar (c : Char) : Bool := c.isAlpha || c == '_'

/-- The start of a token, or another blank; `quote` surrounds names. -/
def start? (quote c : Char) : Option Lexing :=
  if c = ' ' then some .gap
  else if c = quote ∨ c = '\'' then some (.quoted c [])
  else if isWordChar c then some (.word [c])
  else if c.isDigit then some (.number .whole [c])
  else if c = '-' then some .minus
  else (Token.ofSymbol? c).map .symbol

/-- How a token that was begun goes on, if it does. -/
def grow? : Lexing → Char → Option Lexing
  | .gap, _ => none
  | .quoted quote seen, c =>
    some (if c = quote then .quoteSeen quote seen else .quoted quote (c :: seen))
  | .quoteSeen quote seen, c => if c = quote then some (.quoted quote (c :: seen)) else none
  | .word seen, c => if isWordChar c then some (.word (c :: seen)) else none
  | .minus, c => if c.isDigit then some (.number .whole [c, '-']) else none
  | .number part seen, c => (part.next? c).map (.number · (c :: seen))
  | .symbol (.compare .lt), '=' => some (.symbol (.compare .le))
  | .symbol (.compare .gt), '=' => some (.symbol (.compare .ge))
  | .symbol _, _ => none

/-- The token that was read, if it is a whole one. -/
def finish : Lexing → Option (List Token)
  | .gap => some []
  | .quoted .. | .minus => none
  | .quoteSeen quote seen => some [.ofQuoted quote seen.reverse]
  | .word seen => (Word.ofChars? seen.reverse).map ([.word ·])
  | .number part seen => if part.isEnd then some [.number seen.reverse] else none
  | .symbol t => some [t]

end Lexing

/-- The tokens of a text from a point within it. -/
def lexFrom (quote : Char) : Lexing → List Char → Option (List Token)
  | state, [] => state.finish
  | state, c :: rest =>
    match state.grow? c with
    | some state => lexFrom quote state rest
    | none => do
      let done ← state.finish
      let state ← Lexing.start? quote c
      return done ++ (← lexFrom quote state rest)

/-- The tokens of a text in which names are put between the given quotes. -/
def lex? (quote : Char) (text : String) : Option (List Token) := lexFrom quote .gap text.toList

end Pushdown.Sql
