import Pushdown.Text.Blank
import Pushdown.Text.Find

/-!
Lines of a settings file: one `NAME=value` to a line, with comments and quotes. A line that cannot
be read is passed over.
-/
namespace Pushdown.EnvFile

open Text

/-- All line ends as a single line feed. -/
def unifyLines : List Char → List Char
  | '\r' :: '\n' :: rest => '\n' :: unifyLines rest
  | '\r' :: rest => '\n' :: unifyLines rest
  | c :: rest => c :: unifyLines rest
  | [] => []

/-- Blank within a line. -/
def isInline (c : Char) : Bool := isBlank c && c != '\n' && c != '\r'

def skipInline (cs : List Char) : List Char := cs.dropWhile isInline

/-- Drops a leading `export` that is followed by a blank. -/
def skipExport (cs : List Char) : List Char :=
  match afterPrefix? "export".toList cs with
  | some (c :: rest) => if isInline c then skipInline rest else cs
  | _ => cs

/-- The text up to the closing quote, and the text after it. A backslash takes the character after
it along, so that a quote there closes nothing. -/
def closeQuote (quote : Char) : List Char → Option (List Char × List Char)
  | [] => none
  | '\\' :: c :: rest =>
    (closeQuote quote rest).map fun (content, after) => ('\\' :: c :: content, after)
  | c :: rest =>
    if c = quote then some ([], rest)
    else (closeQuote quote rest).map fun (content, after) => (c :: content, after)

def singleEscape? : Char → Option Char
  | '\\' => some '\\'
  | '\'' => some '\''
  | _ => none

def doubleEscape? : Char → Option Char
  | '\\' => some '\\'
  | '\'' => some '\''
  | '"' => some '"'
  | 'a' => some '\x07'
  | 'b' => some '\x08'
  | 'f' => some '\x0c'
  | 'n' => some '\n'
  | 'r' => some '\r'
  | 't' => some '\t'
  | 'v' => some '\x0b'
  | _ => none

/-- Replaces the escapes that a class knows; a backslash before another character stays. -/
def unescape (escape? : Char → Option Char) : List Char → List Char
  | '\\' :: c :: rest =>
    match escape? c with
    | some image => image :: unescape escape? rest
    | none => '\\' :: unescape escape? (c :: rest)
  | c :: rest => c :: unescape escape? rest
  | [] => []

/-- Cuts a bare value before blanks that a number sign follows. -/
def cutComment : List Char → List Char
  | [] => []
  | c :: rest =>
    if isBlank c && (rest.dropWhile isBlank).head? == some '#' then [] else c :: cutComment rest

/-- The value that follows an equals sign, and the text after it. The blanks before a bare value
count when a comment is looked for. -/
def readValue (cs : List Char) : Option (List Char × List Char) :=
  match skipInline cs with
  | '\'' :: rest => (closeQuote '\'' rest).map fun (v, after) => (unescape singleEscape? v, after)
  | '"' :: rest => (closeQuote '"' rest).map fun (v, after) => (unescape doubleEscape? v, after)
  | _ =>
    let (line, after) := cs.span (· != '\n')
    some (trimChars (cutComment line), after)

/-- The key at the start of a text, none before a comment, and the text after it. -/
def readKey (cs : List Char) : Option (Option (List Char) × List Char) :=
  match cs with
  | '#' :: _ => some (none, cs)
  | '\'' :: rest =>
    match rest.span (· != '\'') with
    | ([], _) | (_, []) => none
    | (key, _ :: after) => some (some key, after)
  | _ =>
    match cs.span fun c => c != '=' && c != '#' && !isBlank c with
    | ([], _) => none
    | (key, after) => some (some key, after)

/-- Drops a comment and the end of the line, if nothing else is left on it. -/
def endLine (cs : List Char) : Option (List Char) :=
  let afterComment := match skipInline cs with
    | '#' :: rest => rest.dropWhile (· != '\n')
    | rest => rest
  match afterComment with
  | [] => some []
  | '\n' :: rest => some rest
  | _ => none

/-- What one line binds: a key with or without a value, or nothing. -/
structure Binding where
  key : Option (List Char)
  value : Option (List Char)

/-- The value after a key, if an equals sign follows it. -/
def readAssigned (cs : List Char) : Option (Option (List Char) × List Char) :=
  match cs with
  | '=' :: rest => (readValue rest).map fun (v, after) => (some v, after)
  | _ => some (none, cs)

/-- Reads one line; on failure, gives a place before the end of the line that failed. -/
def readBinding (cs : List Char) : Except (List Char) (Binding × List Char) :=
  let start := skipExport cs
  match readKey start with
  | none => .error start
  | some (key, afterKey) =>
    let assigned := skipInline afterKey
    match readAssigned assigned with
    | none => .error assigned
    | some (value, afterValue) =>
      match endLine afterValue with
      | some rest => .ok (⟨key, value⟩, rest)
      | none => .error afterValue

/-- Reads line after line; each takes at least one character, so `fuel` is the length. -/
def readBindings : Nat → List Char → List Binding
  | 0, _ => []
  | fuel + 1, cs =>
    match cs.dropWhile isBlank with
    | [] => []
    | start =>
      match readBinding start with
      | .ok (binding, rest) => binding :: readBindings fuel rest
      | .error rest => readBindings fuel ((rest.dropWhile (· != '\n')).drop 1)

/-- What the lines of a file bind, in their order. -/
def bindings (text : String) : List Binding :=
  let cs := unifyLines text.toList
  readBindings cs.length cs

end Pushdown.EnvFile
