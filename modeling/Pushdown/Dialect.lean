import Pushdown.Text.Doubling

/-!
How a SQL dialect writes constants, and how identifiers are quoted for it.
-/
namespace Pushdown

/-- Dates and timestamps are templates around the quoted text; truth values and the condition that
never holds stand as they are. -/
structure Dialect where
  name : String
  dateLiteral : String
  timestampLiteral : String
  trueLiteral : String
  falseLiteral : String
  alwaysFalse : String
  deriving DecidableEq, Repr

def Dialect.generic : Dialect where
  name := "generic"
  dateLiteral := "DATE {literal}"
  timestampLiteral := "TIMESTAMP {literal}"
  trueLiteral := "TRUE"
  falseLiteral := "FALSE"
  alwaysFalse := "1 = 0"

/-- A dialect together with the identifier quote; an empty quote leaves identifiers bare. -/
structure SqlStyle where
  dialect : Dialect
  identifierQuote : String
  deriving DecidableEq, Repr

def SqlStyle.quote (s : SqlStyle) (name : String) : String :=
  Text.quoteIdentifier s.identifierQuote name

end Pushdown
