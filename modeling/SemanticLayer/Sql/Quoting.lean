/-!
# Quoted text in SQL

A string literal stands between single quotes and a quoted identifier between double quotes. A
quote inside is written twice, and every other character stands for itself.
-/

namespace SemanticLayer.Sql

/-- A text with every occurrence of a quote character doubled. -/
def doubleQuotes (quote : Char) (text : List Char) : List Char :=
  text.flatMap fun c ↦ if c = quote then [quote, quote] else [c]

/-- A text between quote characters. -/
def quoted (quote : Char) (text : String) : String :=
  String.ofList (quote :: (doubleQuotes quote text.toList ++ [quote]))

/-- A string literal. -/
def quoteString (text : String) : String :=
  quoted '\'' text

/-- A quoted identifier. -/
def quoteIdentifier (name : String) : String :=
  quoted '"' name

end SemanticLayer.Sql
