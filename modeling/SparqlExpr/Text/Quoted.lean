import SparqlExpr.Text.Printable

/-!
Quoted text: a string between double quotes in which a backslash escapes the quote, the
backslash, tab, carriage return, line feed and NUL (`\0`), and every character that would not
show as itself is written as its code point `\u` followed by lowercase hexadecimal digits in
braces: controls, format characters, separators other than the space, unassigned and
private-use code points, and characters that attach to the preceding one (combining marks).
-/

namespace SparqlExpr.Quoted

/-- Whether a character is written as its code point. -/
def needsCodePoint (c : Char) : Bool :=
  Unicode.inRanges Unicode.graphemeExtend c.toNat || Unicode.inRanges Unicode.nonPrintable c.toNat

/-- Lowercase hexadecimal digits of a natural number, without leading zeros. -/
def hexText (n : Nat) : String := String.ofList (Nat.toDigits 16 n)

/-- The quoted form of one character. -/
def escapeChar (c : Char) : String :=
  if c == '\x00' then "\\0"
  else if c == '\t' then "\\t"
  else if c == '\r' then "\\r"
  else if c == '\n' then "\\n"
  else if c == '\\' then "\\\\"
  else if c == '"' then "\\\""
  else if needsCodePoint c then "\\u\x7b" ++ hexText c.toNat ++ "\x7d"
  else c.toString

/-- The text between double quotes, with escapes. -/
def quote (s : String) : String :=
  "\"" ++ String.join (s.toList.map escapeChar) ++ "\""

end SparqlExpr.Quoted
