import SparqlExpr.Builtin.Arguments
import SparqlExpr.Builtin.Comparison
import SparqlExpr.Text.Case

/-!
String functions: `strlen` counts characters; `ucase` and `lcase` map case by the full Unicode
mappings and keep the language tag; `contains`, `strstarts` and `strends` take a simple or
language-tagged string and a simple string or a language-tagged string, and refuse two language
tags that differ (ignoring ASCII case).
-/

namespace SparqlExpr

/-- Whether `needle` occurs in `haystack` as a contiguous run of characters. -/
def String.containsText (haystack needle : String) : Bool :=
  let n := needle.toList
  let rec go : List Char → Bool
    | [] => n.isEmpty
    | c :: rest => n.isPrefixOf (c :: rest) || go rest
  go haystack.toList

namespace Builtin

/-- A string result with the language tag of the source, if it has one. -/
def like (source : Term) (value : String) : Term :=
  match languageOf source with
  | some lang => .literal (Literal.langString value lang)
  | none => Term.string value

/-- A case mapping over simple and language-tagged strings. -/
def caseMapping (name : String) (map : String → String) : OverloadBuilder :=
  unaryOver name Category.strings fun t => do
    pure (like t (map (← lexicalArg name t)))

/-- The argument pairs accepted by substring tests. -/
def substringPairs : List (List Category) :=
  [[.string, .string], [.langString, .string], [.langString, .langString]]

/-- A substring test between two strings with compatible language tags. -/
def substringTest (name : String) (test : String → String → Bool) : OverloadBuilder :=
  let f : Computation := binary name fun l r => do
    match languageOf l, languageOf r with
    | some p, some q =>
      if !asciiEqualIgnoringCase p q then
        throw (.invalidArgument name ("incompatible language tags " ++ p ++ " and " ++ q))
    | _, _ => pure ()
    let haystack ← lexicalArg name l
    let needle ← lexicalArg name r
    pure (Term.boolean (test haystack needle))
  substringPairs.foldl (fun b pair => b.on pair f) (OverloadBuilder.new name 2)

def registerStrings (r : Registry) : Registry :=
  r.registerOverload (unaryOver "strlen" Category.strings fun t => do
      pure (Term.integer (← lexicalArg "strlen" t).length))
    |>.registerOverload (caseMapping "ucase" Unicode.toUpper)
    |>.registerOverload (caseMapping "lcase" Unicode.toLower)
    |>.registerOverload (substringTest "contains" String.containsText)
    |>.registerOverload (substringTest "strstarts" fun h n => h.startsWith n)
    |>.registerOverload (substringTest "strends" fun h n => h.endsWith n)

end Builtin

end SparqlExpr
