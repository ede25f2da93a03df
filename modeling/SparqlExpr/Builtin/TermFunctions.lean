import SparqlExpr.Builtin.Arguments
import SparqlExpr.Builtin.Comparison
import SparqlExpr.Term.Lexical

/-!
Functions on terms: `str`, `lang`, `datatype`, the tests `isiri` (also `isuri`), `isblank`,
`isliteral`, `isnumeric`, `sameterm`, the negation `!` of the effective boolean value, and the
fixed-signature `bnode`, `strlang`, `strdt`, `langmatches` and `iri` (also `uri`).

`langmatches` is basic language-range matching: `*` matches any non-empty tag; another range
matches a tag that starts with it, ignoring ASCII case, where the tag ends or continues with `-`
right after it.
-/

namespace SparqlExpr.Builtin

/-- Whether a language tag matches a language range. The comparison is on UTF-8 bytes, and a
range that would cut a character of the tag in two does not match. -/
def langMatches (tag range : String) : Bool :=
  if range == "*" then !tag.isEmpty
  else
    let t := tag.toUTF8.toList
    let r := range.toUTF8.toList
    let n := r.length
    let lower (b : UInt8) : UInt8 := if 65 ≤ b && b ≤ 90 then b + 32 else b
    let boundary := match t[n]? with
      | some b => b < 0x80 || 0xC0 ≤ b
      | none => n == t.length
    n ≤ t.length && boundary && (t.take n).map lower == r.map lower &&
      (t.length == n || t[n]? == some 45)

/-- A blank-node label made from a fresh number: `b` and 32 hexadecimal digits. -/
def freshLabel (fresh : Nat) : String :=
  let hex := String.ofList (Nat.toDigits 16 fresh)
  "b" ++ String.ofList (List.replicate (32 - hex.length) '0') ++ hex

/-- A test on a term of any category. -/
def termTest (name : String) (test : Term → Bool) : OverloadBuilder :=
  unaryOver name Category.terms fun t => pure (Term.boolean (test t))

/-- A fixed operator of two arguments. -/
def fixed2 (name : String) (a b : Category) (f : Term → Term → Outcome Term) : Operator :=
  .fixed ⟨name, [a, b], binary name f⟩

def registerTermFunctions (r : Registry) : Outcome Registry := do
  let r := r.registerOverload
      ((unaryOver "str" Category.literals strOf).onEach [[.namedNode]] (unary "str" strOf))
    |>.registerOverload (unaryOver "lang" Category.literals fun t =>
      pure (Term.string ((languageOf t).getD "")))
    |>.registerOverload (unaryOver "datatype" Category.literals fun t =>
      match t with
      | .literal l => pure (.namedNode l.datatype)
      | .illTyped _ datatype => pure (.namedNode datatype)
      | other => throw (.typeMismatch "datatype" [other.category]))
    |>.registerOverload (termTest "isiri" fun t => match t with
      | .namedNode _ => true
      | _ => false)
  let r ← r.addAlias "isuri" "isiri"
  let r := r.registerOverload (termTest "isblank" fun t => match t with
      | .blankNode _ => true
      | _ => false)
    |>.registerOverload (termTest "isliteral" Term.isLiteral)
    |>.registerOverload (termTest "isnumeric" fun t => t.category.isNumeric)
    |>.registerOverload ((OverloadBuilder.new "sameterm" 2).onEach
      [Category.terms, Category.terms] (binary "sameterm" fun a b =>
        pure (Term.boolean (a.sameTerm b))))
    |>.registerOverload (unaryOver "!" Category.terms fun t => do
      pure (Term.boolean !(← t.ebv)))
    |>.register (.fixed ⟨"bnode", [], fun fresh _ => .ok (.blankNode (freshLabel fresh))⟩)
    |>.register (fixed2 "strlang" .string .string fun a b => do
      let lexical ← lexicalArg "strlang" a
      let lang ← lexicalArg "strlang" b
      if lang.isEmpty then throw (.invalidArgument "strlang" "empty language tag")
      pure (.literal (Literal.langString lexical lang)))
    |>.register (fixed2 "strdt" .string .namedNode fun a b => do
      let lexical ← lexicalArg "strdt" a
      let datatype ← lexicalArg "strdt" b
      if datatype == Vocabulary.langString then
        throw (.invalidArgument "strdt" "rdf:langString requires a language tag")
      pure (Term.typed lexical datatype))
    |>.register (fixed2 "langmatches" .string .string fun a b => do
      let tag ← lexicalArg "langmatches" a
      pure (Term.boolean (langMatches tag (← lexicalArg "langmatches" b))))
    |>.register (.fixed ⟨"iri", [.string], unary "iri" fun a => do
      pure (.namedNode (← lexicalArg "iri" a))⟩)
  r.addAlias "uri" "iri"
where
  strOf (t : Term) : Outcome Term := do pure (Term.string (← lexicalArg "str" t))

end SparqlExpr.Builtin
