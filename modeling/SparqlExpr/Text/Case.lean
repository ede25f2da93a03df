import SparqlExpr.Text.CaseTable

/-!
Upper and lower case of text by the full Unicode case mappings: a character may map to several
(`ß` to `SS`, `İ` to `i` and a combining dot). Lower case has one contextual rule, the final
form of capital sigma: `Σ` becomes `ς` when a cased letter precedes it and none follows it,
case-ignorable characters skipped on both sides, and `σ` otherwise.
-/

namespace SparqlExpr.Unicode

/-- The image of a code point under a list of runs, if one covers it. -/
def runImage (runs : List CaseRun) (cp : Nat) : Option Nat :=
  runs.findSome? fun r =>
    if r.first ≤ cp && cp ≤ r.last && (cp - r.first) % r.step == 0 then
      some ((cp : Int) + r.delta).toNat
    else none

/-- The full mapping of a character given its runs and expansions. -/
def mapChar (runs : List CaseRun) (expansions : List (Nat × List Nat)) (c : Char) : List Char :=
  match expansions.lookup c.toNat with
  | some cps => cps.map Char.ofNat
  | none =>
    match runImage runs c.toNat with
    | some cp => [Char.ofNat cp]
    | none => [c]

def upperChar (c : Char) : List Char := mapChar upperRuns upperExpansions c

def lowerChar (c : Char) : List Char := mapChar lowerRuns lowerExpansions c

def isCased (c : Char) : Bool := inRanges cased c.toNat

def isCaseIgnorable (c : Char) : Bool := inRanges caseIgnorable c.toNat

/-- Whether, after skipping case-ignorable characters, the next character is cased. -/
def casedAfterIgnorable (cs : List Char) : Bool :=
  match cs.dropWhile isCaseIgnorable with
  | c :: _ => isCased c
  | [] => false

/-- The lower case of capital sigma between the characters before it (nearest first) and those
after it. -/
def lowerSigma (before after : List Char) : Char :=
  if casedAfterIgnorable before && !casedAfterIgnorable after then 'ς' else 'σ'

/-- Lower case of `rest`, where `before` holds the characters already passed, nearest first. -/
def lowerChars (before : List Char) : List Char → List Char
  | [] => []
  | c :: rest =>
    (if c == 'Σ' then [lowerSigma before rest] else lowerChar c) ++ lowerChars (c :: before) rest

/-- Upper case of text. -/
def toUpper (s : String) : String := String.ofList (s.toList.flatMap upperChar)

/-- Lower case of text. -/
def toLower (s : String) : String := String.ofList (lowerChars [] s.toList)

end SparqlExpr.Unicode
