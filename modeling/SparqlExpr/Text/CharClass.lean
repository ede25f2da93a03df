/-!
Character classes as sorted lists of inclusive code-point ranges, and the White_Space property
that trimming uses.
-/

namespace SparqlExpr.Unicode

/-- Whether a code point lies in one of the inclusive ranges. -/
def inRanges (ranges : List (Nat × Nat)) (cp : Nat) : Bool :=
  ranges.any fun (lo, hi) => lo ≤ cp && cp ≤ hi

/-- Code points with the White_Space property (Unicode 17.0). -/
def whiteSpace : List (Nat × Nat) :=
  [(0x9, 0xD), (0x20, 0x20), (0x85, 0x85), (0xA0, 0xA0), (0x1680, 0x1680), (0x2000, 0x200A),
   (0x2028, 0x2029), (0x202F, 0x202F), (0x205F, 0x205F), (0x3000, 0x3000)]

/-- Whether a character is white space in the Unicode sense. -/
def isWhiteSpace (c : Char) : Bool := inRanges whiteSpace c.toNat

/-- The text without leading and trailing Unicode white space. -/
def trim (s : String) : String :=
  String.ofList ((s.toList.dropWhile isWhiteSpace).reverse.dropWhile isWhiteSpace).reverse

end SparqlExpr.Unicode
