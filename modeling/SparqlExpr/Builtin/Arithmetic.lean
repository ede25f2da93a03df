import SparqlExpr.Builtin.Arguments

/-!
The arithmetic operators `+ - * /` over every pair of numeric categories, and the numeric
functions `uminus`, `uplus`, `abs`, `ceil`, `floor` and `round` over every numeric category.
An arithmetic fault is reported as an arithmetic error of the operator.
-/

namespace SparqlExpr.Builtin

/-- A binary arithmetic operator: both operands numeric, computed after promotion. -/
def arithmetic (op : ArithmeticOp) : OverloadBuilder :=
  (OverloadBuilder.new op.symbol 2).onEach [Category.numeric, Category.numeric]
    (binary op.symbol fun l r => do
      let a ← numericArg op.symbol l
      let b ← numericArg op.symbol r
      match op.apply a b with
      | .ok n => pure (.literal (Literal.ofNumeric n))
      | .error fault => .error (.arithmetic op.symbol fault))

/-- A numeric function of one numeric argument. -/
def numericFunction (name : String) (f : Numeric → Numeric) : OverloadBuilder :=
  unaryOver name Category.numeric fun t => do
    pure (.literal (Literal.ofNumeric (f (← numericArg name t))))

/-- Registers the arithmetic operators and numeric functions. -/
def registerArithmetic (r : Registry) : Registry :=
  let r := [ArithmeticOp.add, .sub, .mul, .div].foldl
    (fun r op => r.registerOverload (arithmetic op)) r
  [("uminus", Numeric.negate), ("uplus", id), ("abs", Numeric.abs), ("ceil", Numeric.ceil),
    ("floor", Numeric.floor), ("round", Numeric.round)].foldl
    (fun r (name, f) => r.registerOverload (numericFunction name f)) r

end SparqlExpr.Builtin
