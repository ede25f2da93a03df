import Mathlib.Logic.Basic
import SparqlExpr.Term.Lexical

/-!
Well-formed terms. The category of a literal comes from its datatype and its value is kept
beside it, so nothing in the type ties the two together: a literal is *well-formed* when its
value is of the kind its category calls for (each numeric variant its own category, a boolean
`boolean`, a string without a language tag `string` and with one `langString`, each temporal
value its own kind, any other value `other`). Terms that are not literals with a value are
well-formed.

The main statements: the constructors of computed literals give well-formed literals
(`Literal.wellFormed_ofNumeric` and its siblings), and reading a literal from its lexical form
gives a well-formed term (`Term.wellFormed_parseLiteral`). `LiteralValue.OfCategory` says what
the values of each category are, once for all categories; the inversion lemmas at the end read
the value off a well-formed term of a given category through it.
-/

namespace SparqlExpr

/-- The category that a value calls for, given the literal's language tag. -/
def LiteralValue.category : LiteralValue → Option String → Category
  | .numeric (.integer _), _ => .integer
  | .numeric (.decimal _), _ => .decimal
  | .numeric (.float _), _ => .float
  | .numeric (.double _), _ => .double
  | .boolean _, _ => .boolean
  | .dateTime _, _ => .dateTime
  | .date _, _ => .date
  | .time _, _ => .time
  | .duration _, _ => .duration
  | .string _, none => .string
  | .string _, some _ => .langString
  | .other _, _ => .other

/-- The values of a category, given the literal's language tag: those of the kind the category
calls for, and none for the categories of ill-typed literals, nodes and variables. -/
def LiteralValue.OfCategory : Category → LiteralValue → Option String → Prop
  | .integer, v, _ => ∃ n, v = .numeric (.integer n)
  | .decimal, v, _ => ∃ d, v = .numeric (.decimal d)
  | .float, v, _ => ∃ x, v = .numeric (.float x)
  | .double, v, _ => ∃ x, v = .numeric (.double x)
  | .boolean, v, _ => ∃ b, v = .boolean b
  | .string, v, language => (∃ s, v = .string s) ∧ language = none
  | .langString, v, language => (∃ s, v = .string s) ∧ ∃ p, language = some p
  | .date, v, _ => ∃ d, v = .date d
  | .time, v, _ => ∃ d, v = .time d
  | .dateTime, v, _ => ∃ d, v = .dateTime d
  | .duration, v, _ => ∃ d, v = .duration d
  | .other, v, _ => ∃ s, v = .other s
  | .untyped, _, _ | .namedNode, _, _ | .blankNode, _, _ | .var, _, _ => False

/-- Every value is of the kind of the category it calls for: the one case analysis on values
that the inversion lemmas below read from. -/
theorem LiteralValue.ofCategory_category (v : LiteralValue) (language : Option String) :
    OfCategory (v.category language) v language := by
  cases v with
  | numeric n => cases n <;> exact Exists.intro _ rfl
  | string s => cases language <;> simp [category, OfCategory]
  | boolean | dateTime | date | time | duration | other => exact Exists.intro _ rfl

/-- A literal is well-formed when its category is the one its value calls for. -/
def Literal.WellFormed (l : Literal) : Prop := l.category = l.value.category l.language

instance : DecidablePred Literal.WellFormed := fun l =>
  inferInstanceAs (Decidable (l.category = l.value.category l.language))

/-- A term is well-formed when it is not a literal with a value, or that literal is
well-formed. -/
def Term.WellFormed : Term → Prop
  | .literal l => l.WellFormed
  | _ => True

instance : DecidablePred Term.WellFormed := fun t =>
  match t with
  | .literal l => inferInstanceAs (Decidable l.WellFormed)
  | .illTyped .. | .namedNode _ | .blankNode _ | .var _ => isTrue trivial

namespace Category

@[simp] theorem ofDatatype_xsdInteger : ofDatatype Vocabulary.xsdInteger = integer := by decide
@[simp] theorem ofDatatype_xsdDecimal : ofDatatype Vocabulary.xsdDecimal = decimal := by decide
@[simp] theorem ofDatatype_xsdFloat : ofDatatype Vocabulary.xsdFloat = float := by decide
@[simp] theorem ofDatatype_xsdDouble : ofDatatype Vocabulary.xsdDouble = double := by decide
@[simp] theorem ofDatatype_xsdBoolean : ofDatatype Vocabulary.xsdBoolean = boolean := by decide
@[simp] theorem ofDatatype_xsdString : ofDatatype Vocabulary.xsdString = string := by decide
@[simp] theorem ofDatatype_langString : ofDatatype Vocabulary.langString = langString := by
  decide
@[simp] theorem ofDatatype_xsdDateTime : ofDatatype Vocabulary.xsdDateTime = dateTime := by
  decide

/-- A datatype never gives the categories of ill-typed literals, nodes or variables. -/
theorem ofDatatype_mem (datatype : String) :
    ofDatatype datatype ∈
      [decimal, float, double, boolean, langString, dateTime, date, time, integer, string,
        duration, other] := by
  unfold ofDatatype
  simp only [ite_mem]
  simp

@[simp] theorem ofDatatype_ne_untyped (datatype : String) : ofDatatype datatype ≠ untyped := by
  intro h
  simpa [h] using ofDatatype_mem datatype

@[simp] theorem ofDatatype_ne_namedNode (datatype : String) :
    ofDatatype datatype ≠ namedNode := by
  intro h
  simpa [h] using ofDatatype_mem datatype

@[simp] theorem ofDatatype_ne_blankNode (datatype : String) :
    ofDatatype datatype ≠ blankNode := by
  intro h
  simpa [h] using ofDatatype_mem datatype

@[simp] theorem ofDatatype_ne_var (datatype : String) : ofDatatype datatype ≠ var := by
  intro h
  simpa [h] using ofDatatype_mem datatype

end Category

namespace Literal

@[simp] theorem category_mk (value : LiteralValue) (lexical : Option String)
    (datatype : String) (language : Option String) :
    Literal.category ⟨value, lexical, datatype, language⟩ = Category.ofDatatype datatype := rfl

theorem wellFormed_ofNumeric (n : Numeric) : (ofNumeric n).WellFormed := by
  cases n <;> simp [WellFormed, ofNumeric, Numeric.datatype, LiteralValue.category]

theorem wellFormed_integer (n : Int) : (integer n).WellFormed := wellFormed_ofNumeric _

theorem wellFormed_decimal (d : Decimal) : (decimal d).WellFormed := wellFormed_ofNumeric _

theorem wellFormed_double (x : Float) : (double x).WellFormed := wellFormed_ofNumeric _

theorem wellFormed_float (x : Float32) : (float x).WellFormed := wellFormed_ofNumeric _

theorem wellFormed_boolean (b : Bool) : (boolean b).WellFormed := by
  simp [WellFormed, boolean, LiteralValue.category]

theorem wellFormed_string (s : String) : (string s).WellFormed := by
  simp [WellFormed, string, LiteralValue.category]

theorem wellFormed_langString (s language : String) : (langString s language).WellFormed := by
  simp [WellFormed, langString, LiteralValue.category]

theorem wellFormed_dateTime (d : Temporal.DateTime) : (dateTime d).WellFormed := by
  simp [WellFormed, dateTime, LiteralValue.category]

end Literal

namespace Term

@[simp] theorem wellFormed_literal_iff (l : Literal) : (literal l).WellFormed ↔ l.WellFormed :=
  Iff.rfl

@[simp] theorem wellFormed_illTyped (lexical datatype : String) :
    (illTyped lexical datatype).WellFormed := trivial

@[simp] theorem wellFormed_namedNode (iri : String) : (namedNode iri).WellFormed := trivial

@[simp] theorem wellFormed_blankNode (label : String) : (blankNode label).WellFormed := trivial

@[simp] theorem wellFormed_var (name : String) : (var name).WellFormed := trivial

theorem wellFormed_integer (n : Int) : (integer n).WellFormed := Literal.wellFormed_integer n

theorem wellFormed_boolean (b : Bool) : (boolean b).WellFormed := Literal.wellFormed_boolean b

theorem wellFormed_string (s : String) : (string s).WellFormed := Literal.wellFormed_string s

end Term

/-- A value read from a lexical form is of the kind of the category it was read for. -/
theorem Lexical.category_of_readValue? {lexical datatype : String} {c : Category}
    {value : LiteralValue} (h : readValue? lexical datatype c = some value) :
    value.category none = c := by
  cases c
  all_goals simp only [readValue?, Option.map_eq_some_iff, Option.some.injEq, reduceCtorEq] at h
  case string | other => rw [← h]; rfl
  all_goals obtain ⟨_, -, rfl⟩ := h; rfl

/-- Reading a literal from its lexical form gives a well-formed term: a language-tagged string,
a literal whose value was read for the category of its datatype, or an ill-typed literal. -/
theorem Term.wellFormed_parseLiteral (lexical datatype : String) (language : Option String) :
    (parseLiteral lexical datatype language).WellFormed := by
  cases language with
  | some lang => simp [parseLiteral, Literal.WellFormed, LiteralValue.category]
  | none =>
      simp only [parseLiteral]
      cases hread : Lexical.readValue? lexical datatype (Category.ofDatatype datatype) with
      | none => trivial
      | some value => exact (Lexical.category_of_readValue? hread).symm

theorem Term.wellFormed_typed (lexical datatype : String) : (typed lexical datatype).WellFormed :=
  wellFormed_parseLiteral lexical datatype none

/-- A literal read without a language tag keeps the datatype and has no tag. -/
theorem Term.typed_eq_literal {lexical datatype : String} {l : Literal}
    (h : typed lexical datatype = .literal l) :
    l.datatype = datatype ∧ l.language = none ∧ l.WellFormed := by
  have hwf := wellFormed_typed lexical datatype
  simp only [typed, parseLiteral] at h hwf
  split at h
  · rename_i value hread
    cases h
    exact ⟨rfl, rfl, (Lexical.category_of_readValue? hread).symm⟩
  · cases h

/-- The value of a well-formed literal is of the kind its category calls for. -/
theorem Literal.WellFormed.ofCategory {l : Literal} (hl : l.WellFormed) :
    LiteralValue.OfCategory l.category l.value l.language :=
  hl ▸ LiteralValue.ofCategory_category l.value l.language

namespace Term.WellFormed

variable {t : Term}

/-- A well-formed term of a category that only literals with a value have is such a literal, with
a value of the kind the category calls for. -/
theorem literal_of_category (ht : t.WellFormed) {c : Category} (hc : t.category = c)
    (hlit : c ∉ [.untyped, .namedNode, .blankNode, .var]) :
    ∃ l, t = .literal l ∧ l.value.category l.language = c := by
  cases t with
  | literal l => exact ⟨l, rfl, ht.symm.trans hc⟩
  | illTyped => subst hc; simp [category] at hlit
  | namedNode => subst hc; simp [category] at hlit
  | blankNode => subst hc; simp [category] at hlit
  | var => subst hc; simp [category] at hlit

/-- A well-formed term of a category that only literals with a value have is such a literal,
with a value of the kind the category calls for. -/
theorem ofCategory (ht : t.WellFormed) {c : Category} (hc : t.category = c)
    (hlit : c ∉ [.untyped, .namedNode, .blankNode, .var]) :
    ∃ l, t = .literal l ∧ LiteralValue.OfCategory c l.value l.language := by
  obtain ⟨l, rfl, hv⟩ := literal_of_category ht hc hlit
  exact ⟨l, rfl, hv ▸ LiteralValue.ofCategory_category l.value l.language⟩

theorem exists_numeric (ht : t.WellFormed) (hc : t.category ∈ Category.numeric) :
    ∃ n, t.numeric? = some n := by
  simp only [Category.numeric, List.mem_cons, List.not_mem_nil, or_false] at hc
  -- each numeric category holds its own numeric variant
  rcases hc with hc | hc | hc | hc
  all_goals
    obtain ⟨l, rfl, x, hx⟩ := ofCategory ht hc (by simp)
    simp [numeric?, Literal.numeric?, hx]

theorem exists_boolean (ht : t.WellFormed) (hc : t.category = .boolean) :
    ∃ l b, t = .literal l ∧ l.value = .boolean b := by
  obtain ⟨l, rfl, b, hb⟩ := ofCategory ht hc (by simp)
  exact ⟨l, b, rfl, hb⟩

theorem exists_string (ht : t.WellFormed) (hc : t.category = .string) :
    ∃ l s, t = .literal l ∧ l.value = .string s ∧ l.language = none := by
  obtain ⟨l, rfl, ⟨s, hs⟩, hp⟩ := ofCategory ht hc (by simp)
  exact ⟨l, s, rfl, hs, hp⟩

theorem exists_langString (ht : t.WellFormed) (hc : t.category = .langString) :
    ∃ l s p, t = .literal l ∧ l.value = .string s ∧ l.language = some p := by
  obtain ⟨l, rfl, ⟨s, hs⟩, p, hp⟩ := ofCategory ht hc (by simp)
  exact ⟨l, s, p, rfl, hs, hp⟩

theorem exists_dateTime (ht : t.WellFormed) (hc : t.category = .dateTime) :
    ∃ l d, t = .literal l ∧ l.value = .dateTime d := by
  obtain ⟨l, rfl, d, hd⟩ := ofCategory ht hc (by simp)
  exact ⟨l, d, rfl, hd⟩

theorem exists_date (ht : t.WellFormed) (hc : t.category = .date) :
    ∃ l d, t = .literal l ∧ l.value = .date d := by
  obtain ⟨l, rfl, d, hd⟩ := ofCategory ht hc (by simp)
  exact ⟨l, d, rfl, hd⟩

theorem exists_time (ht : t.WellFormed) (hc : t.category = .time) :
    ∃ l d, t = .literal l ∧ l.value = .time d := by
  obtain ⟨l, rfl, d, hd⟩ := ofCategory ht hc (by simp)
  exact ⟨l, d, rfl, hd⟩

theorem exists_duration (ht : t.WellFormed) (hc : t.category = .duration) :
    ∃ l d, t = .literal l ∧ l.value = .duration d := by
  obtain ⟨l, rfl, d, hd⟩ := ofCategory ht hc (by simp)
  exact ⟨l, d, rfl, hd⟩

theorem exists_other (ht : t.WellFormed) (hc : t.category = .other) :
    ∃ l s, t = .literal l ∧ l.value = .other s := by
  obtain ⟨l, rfl, s, hs⟩ := ofCategory ht hc (by simp)
  exact ⟨l, s, rfl, hs⟩

end Term.WellFormed

/-- Only ill-typed literals have the category `untyped`. -/
theorem Term.category_eq_untyped_iff {t : Term} :
    t.category = .untyped ↔ ∃ lexical datatype, t = .illTyped lexical datatype := by
  cases t <;> simp [category, Literal.category]

end SparqlExpr
