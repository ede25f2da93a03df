import Mathlib
import SparqlExpr.Proofs.Builtins

/-!
Casting a string to a datatype.

The casts to xsd:boolean, xsd:integer, xsd:decimal, xsd:float, xsd:double and xsd:dateTime are
registered under the IRIs of their datatypes. On a simple string each one trims the text of
leading and trailing Unicode white space, reads what is left under its datatype as a literal of
that datatype would be read, and returns the value read as a computed literal, without a lexical
form; when the text is outside the lexical space it fails with an invalid argument that quotes the
untrimmed text (`string_cast_reads_trimmed_text`).

The white space trimmed is Unicode's, not XML's: a no-break space after a numeral is dropped
before the numeral is read (`integer_cast_trims_no_break_space`).
-/

namespace SparqlExpr

open Builtin

section Dispatch

/-- A cast over distinct source categories runs its function on one argument of a source
category. -/
theorem applyEvaluated_cast (datatype : String) {sources : List Category} (hnodup : sources.Nodup)
    (f : Term → Outcome Term) (fresh : Nat) {t : Term} (hc : t.category ∈ sources) :
    (Builtin.cast datatype sources f).applyEvaluated fresh [t] = f t := by
  rw [cast_eq_overloaded datatype hnodup f]
  have hmem : ([t].map Term.category, unary datatype f) ∈
      sources.map fun c => ([c], unary datatype f) := List.mem_map.mpr ⟨t.category, hc, rfl⟩
  refine OverloadOperator.apply_of_mem ⟨datatype, 1, _⟩ fresh ?_ rfl hmem
  -- one key per source category
  rw [List.map_map]
  exact hnodup.map fun a b h => by simpa using h

/-- An entry of an association list with distinct keys is found under its key. -/
theorem assocFind?_eq_some_of_mem {α : Type} {entries : List (String × α)}
    (hnodup : (entries.map Prod.fst).Nodup) {key : String} {value : α}
    (hmem : (key, value) ∈ entries) : assocFind? entries key = some value := by
  induction entries with
  | nil => simp at hmem
  | cons entry rest ih =>
      simp only [List.map_cons, List.nodup_cons] at hnodup
      simp only [List.mem_cons] at hmem
      rcases hmem with rfl | hmem
      · simp [assocFind?]
      · have hne : entry.1 ≠ key := by
          intro heq
          exact hnodup.1 (heq ▸ List.mem_map_of_mem hmem)
        have hrest := ih hnodup.2 hmem
        simp only [assocFind?] at hrest ⊢
        simp [hne, hrest]

/-- The casts are registered under distinct IRIs, so each is found under its own. -/
theorem function?_builtins_of_mem {datatype : String} {op : Operator}
    (hmem : (datatype, op) ∈ (registerCasts Registry.empty).functions) :
    Registry.builtins.function? datatype = some op := by
  have hcasts := functions_registerCasts (show Registry.empty.functions = [] from rfl)
  rw [Registry.function?, functions_builtins]
  refine assocFind?_eq_some_of_mem ?_ hmem
  rw [hcasts]
  simp [Vocabulary.xsdString, Vocabulary.xsdBoolean, Vocabulary.xsdInteger, Vocabulary.xsdDecimal,
    Vocabulary.xsdFloat, Vocabulary.xsdDouble, Vocabulary.xsdDateTime, Vocabulary.xsd]

/-- The datatypes whose casts read strings. -/
def stringCastTargets : List String :=
  [Vocabulary.xsdBoolean, Vocabulary.xsdInteger, Vocabulary.xsdDecimal, Vocabulary.xsdFloat,
    Vocabulary.xsdDouble, Vocabulary.xsdDateTime]

/-- The cast registered under the IRI of each of these datatypes reads a well-formed string
under it. -/
theorem function?_stringCast {datatype : String} (hdatatype : datatype ∈ stringCastTargets) :
    ∃ op, Registry.builtins.function? datatype = some op ∧
      ∀ (fresh : Nat) (t : Term), t.WellFormed → t.category = .string →
        op.applyEvaluated fresh [t] = parseAs t datatype := by
  have hcasts := functions_registerCasts (show Registry.empty.functions = [] from rfl)
  have hscalar : Category.string ∈ scalarSources := by decide
  have hnodup : scalarSources.Nodup := by decide
  simp only [stringCastTargets, List.mem_cons, List.not_mem_nil, or_false] at hdatatype
  rcases hdatatype with rfl | rfl | rfl | rfl | rfl | rfl
  · refine ⟨Builtin.cast Vocabulary.xsdBoolean scalarSources castToBoolean,
      function?_builtins_of_mem (by simp [hcasts]), fun fresh t _ hc => ?_⟩
    rw [applyEvaluated_cast _ hnodup _ _ (hc ▸ hscalar), castToBoolean, hc]
  · refine ⟨Builtin.cast Vocabulary.xsdInteger scalarSources castToInteger,
      function?_builtins_of_mem (by simp [hcasts]), fun fresh t _ hc => ?_⟩
    rw [applyEvaluated_cast _ hnodup _ _ (hc ▸ hscalar), castToInteger, hc]
  · refine ⟨Builtin.cast Vocabulary.xsdDecimal scalarSources castToDecimal,
      function?_builtins_of_mem (by simp [hcasts]), fun fresh t _ hc => ?_⟩
    rw [applyEvaluated_cast _ hnodup _ _ (hc ▸ hscalar), castToDecimal, hc]
  · refine ⟨Builtin.cast Vocabulary.xsdFloat scalarSources castToFloat,
      function?_builtins_of_mem (by simp [hcasts]), fun fresh t _ hc => ?_⟩
    rw [applyEvaluated_cast _ hnodup _ _ (hc ▸ hscalar), castToFloat, hc]
    rfl
  · refine ⟨Builtin.cast Vocabulary.xsdDouble scalarSources castToDouble,
      function?_builtins_of_mem (by simp [hcasts]), fun fresh t _ hc => ?_⟩
    rw [applyEvaluated_cast _ hnodup _ _ (hc ▸ hscalar), castToDouble, hc]
    rfl
  · refine ⟨Builtin.cast Vocabulary.xsdDateTime [.dateTime, .string] castToDateTime,
      function?_builtins_of_mem (by simp [hcasts]), fun fresh t hwf hc => ?_⟩
    rw [applyEvaluated_cast _ (by decide) _ _ (by simp [hc])]
    -- a well-formed string holds a string, so the cast does not take it for a dateTime
    obtain ⟨l, s, rfl, hvalue, -⟩ := hwf.exists_string hc
    obtain ⟨value, lexical, datatype, language⟩ := l
    simp only at hvalue
    subst hvalue
    rfl

end Dispatch

section Reading

/-- Casting a literal reads its text, trimmed of Unicode white space, under the datatype. -/
theorem parseAs_literal (l : Literal) (datatype : String) :
    parseAs (.literal l) datatype =
      match Term.typed (Unicode.trim l.lexicalForm) datatype with
      | .literal r => .ok (.literal ⟨r.value, none, datatype, none⟩)
      | _ => .error (.invalidArgument datatype ("cannot cast " ++ Quoted.quote l.lexicalForm)) :=
  rfl

/-- A computed literal of a value that is not a text shows the canonical text of the value. -/
theorem Literal.lexicalForm_computed {v : LiteralValue}
    (hv : v.category none ≠ .string ∧ v.category none ≠ .other) (datatype : String) :
    (⟨v, none, datatype, none⟩ : Literal).lexicalForm = v.text := by
  cases v <;> simp_all [Literal.lexicalForm, LiteralValue.category]

/-- A text of integer notation within the bounds of xsd:integer reads as that integer. -/
theorem typed_xsdInteger_of_readInteger? {s : String} {n : Int}
    (h : Lexical.readInteger? s Vocabulary.xsdInteger = some n) :
    Term.typed s Vocabulary.xsdInteger =
      .literal ⟨.numeric (.integer n), some s, Vocabulary.xsdInteger, none⟩ := by
  simp [Term.typed, Term.parseLiteral, Lexical.readValue?, h]

/-- The datatypes whose casts read strings hold neither texts nor values of other kinds. -/
theorem ofDatatype_of_mem_stringCastTargets {datatype : String}
    (h : datatype ∈ stringCastTargets) :
    Category.ofDatatype datatype ≠ .string ∧ Category.ofDatatype datatype ≠ .other := by
  simp only [stringCastTargets, List.mem_cons, List.not_mem_nil, or_false] at h
  rcases h with rfl | rfl | rfl | rfl | rfl | rfl <;> decide

end Reading

/-- Casting a simple string to xsd:boolean, xsd:integer, xsd:decimal, xsd:float, xsd:double or
xsd:dateTime runs the function registered under the datatype's IRI, which trims the text of
leading and trailing Unicode white space and reads the rest as a literal of the datatype. When
that gives a value, the cast returns it as a literal of the datatype without a lexical form,
whose wire form shows the canonical text of the value; when the text is outside the lexical space
the cast fails with an invalid argument quoting the untrimmed text. -/
theorem string_cast_reads_trimmed_text {datatype : String} (hdatatype : datatype ∈ stringCastTargets)
    {l : Literal} (hwf : l.WellFormed) (hstring : l.category = .string) :
    ∃ op, Registry.builtins.function? datatype = some op ∧ ∀ fresh : Nat,
      (∀ r, Term.typed (Unicode.trim l.lexicalForm) datatype = .literal r →
        op.applyEvaluated fresh [.literal l] = .ok (.literal ⟨r.value, none, datatype, none⟩) ∧
          (Term.literal ⟨r.value, none, datatype, none⟩).wire =
            .literal r.value.text none datatype) ∧
      (Term.typed (Unicode.trim l.lexicalForm) datatype =
          .illTyped (Unicode.trim l.lexicalForm) datatype →
        op.applyEvaluated fresh [.literal l] =
          .error (.invalidArgument datatype ("cannot cast " ++ Quoted.quote l.lexicalForm))) := by
  obtain ⟨op, hop, happly⟩ := function?_stringCast hdatatype
  refine ⟨op, hop, fun fresh => ⟨fun r hr => ?_, fun hill => ?_⟩⟩
  · rw [happly fresh (.literal l) hwf hstring, parseAs_literal, hr]
    refine ⟨rfl, ?_⟩
    -- the value was read for the datatype's category, which is not a text's
    obtain ⟨hdatatype', hlanguage, hrwf⟩ := Term.typed_eq_literal hr
    have hcategory : r.value.category none = Category.ofDatatype datatype := by
      rw [← hlanguage, ← hrwf, Literal.category, hdatatype']
    have hvalue := ofDatatype_of_mem_stringCastTargets hdatatype
    rw [← hcategory] at hvalue
    simp only [Term.wire, Literal.lexicalForm_computed hvalue]
  · rw [happly fresh (.literal l) hwf hstring, parseAs_literal, hill]

/-- The integer cast of ` 42 ` is forty-two. -/
theorem padded_integer_cast_reads_trimmed_text :
    ∃ op, Registry.builtins.function? Vocabulary.xsdInteger = some op ∧
      op.applyEvaluated 0 [Term.string " 42 "] = .ok (Term.integer 42) := by
  obtain ⟨op, hop, hcast⟩ := string_cast_reads_trimmed_text (l := Literal.string " 42 ")
    (show Vocabulary.xsdInteger ∈ stringCastTargets by simp [stringCastTargets])
    (Literal.wellFormed_string " 42 ")
    (by simp [Literal.string, Literal.category])
  have htrim : Unicode.trim " 42 " = "42" := by decide +kernel
  have hread : Lexical.readInteger? "42" Vocabulary.xsdInteger = some 42 := by decide +kernel
  have htyped := typed_xsdInteger_of_readInteger? hread
  rw [← htrim] at htyped
  exact ⟨op, hop, ((hcast 0).1 _ htyped).1⟩

/-- A no-break space is not XML white space, so `1` followed by U+00A0 is outside the lexical
space of xsd:integer; yet the integer cast trims it as Unicode white space and reads one. -/
theorem integer_cast_trims_no_break_space :
    Term.typed "1\xa0" Vocabulary.xsdInteger = .illTyped "1\xa0" Vocabulary.xsdInteger ∧
      ∃ op, Registry.builtins.function? Vocabulary.xsdInteger = some op ∧
        op.applyEvaluated 0 [Term.string "1\xa0"] = .ok (Term.integer 1) := by
  have hnot : Lexical.readInteger? "1\xa0" Vocabulary.xsdInteger = none := by decide +kernel
  have htrim : Unicode.trim "1\xa0" = "1" := by decide +kernel
  have hread : Lexical.readInteger? "1" Vocabulary.xsdInteger = some 1 := by decide +kernel
  obtain ⟨op, hop, happly⟩ := function?_stringCast
    (show Vocabulary.xsdInteger ∈ stringCastTargets by simp [stringCastTargets])
  refine ⟨by simp [Term.typed, Term.parseLiteral, Lexical.readValue?, hnot], op, hop, ?_⟩
  have hstring : (Term.string "1\xa0").category = .string := by
    simp [Term.string, Term.category, Literal.string, Literal.category]
  rw [happly 0 _ (Term.wellFormed_string _) hstring, Term.string, parseAs_literal]
  simp only [Literal.string, Literal.lexicalForm, htrim, typed_xsdInteger_of_readInteger? hread]
  rfl

end SparqlExpr
