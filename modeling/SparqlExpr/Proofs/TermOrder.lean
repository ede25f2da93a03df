import Mathlib
import SparqlExpr.Proofs.Converse
import SparqlExpr.Proofs.WellFormed
import SparqlExpr.Proofs.Notation

/-!
Term order as an order of keys.

Term order compares two terms by kind, then by value where the two are comparable, and else by
category and display text. Mixing the last two is what can break transitivity: language strings
whose tags differ are ordered by display text, where a closing quote sorts after some characters
and before others; a float NaN is below a double by category, the double below an integer by
value, and the integer below the NaN by category again; and an integer meets a double after
rounding, so `2^53 + 1` equals the double `2^53`, which equals the integer `2^53`, which is below
`2^53 + 1`.

Without floats and doubles, and with one language tag up to ASCII case, every comparison term
order makes is a step of one lexicographic comparison of keys (`Term.orderKey`): the kind; the
category's rank, decimals ranked with integers; a magnitude (the exact value of a number, a
boolean as 0 or 1, the seconds of a dateTime, date or time in UTC); nanoseconds; and the text of
a string, or the display text of a term that has no value order. The main statements:

* `Term.termOrder_eq_orderKey`: on such terms, term order is the order of their keys;
* `termOrder_totalPreorder_of_exact`: term order answers the other way round when its arguments
  are exchanged, and on a list of such terms it is a total preorder.
-/

namespace SparqlExpr

section Magnitudes

theorem compare_intCast (a b : Int) : compare (a : ℚ) (b : ℚ) = compare a b := by
  rw [← cmp_eq_compare, ← cmp_eq_compare]
  exact Int.cast_strictMono.cmp_map_eq a b

theorem compare_natCast (a b : Nat) : compare (a : ℚ) (b : ℚ) = compare a b := by
  rw [← cmp_eq_compare, ← cmp_eq_compare]
  exact Nat.strictMono_cast.cmp_map_eq a b

theorem Bool.compare_toNat (a b : Bool) :
    compare (a.toNat : ℚ) (b.toNat : ℚ) = compare a b := by
  cases a <;> cases b <;> decide

/-- A decimal written at a scale no smaller than its own, as a rational number. -/
theorem Decimal.mantissaAt_eq {d : Decimal} {s : Int} (hs : d.scale ≤ s) :
    (d.mantissaAt s : ℚ) = d.toRat * 10 ^ s := by
  have hpow : ((10 : ℚ) ^ s) = 10 ^ d.scale * 10 ^ (s - d.scale).toNat := by
    rw [← zpow_natCast, ← zpow_add₀ (by norm_num), Int.toNat_of_nonneg (by omega)]
    ring_nf
  have hne : (10 : ℚ) ^ d.scale ≠ 0 := zpow_ne_zero _ (by norm_num)
  have hint : Int.pow 10 (s - d.scale).toNat = 10 ^ (s - d.scale).toNat := rfl
  rw [hpow, Decimal.mantissaAt, Decimal.toRat, hint]
  push_cast
  field_simp

/-- Decimals compare as their values: both mantissas are taken to the larger scale, which
multiplies both values by one positive power of ten. -/
theorem Decimal.compare_eq_toRat (a b : Decimal) :
    a.compare b = Ord.compare a.toRat b.toRat := by
  have hpos : (0 : ℚ) < 10 ^ max a.scale b.scale := zpow_pos (by norm_num) _
  rw [Decimal.compare, ← compare_intCast, mantissaAt_eq (le_max_left _ _),
    mantissaAt_eq (le_max_right _ _), ← cmp_eq_compare, ← cmp_eq_compare,
    cmp_mul_pos_right hpos]

theorem Decimal.toRat_ofInt (n : Int) : (Decimal.ofInt n).toRat = n := by
  simp [Decimal.ofInt, Decimal.toRat]

end Magnitudes

section Keys

/-- The place of a term in term order, compared field by field. -/
structure OrderKey where
  /-- blank nodes, IRIs, literals, variables -/
  kind : Nat
  /-- the category's rank, decimals ranked with integers -/
  group : Nat
  magnitude : ℚ
  nano : Nat
  text : String

namespace OrderKey

/-- Keys in lexicographic order. -/
def compare (a b : OrderKey) : Ordering :=
  (Ord.compare a.kind b.kind).then <| (Ord.compare a.group b.group).then <|
    (Ord.compare a.magnitude b.magnitude).then <|
      (Ord.compare a.nano b.nano).then (Ord.compare a.text b.text)

instance : Std.TransCmp OrderKey.compare :=
  inferInstanceAs (Std.TransCmp (compareLex (compareOn kind) <| compareLex (compareOn group) <|
    compareLex (compareOn magnitude) <| compareLex (compareOn nano) (compareOn text)))

end OrderKey

/-- The rank of a category in term order, where decimals rank with integers: the two are
compared by value. -/
def Category.orderGroup (c : Category) : Nat := if c = .decimal then 0 else c.rank

theorem Category.getElem?_all_rank (c : Category) : Category.all[c.rank]? = some c := by
  cases c <;> rfl

theorem Category.rank_injective : Function.Injective Category.rank := fun c d h =>
  Option.some.inj ((getElem?_all_rank c).symm.trans (h ▸ getElem?_all_rank d))

/-- Categories of different groups compare by group as they compare by rank. -/
theorem Category.compare_orderGroup {c d : Category} (h : c.orderGroup ≠ d.orderGroup) :
    compare c.orderGroup d.orderGroup = compare c.rank d.rank := by
  revert h
  cases c <;> cases d <;> decide

theorem Category.eq_of_orderGroup_eq {c d : Category} (h : c.orderGroup = d.orderGroup) :
    c = d ∨ c ∈ [Category.integer, .decimal] ∧ d ∈ [Category.integer, .decimal] := by
  by_cases hc : c = .decimal <;> by_cases hd : d = .decimal <;>
    simp only [orderGroup, hc, hd, if_true, if_false] at h
  · exact .inl (hc.trans hd.symm)
  · have hint : d = .integer := rank_injective h.symm
    exact .inr ⟨by simp [hc], by simp [hint]⟩
  · have hint : c = .integer := rank_injective h
    exact .inr ⟨by simp [hint], by simp [hd]⟩
  · exact .inl (rank_injective h)

/-- The magnitude by which a value is placed within its group. -/
@[simp] def LiteralValue.magnitude : LiteralValue → ℚ
  | .numeric n => (n.toDecimal?.map Decimal.toRat).getD 0
  | .boolean b => b.toNat
  | .dateTime d => d.instant.seconds
  | .date d => d.utcMidnight
  | .time t => t.utcTime.secondOfDay
  | _ => 0

@[simp] def LiteralValue.nano : LiteralValue → Nat
  | .dateTime d => d.instant.nano
  | .time t => t.utcTime.nano
  | _ => 0

/-- The text by which a literal is placed last: a string's own text, the display text of a
duration or a value of an unknown datatype, and nothing for values ordered by magnitude. -/
@[simp] def Literal.orderText (l : Literal) : String :=
  match l.value with
  | .string s => s
  | .duration _ | .other _ => (Term.literal l).display
  | _ => ""

def Term.orderKey : Term → OrderKey
  | .literal l => ⟨2, l.category.orderGroup, l.value.magnitude, l.value.nano, l.orderText⟩
  | t => ⟨t.kindRank, t.category.orderGroup, 0, 0, t.display⟩

end Keys

namespace Term

@[simp] theorem orderKey_kind (t : Term) : t.orderKey.kind = t.kindRank := by
  cases t <;> rfl

@[simp] theorem orderKey_group (t : Term) : t.orderKey.group = t.category.orderGroup := by
  cases t <;> rfl

@[simp] theorem orderKey_literal (l : Literal) :
    (literal l).orderKey =
      ⟨2, l.category.orderGroup, l.value.magnitude, l.value.nano, l.orderText⟩ :=
  rfl

/-- The key of a term placed by its display text alone within its kind and group. -/
def DisplayKeyed (t : Term) : Prop :=
  t.orderKey = ⟨t.kindRank, t.category.orderGroup, 0, 0, t.display⟩

section Steps

variable {a b : Term}

/-- Terms of different kinds: both orders compare the kinds. -/
theorem termOrder_of_kindRank_ne (hk : a.kindRank ≠ b.kindRank) :
    termOrder a b = a.orderKey.compare b.orderKey := by
  have hcmp : compare a.kindRank b.kindRank ≠ .eq := by
    rwa [Ne, Std.LawfulEqCmp.compare_eq_iff_eq]
  simp only [termOrder, OrderKey.compare, orderKey_kind]
  cases h : compare a.kindRank b.kindRank
  · rfl
  · exact absurd h hcmp
  · rfl

/-- Terms of one kind and one group compared by value: term order is the order of their keys
when their value order is the order of magnitudes, nanoseconds and texts. -/
theorem termOrder_of_valueCompare (hk : a.kindRank = b.kindRank)
    (hg : a.category.orderGroup = b.category.orderGroup)
    (hv : valueCompare a b = some
      ((compare a.orderKey.magnitude b.orderKey.magnitude).then
        ((compare a.orderKey.nano b.orderKey.nano).then
          (compare a.orderKey.text b.orderKey.text)))) :
    termOrder a b = a.orderKey.compare b.orderKey := by
  simp only [termOrder, hv, OrderKey.compare, orderKey_kind, orderKey_group, hk, hg,
    Std.ReflCmp.compare_self, Ordering.eq_then]

/-- Terms of one kind and one category that have no value order: both orders compare display
texts. -/
theorem termOrder_of_display (hk : a.kindRank = b.kindRank) (hc : a.category = b.category)
    (hv : valueCompare a b = none) (ha : a.DisplayKeyed) (hb : b.DisplayKeyed) :
    termOrder a b = a.orderKey.compare b.orderKey := by
  rw [DisplayKeyed] at ha hb
  simp only [termOrder, hv, OrderKey.compare, ha, hb, hk, hc, Std.ReflCmp.compare_self,
    Ordering.eq_then]

/-- Terms of one kind and different groups: both orders compare the categories. -/
theorem termOrder_of_orderGroup_ne (hk : a.kindRank = b.kindRank)
    (hg : a.category.orderGroup ≠ b.category.orderGroup) (hv : valueCompare a b = none) :
    termOrder a b = a.orderKey.compare b.orderKey := by
  have hcmp : compare a.category.rank b.category.rank ≠ .eq := by
    rw [Ne, Std.LawfulEqCmp.compare_eq_iff_eq]
    intro h
    exact hg (by rw [Category.rank_injective h])
  simp only [termOrder, hv, OrderKey.compare, orderKey_kind, orderKey_group, hk,
    Category.compare_orderGroup hg, Std.ReflCmp.compare_self, Ordering.eq_then]
  cases h : compare a.category.rank b.category.rank
  · rfl
  · exact absurd h hcmp
  · rfl

end Steps

section Literals

variable {la lb : Literal}

/-- A numeric value whose category is neither float nor double is an integer or a decimal. -/
theorem exact_of_numeric {x : Numeric} {language : Option String}
    (h : (LiteralValue.numeric x).category language ∉ [.float, .double]) :
    (∃ n, x = .integer n) ∨ ∃ d, x = .decimal d := by
  cases x with
  | integer n => exact .inl ⟨n, rfl⟩
  | decimal d => exact .inr ⟨d, rfl⟩
  | float => simp [LiteralValue.category] at h
  | double => simp [LiteralValue.category] at h

/-- A well-formed literal of category integer or decimal holds an integer or a decimal. -/
theorem exact_of_category {l : Literal} (hl : l.WellFormed)
    (hc : l.category ∈ [Category.integer, .decimal]) :
    (∃ n, l.value = .numeric (.integer n)) ∨ ∃ d, l.value = .numeric (.decimal d) := by
  have hof := Literal.WellFormed.ofCategory hl
  simp only [List.mem_cons, List.not_mem_nil, or_false] at hc
  rcases hc with hc | hc <;> rw [hc] at hof
  · exact .inl hof
  · exact .inr hof

/-- Two literals have a value order only within one group, when neither is a float or a
double. -/
theorem orderGroup_eq_of_valueCompare (ha : la.WellFormed) (hb : lb.WellFormed)
    (hxa : la.category ∉ [.float, .double]) (hxb : lb.category ∉ [.float, .double])
    {o : Ordering} (h : valueCompare (literal la) (literal lb) = some o) :
    la.category.orderGroup = lb.category.orderGroup := by
  rcases la with ⟨va, _, _, pa⟩
  rcases lb with ⟨vb, _, _, pb⟩
  simp only [Literal.WellFormed, Literal.category_mk] at ha hb
  simp only [Literal.category_mk, ha, hb] at hxa hxb ⊢
  simp only [valueCompare] at h
  -- the branches of the value order: each compares two values of one kind
  split at h
  case h_1 =>
    rcases exact_of_numeric hxa with ⟨_, rfl⟩ | ⟨_, rfl⟩ <;>
      rcases exact_of_numeric hxb with ⟨_, rfl⟩ | ⟨_, rfl⟩ <;> rfl
  case h_6 =>
    cases pa <;> cases pb
    case none.none => rfl
    case some.some => rfl
    all_goals simp at h
  case h_7 => cases h
  all_goals rfl

/-- Integers and decimals are ordered by their rational values. -/
theorem termOrder_of_exact (ha : la.WellFormed) (hb : lb.WellFormed)
    (hca : la.category ∈ [Category.integer, .decimal])
    (hcb : lb.category ∈ [Category.integer, .decimal]) :
    termOrder (literal la) (literal lb) = (literal la).orderKey.compare (literal lb).orderKey := by
  have hgroup : ∀ c ∈ [Category.integer, .decimal], c.orderGroup = 0 := by decide
  refine termOrder_of_valueCompare rfl ((hgroup _ hca).trans (hgroup _ hcb).symm) ?_
  rcases exact_of_category ha hca with ⟨x, hx⟩ | ⟨x, hx⟩ <;>
    rcases exact_of_category hb hcb with ⟨y, hy⟩ | ⟨y, hy⟩ <;>
    simp [valueCompare, hx, hy, Numeric.compare?, Numeric.promote, Numeric.toDecimal?,
      Decimal.compare_eq_toRat, Decimal.toRat_ofInt, compare_intCast]

/-- Two literals of one group: both orders agree, category by category. -/
theorem termOrder_of_orderGroup_eq (ha : la.WellFormed) (hb : lb.WellFormed)
    (hxa : la.category ∉ [.float, .double])
    (htag : ∀ p ∈ la.language, ∀ q ∈ lb.language, asciiEqualIgnoringCase p q = true)
    (hg : la.category.orderGroup = lb.category.orderGroup) :
    termOrder (literal la) (literal lb) = (literal la).orderKey.compare (literal lb).orderKey := by
  rcases Category.eq_of_orderGroup_eq hg with hc | ⟨hca, hcb⟩
  swap
  · exact termOrder_of_exact ha hb hca hcb
  -- one category, which holds one kind of value
  have hcb : ∀ {c}, la.category = c → (literal lb).category = c := fun h => hc.symm.trans h
  cases hcat : la.category
  case integer | decimal =>
    exact termOrder_of_exact ha hb (by simp [hcat]) (by simp [← hc, hcat])
  case float | double => simp [hcat] at hxa
  case untyped | namedNode | blankNode | var => simp [Literal.category] at hcat
  case boolean =>
    obtain ⟨_, x, ⟨⟩, hx⟩ := WellFormed.exists_boolean (t := .literal la) ha hcat
    obtain ⟨_, y, ⟨⟩, hy⟩ := WellFormed.exists_boolean (t := .literal lb) hb (hcb hcat)
    exact termOrder_of_valueCompare rfl hg (by simp [valueCompare, hx, hy, Bool.compare_toNat])
  case dateTime =>
    obtain ⟨_, x, ⟨⟩, hx⟩ := WellFormed.exists_dateTime (t := .literal la) ha hcat
    obtain ⟨_, y, ⟨⟩, hy⟩ := WellFormed.exists_dateTime (t := .literal lb) hb (hcb hcat)
    exact termOrder_of_valueCompare rfl hg (by
      simp [valueCompare, hx, hy, Temporal.DateTime.compare, Temporal.Instant.compare,
        compare_intCast])
  case date =>
    obtain ⟨_, x, ⟨⟩, hx⟩ := WellFormed.exists_date (t := .literal la) ha hcat
    obtain ⟨_, y, ⟨⟩, hy⟩ := WellFormed.exists_date (t := .literal lb) hb (hcb hcat)
    exact termOrder_of_valueCompare rfl hg (by
      simp [valueCompare, hx, hy, Temporal.Date.compare, compare_intCast])
  case time =>
    obtain ⟨_, x, ⟨⟩, hx⟩ := WellFormed.exists_time (t := .literal la) ha hcat
    obtain ⟨_, y, ⟨⟩, hy⟩ := WellFormed.exists_time (t := .literal lb) hb (hcb hcat)
    exact termOrder_of_valueCompare rfl hg (by
      simp [valueCompare, hx, hy, Temporal.Time.compare, Temporal.ClockTime.compare,
        compare_natCast])
  case string =>
    obtain ⟨_, x, ⟨⟩, hx, hpa⟩ := WellFormed.exists_string (t := .literal la) ha hcat
    obtain ⟨_, y, ⟨⟩, hy, hpb⟩ := WellFormed.exists_string (t := .literal lb) hb (hcb hcat)
    exact termOrder_of_valueCompare rfl hg (by simp [valueCompare, hx, hy, hpa, hpb])
  case langString =>
    obtain ⟨_, x, p, ⟨⟩, hx, hpa⟩ := WellFormed.exists_langString (t := .literal la) ha hcat
    obtain ⟨_, y, q, ⟨⟩, hy, hpb⟩ :=
      WellFormed.exists_langString (t := .literal lb) hb (hcb hcat)
    -- the tags match, so the two are compared by their texts
    have hpq : asciiEqualIgnoringCase p q = true := htag p (by simp [hpa]) q (by simp [hpb])
    exact termOrder_of_valueCompare rfl hg (by simp [valueCompare, hx, hy, hpa, hpb, hpq])
  case duration =>
    obtain ⟨_, x, ⟨⟩, hx⟩ := WellFormed.exists_duration (t := .literal la) ha hcat
    obtain ⟨_, y, ⟨⟩, hy⟩ := WellFormed.exists_duration (t := .literal lb) hb (hcb hcat)
    refine termOrder_of_display rfl hc (by simp [valueCompare, hx, hy]) ?_ ?_ <;>
      simp [DisplayKeyed, kindRank, category, hx, hy]
  case other =>
    obtain ⟨_, x, ⟨⟩, hx⟩ := WellFormed.exists_other (t := .literal la) ha hcat
    obtain ⟨_, y, ⟨⟩, hy⟩ := WellFormed.exists_other (t := .literal lb) hb (hcb hcat)
    refine termOrder_of_display rfl hc (by simp [valueCompare, hx, hy]) ?_ ?_ <;>
      simp [DisplayKeyed, kindRank, category, hx, hy]

end Literals

/-- On well-formed terms that are neither floats nor doubles and whose language tags match
ignoring ASCII case, term order is the lexicographic order of their keys. -/
theorem termOrder_eq_orderKey {a b : Term} (ha : a.WellFormed) (hb : b.WellFormed)
    (hxa : a.category ∉ [.float, .double]) (hxb : b.category ∉ [.float, .double])
    (htag : ∀ p ∈ Builtin.languageOf a, ∀ q ∈ Builtin.languageOf b,
      asciiEqualIgnoringCase p q = true) :
    termOrder a b = a.orderKey.compare b.orderKey := by
  by_cases hk : a.kindRank = b.kindRank
  swap
  · exact termOrder_of_kindRank_ne hk
  have huntyped : ∀ datatype, (Category.ofDatatype datatype).orderGroup ≠
      Category.untyped.orderGroup := fun datatype h =>
    (Category.eq_of_orderGroup_eq h).elim (Category.ofDatatype_ne_untyped datatype)
      fun h => by simp at h
  cases a <;> cases b
  case literal.literal la lb =>
    by_cases hg : la.category.orderGroup = lb.category.orderGroup
    · exact termOrder_of_orderGroup_eq ha hb hxa htag hg
    · exact termOrder_of_orderGroup_ne rfl hg (Option.eq_none_iff_forall_ne_some.mpr
        fun o h => hg (orderGroup_eq_of_valueCompare ha hb hxa hxb h))
  case literal.illTyped => exact termOrder_of_orderGroup_ne rfl (huntyped _) rfl
  case illTyped.literal => exact termOrder_of_orderGroup_ne rfl (huntyped _).symm rfl
  case illTyped.illTyped => exact termOrder_of_display rfl rfl rfl rfl rfl
  case namedNode.namedNode => exact termOrder_of_display rfl rfl rfl rfl rfl
  case blankNode.blankNode => exact termOrder_of_display rfl rfl rfl rfl rfl
  case var.var => exact termOrder_of_display rfl rfl rfl rfl rfl
  all_goals simp [kindRank] at hk

end Term

/-- Term order answers the other way round when its arguments are exchanged, and it is a total
preorder on every list of well-formed terms that holds no float or double and whose language
tags match ignoring ASCII case. -/
theorem termOrder_totalPreorder_of_exact (values : List Term)
    (hwf : ∀ t ∈ values, t.WellFormed)
    (hexact : ∀ t ∈ values, t.category ∉ [Category.float, .double])
    (htags : ∀ a ∈ values, ∀ b ∈ values, ∀ p ∈ Builtin.languageOf a,
      ∀ q ∈ Builtin.languageOf b, asciiEqualIgnoringCase p q = true) :
    (∀ a b : Term, Term.termOrder a b = (Term.termOrder b a).swap) ∧
      TotalPreorderOn Term.termOrder values := by
  have hkey : ∀ a ∈ values, ∀ b ∈ values, a.termOrder b = a.orderKey.compare b.orderKey :=
    fun a ha b hb => Term.termOrder_eq_orderKey (hwf a ha) (hwf b hb) (hexact a ha)
      (hexact b hb) (htags a ha b hb)
  refine ⟨fun a b => Term.termOrder_swap b a, fun a _ b _ => (Term.termOrder_swap a b).symm, ?_⟩
  intro a ha b hb c hc hab hbc
  -- "not greater" is transitive for keys, a lexicographic order of linear orders
  rw [hkey a ha b hb] at hab
  rw [hkey b hb c hc] at hbc
  rw [hkey a ha c hc]
  exact Ordering.ne_gt_iff_isLE.mpr (Std.TransCmp.isLE_trans (Ordering.ne_gt_iff_isLE.mp hab)
    (Ordering.ne_gt_iff_isLE.mp hbc))

/-- An integer, a decimal, a simple string and two strings tagged `en`: term order is a total
preorder on them. -/
theorem termOrder_totalPreorder_on_numbers_and_strings :
    TotalPreorderOn Term.termOrder [Term.integer 3, .literal (Literal.decimal ⟨25, 1⟩),
      Term.string "a", .literal (Literal.langString "b" "en"),
      .literal (Literal.langString "a" "en")] := by
  have hen : asciiEqualIgnoringCase "en" "en" = true := beq_self_eq_true _
  refine (termOrder_totalPreorder_of_exact _ (by decide) (by decide) ?_).2
  simp [Builtin.languageOf, Term.integer, Term.string, Literal.integer, Literal.ofNumeric,
    Literal.decimal, Literal.string, Literal.langString, hen]

end SparqlExpr
