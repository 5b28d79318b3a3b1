import TextRules.Proofs.Rounding
import TextRules.Rule.Function
import TextRules.Rule.Value

/-!
How values compare. Two values have an order unless both are numbers and one is NaN (`compare_eq_none_iff`), and they
    are equal exactly when their order says so, although equality is decided without it (`equals_iff`). So what
    an operator says depends on the order alone (`holds_eq_accepts`). Rounding never gives NaN: of the functions
    only `avg` does, on the empty text (`call_eq_nan_iff`). Comparing two values the other way round gives the opposite
    order (`Value.compare_swap`), so an operator and its mirror image agree. Where the order of some values is that of
    keys which are ordered transitively, less is transitive and equal an equivalence (`Operator.ordersAmong_of_key`).
    Texts and numbers each have such keys, their characters and their signed ranks, but not both together.
-/

namespace TextRules

/-! ### Order and equality -/

namespace Value

theorem compare_eq_none_iff {l r : Value} :
    l.compare r = none ↔ ∃ x y, l = number x ∧ r = number y ∧ (x = .nan ∨ y = .nan) := by
  cases l <;> cases r <;> simp [compare, Number.compare_eq_none_iff]

theorem equals_iff {l r : Value} : l.equals r = true ↔ l.compare r = some .eq := by
  have texts : ∀ s t : String, (s == t) = true ↔ some (Ord.compare s.toList t.toList) = some Ordering.eq := by
    intro s t
    rw [beq_iff_eq, Option.some.injEq, Std.compare_eq_iff_eq, String.toList_inj]
  cases l <;> cases r
  · exact Number.equals_eq_true_iff
  · exact texts _ _
  · exact texts _ _
  · exact texts _ _

end Value

namespace Operator

/-- What an operator makes of the order of two values. -/
def accepts (op : Operator) (order : Option Ordering) : Bool :=
  match op with
  | gt => order == some .gt
  | lt => order == some .lt
  | ge => order == some .gt || order == some .eq
  | le => order == some .lt || order == some .eq
  | eq => order == some .eq
  | ne => !(order == some .eq)

theorem holds_eq_accepts (op : Operator) (l r : Value) : op.holds l r = op.accepts (l.compare r) := by
  have equal : l.equals r = (l.compare r == some .eq) := by
    rw [Bool.eq_iff_iff, Value.equals_iff, beq_iff_eq]
  cases op
  case eq => exact equal
  case ne => rw [holds, accepts, equal]
  all_goals rfl

/-- Of two values that have an order, exactly one of less, equal and greater holds. -/
theorem count_accepts {order : Option Ordering} (h : order ≠ none) :
    [lt.accepts order, eq.accepts order, gt.accepts order].count true = 1 := by
  cases order with
  | none => exact absurd rfl h
  | some o => cases o <;> rfl

/-- Without an order nothing holds but inequality. -/
theorem accepts_none (op : Operator) : op.accepts none = decide (op = ne) := by cases op <;> rfl

end Operator

/-! ### NaN -/

theorem Number.div_ofNat_eq_nan_iff {part whole : Nat} :
    (ofNat part).div (ofNat whole) = nan ↔ part = 0 ∧ whole = 0 := by
  have part_finite := Rank.ofRatio_min_ne_infinity part
  have whole_finite := Rank.ofRatio_min_ne_infinity whole
  have part_zero := Rank.ofRatio_min_eq_zero_iff part
  have whole_zero := Rank.ofRatio_min_eq_zero_iff whole
  simp only [ofNat, ofRatio, div, if_neg part_finite, if_neg whole_finite, part_zero, whole_zero]
  by_cases none : whole = 0
  · by_cases empty : part = 0 <;> simp [none, empty]
  · simp [none]

theorem Number.ofDecimal_ne_nan (negative : Bool) (digits : Nat) (exponent : Int) :
    ofDecimal negative digits exponent ≠ nan := by
  unfold ofDecimal ofRatio
  split
  · simp
  split
  · simp
  split
  · simp
  split <;> simp

theorem Function.call_eq_nan_iff {f : Function} {argument subject : List Char} :
    f.call argument subject = .number .nan ↔ f = avg ∧ subject = [] := by
  cases f
  case avg =>
    simp only [call, Value.number.injEq, Number.div_ofNat_eq_nan_iff, List.length_eq_zero_iff, true_and]
    refine ⟨And.right, ?_⟩
    rintro rfl
    exact ⟨Occurrences.count_nil_right argument, rfl⟩
  all_goals simp [call, Number.ofNat, Number.ofRatio]

/-! ### Coherence -/

theorem Number.compare_swap (x y : Number) : compare y x = (compare x y).map Ordering.swap := by
  cases x <;> cases y
  case signed.signed => exact congrArg some Std.OrientedOrd.eq_swap
  all_goals rfl

theorem Value.compare_swap (l r : Value) : r.compare l = (l.compare r).map Ordering.swap := by
  cases l <;> cases r
  case number.number x y => exact Number.compare_swap x y
  all_goals exact congrArg some Std.OrientedOrd.eq_swap

theorem compare_chars_eq_lt_iff (cs ds : List Char) :
    Ord.compare cs ds = .lt ↔ List.Lex (fun c d => c.toNat < d.toNat) cs ds := by
  have chars : ∀ c d : Char, Ord.compare c d = .lt ↔ c.toNat < d.toNat := fun c d => compareOfLessAndEq_eq_lt
  induction cs generalizing ds with
  | nil => cases ds <;> simp
  | cons c cs ih =>
    cases ds with
    | nil => simp
    | cons d ds =>
      rw [List.compare_cons_cons, Ordering.then_eq_lt, List.cons_lex_cons_iff, chars, Std.compare_eq_iff_eq]
      exact or_congr_right (and_congr_right fun _ => ih ds)

namespace Operator

/-! ### Mirrored operators -/

/-- The operator that says the same with its sides exchanged. -/
def mirror : Operator → Operator
  | gt => lt
  | lt => gt
  | ge => le
  | le => ge
  | eq => eq
  | ne => ne

theorem accepts_swap (op : Operator) (order : Option Ordering) :
    op.accepts (order.map Ordering.swap) = op.mirror.accepts order := by
  rcases order with _ | o
  · cases op <;> rfl
  · cases op <;> cases o <;> rfl

theorem holds_swap (op : Operator) (l r : Value) : op.holds r l = op.mirror.holds l r := by
  rw [holds_eq_accepts, holds_eq_accepts, Value.compare_swap l r, accepts_swap]

/-! ### Values of one kind -/

/-- Among the values that stand for the members of a type less is transitive and equal is an equivalence. -/
structure OrdersAmong {α : Type} (value : α → Value) : Prop where
  lt_trans : ∀ a b c, lt.holds (value a) (value b) = true → lt.holds (value b) (value c) = true →
    lt.holds (value a) (value c) = true
  eq_equivalence : Equivalence fun a b => eq.holds (value a) (value b) = true

theorem ordersAmong_of_key {α β : Type} [Ord β] [Std.TransOrd β] {value : α → Value} (key : α → β)
    (ordered : ∀ a b, (value a).compare (value b) = some (compare (key a) (key b))) : OrdersAmong value := by
  have less : ∀ a b, lt.holds (value a) (value b) = true ↔ compare (key a) (key b) = .lt := by
    intro a b
    rw [holds_eq_accepts, ordered, accepts, beq_iff_eq, Option.some.injEq]
  have equal : ∀ a b, eq.holds (value a) (value b) = true ↔ compare (key a) (key b) = .eq := by
    intro a b
    rw [holds_eq_accepts, ordered, accepts, beq_iff_eq, Option.some.injEq]
  refine ⟨fun a b c first second => ?_, ⟨fun a => ?_, fun {a b} same => ?_, fun {a b c} first second => ?_⟩⟩
  · rw [less] at *
    exact Std.TransCmp.lt_trans first second
  · rw [equal]
    exact Std.ReflCmp.compare_self
  · rw [equal] at *
    exact Std.OrientedCmp.eq_symm same
  · rw [equal] at *
    exact Std.TransCmp.eq_trans first second

theorem ordersAmong_texts : OrdersAmong Value.text := ordersAmong_of_key String.toList fun _ _ => rfl

theorem ordersAmong_numbers : OrdersAmong fun x : { x : Number // x ≠ .nan } => Value.number x := by
  refine ordersAmong_of_key (fun x => x.1.order?.getD 0) ?_
  rintro ⟨_ | ⟨negative, rank⟩, left_nan⟩ ⟨_ | ⟨negative', rank'⟩, right_nan⟩
  · exact absurd rfl left_nan
  · exact absurd rfl left_nan
  · exact absurd rfl right_nan
  · rfl

end Operator

/-- The two ways to compare two values give opposite orders, and none exactly if both are numbers and one is NaN. They
    are equal exactly if that is their order. So the operators agree with their mirror images and with each other: one
    of less, equal and greater holds, unless there is no order, when only inequality does. Texts are ordered by code
    points; among texts, and among numbers other than NaN, less is transitive and equal an equivalence. -/
theorem comparison_coherent :
    (∀ l r : Value, r.compare l = (l.compare r).map Ordering.swap) ∧
    (∀ l r : Value, l.compare r = none ↔ ∃ x y, l = .number x ∧ r = .number y ∧ (x = .nan ∨ y = .nan)) ∧
    (∀ l r : Value, l.equals r = true ↔ l.compare r = some .eq) ∧
    (∀ l r : Value, let holds (op : Operator) := op.holds l r
      holds .gt = Operator.lt.holds r l ∧ holds .ge = Operator.le.holds r l ∧
      holds .ge = (holds .gt || holds .eq) ∧ holds .le = (holds .lt || holds .eq) ∧ holds .ne = !holds .eq ∧
      if l.compare r = none then ∀ op, holds op = decide (op = .ne)
        else [holds .lt, holds .eq, holds .gt].count true = 1) ∧
    (∀ s t : String, Operator.lt.holds (.text s) (.text t) = true ↔
      List.Lex (fun c d => c.toNat < d.toNat) s.toList t.toList) ∧
    Operator.OrdersAmong Value.text ∧ Operator.OrdersAmong fun x : { x : Number // x ≠ .nan } => Value.number x := by
  refine ⟨Value.compare_swap, fun l r => Value.compare_eq_none_iff, fun l r => Value.equals_iff, fun l r => ?_,
    fun s t => ?_, Operator.ordersAmong_texts, Operator.ordersAmong_numbers⟩
  · intro holds
    have read : holds = fun op => op.accepts (l.compare r) := funext fun op => Operator.holds_eq_accepts op l r
    refine ⟨Operator.holds_swap .gt r l, Operator.holds_swap .ge r l, ?_⟩
    rw [read]
    refine ⟨rfl, rfl, rfl, ?_⟩
    split
    case isTrue unordered =>
      rw [unordered]
      exact Operator.accepts_none
    case isFalse ordered => exact Operator.count_accepts ordered
  · rw [Operator.holds_eq_accepts, Operator.accepts, beq_iff_eq, ← compare_chars_eq_lt_iff]
    exact Option.some_inj

/-- Beside a text a number counts as a text, so across the kinds less goes in a circle, and the two zeros differ. -/
example :
    let nine := Value.number (.ofNat 9)
    let ten := Value.number (.ofNat 10)
    Operator.lt.holds nine ten = true ∧ Operator.lt.holds ten (.text "9") = true ∧
      Operator.eq.holds (.text "9") nine = true ∧
      Operator.eq.holds (.number .zero) (.number Number.zero.negate) = true ∧
      Operator.eq.holds (.text "0") (.number Number.zero.negate) = false := by
  decide +kernel

end TextRules
