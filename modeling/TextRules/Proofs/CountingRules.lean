import TextRules.Proofs.Packing
import TextRules.Proofs.StrictRule
import TextRules.Proofs.Trichotomy
import TextRules.Proofs.WholeNumbers

/-!
Rules that count. A length or a number of occurrences below 2⁵³ is not rounded, and neither is a whole number that a rule
    compares it with, so such a rule decides between integers (`holds_numeral`). Beside a text the number stands for
    its canonical decimal form, which is the only text that it equals (`equals_text`).
-/

namespace TextRules

open Text

/-! ### Operators between integers -/

/-- The relation between integers that an operator names. -/
def Operator.relates (op : Operator) (a b : Int) : Bool :=
  match op with
  | gt => a > b
  | lt => a < b
  | ge => a ≥ b
  | le => a ≤ b
  | eq => a = b
  | ne => a ≠ b

theorem Operator.accepts_compare (op : Operator) (a b : Int) :
    op.accepts (some (Ord.compare a b)) = op.relates a b := by
  rcases lt_trichotomy a b with less | rfl | greater
  · rw [compare_lt_iff_lt.mpr less]
    cases op <;> simp [accepts, relates] <;> omega
  · rw [compare_eq_iff_eq.mpr rfl]
    cases op <;> simp [accepts, relates]
  · rw [compare_gt_iff_gt.mpr greater]
    cases op <;> simp [accepts, relates] <;> omega

/-! ### Calls without a comma -/

theorem compile_closedCall (f : Function) {inside : List Char} (unclosed : ')' ∉ inside) (single : ',' ∉ inside)
    (w : Blanks) (op : Operator) (w' : Blanks) (l : Literal) :
    compile (closedRule (f.name.toList ++ '(' :: inside) w op w' l) =
      .ok ⟨f, String.ofList (stripQuotes (trimChars inside)), op, l.value⟩ := by
  have bare : (f.name.toList ++ '(' :: inside).dropWhile isBlank = f.name.toList ++ '(' :: inside := by
    cases f <;> rfl
  have call : Call.find? (trimChars (closedRule (f.name.toList ++ '(' :: inside) w op w' l).toList) =
      some ⟨[], f.name.toList, inside, w ++ (op.symbol.toList ++ (w' ++ l.chars))⟩ := by
    rw [trimChars_closedRule, ← Call.find?_of_name StrictRule.name_ne_nil StrictRule.isWord_name unclosed]
    simp [Comparison.whole, closedComparison, bare]
  have comparison := find?_closedComparison (f.name.toList ++ '(' :: inside) w w' l op
  rw [← trimChars_closedRule] at comparison
  refine compile_eq_ok.mpr ⟨_, _, call, comparison, rfl, rfl, ?_, l.ofLiteral_chars⟩
  rw [Call.arguments_of_notMem single, List.headD_cons]

/-- A call that counts: of the length, or of the occurrences of a text that can stand in quotes. -/
inductive CountingCall where
  | length
  | occurrences (q : Quote) (a : List Char) (plain : PlainArgument a)

namespace CountingCall

/-- The function that is called. -/
def function : CountingCall → Function
  | length => .sum
  | occurrences _ _ _ => .count

/-- The argument of the call, without its quotes. -/
def argument : CountingCall → List Char
  | length => []
  | occurrences _ a _ => a

/-- What stands between the parentheses. -/
def inside : CountingCall → List Char
  | length => []
  | occurrences q a _ => q.char :: (a ++ [q.char])

/-- The call as it is written, up to its close parenthesis. -/
def chars (call : CountingCall) : List Char := call.function.name.toList ++ '(' :: call.inside

/-- What is counted in a text: how many characters it has, or how many occurrences of the argument fit beside each other
    into it. Of the empty argument there are none. -/
def Counts (subject : List Char) (m : Nat) : CountingCall → Prop
  | length => m = subject.length
  | occurrences _ a _ => (a = [] ∧ m = 0) ∨ (a ≠ [] ∧ IsGreatest (Occurrences.packedSizes a subject) m)

theorem notMem_inside (call : CountingCall) {c : Char} (notQuote : isQuote c = false) (absent : c ∉ call.argument) :
    c ∉ call.inside := by
  cases call with
  | length => exact List.not_mem_nil
  | occurrences q a plain =>
    have other : c ≠ q.char := Quote.ne_char notQuote
    rw [inside, List.mem_cons, List.mem_append, List.mem_singleton]
    rintro (first | middle | last)
    · exact other first
    · exact absent middle
    · exact other last

theorem plain_argument (call : CountingCall) : PlainArgument call.argument := by
  cases call with
  | length => decide
  | occurrences q a plain => exact plain

theorem stripQuotes_inside (call : CountingCall) : stripQuotes (trimChars call.inside) = call.argument := by
  cases call with
  | length => rfl
  | occurrences q a plain =>
    rw [inside, trimChars, stripEnds_of_bare (q.bare_around a), q.stripQuotes_around, stripQuotes,
      stripEnds_of_bare plain.2.2, argument]

theorem compile_chars (call : CountingCall) (w : Blanks) (op : Operator) (w' : Blanks) (l : Literal) :
    compile (closedRule call.chars w op w' l) = .ok ⟨call.function, String.ofList call.argument, op, l.value⟩ := by
  obtain ⟨unclosed, single, -⟩ := call.plain_argument
  have compiled := compile_closedCall call.function (call.notMem_inside (by decide) unclosed)
    (call.notMem_inside (by decide) single) w op w' l
  rw [call.stripQuotes_inside] at compiled
  exact compiled

/-- A call computes what it counts, which is no more than the length of the text. -/
theorem exists_counts (call : CountingCall) (subject : List Char) : ∃ m ≤ subject.length, call.Counts subject m ∧
    call.function.call call.argument subject = .number (.ofNat m) := by
  cases call with
  | length => exact ⟨subject.length, le_refl _, rfl, rfl⟩
  | occurrences q a plain =>
    refine ⟨Occurrences.count a subject, Occurrences.count_le_length, ?_, rfl⟩
    rcases eq_or_ne a [] with empty | filled
    · exact .inl ⟨empty, Occurrences.count_eq_zero_iff.mpr (.inl empty)⟩
    · exact .inr ⟨filled, Occurrences.isGreatest_count subject filled⟩

theorem evaluate_chars (call : CountingCall) (w : Blanks) (op : Operator) (w' : Blanks) (l : Literal)
    {subject : String} {m : Nat} (computes : call.function.call call.argument subject.toList = .number (.ofNat m)) :
    evaluate (closedRule call.chars w op w' l) subject = .ok (op.holds (.number (.ofNat m)) l.value) := by
  rw [evaluate, call.compile_chars]
  refine congrArg Except.ok ?_
  rw [CompiledRule.verdict, CompiledRule.compute, String.toList_ofList, computes]

end CountingCall

/-! ### Verdicts -/

/-- The integer spelled by an unquoted number without a point. -/
def PlainNumeral.integer (n : PlainNumeral) : Int :=
  if n.negative then -(decimalValue n.whole : Int) else decimalValue n.whole

theorem holds_numeral {m : Nat} (small : m < 2 ^ 53) (op : Operator) {n : PlainNumeral} (whole : n.fraction = none)
    (exact : decimalValue n.whole < 2 ^ 53) :
    op.holds (.number (.ofNat m)) (Literal.numeral n).value = op.relates m n.integer := by
  have value : n.value = Number.ofDecimal n.negative (decimalValue n.whole) 0 := by
    rw [PlainNumeral.value, PlainNumeral.places, whole, Option.getD_none, List.append_nil]
    rfl
  rw [Operator.holds_eq_accepts, Literal.value, value]
  show op.accepts ((Number.ofNat m).compare _) = _
  rw [Number.compare_ofNat_ofDecimal small exact, Operator.accepts_compare]
  rfl

theorem equals_text {m : Nat} (small : m < 2 ^ 53) (t : String) :
    Operator.eq.holds (.number (.ofNat m)) (.text t) = decide (CanonicalDecimal m t.toList) := by
  show ((Number.ofNat m).display == t) = _
  rw [Number.display_ofNat small, Bool.eq_iff_iff, beq_iff_eq, decide_eq_true_iff, canonicalDecimal_iff,
    ← String.toList_inj, String.toList_ofList, eq_comm]

/-- A rule that counts decides between integers, whatever its operator, as long as the text is shorter than 2⁵³ and the
    number is a whole one below that, with zeros in front or a minus or not. Against a text it decides whether the text
    is the canonical decimal form of what is counted. -/
theorem counting_rules_exact (subject : String) (short : subject.toList.length < 2 ^ 53) (call : CountingCall)
    (w w' : Blanks) : ∃ m, call.Counts subject.toList m ∧
      (∀ (op : Operator) (n : PlainNumeral), n.fraction = none → decimalValue n.whole < 2 ^ 53 →
        evaluate (closedRule call.chars w op w' (.numeral n)) subject = .ok (op.relates m n.integer)) ∧
      ∀ (l : Literal) (t : String), l.value = .text t →
        evaluate (closedRule call.chars w .eq w' l) subject = .ok (decide (CanonicalDecimal m t.toList)) := by
  obtain ⟨m, bounded, counts, computes⟩ := call.exists_counts subject.toList
  have small := bounded.trans_lt short
  refine ⟨m, counts, fun op n whole exact => ?_, fun l t text => ?_⟩
  · rw [call.evaluate_chars w op w' _ computes, holds_numeral small op whole exact]
  · rw [call.evaluate_chars w .eq w' l computes, text, equals_text small]

/-- Two occurrences that overlap are one, against the number with and without zeros in front; a length is compared with a
    negative number, and with two texts of which one is canonical. -/
theorem counting_rules_exact_padded :
    "banana".toList.length < 2 ^ 53 ∧ IsGreatest (Occurrences.packedSizes "ana".toList "banana".toList) 1 ∧
    evaluate "count('ana') = 1" "banana" = .ok true ∧ evaluate "count('ana') = 002" "banana" = .ok false ∧
    evaluate "sum()>= -7" "banana" = .ok true ∧
    evaluate "sum() = \"6\"" "banana" = .ok true ∧ evaluate "sum() = '06'" "banana" = .ok false := by
  have short : "banana".toList.length < 2 ^ 53 := by decide
  have greatest : IsGreatest (Occurrences.packedSizes "ana".toList "banana".toList) 1 :=
    Occurrences.isGreatest_count _ (by decide)
  obtain ⟨m, ⟨empty, -⟩ | ⟨-, most⟩, number, -⟩ := counting_rules_exact "banana" short
    (.occurrences .single "ana".toList (by decide)) (.ofList [' '] rfl) (.ofList [' '] rfl)
  · exact absurd empty (by decide)
  obtain rfl := most.unique greatest
  have one := number .eq (.ofDigits ['1'] rfl (by decide)) rfl (by decide)
  have two := number .eq (.ofDigits ['0', '0', '2'] rfl (by decide)) rfl (by decide)
  obtain ⟨_, rfl, number, -⟩ := counting_rules_exact "banana" short .length (.ofList [] rfl) (.ofList [' '] rfl)
  have negative := number .ge { PlainNumeral.ofDigits ['7'] rfl (by decide) with negative := true } rfl (by decide)
  obtain ⟨_, rfl, -, text⟩ := counting_rules_exact "banana" short .length (.ofList [' '] rfl) (.ofList [' '] rfl)
  have canonical := text (.quoted .double ['6'] (by decide)) "6" rfl
  have padded := text (.quoted .single ['0', '6'] (by decide)) "06" rfl
  exact ⟨short, greatest, one, two, negative, canonical, padded⟩

end TextRules
