import Mathlib.Data.List.Forall2
import TextRules.Proofs.Compiled

/-!
What a rule's call is read as. The search passes characters and remembers the run of word characters that it stands
    behind (`Passed`), so it stops at the first open parenthesis that directly follows a word character and has the
    whole word in front of it. A text has a call exactly if a close parenthesis follows such an open one
    (`isSome_find?_iff`), and then it has one only (`First.unique`), which is the one that is found.
-/

namespace TextRules

open Text

namespace Call
variable {cs before run name rest : List Char} {c d : Call}

/-! ### Open parentheses behind words -/

/-- An open parenthesis of the text directly follows a word character. -/
def Opens (cs : List Char) : Prop := ∃ front w back, cs = front ++ w :: '(' :: back ∧ isWord w = true

/-- An open parenthesis of the text directly follows a word character, and a close parenthesis follows later. -/
def Occurs (cs : List Char) : Prop :=
  ∃ front w inside back, cs = front ++ w :: '(' :: (inside ++ ')' :: back) ∧ isWord w = true

theorem Opens.append (h : Opens cs) (more : List Char) : Opens (cs ++ more) := by
  obtain ⟨front, w, back, rfl, word⟩ := h
  exact ⟨front, w, back ++ more, by simp, word⟩

theorem opens_concat_iff {x : Char} :
    Opens (cs ++ [x]) ↔ Opens cs ∨ (x = '(' ∧ ∃ w ∈ cs.getLast?, isWord w = true) := by
  constructor
  · rintro ⟨front, w, back, split, word⟩
    rcases List.eq_nil_or_concat' back with rfl | ⟨back, y, rfl⟩
    · obtain ⟨rfl, rfl⟩ := List.append_singleton_inj.mp (split.trans (List.append_cons front w ['(']))
      exact Or.inr ⟨rfl, w, List.getLast?_concat, word⟩
    · obtain ⟨rfl, -⟩ := List.append_singleton_inj.mp (split.trans (List.append_assoc front (w :: '(' :: back) [y]).symm)
      exact Or.inl ⟨front, w, back, rfl, word⟩
  · rintro (h | ⟨rfl, w, last, word⟩)
    · exact h.append [x]
    · obtain ⟨front, rfl⟩ := List.getLast?_eq_some_iff.mp last
      exact ⟨front, w, [], by simp, word⟩

/-! ### The search -/

/-- What the search has passed, latest first: a run of word characters and, before it, a text that does not end in one;
    and no open parenthesis in all of this follows a word character. -/
structure Passed (before run : List Char) : Prop where
  word : ∀ x ∈ run, isWord x = true
  bounded : ∀ x ∈ before.head?, isWord x = false
  unopened : ¬Opens (before.reverse ++ run.reverse)

theorem passed_nil : Passed [] [] := by
  refine ⟨by simp, by simp, ?_⟩
  rintro ⟨front, w, back, split, -⟩
  simp at split

theorem Passed.pushWord (h : Passed before run) {x : Char} (word : isWord x = true) : Passed before (x :: run) := by
  refine ⟨fun y member => ?_, h.bounded, ?_⟩
  · rcases List.mem_cons.mp member with rfl | member
    · exact word
    · exact h.word y member
  · rw [List.reverse_cons, ← List.append_assoc, opens_concat_iff]
    rintro (opens | ⟨rfl, -⟩)
    · exact h.unopened opens
    · rw [isWord_open] at word
      cases word

theorem Passed.pushOther (h : Passed before run) {x : Char} (other : isWord x = false) (unopened : ¬(x = '(' ∧ run ≠ [])) :
    Passed (x :: (run ++ before)) [] := by
  refine ⟨by simp, by simpa using other, ?_⟩
  rw [List.reverse_nil, List.append_nil, List.reverse_cons, List.reverse_append, opens_concat_iff]
  rintro (opens | ⟨rfl, w, last, word⟩)
  · exact h.unopened opens
  · -- No word stands directly in front, for the run is empty and what is before it ends in none.
    have empty : run = [] := by simpa using unopened
    rw [empty, List.reverse_nil, List.append_nil, List.getLast?_reverse] at last
    rw [h.bounded w last] at word
    cases word

theorem splitOpen?_eq_some (passed : Passed before run) {front : List Char}
    (h : splitOpen? before run cs = some (front, name, rest)) :
    front ++ name ++ '(' :: rest = before.reverse ++ run.reverse ++ cs ∧ name ≠ [] ∧
      Passed front.reverse name.reverse := by
  fun_induction splitOpen? before run cs with
  | case1 => cases h
  | case2 before run x cs opens =>
    cases h
    exact ⟨by rw [opens.1], by simpa using opens.2, by simpa using passed⟩
  | case3 before run x cs opens word ih =>
    obtain ⟨joined, named⟩ := ih (passed.pushWord word) h
    exact ⟨by simpa using joined, named⟩
  | case4 before run x cs opens word ih =>
    obtain ⟨joined, named⟩ := ih (passed.pushOther (by simpa using word) opens) h
    exact ⟨by simpa using joined, named⟩

theorem splitOpen?_eq_none (passed : Passed before run) (h : splitOpen? before run cs = none) :
    ¬Opens (before.reverse ++ run.reverse ++ cs) := by
  fun_induction splitOpen? before run cs with
  | case1 before run => simpa using passed.unopened
  | case2 => cases h
  | case3 before run x cs opens word ih => simpa using ih (passed.pushWord word) h
  | case4 before run x cs opens word ih => simpa using ih (passed.pushOther (by simpa using word) opens) h

/-! ### The first call -/

/-- A text is cut around its first call: the name is a whole run of word characters, no open parenthesis before the
    call's own directly follows a word character, and the call ends at the first close parenthesis. -/
structure First (cs : List Char) (c : Call) : Prop where
  whole : c.whole = cs
  name_ne_nil : c.name ≠ []
  name_word : ∀ x ∈ c.name, isWord x = true
  bounded : ∀ x ∈ c.before.getLast?, isWord x = false
  unopened : ¬Opens (c.before ++ c.name)
  closed : ')' ∉ c.inside

theorem First.exists_last (h : First cs c) : ∃ front w, c.name = front ++ [w] ∧ isWord w = true := by
  refine ⟨c.name.dropLast, c.name.getLast h.name_ne_nil, (List.dropLast_concat_getLast h.name_ne_nil).symm, ?_⟩
  exact h.name_word _ (List.getLast_mem h.name_ne_nil)

theorem First.occurs (h : First cs c) : Occurs cs := by
  obtain ⟨front, w, name, word⟩ := h.exists_last
  exact ⟨c.before ++ front, w, c.inside, c.after, by rw [← h.whole, Call.whole, name]; simp, word⟩

theorem first_of_find? (h : find? cs = some c) : First cs c := by
  have closed := notMem_inside h
  unfold find? at h
  split at h
  · cases h
  · rename_i before name rest found
    obtain ⟨joined, named, passed⟩ := splitOpen?_eq_some passed_nil found
    split at h
    · rename_i closes
      cases h
      refine ⟨?_, named, by simpa using passed.word, by simpa using passed.bounded, by simpa using passed.unopened, closed⟩
      obtain ⟨inside, after, rfl, unclosed⟩ := List.eq_append_cons_of_mem closes
      rw [Call.whole, takeWhile_close unclosed, dropWhile_close unclosed]
      simpa using joined
    · cases h

/-- No other open parenthesis that directly follows a word character comes before the first. -/
theorem exists_append_of_unopened {front back front' back' : List Char} {w : Char} (unopened : ¬Opens front)
    (word : isWord w = true) (h : front ++ '(' :: back = (front' ++ [w]) ++ '(' :: back') :
    ∃ e, front' ++ [w] = front ++ e ∧ '(' :: back = e ++ '(' :: back' := by
  rcases List.append_eq_append_iff.mp h with longer | ⟨e, split, behind⟩
  · exact longer
  · cases e with
    | nil => exact ⟨[], by simpa using split.symm, behind.symm⟩
    | cons y e =>
      obtain ⟨rfl, -⟩ := List.cons.inj behind
      exact absurd ⟨front', w, e, by simpa using split, word⟩ unopened

/-- A text has a call exactly if a close parenthesis follows an open one that directly follows a word character. -/
theorem isSome_find?_iff : (find? cs).isSome = true ↔ Occurs cs := by
  constructor
  · intro h
    obtain ⟨c, found⟩ := Option.isSome_iff_exists.mp h
    exact (first_of_find? found).occurs
  · rintro ⟨front, w, inside, back, written, word⟩
    have opens : Opens cs := ⟨front, w, inside ++ ')' :: back, written, word⟩
    unfold find?
    split
    · rename_i unfound
      exact absurd opens (splitOpen?_eq_none passed_nil unfound)
    · rename_i before name rest opened
      obtain ⟨joined, -, passed⟩ := splitOpen?_eq_some passed_nil opened
      have unopened : ¬Opens (before ++ name) := by simpa using passed.unopened
      have cut : (before ++ name) ++ '(' :: rest = (front ++ [w]) ++ '(' :: (inside ++ ')' :: back) := by
        simpa [written] using joined
      -- The search stops no later than here, so the close parenthesis stands behind it too.
      obtain ⟨e, -, rest_eq⟩ := exists_append_of_unopened unopened word cut
      have closes : ')' ∈ '(' :: rest := by simp [rest_eq]
      rw [if_pos (by simpa using closes)]
      rfl

theorem takeWhile_reverse_append {a n : List Char} (word : ∀ x ∈ n, isWord x = true)
    (bounded : ∀ x ∈ a.getLast?, isWord x = false) : (a ++ n).reverse.takeWhile isWord = n.reverse := by
  rw [List.reverse_append, List.takeWhile_append_of_pos fun x member => word x (List.mem_reverse.mp member)]
  rcases List.eq_nil_or_concat' a with rfl | ⟨a, y, rfl⟩
  · simp
  · simp [bounded y (by simp)]

theorem First.cut (h : First cs c) : (c.before ++ c.name) ++ '(' :: (c.inside ++ ')' :: c.after) = cs := by
  simpa [Call.whole] using h.whole

/-- Of two first calls neither is opened before the other. -/
theorem First.no_later (first : First cs c) (first' : First cs d) : ∃ e, d.before ++ d.name = (c.before ++ c.name) ++ e ∧
    '(' :: (c.inside ++ ')' :: c.after) = e ++ '(' :: (d.inside ++ ')' :: d.after) := by
  obtain ⟨front, w, name, word⟩ := first'.exists_last
  have cut := first.cut.trans first'.cut.symm
  rw [name, ← List.append_assoc] at cut ⊢
  exact exists_append_of_unopened first.unopened word cut

/-- A text has no two first calls. -/
theorem First.unique (first : First cs c) (first' : First cs d) : c = d := by
  obtain ⟨e, longer, behind⟩ := first.no_later first'
  obtain ⟨e', longer', -⟩ := first'.no_later first
  have empty : e = [] ∧ e' = [] := by
    rw [longer] at longer'
    simpa using congrArg List.length longer'
  rw [empty.1, List.append_nil] at longer
  rw [empty.1, List.nil_append, List.cons.injEq] at behind
  -- Both names are the run in front of the same parenthesis, and both calls end at the first close parenthesis.
  have sameName : d.name = c.name := by
    have run_eq := takeWhile_reverse_append first'.name_word first'.bounded
    rw [longer, takeWhile_reverse_append first.name_word first.bounded, List.reverse_inj] at run_eq
    exact run_eq.symm
  have sameInside : d.inside = c.inside := by
    have taken := congrArg (List.takeWhile (· ≠ ')')) behind.2
    rw [takeWhile_close first.closed, takeWhile_close first'.closed] at taken
    exact taken.symm
  obtain ⟨before, name, inside, after⟩ := c
  obtain ⟨before', name', inside', after'⟩ := d
  cases sameName
  cases sameInside
  cases List.append_cancel_right longer
  cases (List.cons.inj (List.append_cancel_left behind.2)).2
  rfl

theorem find?_eq_some_iff : find? cs = some c ↔ First cs c := by
  refine ⟨first_of_find?, fun first => ?_⟩
  obtain ⟨d, found⟩ := Option.isSome_iff_exists.mp (isSome_find?_iff.mpr first.occurs)
  rw [found, first.unique (first_of_find? found)]

theorem find?_eq_none_iff : find? cs = none ↔ ¬Occurs cs := by
  rw [← isSome_find?_iff, Bool.not_eq_true, Option.isSome_eq_false_iff, Option.isNone_iff_eq_none]

theorem Occurs.exists_first (h : Occurs cs) : ∃ c, First cs c := by
  obtain ⟨c, found⟩ := Option.isSome_iff_exists.mp (isSome_find?_iff.mpr h)
  exact ⟨c, first_of_find? found⟩

theorem First.append (h : First cs c) (more : List Char) : First (cs ++ more) { c with after := c.after ++ more } where
  whole := by simp [← h.whole, Call.whole]
  name_ne_nil := h.name_ne_nil
  name_word := h.name_word
  bounded := h.bounded
  unopened := h.unopened
  closed := h.closed

/-! ### Arguments -/

/-- An argument is its piece without the blanks, and then without the quotes, at the ends. -/
def Cleaned (piece : List Char) (argument : String) : Prop :=
  ∃ core, Stripped isBlank piece core ∧ Stripped isQuote core argument.toList

theorem exists_pieces (c : Call) : ∃ pieces, Pieces ',' c.inside pieces ∧ List.Forall₂ Cleaned pieces c.arguments := by
  refine ⟨splitAt ',' c.inside, splitAt_eq_iff.mp rfl, ?_⟩
  rw [arguments, List.forall₂_map_right_iff, List.forall₂_same]
  intro piece _
  refine ⟨trimChars piece, stripEnds_eq_iff.mp rfl, ?_⟩
  rw [String.toList_ofList]
  exact stripEnds_eq_iff.mp rfl

theorem length_arguments (c : Call) : c.arguments.length = c.inside.count ',' + 1 := by
  rw [arguments, List.length_map, length_splitAt]

end Call

/-! ### Rules -/

/-- A rule is refused for its call, as it was passed, exactly if its trimmed text has none. -/
theorem ParsedRule.parse_eq_invalidFunctionSyntax {rule passed : String} :
    parse rule = .error (.invalidFunctionSyntax passed) ↔ passed = rule ∧ ¬Call.Occurs (trimChars rule.toList) := by
  rw [← Call.find?_eq_none_iff]
  simp only [parse]
  cases called : Call.find? (trimChars rule.toList) with
  | none => simp [eq_comm]
  | some call => cases compared : Comparison.find? (trimChars rule.toList) <;> simp

/-- The trimmed text of a rule has a call exactly if a close parenthesis follows an open one that directly follows a word
    character. The call is then the first: its name is the whole run of word characters in front of the first such open
    parenthesis, and it ends at the first close parenthesis behind that. Its arguments are the pieces in between, cut at
    each comma, without the blanks and then without the quotes at their ends, so there is one more than there are
    commas. A rule that is read has this name and these arguments, and one without a call is refused for that. -/
theorem call_extracted (rule : String) :
    let text := trimChars rule.toList
    ((Call.find? text).isSome = true ↔ Call.Occurs text) ∧
    (∀ c, Call.find? text = some c ↔ Call.First text c) ∧
    (∀ c, Call.First text c →
      (∃ pieces, Pieces ',' c.inside pieces ∧ List.Forall₂ Call.Cleaned pieces c.arguments) ∧
      c.arguments.length = c.inside.count ',' + 1) ∧
    (∀ p, ParsedRule.parse rule = .ok p →
      ∃ c, Call.First text c ∧ p.function = String.ofList c.name ∧ p.arguments = c.arguments) ∧
    ∀ passed, ParsedRule.parse rule = .error (.invalidFunctionSyntax passed) ↔ passed = rule ∧ ¬Call.Occurs text := by
  intro text
  refine ⟨Call.isSome_find?_iff, fun c => Call.find?_eq_some_iff, fun c _ => ⟨c.exists_pieces, c.length_arguments⟩,
    fun p parsed => ?_, fun passed => ParsedRule.parse_eq_invalidFunctionSyntax⟩
  obtain ⟨c, comparison, called, -, rfl⟩ := ParsedRule.parse_eq_ok.mp parsed
  exact ⟨c, Call.find?_eq_some_iff.mp called, rfl, rfl⟩

/-- Parentheses behind a blank in front of the call, a name that is not ASCII, quotes of both kinds, and pieces without
    anything. -/
theorem call_extracted_cluttered :
    let rule := " x (y) é_1( 'a' ,\"b c\"' ,, ) z(1) > 0"
    let c : Call := ⟨"x (y) ".toList, "é_1".toList, " 'a' ,\"b c\"' ,, ".toList, " z(1) > 0".toList⟩
    Call.First (trimChars rule.toList) c ∧ c.arguments = ["a", "b c", "", ""] ∧
      c.arguments.length = c.inside.count ',' + 1 ∧
      (∃ p, ParsedRule.parse rule = .ok p ∧ p.function = "é_1" ∧ p.arguments = c.arguments) ∧
      ParsedRule.parse "x (y) > 0" = .error (.invalidFunctionSyntax "x (y) > 0") := by
  intro rule c
  obtain ⟨-, found, arguments, parsed, -⟩ := call_extracted rule
  have called : Call.find? (trimChars rule.toList) = some c := by decide +kernel
  have compared : Comparison.find? (trimChars rule.toList) =
      some ⟨"x (y) é_1( 'a' ,\"b c\"' ,, ) z(1) ".toList, ['>'], [' '], ['0']⟩ := by decide +kernel
  have first := (found c).mp called
  have read := ParsedRule.parse_eq_ok.mpr ⟨c, _, called, compared, rfl⟩
  obtain ⟨d, first', named, args⟩ := parsed _ read
  cases first'.unique first
  refine ⟨first, by decide +kernel, (arguments c first).2, ⟨_, read, named, args⟩, ?_⟩
  exact ((call_extracted "x (y) > 0").2.2.2.2 _).mpr
    ⟨rfl, fun h => absurd (Call.isSome_find?_iff.mpr h) (by decide +kernel)⟩

end TextRules
