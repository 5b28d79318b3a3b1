import Mathlib.Algebra.Order.Ring.Nat
import TextRules.Proofs.Outcomes
import TextRules.Session.Basic

/-!
What a run over a stream of inputs does. An active session hears the messages that arrive before a disconnect, as far
    as the outbound side lets it: with room for `k` payloads it classifies, counts and reports the first `k + 1` of
    them and sends the first `k`. So the message whose payload is refused is counted and not delivered, and whatever
    comes after it is not looked at.
-/

namespace TextRules

/-- The messages that arrive before the client disconnects. -/
def arrived : List SessionInput → List String
  | .message text :: inputs => text :: arrived inputs
  | [] | .disconnect :: _ => []

/-- The front of a list for which there is room. -/
def fitting {α : Type} : Option Nat → List α → List α
  | none, xs => xs
  | some k, xs => xs.take k

/-! ### Inputs that do not matter -/

theorem arrived_append_disconnect (inputs later : List SessionInput) :
    arrived (inputs ++ .disconnect :: later) = arrived inputs := by
  induction inputs with
  | nil => rfl
  | cons input inputs ih =>
    cases input with
    | message text => exact congrArg (text :: ·) ih
    | disconnect => rfl

theorem arrived_prefix_append (inputs later : List SessionInput) : arrived inputs <+: arrived (inputs ++ later) := by
  induction inputs with
  | nil => exact List.nil_prefix
  | cons input inputs ih =>
    cases input with
    | message text => exact (List.prefix_cons_inj text).mpr ih
    | disconnect => exact List.prefix_rfl

theorem fitting_arrived_append {room : Nat} {inputs : List SessionInput} (full : room ≤ (arrived inputs).length)
    (later : List SessionInput) :
    fitting (some room) (arrived (inputs ++ later)) = fitting (some room) (arrived inputs) := by
  obtain ⟨more, same⟩ := arrived_prefix_append inputs later
  rw [← same]
  exact List.take_append_of_le_length full

namespace Session
variable {s : Session}

/-! ### The loop -/

/-- A session that has counted some more classifications. -/
def counting (s : Session) (results : List Classification) : Session :=
  { s with
    messages := s.messages + .ofNat results.length
    ruleErrors := s.ruleErrors + .ofNat (results.map Classification.errorCount).sum }

theorem counting_nil (s : Session) : s.counting [] = s := by simp [counting]

theorem counting_counting (s : Session) (first second : List Classification) :
    (s.counting first).counting second = s.counting (first ++ second) := by
  simp [counting, UInt64.add_assoc]

theorem classify_active (active : s.state = .active) (message : String) :
    s.classify message = (.ok (TextRules.classify s.rules message), s.counting [TextRules.classify s.rules message]) := by
  rw [classify, if_pos active]
  rfl

/-- What a session classifies of the inputs, with room for some payloads: the messages that fit, and the one whose
    payload is refused. -/
def results (s : Session) (room : Option Nat) (inputs : List SessionInput) : List Classification :=
  (fitting (room.map (· + 1)) (arrived inputs)).map (TextRules.classify s.rules)

/-- The payloads of the messages that fit. -/
def payloads (s : Session) (room : Option Nat) (inputs : List SessionInput) : List String :=
  (fitting room (arrived inputs)).map fun message => (TextRules.classify s.rules message).payload

theorem drive_eq (active : s.state = .active) (room : Option Nat) (inputs : List SessionInput) :
    s.drive room inputs = (.ok (), ⟨s.counting (s.results room inputs), s.payloads room inputs, s.results room inputs⟩) := by
  -- Each message leaves another session and less room for the rest.
  induction inputs generalizing s room with
  | nil => cases room <;> simp [drive, results, payloads, fitting, arrived, counting_nil]
  | cons input inputs ih =>
    cases input with
    | disconnect => cases room <;> simp [drive, results, payloads, fitting, arrived, counting_nil]
    | message text =>
      have rest := @ih (s.counting [TextRules.classify s.rules text]) active
      rw [drive, classify_active active]
      cases room with
      | none =>
        simp only [rest, counting_counting]
        rfl
      | some k =>
        cases k with
        | zero => rfl
        | succ k =>
          simp only [Option.map_some, Nat.add_sub_cancel, rest, counting_counting]
          rfl

/-! ### The run -/

theorem run_active (active : s.state = .active) (room : Option Nat) (inputs : List SessionInput) :
    s.run room inputs = (.ok (s.counting (s.results room inputs)).summary,
      ⟨(s.counting (s.results room inputs)).close, s.payloads room inputs, s.results room inputs⟩) := by
  rw [run, if_pos active, drive_eq active]
  rfl

theorem run_not_active (idle : s.state ≠ .active) (room : Option Nat) (inputs : List SessionInput) :
    s.run room inputs = (.error .sessionClosed, ⟨s, [], []⟩) := if_neg idle

/-- A run looks at its inputs only as far as they decide what it classifies and what it sends. -/
theorem run_congr {room : Option Nat} {inputs inputs' : List SessionInput}
    (heard : fitting (room.map (· + 1)) (arrived inputs) = fitting (room.map (· + 1)) (arrived inputs'))
    (taken : fitting room (arrived inputs) = fitting room (arrived inputs')) :
    s.run room inputs = s.run room inputs' := by
  by_cases active : s.state = .active
  · rw [run_active active, run_active active, results, payloads, heard, taken]
    rfl
  · rw [run_not_active active, run_not_active active]

theorem mem_fitting {α : Type} {room : Option Nat} {xs : List α} {x : α} (h : x ∈ fitting room xs) : x ∈ xs := by
  cases room with
  | none => exact h
  | some k => exact List.mem_of_mem_take h

theorem mem_arrived {inputs : List SessionInput} {message : String} (h : message ∈ arrived inputs) :
    .message message ∈ inputs := by
  induction inputs with
  | nil => cases h
  | cons input inputs ih =>
    cases input with
    | disconnect => cases h
    | message text =>
      rcases List.mem_cons.mp h with rfl | h
      · exact List.mem_cons_self
      · exact List.mem_cons_of_mem _ (ih h)

theorem mem_observed_run {rules : List String} (on : s.On rules) (room : Option Nat) (inputs : List SessionInput) :
    ∀ result ∈ (s.run room inputs).2.observed,
      ∃ message, .message message ∈ inputs ∧ result = TextRules.classify rules message := by
  intro result observed
  rw [run_active on.active, results, List.mem_map] at observed
  obtain ⟨message, fits, rfl⟩ := observed
  exact ⟨message, mem_arrived (mem_fitting fits), by rw [on.took]⟩

theorem toNat_add_ofNat {n : UInt64} {k : Nat} (small : n.toNat + k < 2 ^ 64) :
    (n + .ofNat k).toNat = n.toNat + k := by
  have word : k < UInt64.size := lt_of_le_of_lt (Nat.le_add_left k n.toNat) small
  rw [UInt64.toNat_add, UInt64.toNat_ofNat_of_lt' word, Nat.mod_eq_of_lt small]

/-- A run of an active session succeeds. With room for `k` payloads it reports the first `k + 1` of the messages that
    arrive before a disconnect, counts just these, and sends the payloads of the first `k`; neither what follows a
    disconnect nor what follows a refused payload makes a difference. As long as a total is a word, the counter grows by
    what is counted. A session that is not active does nothing. -/
theorem run_outcome (s : Session) (room : Option Nat) (inputs : List SessionInput) :
    (s.state = .active →
      let observed := (fitting (room.map (· + 1)) (arrived inputs)).map (TextRules.classify s.rules)
      let errors := (observed.map Classification.errorCount).sum
      ∃ final done, s.run room inputs = (.ok final, done) ∧
        final = ⟨s.rules.length, s.messages + .ofNat observed.length, s.ruleErrors + .ofNat errors⟩ ∧
        (s.messages.toNat + observed.length < 2 ^ 64 → final.messages.toNat = s.messages.toNat + observed.length) ∧
        (s.ruleErrors.toNat + errors < 2 ^ 64 → final.ruleErrors.toNat = s.ruleErrors.toNat + errors) ∧
        done.sent = (fitting room (arrived inputs)).map (fun message => (TextRules.classify s.rules message).payload) ∧
        done.observed = observed ∧ done.session.state = .closed ∧ final = done.session.summary) ∧
    (s.state ≠ .active → s.run room inputs = (.error .sessionClosed, ⟨s, [], []⟩)) ∧
    (∀ later, s.run room (inputs ++ .disconnect :: later) = s.run room inputs) ∧
    ∀ k later, room = some k → k < (arrived inputs).length → s.run room (inputs ++ later) = s.run room inputs := by
  refine ⟨fun active => ?_, fun idle => run_not_active idle room inputs, fun later => ?_, ?_⟩
  · rw [run_active active]
    exact ⟨_, _, rfl, rfl, toNat_add_ofNat, toNat_add_ofNat, rfl, rfl, rfl, rfl⟩
  · apply run_congr <;> rw [arrived_append_disconnect]
  · rintro k later rfl refused
    exact run_congr (fitting_arrived_append refused later) (fitting_arrived_append (Nat.le_of_lt refused) later)

/-- One payload is taken and the next refused, by a session that has counted two messages before. -/
theorem run_outcome_refused :
    let s : Session := ⟨.active, ["sum() > 1", "broken"], 2, 2⟩
    let inputs : List SessionInput := [.message "ab", .message "c", .message "d", .disconnect, .message "e"]
    let observed := ["ab", "c"].map (TextRules.classify s.rules)
    s.state = .active ∧ s.close.state ≠ .active ∧ 1 < (arrived inputs).length ∧
      s.messages.toNat + observed.length < 2 ^ 64 ∧
      s.ruleErrors.toNat + (observed.map Classification.errorCount).sum < 2 ^ 64 ∧
      (∃ final done, s.run (some 1) inputs = (.ok final, done) ∧ final = ⟨2, 4, 4⟩ ∧ final.messages.toNat = 4 ∧
        final.ruleErrors.toNat = 4 ∧
        done.sent = ["[\x7b\"rule\":\"sum() > 1\",\"result\":true\x7d,\x7b\"rule\":\"broken\",\"error\":\"" ++
          "invalid function syntax in rule `broken`\"\x7d]"] ∧
        done.observed = observed ∧ done.session.state = .closed) ∧
      s.run (some 1) (inputs ++ [.message "f"]) = s.run (some 1) inputs ∧
      s.close.run none inputs = (.error .sessionClosed, ⟨s.close, [], []⟩) := by
  intro s inputs observed
  have payload : (TextRules.classify s.rules "ab").payload =
      "[\x7b\"rule\":\"sum() > 1\",\"result\":true\x7d,\x7b\"rule\":\"broken\",\"error\":\"" ++
        "invalid function syntax in rule `broken`\"\x7d]" := by decide +kernel
  have errors : (observed.map Classification.errorCount).sum = 2 := by decide +kernel
  have refused : 1 < (arrived inputs).length := by decide
  have closed : s.close.state ≠ .active := by decide
  have few : s.messages.toNat + observed.length < 2 ^ 64 := by decide
  have few_errors : s.ruleErrors.toNat + (observed.map Classification.errorCount).sum < 2 ^ 64 := by
    rw [errors]
    decide
  obtain ⟨runs, -, -, ends⟩ := run_outcome s (some 1) inputs
  obtain ⟨final, done, ran, counted, messages, failures, sent, reported, state, -⟩ := runs rfl
  refine ⟨rfl, closed, refused, few, few_errors, ⟨final, done, ran, ?_, messages few, ?_, ?_, reported, state⟩,
    ends 1 [.message "f"] rfl refused, (run_outcome s.close none inputs).2.1 closed⟩
  · exact counted.trans (congrArg (fun n => SessionSummary.mk 2 4 (2 + UInt64.ofNat n)) errors)
  · exact (failures few_errors).trans (congrArg (2 + ·) errors)
  · exact sent.trans (congrArg (fun text => [text]) payload)

end Session
end TextRules
