import TextRules.Proofs.Run

/-!
The life of a session. It goes through at most five phases (`Phase`): it waits, and then either it is closed, before
    or because its one fetch of the rules failed, or it serves the rules of that fetch and is closed later. What it
    fetched says everything about its rules, and since a rule fails on every message or on none, its messages say
    everything about its errors.
-/

namespace TextRules

/-- What a source of rules answers when it is asked. -/
abbrev Fetched := Except ServiceError (List String)

/-- An operation on a session. An activation comes with what the source would answer just then. -/
inductive SessionOperation where
  | activate (answer : Fetched)
  | classify (message : String)
  | close
  | run (room : Option Nat) (inputs : List SessionInput)

/-- How far a session may come by one operation. -/
inductive SessionState.Moves : SessionState → SessionState → Prop
  | stays (state : SessionState) : Moves state state
  | activates : Moves .connecting .active
  | givesUp : Moves .connecting .closed
  | ends : Moves .active .closed

/-- The number of rules that do not compile. -/
def malformedCount (rules : List String) : Nat := (rules.filter fun rule => ¬Compiles rule).length

namespace Session
variable {s : Session}

/-! ### Operations -/

/-- The session after an operation. -/
def after (s : Session) : SessionOperation → Session
  | .activate answer => (s.activate ⟨answer, 0⟩).2.1
  | .classify message => (s.classify message).2
  | .close => s.close
  | .run room inputs => (s.run room inputs).2.session

/-- The answers that an operation gets from a source, one for each time it asks. -/
def fetched (s : Session) : SessionOperation → List Fetched
  | .activate answer => List.replicate (s.activate ⟨answer, 0⟩).2.2.fetches answer
  | .classify _ | .close | .run .. => []

/-- The session after some operations. -/
def afterAll (s : Session) (ops : List SessionOperation) : Session := ops.foldl after s

/-- The answers that some operations get. -/
def fetchedByAll (s : Session) : List SessionOperation → List Fetched
  | [] => []
  | op :: ops => s.fetched op ++ (s.after op).fetchedByAll ops

theorem fetchedByAll_append (s : Session) (ops later : List SessionOperation) :
    s.fetchedByAll (ops ++ later) = s.fetchedByAll ops ++ (s.afterAll ops).fetchedByAll later := by
  induction ops generalizing s with
  | nil => rfl
  | cons op ops ih =>
    rw [List.cons_append, fetchedByAll, fetchedByAll, ih, List.append_assoc]
    rfl

/-! ### Asking the source -/

theorem activate_source (s : Session) (p : Provider) : (s.activate p).2.2 =
    { p with fetches := p.fetches + if s.state = .connecting then 1 else 0 } := by
  obtain ⟨answer, fetches⟩ := p
  unfold activate
  cases s.state with
  | connecting => cases answer <;> rfl
  | active => rfl
  | closed => rfl

theorem activate_ok (connecting : s.state = .connecting) (rules : List String) (n : Nat) :
    s.activate ⟨.ok rules, n⟩ = (.ok (), { s with state := .active, rules := rules }, ⟨.ok rules, n + 1⟩) := by
  simp [activate, connecting, Provider.fetch]

theorem activate_error (connecting : s.state = .connecting) (e : ServiceError) (n : Nat) :
    s.activate ⟨.error e, n⟩ = (.error e.asUnavailable, { s with state := .closed }, ⟨.error e, n + 1⟩) := by
  simp [activate, connecting, Provider.fetch]

theorem activate_active (active : s.state = .active) (p : Provider) : s.activate p = (.ok (), s, p) := by
  simp [activate, active]

theorem activate_closed (closed : s.state = .closed) (p : Provider) :
    s.activate p = (.error .sessionClosed, s, p) := by
  simp [activate, closed]

theorem classify_not_active (idle : s.state ≠ .active) (message : String) :
    s.classify message = (.error .sessionClosed, s) := if_neg idle

end Session

theorem ServiceError.asUnavailable_of_ne {e : ServiceError} (other : ∀ detail, e ≠ .ruleSetUnavailable detail) :
    e.asUnavailable = .ruleSetUnavailable e.message := by
  cases e with
  | ruleSetUnavailable detail => exact absurd rfl (other detail)
  | _ => rfl

/-! ### Phases -/

namespace Session
variable {s : Session} {answers : List Fetched}

/-- What a session looks like that has got these answers. -/
inductive Phase : Session → List Fetched → Prop
  | waiting : Phase ⟨.connecting, [], 0, 0⟩ []
  | abandoned : Phase ⟨.closed, [], 0, 0⟩ []
  | refused (e : ServiceError) : Phase ⟨.closed, [], 0, 0⟩ [.error e]
  | serving (rules : List String) (messages : UInt64) :
    Phase ⟨.active, rules, messages, messages * .ofNat (malformedCount rules)⟩ [.ok rules]
  | served (rules : List String) (messages : UInt64) :
    Phase ⟨.closed, rules, messages, messages * .ofNat (malformedCount rules)⟩ [.ok rules]

/-- Each message adds the malformed rules to the errors, whatever it says. -/
theorem counting_classify (s : Session) (messages : List String)
    (counted : s.ruleErrors = s.messages * .ofNat (malformedCount s.rules)) :
    s.counting (messages.map (TextRules.classify s.rules)) =
      ⟨s.state, s.rules, s.messages + .ofNat messages.length,
        (s.messages + .ofNat messages.length) * .ofNat (malformedCount s.rules)⟩ := by
  have errors : (messages.map fun message => (TextRules.classify s.rules message).errorCount).sum =
      messages.length * malformedCount s.rules := by
    simp only [errorCount_classify]
    exact (congrArg List.sum List.map_const').trans List.sum_replicate_nat
  simp only [counting, List.map_map, Function.comp_def, errors, List.length_map, counted, UInt64.ofNat_mul,
    UInt64.add_mul]

theorem Phase.after (phase : Phase s answers) (op : SessionOperation) :
    Phase (s.after op) (answers ++ s.fetched op) := by
  cases phase with
  | waiting =>
    cases op with
    | activate answer =>
      cases answer with
      | ok rules =>
        have serves := Phase.serving rules 0
        rw [UInt64.zero_mul] at serves
        exact serves
      | error e => exact .refused e
    | classify message => exact .waiting
    | close => exact .abandoned
    | run room inputs => exact .waiting
  | abandoned => cases op <;> exact .abandoned
  | refused e => cases op <;> exact .refused e
  | serving rules messages =>
    cases op with
    | activate answer => exact .serving rules messages
    | classify message =>
      simp only [after, fetched, List.append_nil]
      rw [classify_active rfl, ← List.map_singleton, counting_classify _ _ rfl]
      exact .serving rules (messages + 1)
    | close => exact .served rules messages
    | run room inputs =>
      simp only [after, fetched, List.append_nil]
      rw [run_active rfl, results, counting_classify _ _ rfl]
      exact .served rules _
  | served rules messages => cases op <;> exact .served rules messages

theorem Phase.afterAll (phase : Phase s answers) (ops : List SessionOperation) :
    Phase (s.afterAll ops) (answers ++ s.fetchedByAll ops) := by
  induction ops generalizing s answers with
  | nil =>
    rw [fetchedByAll, List.append_nil]
    exact phase
  | cons op ops ih =>
    rw [fetchedByAll, ← List.append_assoc]
    exact ih (phase.after op)

theorem phase_new (ops : List SessionOperation) : Phase (new.afterAll ops) (new.fetchedByAll ops) :=
  Phase.waiting.afterAll ops

theorem Phase.length_le (phase : Phase s answers) : answers.length ≤ 1 := by cases phase <;> simp

theorem Phase.ruleErrors_eq (phase : Phase s answers) :
    s.ruleErrors = s.messages * .ofNat (malformedCount s.rules) := by
  cases phase with
  | serving rules messages | served rules messages => rfl
  | _ => exact UInt64.zero_mul.symm

theorem toNat_mul_ofNat {n : UInt64} {k : Nat} (small : n.toNat * k < 2 ^ 64) :
    (n * .ofNat k).toNat = n.toNat * k := by
  rw [UInt64.toNat_mul, UInt64.toNat_ofNat', Nat.mul_mod_mod, Nat.mod_eq_of_lt small]

theorem Phase.of_active (phase : Phase s answers) (active : s.state = .active) : answers = [.ok s.rules] := by
  cases phase with
  | serving rules messages => rfl
  | _ => cases active

theorem Phase.of_fetched (phase : Phase s answers) {rules : List String} (fetched : .ok rules ∈ answers) :
    answers = [.ok s.rules] := by
  cases phase with
  | serving rules messages | served rules messages => rfl
  | refused e => cases List.mem_singleton.mp fetched
  | _ => cases fetched

theorem Phase.of_not_fetched (phase : Phase s answers) (unserved : ∀ rules, .ok rules ∉ answers) :
    s.rules = [] ∧ s.messages = 0 ∧ s.ruleErrors = 0 := by
  cases phase with
  | serving rules messages | served rules messages => exact absurd List.mem_cons_self (unserved rules)
  | _ => exact ⟨rfl, rfl, rfl⟩

/-- Rules that were fetched have been served. -/
theorem exists_active_of_fetched {rules : List String} {ops : List SessionOperation}
    (fetched : .ok rules ∈ s.fetchedByAll ops) : ∃ earlier, earlier <+: ops ∧ (s.afterAll earlier).state = .active := by
  induction ops generalizing s with
  | nil => cases fetched
  | cons op ops ih =>
    rcases List.mem_append.mp fetched with first | later
    · refine ⟨[op], ⟨ops, rfl⟩, ?_⟩
      cases op with
      | activate answer =>
        obtain ⟨asked, rfl⟩ := List.mem_replicate.mp first
        have connecting : s.state = .connecting := by
          by_contra other
          rw [activate_source, if_neg other] at asked
          exact asked rfl
        show (s.activate ⟨.ok rules, 0⟩).2.1.state = .active
        rw [activate_ok connecting]
      | _ => cases first
    · obtain ⟨earlier, ⟨rest, rfl⟩, active⟩ := ih later
      exact ⟨op :: earlier, ⟨rest, rfl⟩, active⟩

/-! ### The whole life -/

theorem moves_after (s : Session) (op : SessionOperation) : s.state.Moves (s.after op).state := by
  cases op with
  | activate answer =>
    cases state : s.state with
    | connecting =>
      cases answer with
      | ok rules => simpa only [after, activate_ok state] using .activates
      | error e => simpa only [after, activate_error state] using .givesUp
    | active => simpa only [after, activate_active state, state] using .stays _
    | closed => simpa only [after, activate_closed state, state] using .stays _
  | classify message =>
    by_cases active : s.state = .active
    · simpa only [after, classify_active active] using .stays _
    · simpa only [after, classify_not_active active] using .stays _
  | close =>
    show s.state.Moves .closed
    cases s.state with
    | connecting => exact .givesUp
    | active => exact .ends
    | closed => exact .stays _
  | run room inputs =>
    by_cases active : s.state = .active
    · simpa only [after, run_active active, active] using .ends
    · simpa only [after, run_not_active active] using .stays _

/-- What holds of a session that some operations have brought about. -/
structure Lifecycle (ops : List SessionOperation) (s : Session) : Prop where
  moves : ∀ op, s.state.Moves (s.after op).state
  /-- The source is asked by an activation of a connecting session, and at no other time. -/
  asks : ∀ p : Provider, (s.activate p).2.2 = { p with fetches := p.fetches + if s.state = .connecting then 1 else 0 }
  asksOnce : (new.fetchedByAll ops).length ≤ 1
  untilActive : (∀ earlier, earlier <+: ops → (new.afterAll earlier).state ≠ .active) →
    s.rules = [] ∧ s.messages = 0 ∧ s.ruleErrors = 0
  onceActive : ∀ earlier, earlier <+: ops → (new.afterAll earlier).state = .active →
    new.fetchedByAll ops = [.ok s.rules]
  activates : s.state = .connecting → ∀ rules n, (s.activate ⟨.ok rules, n⟩).1 = .ok () ∧
    (s.activate ⟨.ok rules, n⟩).2.1 = { s with state := .active, rules := rules }
  /-- A failure that says that the rules are unavailable is passed on, and any other one is worded so. -/
  fails : s.state = .connecting → ∀ e n, (s.activate ⟨.error e, n⟩).2.1 = { s with state := .closed } ∧
    ∃ reported, (s.activate ⟨.error e, n⟩).1 = .error reported ∧
      ((∃ detail, e = .ruleSetUnavailable detail) → reported = e) ∧
      ((∀ detail, e ≠ .ruleSetUnavailable detail) → reported = .ruleSetUnavailable e.message)
  closed : s.state = .closed → ∀ p, s.activate p = (.error .sessionClosed, s, p)
  notActive : s.state ≠ .active → ∀ message, s.classify message = (.error .sessionClosed, s)
  errors : s.ruleErrors = s.messages * .ofNat (malformedCount s.rules)
  /-- As long as the total is a word, nothing of it is lost. -/
  allErrors : s.messages.toNat * malformedCount s.rules < 2 ^ 64 →
    s.ruleErrors.toNat = s.messages.toNat * malformedCount s.rules

/-- Whatever is done to a new session, its state moves on and never back, it asks for rules once at most and keeps what
    it was given, and its errors are its messages times the rules that do not compile. -/
theorem lifecycle_afterAll (ops : List SessionOperation) : Lifecycle ops (new.afterAll ops) where
  moves := moves_after _
  asks := activate_source _
  asksOnce := (phase_new ops).length_le
  untilActive never := by
    -- Rules are served as soon as they are fetched, so a session that never served has fetched none.
    apply (phase_new ops).of_not_fetched
    intro rules fetched
    obtain ⟨earlier, before, active⟩ := exists_active_of_fetched fetched
    exact never earlier before active
  onceActive := by
    rintro earlier ⟨later, rfl⟩ active
    -- What was fetched by the time it served is still there, and there is never more than one fetch.
    have got := (phase_new earlier).of_active active
    apply (phase_new (earlier ++ later)).of_fetched
    rw [fetchedByAll_append, got]
    exact List.mem_cons_self
  activates connecting rules n := by
    rw [activate_ok connecting]
    exact ⟨rfl, rfl⟩
  fails connecting e n := by
    rw [activate_error connecting]
    refine ⟨rfl, e.asUnavailable, rfl, ?_, ServiceError.asUnavailable_of_ne⟩
    rintro ⟨detail, rfl⟩
    rfl
  closed := activate_closed
  notActive := classify_not_active
  errors := (phase_new ops).ruleErrors_eq
  allErrors few := (congrArg UInt64.toNat (phase_new ops).ruleErrors_eq).trans (toNat_mul_ofNat few)

/-- A session that is offered rules twice, and closed by a payload that is refused. -/
theorem lifecycle_afterAll_served :
    let rules := ["sum() > 1", "broken"]
    let ops : List SessionOperation := [.classify "x", .activate (.ok rules), .activate (.error .sessionClosed),
      .classify "ab", .run (some 0) [.message "c", .message "d"], .activate (.ok [])]
    let s := new.afterAll ops
    s.state = .closed ∧ new.fetchedByAll ops = [.ok rules] ∧ s.rules = rules ∧ s.messages = 2 ∧ s.ruleErrors = 2 ∧
      s.messages.toNat * malformedCount s.rules < 2 ^ 64 ∧ s.ruleErrors.toNat = 2 ∧
      s.activate ⟨.ok [], 1⟩ = (.error .sessionClosed, s, ⟨.ok [], 1⟩) := by
  intro rules ops s
  have life : Lifecycle ops s := lifecycle_afterAll ops
  have closed : s.state = .closed := rfl
  have kept : s.rules = rules := rfl
  have counted : s.messages = 2 := rfl
  have fetched := life.onceActive (ops.take 2) (List.take_prefix 2 ops) rfl
  have malformed : malformedCount rules = 1 := by decide +kernel
  have few : s.messages.toNat * malformedCount s.rules < 2 ^ 64 := by
    rw [counted, kept, malformed]
    decide
  refine ⟨closed, kept ▸ fetched, kept, counted, ?_, few, ?_, life.closed closed _⟩
  · rw [life.errors, counted, kept, malformed]
    rfl
  · rw [life.allErrors few, counted, kept, malformed]
    rfl

end Session
end TextRules
