import Mathlib.Algebra.Order.BigOperators.Group.List
import Mathlib.Algebra.Order.Ring.Nat
import Mathlib.Tactic.Ring
import TextRules.Rule.Compiled
import TextRules.Session.Basic
import TextRules.Telemetry

/-!
The journal of a server: which sessions became active, which messages were classified by which rules, which sessions
    ended with which totals, and which rules were evaluated by request. The counters are the lengths and sums that
    the journal gives, up to the size of a word (`Journal.Counted`), and what the journal says of messages agrees
    with the totals of the sessions, those that have ended and those that are still running (`Journal.Balanced`).
-/

namespace TextRules

/-- What is noted at a server. -/
inductive Entry where
  | opened
  | classified (rules : List String) (message : String)
  | ended (totals : SessionSummary)
  | evaluated (rule subject : String)

namespace Entry

/-- Whether a session became active. -/
@[simp] def isOpening : Entry → Bool
  | opened => true
  | classified .. | ended _ | evaluated .. => false

/-- A message, with the rules by which it was classified. -/
@[simp] def message? : Entry → Option (List String × String)
  | classified rules message => some (rules, message)
  | opened | ended _ | evaluated .. => none

/-- What a session that has ended has counted. -/
@[simp] def totals? : Entry → Option SessionSummary
  | ended totals => some totals
  | opened | classified .. | evaluated .. => none

/-- A rule that was evaluated by request, and the text that it was evaluated on. -/
@[simp] def request? : Entry → Option (String × String)
  | evaluated rule subject => some (rule, subject)
  | opened | classified .. | ended _ => none

end Entry

/-- The counters after what is noted. -/
def Telemetry.post (t : Telemetry) : Entry → Telemetry
  | .opened => t.sessionOpened
  | .classified rules message =>
    t.messageClassified (.ofNat (classify rules message).size) (.ofNat (classify rules message).errorCount)
  | .ended _ => t.sessionClosed
  | .evaluated rule subject => t.evaluated 1 (if (evaluate rule subject).isOk then 0 else 1)

/-- What is noted at a server, in order. -/
abbrev Journal := List Entry

namespace Journal
variable {j : Journal} {t : Telemetry} {e : Entry} {running running' : List SessionSummary}

/-- How many sessions became active. -/
def openings (j : Journal) : Nat := j.countP Entry.isOpening

/-- The messages that were classified, each with the rules for it. -/
def messages (j : Journal) : List (List String × String) := j.filterMap Entry.message?

/-- What the sessions that have ended have counted. -/
def totals (j : Journal) : List SessionSummary := j.filterMap Entry.totals?

/-- The rules evaluated by request, each with its text. -/
def requests (j : Journal) : List (String × String) := j.filterMap Entry.request?

/-- How many rules were evaluated on the messages, those by request aside. -/
def evaluations (j : Journal) : Nat := (j.messages.map fun m => m.1.length).sum

/-- How many of the evaluations on messages failed. -/
def failures (j : Journal) : Nat := (j.messages.map fun m => (classify m.1 m.2).errorCount).sum

/-- How many of the evaluations by request failed. -/
def failedRequests (j : Journal) : Nat := j.requests.countP fun r => !(evaluate r.1 r.2).isOk

@[simp] theorem openings_singleton (e : Entry) : openings [e] = if e.isOpening then 1 else 0 := by cases e <;> rfl

@[simp] theorem messages_singleton (e : Entry) : messages [e] = e.message?.toList := by cases e <;> rfl

@[simp] theorem totals_singleton (e : Entry) : totals [e] = e.totals?.toList := by cases e <;> rfl

@[simp] theorem requests_singleton (e : Entry) : requests [e] = e.request?.toList := by cases e <;> rfl

@[simp] theorem evaluations_singleton (e : Entry) : evaluations [e] = e.message?.elim 0 fun m => m.1.length := by
  cases e <;> simp [evaluations]

@[simp] theorem failures_singleton (e : Entry) :
    failures [e] = e.message?.elim 0 fun m => (classify m.1 m.2).errorCount := by cases e <;> simp [failures]

@[simp] theorem failedRequests_singleton (e : Entry) :
    failedRequests [e] = e.request?.elim 0 fun r => if (evaluate r.1 r.2).isOk then 0 else 1 := by
  cases e with
  | evaluated rule subject => cases h : evaluate rule subject <;> simp [failedRequests, h, Except.isOk, Except.toBool]
  | _ => rfl

@[simp] theorem openings_append (j k : Journal) : openings (j ++ k) = j.openings + openings k := List.countP_append

@[simp] theorem messages_append (j k : Journal) : messages (j ++ k) = j.messages ++ messages k := List.filterMap_append

@[simp] theorem totals_append (j k : Journal) : totals (j ++ k) = j.totals ++ totals k := List.filterMap_append

@[simp] theorem requests_append (j k : Journal) : requests (j ++ k) = j.requests ++ requests k := List.filterMap_append

@[simp] theorem evaluations_append (j k : Journal) : evaluations (j ++ k) = j.evaluations + evaluations k := by
  simp [evaluations]

@[simp] theorem failures_append (j k : Journal) : failures (j ++ k) = j.failures + failures k := by simp [failures]

@[simp] theorem failedRequests_append (j k : Journal) :
    failedRequests (j ++ k) = j.failedRequests + failedRequests k := by simp [failedRequests]

theorem failures_le (j : Journal) : j.failures ≤ j.evaluations := by
  refine List.sum_le_sum fun m _ => ?_
  have slots : (classify m.1 m.2).outcomes.length = m.1.length := List.length_map _
  exact slots ▸ List.countP_le_length

/-! ### Counters -/

/-- Counters that count what a journal notes. -/
structure Counted (j : Journal) (t : Telemetry) : Prop where
  opened : t.sessionsOpened = .ofNat j.openings
  rejected : t.sessionsRejected = 0
  closed : t.sessionsClosed = .ofNat j.totals.length
  messages : t.messages = .ofNat j.messages.length
  evaluations : t.evaluations = .ofNat (j.evaluations + j.requests.length)
  ruleErrors : t.ruleErrors = .ofNat (j.failures + j.failedRequests)

theorem counted_nil : Counted [] {} := ⟨rfl, rfl, rfl, rfl, rfl, rfl⟩

/-- An entry adds to the counters what it adds to the journal. -/
theorem post_eq (t : Telemetry) (e : Entry) : t.post e =
    { sessionsOpened := t.sessionsOpened + .ofNat (openings [e])
      sessionsRejected := t.sessionsRejected
      sessionsClosed := t.sessionsClosed + .ofNat (totals [e]).length
      messages := t.messages + .ofNat (messages [e]).length
      evaluations := t.evaluations + .ofNat (evaluations [e] + (requests [e]).length)
      ruleErrors := t.ruleErrors + .ofNat (failures [e] + failedRequests [e]) } := by
  cases e with
  | opened => simp [Telemetry.post, Telemetry.sessionOpened]
  | classified rules message =>
    simp [Telemetry.post, Telemetry.messageClassified, Telemetry.evaluated, classify, Classification.size]
  | ended totals => simp [Telemetry.post, Telemetry.sessionClosed]
  | evaluated rule subject =>
    simp only [Telemetry.post, Telemetry.evaluated]
    split <;> simp [*]

theorem add_ofNat {n : UInt64} {counted added total : Nat} (before : n = .ofNat counted)
    (sum : total = counted + added) : n + .ofNat added = .ofNat total := by
  rw [before, sum, UInt64.ofNat_add]

theorem Counted.post (counted : Counted j t) (e : Entry) : Counted (j ++ [e]) (t.post e) := by
  obtain ⟨opened, rejected, closed, messages, evaluations, ruleErrors⟩ := counted
  rw [post_eq]
  constructor
  · exact add_ofNat opened (openings_append j [e])
  · exact rejected
  · exact add_ofNat closed (by rw [totals_append, List.length_append])
  · exact add_ofNat messages (by rw [messages_append, List.length_append])
  · refine add_ofNat evaluations ?_
    rw [evaluations_append, requests_append, List.length_append, Nat.add_add_add_comm]
  · refine add_ofNat ruleErrors ?_
    rw [failures_append, failedRequests_append, Nat.add_add_add_comm]

/-! ### Totals of sessions -/

/-- A total that words of 64 bits count up to whole turns. -/
def Turned (total counted : Nat) : Prop := ∃ turns, total = counted + 2 ^ 64 * turns

theorem Turned.eq {total counted : Nat} (turned : Turned total counted) (small : total < 2 ^ 64) :
    total = counted := by
  obtain ⟨turns, rfl⟩ := turned
  omega

theorem Turned.add_word {total before after : Nat} {n : UInt64} {weight : Nat}
    (turned : Turned total (before + (weight * n.toNat + after))) (added : Nat) :
    Turned (total + weight * added) (before + (weight * (n + .ofNat added).toNat + after)) := by
  obtain ⟨turns, rfl⟩ := turned
  have word : n.toNat + added = (n + .ofNat added).toNat + 2 ^ 64 * ((n.toNat + added) / 2 ^ 64) := by
    rw [UInt64.toNat_add, UInt64.toNat_ofNat', Nat.add_mod_mod, Nat.mod_add_div]
  refine ⟨turns + weight * ((n.toNat + added) / 2 ^ 64), ?_⟩
  calc before + (weight * n.toNat + after) + 2 ^ 64 * turns + weight * added
      = before + (weight * (n.toNat + added) + after) + 2 ^ 64 * turns := by ring
    _ = before + (weight * ((n + .ofNat added).toNat + 2 ^ 64 * ((n.toNat + added) / 2 ^ 64)) + after) +
          2 ^ 64 * turns := by rw [← word]
    _ = before + (weight * (n + .ofNat added).toNat + after) +
          2 ^ 64 * (turns + weight * ((n.toNat + added) / 2 ^ 64)) := by ring

/-- A journal in which the messages, and what came of them, are those of the sessions, each of which counts in
    words. -/
structure Balanced (j : Journal) (running : List SessionSummary) : Prop where
  sessions : j.openings = (j.totals ++ running).length
  messages : Turned j.messages.length ((j.totals ++ running).map (·.messages.toNat)).sum
  evaluations : Turned j.evaluations ((j.totals ++ running).map fun x => x.rules * x.messages.toNat).sum
  failures : Turned j.failures ((j.totals ++ running).map (·.ruleErrors.toNat)).sum

/-- What an entry says of the sessions that are running. -/
inductive Posted : Entry → List SessionSummary → List SessionSummary → Prop
  | opened (rules : Nat) (others : List SessionSummary) : Posted .opened others (⟨rules, 0, 0⟩ :: others)
  | classified (rules : List String) (message : String) (messages failures : UInt64) (others : List SessionSummary) :
    Posted (.classified rules message) (⟨rules.length, messages, failures⟩ :: others)
      (⟨rules.length, messages + 1, failures + .ofNat (classify rules message).errorCount⟩ :: others)
  | ended (totals : SessionSummary) (others : List SessionSummary) : Posted (.ended totals) (totals :: others) others
  | evaluated (rule subject : String) (others : List SessionSummary) : Posted (.evaluated rule subject) others others

theorem balanced_nil : Balanced [] [] := ⟨rfl, ⟨0, rfl⟩, ⟨0, rfl⟩, ⟨0, rfl⟩⟩

theorem Balanced.perm (balanced : Balanced j running) (same : running.Perm running') : Balanced j running' := by
  have all := same.append_left j.totals
  obtain ⟨sessions, messages, evaluations, failures⟩ := balanced
  refine ⟨sessions.trans all.length_eq, ?_, ?_, ?_⟩
  · rwa [← (all.map _).sum_eq]
  · rwa [← (all.map _).sum_eq]
  · rwa [← (all.map _).sum_eq]

theorem Balanced.post (balanced : Balanced j running) (posted : Posted e running running') :
    Balanced (j ++ [e]) running' := by
  obtain ⟨sessions, messages, evaluations, failures⟩ := balanced
  simp only [List.map_append, List.sum_append] at messages evaluations failures
  cases posted with
  | opened rules =>
    constructor
    case sessions =>
      simp [*]
      omega
    all_goals simpa
  | classified rules message before failed others =>
    simp only [List.map_cons, List.sum_cons] at messages evaluations failures
    constructor
    case sessions => simp [*]
    case messages =>
      rw [← Nat.one_mul before.toNat] at messages
      simpa using messages.add_word 1
    case evaluations => simpa using evaluations.add_word 1
    case failures =>
      rw [← Nat.one_mul failed.toNat] at failures
      simpa using failures.add_word (classify rules message).errorCount
  | ended totals =>
    simp only [List.map_cons, List.sum_cons] at messages evaluations failures
    constructor
    case sessions => simp [*]
    all_goals simpa
  | evaluated rule subject =>
    constructor
    case sessions => simp [*]
    all_goals simpa

/-! ### Books -/

/-- The counters and the running sessions of a server, kept by its journal. -/
structure Books (j : Journal) (running : List SessionSummary) (t : Telemetry) : Prop where
  counted : Counted j t
  balanced : Balanced j running

theorem Books.perm (books : Books j running t) (same : running.Perm running') : Books j running' t :=
  ⟨books.counted, books.balanced.perm same⟩

theorem Books.post (books : Books j running t) (posted : Posted e running running') :
    Books (j ++ [e]) running' (t.post e) :=
  ⟨books.counted.post e, books.balanced.post posted⟩

end Journal
end TextRules
