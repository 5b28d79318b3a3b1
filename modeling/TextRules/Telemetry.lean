import TextRules.Classification

/-!
Telemetry: what the server counts. The counters are 64 bit words that wrap around. Beside them stand the series
    for a collector of metrics, each of which shows once it was first touched.
-/

namespace TextRules

/-- The counters of a server. -/
structure Telemetry where
  sessionsOpened : UInt64 := 0
  sessionsRejected : UInt64 := 0
  sessionsClosed : UInt64 := 0
  messages : UInt64 := 0
  evaluations : UInt64 := 0
  ruleErrors : UInt64 := 0

namespace Telemetry

/-- A session became active. -/
def sessionOpened (t : Telemetry) : Telemetry := { t with sessionsOpened := t.sessionsOpened + 1 }

/-- A session could not fetch its rules. -/
def sessionRejected (t : Telemetry) : Telemetry := { t with sessionsRejected := t.sessionsRejected + 1 }

/-- A session that was active ended. -/
def sessionClosed (t : Telemetry) : Telemetry := { t with sessionsClosed := t.sessionsClosed + 1 }

/-- Rules were evaluated and some of them failed. -/
def evaluated (t : Telemetry) (evaluations errors : UInt64) : Telemetry :=
  { t with evaluations := t.evaluations + evaluations, ruleErrors := t.ruleErrors + errors }

/-- A message was classified, which took some evaluations of which some failed. -/
def messageClassified (t : Telemetry) (evaluations errors : UInt64) : Telemetry :=
  { t with messages := t.messages + 1 }.evaluated evaluations errors

/-- The number of sessions that are running: those opened less those closed. -/
def activeSessions (t : Telemetry) : Nat := t.sessionsOpened.toNat - t.sessionsClosed.toNat

/-- The share of evaluations that failed. -/
def errorRate (t : Telemetry) : Number :=
  if t.evaluations = 0 then Number.zero
  else (Number.ofNat t.ruleErrors.toNat).div (Number.ofNat t.evaluations.toNat)

end Telemetry

/-! ### Series for a collector -/

/-- The series of metrics: sessions that became active, messages classified, and rules that failed in them. -/
structure Exposition where
  sessions : Nat := 0
  messages : Nat := 0
  ruleErrors : Nat := 0

/-- One series in the text format. -/
structure Series where
  name : String
  /-- The kind of series that the text format announces. -/
  kind : String
  help : String
  /-- The line with the value. -/
  sample : String

namespace Exposition

/-- A session became active. -/
def sessionOpened (x : Exposition) : Exposition := { x with sessions := x.sessions + 1 }

/-- A message was classified. -/
def messageClassified (x : Exposition) (c : Classification) : Exposition :=
  { x with messages := x.messages + 1, ruleErrors := x.ruleErrors + c.errorCount }

/-- A counter, if it was touched. -/
def counter? (name help : String) (n : Nat) : Option Series :=
  if n = 0 then none else some ⟨name, "counter", help, name ++ " " ++ toString n⟩

/-- The summary of latencies, of which only the number of samples is determined. -/
def summary? (name help : String) (n : Nat) : Option Series :=
  if n = 0 then none else some ⟨name, "summary", help, name ++ "_count " ++ toString n⟩

/-- The series touched so far, by name. -/
def series (x : Exposition) : List Series :=
  [summary? "rulestream_classification_latency_us"
      "Time to classify one message against a session's rule set" x.messages,
    counter? "rulestream_messages_total" "Total number of messages classified" x.messages,
    counter? "rulestream_rule_errors_total" "Total number of rule evaluations that failed" x.ruleErrors,
    counter? "rulestream_sessions_total" "Total number of classification sessions that became active"
      x.sessions].reduceOption

/-- The determined lines of the text format in the order of their characters, with or without the lines that
    explain the series. -/
def lines (x : Exposition) (explained : Bool) : List String :=
  (if explained then x.series.map fun s => "# HELP " ++ s.name ++ " " ++ s.help else []) ++
    (x.series.map fun s => "# TYPE " ++ s.name ++ " " ++ s.kind) ++ x.series.map (·.sample)

end Exposition
end TextRules
