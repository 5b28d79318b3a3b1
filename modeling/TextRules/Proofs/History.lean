import TextRules.Proofs.Lifecycle
import TextRules.Session.Table

/-!
Sessions under names, and what each of them shows. A session's history is what is answered to the actions on it and
    what it then is, until its name is given to another session. Two tables of sessions that hold the same session
    under a name show the same history of it, whatever else happens in one of them, if the source gives the same
    answer when the session asks (`history_alone`).
-/

namespace TextRules

/-! ### One component of a system -/

/-- A component of a system: what is seen of it, which actions are on it, and which put another one in its place. -/
structure Component (τ α β σ : Type) where
  step : τ → α → β × τ
  view : τ → Option σ
  isOn : α → Bool
  replaces : τ → α → Bool

namespace Component
variable {τ α β σ : Type} (c : Component τ α β σ)

/-- The actions on the component, until another one takes its place. -/
def own : τ → List α → List α
  | _, [] => []
  | t, a :: as =>
    if c.isOn a then a :: own (c.step t a).2 as
    else if c.replaces t a then [] else own (c.step t a).2 as

/-- The answers to the actions on the component, each with what is then seen of it, until another one takes its
    place. -/
def history : τ → List α → List (β × Option σ)
  | _, [] => []
  | t, a :: as =>
    let (b, next) := c.step t a
    if c.isOn a then (b, c.view next) :: history next as
    else if c.replaces t a then [] else history next as

/-- Two systems show the same history of a component, the second given only the actions on it, if a relation between
    them is kept by what else happens in the first and makes the actions on the component come out the same. -/
theorem history_eq {R : List α → τ → τ → Prop}
    (other : ∀ {a as t u}, R (a :: as) t u → c.isOn a = false → c.replaces t a = false → R as (c.step t a).2 u)
    (self : ∀ {a as t u}, R (a :: as) t u → c.isOn a = true → (c.step t a).1 = (c.step u a).1 ∧
      c.view (c.step t a).2 = c.view (c.step u a).2 ∧ R as (c.step t a).2 (c.step u a).2)
    {as : List α} {t u : τ} (start : R as t u) : c.history t as = c.history u (c.own t as) := by
  -- Both systems move by an action on the component; by any other action only the first one does.
  induction as generalizing t u with
  | nil => rfl
  | cons a as ih =>
    simp only [history, own]
    by_cases on : c.isOn a = true
    · obtain ⟨answer, view, next⟩ := self start on
      simp only [if_pos on, history, ← answer, ← view, ← ih next]
    · simp only [if_neg on]
      by_cases replaced : c.replaces t a = true
      · simp only [if_pos replaced, history]
      · simp only [if_neg replaced]
        exact ih (other start (Bool.not_eq_true _ ▸ on) (Bool.not_eq_true _ ▸ replaced))

end Component

/-! ### Entries under names -/

theorem lookup_filter_ne {β : Type} (entries : List (String × β)) (id name : String) :
    (entries.filter fun entry => entry.1 != name).lookup id = if id = name then none else entries.lookup id := by
  induction entries with
  | nil => simp
  | cons entry entries ih =>
    obtain ⟨key, value⟩ := entry
    by_cases dropped : key = name
    · simp [dropped, ih, List.lookup_cons]
      grind
    · simp [dropped, ih, List.lookup_cons]
      grind

theorem lookup_put {β : Type} (entries : List (String × β)) (id name : String) (value : β) :
    ((name, value) :: entries.filter fun entry => entry.1 != name).lookup id =
      if id = name then some value else entries.lookup id := by
  rw [List.lookup_cons, lookup_filter_ne]
  grind

theorem filter_ne_of_notMem {β : Type} {entries : List (String × β)} {id : String}
    (gone : id ∉ entries.map Prod.fst) : (entries.filter fun entry => entry.1 != id) = entries := by
  refine List.filter_eq_self.mpr fun entry member => bne_iff_ne.mpr ?_
  rintro rfl
  exact gone (List.mem_map_of_mem member)

theorem notMem_of_lookup_eq_none {β : Type} {entries : List (String × β)} {id : String}
    (gone : entries.lookup id = none) : id ∉ entries.map Prod.fst := by
  intro named
  obtain ⟨entry, member, rfl⟩ := List.mem_map.mp named
  have other := List.lookup_eq_none_iff.mp gone entry member
  exact absurd rfl (bne_iff_ne.mp other)

theorem perm_of_lookup {β : Type} {entries : List (String × β)} (distinct : (entries.map Prod.fst).Nodup)
    {id : String} {value : β} (here : entries.lookup id = some value) :
    entries.Perm ((id, value) :: entries.filter fun entry => entry.1 != id) := by
  induction entries with
  | nil => cases here
  | cons entry entries ih =>
    obtain ⟨key, first⟩ := entry
    obtain ⟨new, distinct⟩ := List.nodup_cons.mp distinct
    by_cases same : key = id
    · subst same
      obtain rfl : first = value := by simpa using here
      rw [List.filter_cons_of_neg (by simp), filter_ne_of_notMem new]
    · rw [List.filter_cons_of_pos (by simpa using same)]
      have later : entries.lookup id = some value := by
        rwa [List.lookup_cons, beq_false_of_ne (Ne.symm same)] at here
      exact ((ih distinct later).cons (key, first)).trans (.swap ..)

theorem nodup_put {β : Type} {entries : List (String × β)} (distinct : (entries.map Prod.fst).Nodup) (id : String)
    (value : β) : (((id, value) :: entries.filter fun entry => entry.1 != id).map Prod.fst).Nodup := by
  rw [List.map_cons, List.nodup_cons]
  refine ⟨?_, distinct.sublist (List.filter_sublist.map _)⟩
  intro named
  obtain ⟨entry, member, same⟩ := List.mem_map.mp named
  exact bne_iff_ne.mp (List.mem_filter.mp member).2 same

/-! ### Sessions of a table -/

namespace SessionAction

/-- Whether an action is on the session under a name. -/
def isOn (id : String) : SessionAction → Bool
  | activate name | classify name _ | rules name | describe name | close name | run name .. => name = id
  | provide _ | fail _ | fetches | new _ | «open» _ => false

end SessionAction

namespace Session

/-- What a session answers to an action on it, and what becomes of it; a run uses it up. -/
def act (s : Session) (p : Provider) : SessionAction → SessionAnswer × Option Session
  | .activate _ => (.ofResult (s.activate p).1, some (s.activate p).2.1)
  | .classify _ message => (match (s.classify message).1 with
      | .ok c => .classified c
      | .error e => .failed e, some (s.classify message).2)
  | .rules _ => (.rules s.rules, some s)
  | .describe _ => (.text (s.describe "ID"), some s)
  | .close _ => (.done, some s.close)
  | .run _ room inputs =>
    let (final, done) := s.run room inputs
    (.ran final done.sent done.observed, none)
  | .provide _ | .fail _ | .fetches | .new _ | .open _ => (.done, some s)

/-- Whether an action makes a session ask its source. -/
def asks (s : Session) : SessionAction → Bool
  | .activate _ => s.state = .connecting
  | _ => false

variable {s s' : Session} {a : SessionAction}

theorem activate_congr {p q : Provider} (same : s.state = .connecting → p.answer = q.answer) :
    (s.activate p).1 = (s.activate q).1 ∧ (s.activate p).2.1 = (s.activate q).2.1 := by
  obtain ⟨answer, fetches⟩ := p
  obtain ⟨answer', fetches'⟩ := q
  cases state : s.state with
  | connecting =>
    obtain rfl : answer = answer' := same state
    cases answer with
    | ok rules => simp only [activate_ok state, and_self]
    | error e => simp only [activate_error state, and_self]
  | active => simp only [activate_active state, and_self]
  | closed => simp only [activate_closed state, and_self]

theorem connecting_of_asks (asks : s.asks a = true) : s.state = .connecting := by
  cases a with
  | activate name => exact of_decide_eq_true asks
  | _ => cases asks

/-- Only a session that asks its source depends on it. -/
theorem act_congr {p q : Provider} (same : s.asks a = true → p.answer = q.answer) : s.act p a = s.act q a := by
  cases a with
  | activate name =>
    obtain ⟨answer, session⟩ := activate_congr fun connecting => same (decide_eq_true connecting)
    rw [act, act, answer, session]
  | _ => rfl

/-- A session asks its source once at most: no action brings it back to where it does. -/
theorem connecting_of_act {p : Provider} (after : (s.act p a).2 = some s') (connecting : s'.state = .connecting) :
    s.state = .connecting ∧ s.asks a = false := by
  cases a with
  | activate name =>
    obtain ⟨answer, fetches⟩ := p
    obtain rfl := Option.some.inj after
    cases state : s.state with
    | connecting => cases answer <;> simp [activate_ok state, activate_error state] at connecting
    | active => simp [activate_active state, state] at connecting
    | closed => simp [activate_closed state, state] at connecting
  | classify name message =>
    obtain rfl := Option.some.inj after
    by_cases active : s.state = .active
    · rw [classify_active active] at connecting
      exact ⟨connecting, rfl⟩
    · rw [classify_not_active active] at connecting
      exact ⟨connecting, rfl⟩
  | close name =>
    obtain rfl := Option.some.inj after
    cases connecting
  | run name room inputs => cases after
  | _ =>
    obtain rfl := Option.some.inj after
    exact ⟨connecting, rfl⟩

end Session

namespace SessionTable
variable {t u : SessionTable} {id : String} {s : Session}

/-- Whether an action puts another session under a name. -/
def replaces (t : SessionTable) (id : String) : SessionAction → Bool
  | .new name => name = id
  | .open name => name = id && t.provider.answer.isOk
  | _ => false

/-- Whether an action makes the session under a name ask the source. -/
def asks (t : SessionTable) (id : String) (a : SessionAction) : Bool := a.isOn id && (t.find? id).any (·.asks a)

/-- The answer that the source gives to the session under a name when it asks, if it does. -/
def given? (id : String) : SessionTable → List SessionAction → Option Fetched
  | _, [] => none
  | t, a :: as =>
    if t.replaces id a then none
    else if t.asks id a then some t.provider.answer
    else given? id (t.step a).2 as

/-- The session under a name, as a component of the table. -/
def component (id : String) : Component SessionTable SessionAction SessionAnswer Session :=
  ⟨step, (find? · id), SessionAction.isOn id, (replaces · id)⟩

@[simp] theorem find?_put (t : SessionTable) (id name : String) (s : Session) :
    (t.put name s).find? id = if id = name then some s else t.find? id := lookup_put t.sessions id name s

@[simp] theorem find?_erase (t : SessionTable) (id name : String) :
    (t.erase name).find? id = if id = name then none else t.find? id := lookup_filter_ne t.sessions id name

@[simp] theorem find?_provider (t : SessionTable) (p : Provider) (id : String) :
    ({ t with provider := p } : SessionTable).find? id = t.find? id := rfl

@[simp] theorem provider_put (t : SessionTable) (name : String) (s : Session) :
    (t.put name s).provider = t.provider := rfl

@[simp] theorem provider_erase (t : SessionTable) (name : String) : (t.erase name).provider = t.provider := rfl

theorem find?_withSession {name : String} {f : Session → SessionAnswer × SessionTable}
    (same : ∀ s, (f s).2.find? id = t.find? id) : (t.withSession name f).2.find? id = t.find? id := by
  unfold withSession
  split
  · exact same _
  · rfl

theorem step_open_ok {rules : List String} (gives : t.provider.answer = .ok rules) (name : String) :
    t.step (.open name) = (.done, { t with provider := t.provider.fetch.2 }.put name ⟨.active, rules, 0, 0⟩) := by
  have opened := Session.activate_ok (s := .new) rfl rules t.provider.fetches
  rw [← gives] at opened
  rw [step, opened]
  rfl

theorem step_open_error {e : ServiceError} (gives : t.provider.answer = .error e) (name : String) :
    t.step (.open name) = (.failed e.asUnavailable, { t with provider := t.provider.fetch.2 }) := by
  have refused := Session.activate_error (s := .new) rfl e t.provider.fetches
  rw [← gives] at refused
  rw [step, refused]
  rfl

theorem find?_step_other {a : SessionAction} (other : a.isOn id = false) (kept : t.replaces id a = false) :
    (t.step a).2.find? id = t.find? id := by
  cases a with
  | provide rules | fail e | fetches => rfl
  | new name =>
    have ne : id ≠ name := by
      rintro rfl
      simp [replaces] at kept
    simp [step, ne]
  | «open» name =>
    cases gives : t.provider.answer with
    | ok rules =>
      have ne : id ≠ name := by
        rintro rfl
        simp [replaces, gives, Except.isOk, Except.toBool] at kept
      rw [step_open_ok gives, find?_put, if_neg ne]
      rfl
    | error e =>
      rw [step_open_error gives]
      rfl
  | activate name | rules name | describe name | close name | run name room inputs =>
    have ne : id ≠ name := by
      rintro rfl
      simp [SessionAction.isOn] at other
    apply find?_withSession
    intro s
    simp [ne]
  | classify name message =>
    have ne : id ≠ name := by
      rintro rfl
      simp [SessionAction.isOn] at other
    apply find?_withSession
    intro s
    split <;> simp [ne]

theorem withSession_none {name : String} {f : Session → SessionAnswer × SessionTable} (gone : t.find? name = none) :
    t.withSession name f = (.noSession, t) := by
  rw [withSession, gone]

theorem withSession_some {name : String} {f : Session → SessionAnswer × SessionTable} (here : t.find? name = some s) :
    t.withSession name f = f s := by
  rw [withSession, here]

theorem step_none {a : SessionAction} (on : a.isOn id = true) (gone : t.find? id = none) :
    t.step a = (.noSession, t) := by
  cases a with
  | provide rules | fail e | fetches | new name | «open» name => cases on
  | activate name | classify name message | rules name | describe name | close name | run name room inputs =>
    obtain rfl : name = id := of_decide_eq_true on
    exact withSession_none gone

theorem step_some {a : SessionAction} (on : a.isOn id = true) (here : t.find? id = some s) :
    (t.step a).1 = (s.act t.provider a).1 ∧ (t.step a).2.find? id = (s.act t.provider a).2 ∧
      (t.step a).2.provider.answer = t.provider.answer := by
  cases a with
  | provide rules | fail e | fetches | new name | «open» name => cases on
  | activate name | rules name | describe name | close name | run name room inputs =>
    obtain rfl : name = id := of_decide_eq_true on
    simp [step, withSession_some here, Session.act, here, Session.activate_source]
  | classify name message =>
    obtain rfl : name = id := of_decide_eq_true on
    simp only [step, withSession_some here, Session.act]
    cases s.classify message with
    | mk answer after => cases answer <;> simp

/-! ### Histories -/

/-- Two tables hold the same session under a name, and if it is yet to ask its source in the first, it is given the same
    answer in the second. -/
def Agree (id : String) (as : List SessionAction) (t u : SessionTable) : Prop :=
  t.find? id = u.find? id ∧ ∀ s, t.find? id = some s → s.state = .connecting →
    ∀ answer, t.given? id as = some answer → u.provider.answer = answer

theorem Agree.other {a : SessionAction} {as : List SessionAction} (agree : Agree id (a :: as) t u)
    (elsewhere : a.isOn id = false) (kept : t.replaces id a = false) : Agree id as (t.step a).2 u := by
  have same := find?_step_other elsewhere kept
  refine ⟨same.trans agree.1, fun s here connecting answer given => ?_⟩
  apply agree.2 s (same.symm.trans here) connecting
  rw [given?, kept, asks, elsewhere]
  exact given

theorem Agree.self {a : SessionAction} {as : List SessionAction} (agree : Agree id (a :: as) t u)
    (on : a.isOn id = true) : (t.step a).1 = (u.step a).1 ∧
      (t.step a).2.find? id = (u.step a).2.find? id ∧ Agree id as (t.step a).2 (u.step a).2 := by
  have kept : t.replaces id a = false := by cases a <;> first | rfl | cases on
  obtain ⟨same, given⟩ := agree
  cases here : t.find? id with
  | none =>
    rw [step_none on here, step_none on (same ▸ here)]
    refine ⟨rfl, same, same, fun s there => ?_⟩
    rw [here] at there
    cases there
  | some s =>
    obtain ⟨answer, session, -⟩ := step_some on here
    obtain ⟨answer', session', source⟩ := step_some on (same ▸ here)
    -- The answer that is given first is the one that both sources must share; later ones are never asked for.
    have asked : s.asks a = true → t.provider.answer = u.provider.answer := by
      intro asks
      refine (given s here (Session.connecting_of_asks asks) _ ?_).symm
      simp [given?, kept, SessionTable.asks, on, here, asks]
    have act := Session.act_congr asked
    refine ⟨by rw [answer, answer', act], by rw [session, session', act], by rw [session, session', act], ?_⟩
    intro s' after connecting given' got
    obtain ⟨before, silent⟩ := Session.connecting_of_act (session.symm.trans after) connecting
    rw [source]
    apply given s here before
    simpa [given?, kept, asks, on, here, silent] using got

/-- A session shows in one table what it shows in the other, to which nothing is done but the actions on it. -/
theorem history_alone {as : List SessionAction} (agree : Agree id as t u) :
    (component id).history t as = (component id).history u ((component id).own t as) :=
  (component id).history_eq (R := Agree id) Agree.other Agree.self agree

end SessionTable
end TextRules
