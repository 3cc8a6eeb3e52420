import UnitWatch.Proofs.Bus.Properties
import UnitWatch.Proofs.Session.Linked
import UnitWatch.Proofs.Session.Policy

/-!
# Malformed data from the bus

The bus may say anything: properties are tables of any values, signals carry any arguments, and
calls fail with any errors that a bus reports.

**Replies.** A state is fetched, or its call fails, unless the properties are such that no state can
be read from them (`Manager.fetch_yields`). A table cannot be read without a state, or with a time
that does not convert (`UnitProperties.Readable`).

**Sessions** (`Malformed.malformed_data_contained`). A connection whose tables can be read answers
in its documented ways (`documented_of_served`), whatever is signalled. Its session fails only as
its policy has it.

**The gap** (`Malformed.missing_state_ends_session`). A table without a state ends a session. In a
signal the same table is skipped.
-/

namespace UnitWatch

namespace Wire

open Safe (Ends)
open UnitProperties (Readable rawState)

/-- An error that the bus reports. -/
def Error.Reported : Error → Prop
  | .reported _ _ | .unnamed _ => True
  | .broken _ => False

/-- What the bus may answer: calls fail with errors that it reports, and properties are tables that
are accepted. -/
def Fair (accepts : List (String × Value) → Prop) : (q : Request) → Answer q → Prop
  | .readProperties _ _ _, .ok props => accepts props
  | .openBus _, .error e | .subscribe _ _, .error e | .listUnits _ _, .error e
  | .findUnit _ _ _, .error e | .readProperties _ _ _, .error e | .addMatch _ _, .error e
  | .removeMatch _, .error e => e.Reported
  | _, _ => True

/-- A bus that signals anything at any time, and may be lost. -/
def babbling (accepts : List (String × Value) → Prop) : Bus Unit where
  library := ⟨fun _ _ => False, fun _ _ q a _ => Fair accepts q a⟩
  signals _ signal _ := ∃ (i : Interest) (args : List Value), i.read args = .ok (some signal)
  loses _ _ := True

/-! ## Operations -/

/-- An operation with values of which `P` holds, and failures of which `E` holds. -/
abbrev Yields (accepts : List (String × Value) → Prop) {α : Type} (P : α → Prop)
    (E : Failure → Prop) (x : Step Manager α) : Prop :=
  ∀ m, Safe (babbling accepts).library (fun _ _ _ => True)
    (Ends (fun _ _ a => P a) fun _ _ f => E f) (x m) ()

theorem during_isCallFailure {operation : String} {e : Error} (h : e.Reported) :
    IsCallFailure (e.during operation) := by
  cases e with
  | reported name text => exact ⟨_, _, _, rfl⟩
  | unnamed text => exact ⟨_, _, _, rfl⟩
  | broken => exact h.elim

namespace Yields

variable {accepts : List (String × Value) → Prop} {α β ι : Type} {P : α → Prop} {R : β → Prop}
  {E : Failure → Prop}

theorem stable (Q : Prop) : (babbling accepts).library.Stable fun _ => Q := fun _ _ _ h => h

theorem pure {a : α} (h : P a) : Yields accepts P E (Pure.pure a) :=
  fun _ => Safe.done (stable (P a)) h fun _ h => h

theorem fail {f : Failure} (h : E f) : Yields accepts P E (Action.fail f) :=
  fun _ => Safe.done (stable (E f)) h fun _ h => h

theorem get : Yields accepts (fun _ => True) E (Action.get : Step Manager Manager) :=
  fun _ => Safe.done (stable True) trivial fun _ h => h

theorem modify (f : Manager → Manager) : Yields accepts (fun _ => True) E (Action.modify f) :=
  fun _ => Safe.done (stable True) trivial fun _ h => h

theorem ask (q : Request) : Yields accepts (Fair accepts q) E (Wire.ask q) := by
  intro m
  refine Safe.ask (stable True) trivial (fun _ _ => trivial) ?_
  intro _ a _ _ fair
  exact Safe.done (stable (Fair accepts q a)) fair fun _ h => h

theorem bind {x : Step Manager β} {f : β → Step Manager α} (h : Yields accepts R E x)
    (then' : ∀ b, R b → Yields accepts P E (f b)) : Yields accepts P E (x >>= f) := by
  intro m
  refine (h m).andThen (fun _ m b hb => then' b hb m) ?_
  intro _ _ f hf
  exact Safe.done (stable (E f)) hf fun _ h => h

theorem imp {Q : α → Prop} {x : Step Manager α} (h : Yields accepts P E x) (imp : ∀ a, P a → Q a) :
    Yields accepts Q E x :=
  fun m => (h m).weaken fun _ _ r hr => by cases r with
    | ok a => exact imp a hr
    | error _ => exact hr

/-- A call for whose answer nothing is asked. -/
theorem andThen {q : Request} {f : Answer q → Step Manager α}
    (then' : ∀ a, Yields accepts P E (f a)) : Yields accepts P E (Wire.ask q >>= f) :=
  (ask q).bind fun a _ => then' a

theorem each {f : ι → Step Manager Unit} (h : ∀ i, Yields accepts (fun _ => True) E (f i))
    (is : List ι) : Yields accepts (fun _ => True) E (Action.each f is) := by
  induction is with
  | nil => exact pure trivial
  | cons i is ih => exact (h i).bind fun _ _ => ih

/-- A call that may fail as calls do. -/
theorem demand {operation : String} {x : Step Manager (Except Error α)} {R : Except Error α → Prop}
    (h : Yields accepts R E x) (reported : ∀ e, R (.error e) → e.Reported)
    (fails : ∀ f, IsCallFailure f → E f) :
    Yields accepts (fun a => R (.ok a)) E (Manager.demand operation x) := by
  refine h.bind fun r hr => ?_
  cases r with
  | ok a => exact pure hr
  | error e => exact fail (fails _ (during_isCallFailure (reported e hr)))

theorem onBus {operation : String} {x : Manager → BusId → Step Manager α}
    (h : ∀ m bus, Yields accepts P E (x m bus)) (fails : ∀ f, IsCallFailure f → E f) :
    Yields accepts P E (Manager.onBus operation x) := by
  refine get.bind fun m _ => ?_
  split
  · exact h m _
  · exact fail (fails _ ⟨_, _, _, rfl⟩)

end Yields

namespace Manager

variable {accepts : List (String × Value) → Prop}

/-- A connection is refused. -/
def IsRefusal (f : Failure) : Prop := ∃ scope reason, f = .ofBus (.connection scope reason)

theorem prepare_yields (scope : BusScope) :
    Yields accepts (fun _ => True) IsRefusal (prepare scope : Step Manager Unit) := by
  have needs (p : Component) :
      Yields accepts (fun _ => True) IsRefusal (need scope p : Step Manager Unit) := by
    refine .andThen fun installed => ?_
    split
    · exact .pure trivial
    · exact .fail ⟨_, _, rfl⟩
  refine (needs .library).bind fun _ _ => .andThen fun running => ?_
  split
  · exact .pure trivial
  · exact (needs .loop).bind fun _ _ => .andThen fun _ => .imp (.ask _) fun _ _ => trivial

theorem connect_yields : Yields accepts (fun _ => True) IsRefusal connect := by
  have opens (scope : BusScope) : Yields accepts (fun r => ∀ e, r = .error e → e.Reported)
      IsRefusal (openBus scope : Step Manager (Except Error BusId)) := by
    refine (Yields.ask (.openBus scope)).bind fun r fair => ?_
    cases r with
    | error e => exact .pure fun _ same => by cases same; exact fair
    | ok bus => exact .andThen fun _ => .pure nofun
  refine Yields.get.bind fun m _ => ?_
  refine (prepare_yields m.scope).bind fun _ _ => ?_
  refine (opens m.scope).bind fun r reported => ?_
  split
  · exact .fail ⟨_, _, rfl⟩
  · exact .fail ⟨_, _, rfl⟩
  · exact (reported _ rfl).elim
  · refine (Yields.modify _).bind fun _ _ => .andThen fun _ => .andThen fun _ => ?_
    exact .imp (.ask _) fun _ _ => trivial

theorem subscribeManager_yields :
    Yields accepts (fun _ => True) IsCallFailure subscribeManager := by
  have watches (bus : BusId) (i : Interest) :
      Yields accepts (fun _ => True) IsCallFailure (watchUnits bus i) := by
    refine (Yields.demand (.ask (.addMatch bus i)) (fun _ h => h) fun _ h => h).bind fun _ _ => ?_
    exact .modify _
  refine .onBus (fun m bus => ?_) fun _ h => h
  refine (Yields.demand (.ask (.subscribe bus m.timeout)) (fun _ h => h) fun _ h => h).bind ?_
  exact fun _ _ => (watches bus .removed).bind fun _ _ => watches bus .added

theorem listUnits_yields : Yields accepts (fun _ => True) IsCallFailure listUnits := by
  refine .onBus (fun m bus => ?_) fun _ h => h
  exact .imp (.demand (.ask (.listUnits bus m.timeout)) (fun _ h => h) fun _ h => h)
    fun _ _ => trivial

theorem subscribe_yields (unit : String) :
    Yields accepts (fun _ => True) IsCallFailure (some <$> subscribe unit) := by
  have subscribes : Yields accepts (fun _ => True) IsCallFailure (subscribe unit) := by
    refine .onBus (fun m bus => ?_) fun _ h => h
    refine (Yields.demand (.ask (.findUnit bus unit m.timeout)) (fun _ h => h) fun _ h => h).bind ?_
    intro path _
    exact .imp (.demand (.ask (.addMatch bus (.properties unit path))) (fun _ h => h) fun _ h => h)
      fun _ _ => trivial
  exact subscribes.bind fun _ _ => .pure trivial

theorem unsubscribe_yields (subscription : Option MatchId) :
    Yields accepts (fun _ => True) IsCallFailure (unsubscribe subscription) := by
  refine Yields.get.bind fun m _ => ?_
  split
  · exact .imp (.demand (.ask (.removeMatch _)) (fun _ h => h) fun _ h => h) fun _ _ => trivial
  · exact .pure trivial

/-- **Fetching a state.** It ends with a raw state of the unit or as calls fail, unless the state
cannot be read from the properties. -/
theorem fetch_yields (unit : String) : Yields accepts (·.unit = unit) (fun f => IsCallFailure f ∨
    ∃ props e, accepts props ∧ rawState unit props = .error e ∧ f = .crash e) (fetch unit) := by
  refine .onBus (fun m bus => ?_) fun _ h => .inl h
  refine (Yields.demand (.ask (.findUnit bus unit m.timeout)) (fun _ h => h)
    fun _ h => .inl h).bind ?_
  intro path _
  refine (Yields.demand (.ask (.readProperties bus path m.timeout)) (fun _ h => h)
    fun _ h => .inl h).bind ?_
  intro props accepted
  cases read : rawState unit props with
  | ok x => exact .pure (UnitProperties.unit_of_rawState read)
  | error e => exact .fail (.inr ⟨props, e, accepted, read, rfl⟩)

theorem close_yields : Yields accepts (fun _ => True) (fun _ => False) close := by
  have drops (k : MatchId) : Yields accepts (fun _ => True) (fun _ => False) (dropMatch k) := by
    refine .andThen fun r => ?_
    split
    · exact .pure trivial
    · exact .imp (.ask _) fun _ _ => trivial
  refine Yields.get.bind fun m _ => ?_
  split
  · exact .pure trivial
  · refine (Yields.modify _).bind fun _ _ => ?_
    refine (Yields.each drops _).bind fun _ _ => .andThen fun r => ?_
    split
    · exact .pure trivial
    · exact .imp (.ask _) fun _ _ => trivial

end Manager

/-! ## Sessions -/

theorem Yields.carried {accepts : List (String × Value) → Prop} {α : Type} {P : α → Prop}
    {E : Failure → Prop} {x : Step Manager α} (h : Yields accepts P E x) {m m' : Manager}
    {w w' : Unit} {r : Except Failure α}
    (run : Carries (babbling accepts).library (x m) w w' m' r) :
    Ends (fun _ _ a => P a) (fun _ _ f => E f) w' m' r :=
  Safe.of_carries run (h m)

/-- Over tables that can be read, connections answer in their documented ways. -/
theorem documented_of_served {q : Session.Request (Option MatchId)}
    {p : Process Manager Answer (Session.Answer q)} {m m' : Manager} {w w' : Unit}
    {a : Session.Answer q} (serves : m.serve q = some p)
    (run : Carries (babbling Readable).library p w w' m' a) : Session.Documented q a := by
  cases q with
  | connect =>
    cases serves
    match a, Manager.connect_yields.carried run with
    | .ok (), _ => exact .connected
    | .error _, ⟨scope, reason, rfl⟩ => exact .refused scope reason
  | subscribeManager =>
    cases serves
    match a, Manager.subscribeManager_yields.carried run with
    | .ok (), _ => exact .subscribedManager
    | .error _, ⟨call, reason, name, rfl⟩ => exact .notSubscribedManager call reason name
  | listUnits =>
    cases serves
    match a, Manager.listUnits_yields.carried run with
    | .ok units, _ => exact .listed units
    | .error _, ⟨call, reason, name, rfl⟩ => exact .notListed call reason name
  | subscribe unit =>
    cases serves
    match a, (Manager.subscribe_yields unit).carried run with
    | .ok k, _ => exact .subscribed unit k
    | .error _, ⟨call, reason, name, rfl⟩ => exact .notSubscribed unit call reason name
  | fetch unit =>
    cases serves
    match a, (Manager.fetch_yields unit).carried run with
    | .ok x, named =>
      obtain rfl : x.unit = unit := named
      exact .fetched x
    | .error _, .inl ⟨call, reason, name, rfl⟩ => exact .notFetched unit call reason name
    | .error _, .inr ⟨props, e, readable, unread, _⟩ =>
      -- An undocumented answer would come of a table that cannot be read.
      obtain ⟨x, read⟩ := UnitProperties.readable_iff.1 readable
      rw [unread] at read
      cases read
  | unsubscribe k =>
    cases serves
    match a, (Manager.unsubscribe_yields k).carried run with
    | .ok (), _ => exact .unsubscribed k
    | .error _, ⟨call, reason, name, rfl⟩ => exact .notUnsubscribed k _ rfl
  | nextSignal =>
    obtain ⟨⟨r, m''⟩, taken, rfl⟩ := Option.map_eq_some_iff.1 serves
    cases run with
    | move moved => exact moved.elim
    | done =>
      unfold Manager.take? at taken
      split at taken
      · cases taken
      · cases taken
        exact .signalled _
      · cases taken
        exact .lost _
  | close =>
    cases serves
    match a, Manager.close_yields.carried run with
    | .ok (), _ => exact .closed
  | «open» | emit | sleep | clock | note => cases serves

end Wire

namespace Session

open UnitProperties (Readable rawState)
open Wire (Bus Linked Manager MatchId babbling)

/-- The same surroundings, where all that is asked is written down with its answer. -/
def recorded {η ω : Type} (e : Around η ω) : Around η (ω × Trace η) where
  moves x y := e.moves x.1 y.1 ∧ y.2 = x.2
  answers x s q a y := e.answers x.1 s q a y.1 ∧ y.2 = ⟨q, a⟩ :: x.2

/-- What is written down is a trace of the session. -/
theorem Runs.observed_of_recorded {η ω : Type} {c : Plan} {e : Around η ω}
    {allowed : (q : Request η) → Answer q → Prop}
    (answers : ∀ w s q a w', e.answers w s q a w' → allowed q a) {x y : (ω × Trace η) × Phase η}
    (run : Runs c (recorded e) x y) : Runs c (observed allowed) (x.1.2, x.2) (y.1.2, y.2) := by
  induction run with
  | refl => exact .refl
  | tail _ step ih =>
    cases step with
    | @move w w' p moved => exact (moved.2 ▸ ih : Runs c (observed allowed) _ (w'.2, p))
    | answer a answered => exact ih.tail (.answer a ⟨answers _ _ _ a _ answered.1, answered.2⟩)
    | next w s st => exact ih.tail (.next w.2 s st)

namespace Malformed

theorem documented_of_answers {x x' : Linked Unit} {s : State (Option MatchId)}
    {q : Request (Option MatchId)} {a : Answer q}
    (h : (Linked.around (babbling Readable)).answers x s q a x') : Documented q a := by
  cases h with
  | opened => exact .opened
  | served _ serves run => exact Wire.documented_of_served serves run
  | taken => exact .taken _
  | slept => exact .slept _
  | time => exact .time _
  | noted => exact .noted _

open Policy in
/-- **What the bus says does not end a session.** -/
theorem malformed_data_contained {c : Plan} :
    (∀ accepts m m' unit r, Carries (babbling accepts).library (Manager.fetch unit m) () () m' r →
      (∃ x, r = .ok x ∧ x.unit = unit) ∨
      (∃ call reason name, r = .error (callFailure call reason name)) ∨
      ∃ props e, accepts props ∧ ¬Readable props ∧ rawState unit props = .error e ∧
        r = .error (.crash e)) ∧
    ∀ x₀ x w p, Runs c (recorded (Linked.around (babbling Readable))) ((x₀, []), begin c)
        ((x, w), p) →
      ∃ st, standing c.backoff c.attempts.toNat (deeds w) = some st ∧
        Meets (st.failure? c c.attempts.toNat) p w := by
  refine ⟨?_, ?_⟩
  · intro accepts m m' unit r run
    match r, (Manager.fetch_yields unit).carried run with
    | .ok x, named => exact .inl ⟨x, rfl, named⟩
    | .error _, .inl ⟨call, reason, name, rfl⟩ => exact .inr (.inl ⟨call, reason, name, rfl⟩)
    | .error _, .inr ⟨props, e, accepted, unread, rfl⟩ =>
      refine .inr (.inr ⟨props, e, accepted, ?_, unread, rfl⟩)
      intro readable
      obtain ⟨x, read⟩ := UnitProperties.readable_iff.1 readable
      rw [unread] at read
      cases read
  · intro x₀ x w p run
    have run : Runs c (observed Documented) ([], begin c) (w, p) :=
      run.observed_of_recorded fun _ _ _ _ _ => documented_of_answers
    have ready : Ready c c.attempts.toNat (.opening none 0) ([] : Trace (Option MatchId))
        (State.initial c.scope) := ⟨by simp, rfl⟩
    have safe := run.safe (stage_stands rfl) (stage_stands rfl _ _ _ ready)
    obtain ⟨st, stands⟩ := stands_of_safe safe
    exact ⟨st, stands, meets_of_safe safe stands⟩

/-! ## Two replies -/

section

variable {accepts : List (String × Value) → Prop}

theorem carries_answer {α : Type} {m m' : Manager} {q : Wire.Request}
    {resume : Wire.Answer q → Process Manager Wire.Answer α} {r : α} (a : Wire.Answer q)
    (fair : Wire.Fair accepts q a)
    (rest : Carries (babbling accepts).library (resume a) () () m' r) :
    Carries (babbling accepts).library (.ask m q resume) () () m' r :=
  .answer a fair rest

abbrev Recording : Type := Linked Unit × Trace (Option MatchId)

theorem reaches_answer {goal : Recording × Phase (Option MatchId) → Prop}
    {x x' : Linked Unit} {w : Trace (Option MatchId)} {s : State (Option MatchId)}
    {q : Request (Option MatchId)} {resume : Answer q → Phase (Option MatchId)} (a : Answer q)
    (h : Linked.Answers (babbling accepts) x s q a x')
    (rest : ∃ y, Runs .everything (recorded (Linked.around (babbling accepts)))
      ((x', ⟨q, a⟩ :: w), resume a) y ∧ goal y) :
    ∃ y, Runs .everything (recorded (Linked.around (babbling accepts)))
      ((x, w), .ask s q resume) y ∧ goal y := by
  refine Runs.exists_answer a ?_ rest
  exact ⟨h, rfl⟩

theorem reaches_signal {goal : Recording × Phase (Option MatchId) → Prop}
    {m : Manager} {w : Trace (Option MatchId)} {p : Phase (Option MatchId)} {signal : Signal}
    (i : Wire.Interest) (args : List Value) (h : i.read args = .ok (some signal))
    (rest : ∃ y, Runs .everything (recorded (Linked.around (babbling accepts)))
      ((⟨m.receive signal, ()⟩, w), p) y ∧ goal y) :
    ∃ y, Runs .everything (recorded (Linked.around (babbling accepts))) ((⟨m, ()⟩, w), p) y ∧
      goal y := by
  refine Runs.exists_move ?_ rest
  exact ⟨.signalled m ⟨i, args, h⟩, rfl⟩

theorem connects : Carries (babbling accepts).library (Manager.connect .unconnected) () ()
    .connected (.ok ()) := by
  refine carries_answer (q := .installed _) true trivial ?_
  refine carries_answer (q := .loopRunning) true trivial ?_
  refine carries_answer (q := .openBus _) (.ok 1) trivial ?_
  refine carries_answer (q := .outlive _) () trivial ?_
  refine carries_answer (q := .reportLoss _) () trivial ?_
  refine carries_answer (q := .uniqueName _) ":1.1" trivial ?_
  refine carries_answer (q := .note _) () trivial ?_
  exact .done _ _ _

theorem attaches : Carries (babbling accepts).library (Manager.subscribeManager .connected) () ()
    .attached (.ok ()) := by
  refine carries_answer (q := .subscribe _ _) (.ok ()) trivial ?_
  refine carries_answer (q := .addMatch _ _) (.ok 1) trivial ?_
  refine carries_answer (q := .addMatch _ _) (.ok 2) trivial ?_
  exact .done _ _ _

theorem lists (units : List String) : Carries (babbling accepts).library
    (Manager.listUnits .attached) () () .attached (.ok units) :=
  carries_answer (q := .listUnits _ _) (.ok units) trivial (.done _ _ _)

theorem subscribes (unit : String) : Carries (babbling accepts).library
    ((some <$> Manager.subscribe unit : Wire.Step Manager (Option MatchId)) .attached) () ()
    .attached (.ok (some 3)) := by
  refine carries_answer (q := .findUnit _ _ _) (.ok "/unit") trivial ?_
  refine carries_answer (q := .addMatch _ _) (.ok 3) trivial ?_
  exact .done _ _ _

theorem fetches (unit : String) {props : List (String × Value)} (accepted : accepts props) :
    Carries (babbling accepts).library (Manager.fetch unit .attached) () () .attached
      ((rawState unit props).mapError Failure.crash) := by
  refine carries_answer (q := .findUnit _ _ _) (.ok "/unit") trivial ?_
  refine carries_answer (q := .readProperties _ _ _) (.ok props) accepted ?_
  show Carries _ (Action.ofExcept ((rawState unit props).mapError Failure.crash) Manager.attached) _ _ _ _
  cases (rawState unit props).mapError Failure.crash <;> exact .done _ _ _

theorem closes : Carries (babbling accepts).library (Manager.close .attached) () ()
    { Manager.attached with closing := true, bus := none, unitMatches := [] } (.ok ()) := by
  refine carries_answer (q := .removeMatch _) (.ok ()) trivial ?_
  refine carries_answer (q := .removeMatch _) (.ok ()) trivial ?_
  refine carries_answer (q := .close _) (.ok ()) trivial ?_
  exact .done _ _ _

end

/-- A table with a state that is not one of the five, and with a time that is no number. -/
def garbled : List (String × Value) :=
  [("ActiveState", .text "maintenance"), ("ActiveEnterTimestamp", .text "soon")]

theorem readable_garbled : Readable garbled := by
  refine ⟨.text "maintenance", rfl, ?_⟩
  intro s word
  have unknown : ActiveState.ofWord? (Value.text "maintenance").display = none := by decide
  rw [unknown] at word
  cases word

theorem read_garbled :
    (Wire.Interest.properties "web" "/unit").read
        [.text "org.freedesktop.systemd1.Unit", .object garbled, .list []] =
      .ok (some (.changed ⟨"web", "maintenance", none, none⟩)) := by
  rfl

open Policy in
/-- A session goes on after a garbled table and a garbled signal. -/
theorem listens_after_garbled_data :
    (∃ x, (rawState "web" garbled).mapError Failure.crash = .ok x ∧ x.unit = "web") ∧
    ∃ x w p, Runs .everything (recorded (Linked.around (babbling Readable)))
        ((⟨.unconnected, ()⟩, []), begin .everything) ((x, w), p) ∧ p.outcome? = none ∧
      ∃ st, standing Plan.everything.backoff 3 (deeds w) = some st ∧
        Meets (st.failure? .everything 3) p w := by
  refine ⟨?_, ?_⟩
  · have fetched := (malformed_data_contained (c := .everything)).1 Readable .attached .attached
      "web" _ (fetches "web" readable_garbled)
    obtain read | ⟨call, reason, name, failed⟩ | ⟨props, e, readable, unreadable, -⟩ := fetched
    · exact read
    · cases h : rawState "web" garbled <;> rw [h] at failed <;> cases failed
    · exact absurd readable unreadable
  · have run : ∃ y, Runs .everything (recorded (Linked.around (babbling Readable)))
        ((⟨.unconnected, ()⟩, []), begin .everything) y ∧ y.2.outcome? = none := by
      refine reaches_answer (.ok ()) (.opened _ _ _) ?_
      refine reaches_answer (.ok ()) (.served _ rfl connects) ?_
      refine reaches_answer (.ok ()) (.served _ rfl attaches) ?_
      refine reaches_answer (.ok ["web"]) (.served _ rfl (lists ["web"])) ?_
      refine reaches_answer (.ok (some 3)) (.served _ rfl (subscribes "web")) ?_
      refine reaches_answer _ (.served _ rfl (fetches "web" readable_garbled)) ?_
      refine reaches_answer () (.noted _ _ _) ?_
      refine reaches_answer () (.noted _ _ _) ?_
      refine Runs.exists_next ?_
      -- The discovery is over, and the garbled signal arrives.
      refine reaches_signal _ _ read_garbled ?_
      refine reaches_answer _ (.served _ rfl (.done _ _ _)) ?_
      refine reaches_answer () (.noted _ _ _) ?_
      refine Runs.exists_next ?_
      exact ⟨_, .refl, rfl⟩
    obtain ⟨⟨⟨x, w⟩, p⟩, run, going⟩ := run
    exact ⟨x, w, p, run, going, malformed_data_contained.2 _ _ _ _ run⟩

/-- A table without a state ends a session. -/
theorem missing_state_ends_session :
    ∃ y, Runs .everything (recorded (Linked.around (babbling fun _ => True)))
        ((⟨.unconnected, ()⟩, []), begin .everything) y ∧
      y.2.outcome? = some (.crash (.missingKey "ActiveState")) := by
  refine reaches_answer (.ok ()) (.opened _ _ _) ?_
  refine reaches_answer (.ok ()) (.served _ rfl connects) ?_
  refine reaches_answer (.ok ()) (.served _ rfl attaches) ?_
  refine reaches_answer (.ok ["web"]) (.served _ rfl (lists ["web"])) ?_
  refine reaches_answer (.ok (some 3)) (.served _ rfl (subscribes "web")) ?_
  refine reaches_answer _ (.served _ rfl (@fetches (fun _ => True) "web" [] trivial)) ?_
  refine reaches_answer (.ok ()) (.served _ rfl closes) ?_
  exact ⟨_, .refl, rfl⟩

end Malformed

end Session

end UnitWatch
