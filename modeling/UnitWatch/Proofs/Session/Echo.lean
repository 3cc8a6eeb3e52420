import UnitWatch.Proofs.Bus.Properties
import UnitWatch.Proofs.Session.Abreast
import UnitWatch.Proofs.Value
import UnitWatch.Wire.Manager

/-!
# Echoes

What the bus signals about a unit may be what has been fetched for it already: the change was on its
way when the state was fetched. A signal need not carry all of the properties, so an echo can lack
times that were fetched.

**Reading** (`UnitProperties.echo_of_part`). From a part of a table that has the state, the same
state is read, and the same times or none.

**Entries** (`Entry.update_of_echo`). An entry that has been made of what was fetched is not changed
by an echo: one with a time is stale, and one without a time repeats the state. A pending entry is
left alone because what is none of the five states when it is fetched is none of them in the echo.

**Sessions** (`Session.echo_is_silent`). As long as a unit has the entry with which it was tracked,
a session that takes an echo yields nothing and tracks what it tracked before.
-/

namespace UnitWatch

/-! ## Parts of tables -/

namespace UnitProperties

/-- A table says nothing that another one does not say. -/
def IsPart (changes props : List (String × Value)) : Prop :=
  ∀ key v, Value.field? changes key = some v → Value.field? props key = some v

/-- A raw state tells what another one tells, apart from times that it may lack. -/
structure IsEcho (y x : RawState) : Prop where
  unit : y.unit = x.unit
  state : y.state = x.state
  monotonic : y.monotonic = none ∨ y.monotonic = x.monotonic

variable {unit key : String} {props changes : List (String × Value)} {x : RawState}

theorem timestamp_of_part {m : Option Int} (part : IsPart changes props) (h : timestamp props key = .ok m) :
    ∃ m', timestamp changes key = .ok m' ∧ (m' = none ∨ m' = m) := by
  unfold timestamp
  cases hc : Value.field? changes key with
  | none => exact ⟨none, rfl, .inl rfl⟩
  | some v =>
    rw [timestamp, part key v hc] at h
    exact ⟨m, h, .inr rfl⟩

/-- From a part of a table the same is read, apart from times that it may lack. -/
theorem echo_of_part (part : IsPart changes props)
    (stated : (Value.field? changes stateKey).isSome = true) (read : rawState unit props = .ok x) :
    ∃ y, rawState unit changes = .ok y ∧ IsEcho y x := by
  obtain ⟨rfl, v, hv, state, times⟩ := rawState_eq_ok.mp read
  obtain ⟨v', hv'⟩ := Option.isSome_iff_exists.mp stated
  obtain rfl : v' = v := Option.some.inj ((part _ _ hv').symm.trans hv)
  -- The word is the same, and it decides under which names the times stand.
  suffices ∃ m' r', timestamps v'.display changes = .ok (m', r') ∧
      (m' = none ∨ m' = x.monotonic) by
    obtain ⟨m', r', times', same⟩ := this
    refine ⟨⟨x.unit, v'.display, m', r'⟩, ?_, rfl, state.symm, same⟩
    exact rawState_eq_ok.mpr ⟨rfl, v', hv', rfl, times'⟩
  simp only [timestamps_eq_ok] at times ⊢
  cases hs : ActiveState.ofWord? v'.display with
  | none => exact ⟨none, none, ⟨rfl, rfl⟩, .inl rfl⟩
  | some s =>
    rw [hs] at times
    obtain ⟨m', hm, same⟩ := timestamp_of_part part times.1
    obtain ⟨r', hr, -⟩ := timestamp_of_part part times.2
    exact ⟨m', r', ⟨hm, hr⟩, same⟩

end UnitProperties

/-! ## Entries -/

variable {η : Type}

/-- A report that repeats the state, with the time that is known or with none, changes nothing. -/
theorem Entry.update_of_echo {e : Entry η} {r : Report} (now : Microseconds)
    (state : e.state = some r.state) (old : r.monotonic = none ∨ r.monotonic = e.timestamp) :
    e.update r now = (e, none) := by
  cases stale : e.isStale r.monotonic with
  | true => exact update_of_stale now stale
  | false =>
    -- Only a report without a time comes this far, since one with the known time is stale.
    have time : r.monotonic.or e.timestamp = e.timestamp := by
      rcases old with none | same
      · rw [none, Option.none_or]
      · rw [same, Option.or_self]
    refine Prod.ext ?_ ?_
    · rw [update_fst_of_not_stale now stale, time, ← state]
    · refine Option.eq_none_iff_forall_ne_some.mpr fun t ht => ?_
      obtain ⟨-, s, known, differs, -⟩ := update_snd_eq_some.mp ht
      exact differs (Option.some.inj (state.symm.trans known))

open UnitProperties (IsEcho) in
/-- The entry that a unit gets from what was fetched is not changed by an echo of it. -/
theorem Entry.first_update_of_echo {x y : RawState} {r : Report} (echo : IsEcho y x)
    (hr : y.report? = some r) (unit : UnitId) (k : η) (now : Microseconds) :
    (Entry.first unit k x).update r now = (Entry.first unit k x, none) := by
  obtain ⟨s, word, rfl⟩ := Option.map_eq_some_iff.mp hr
  have known : x.report? = some ⟨x.unit, s, x.monotonic, x.realtime⟩ := by
    rw [RawState.report?, ← echo.state, word]
    rfl
  refine update_of_echo now ?_ ?_
  · rw [Entry.first, known]
    rfl
  · rw [Entry.first, known]
    exact echo.monotonic

/-! ## Answers -/

/-- With these answers to its first requests, a process goes on as another one. -/
inductive Process.Given {σ Q α : Type} {A : Q → Type} :
    Process σ A α → List ((q : Q) × A q) → Process σ A α → Prop
  | nil (p : Process σ A α) : Given p [] p
  | cons {s : σ} {q : Q} {resume : A q → Process σ A α} {a : A q} {p : Process σ A α}
      {answers : List ((q : Q) × A q)} (rest : Given (resume a) answers p) :
      Given (.ask s q resume) (⟨q, a⟩ :: answers) p

theorem Process.Given.of_eq {σ Q α : Type} {A : Q → Type} {p p' q : Process σ A α}
    {answers : List ((q : Q) × A q)} (eq : p = p') (h : p'.Given answers q) : p.Given answers q :=
  eq ▸ h

namespace Session

/-- Whatever the time is, a process asks for nothing else, apart from what it notes. Each state that
can be observed is in `I`, and it ends with `r`. -/
inductive Quietly {α : Type} (I : State η → Prop) (r : α) :
    Process (State η) (Answer (η := η)) α → Prop
  | done {s : State η} (h : I s) : Quietly I r (.done s r)
  | clock {s : State η} {resume : Microseconds → Process (State η) (Answer (η := η)) α} (h : I s)
      (rest : ∀ now, Quietly I r (resume now)) : Quietly I r (.ask s .clock resume)
  | note {s : State η} {n : Notice} {resume : Unit → Process (State η) (Answer (η := η)) α}
      (h : I s) (rest : Quietly I r (resume ())) : Quietly I r (.ask s (.note n) resume)

namespace Quietly

variable {α β : Type} {I : State η → Prop} {s : State η} {c : Plan} {signal : Signal}

theorem bind {r : α} {r' : β} {p : Process (State η) (Answer (η := η)) α}
    {next : State η → α → Process (State η) (Answer (η := η)) β} (h : Quietly I r p)
    (then' : ∀ s, I s → Quietly I r' (next s r)) : Quietly I r' (p.bind next) := by
  induction h with
  | done h => exact then' _ h
  | clock h _ ih => exact .clock h ih
  | note h _ ih => exact .note h ih

theorem attempt {r : Except Failure α} {x : Step η α} (h : Quietly I r (x s)) :
    Quietly I (.ok r : Except Failure _) (Action.attempt x s) :=
  h.bind fun _ => .done

/-- A signal that is handled quietly, and brings no event, is taken quietly. -/
theorem closing_receive (h : Quietly I (.ok none) (handleSignal c signal s)) :
    Quietly I (.ok .listening) (closing (receive c (.ok signal)) s) := by
  have reacts : Quietly I (.ok ()) (react c (.ok signal) s) := h.bind fun _ => .done
  have received : Quietly I (.ok none) (receive c (.ok signal) s) :=
    reacts.attempt.bind fun _ => .done
  rw [closing_eq]
  exact received.bind fun _ => .done

end Quietly

/-! ## What a unit's properties bring about -/

/-- The state of a unit whose properties are read from the bus. -/
def Fetches (unit : String) (props : List (String × Value)) (x : RawState) : Prop :=
  ∀ (m : Wire.Manager) (bus : Wire.BusId) (path : String), m.bus = some bus →
    (Wire.Manager.fetch unit m).Given
      [⟨.findUnit bus unit m.timeout, .ok path⟩, ⟨.readProperties bus path m.timeout, .ok props⟩]
      (.done m (.ok x))

/-- What is delivered when properties of a unit change. -/
def Delivers (unit : String) (interface changed : Value) (signal : Option Signal) : Prop :=
  ∀ (path : String) (invalidated : Value),
    (Wire.Interest.properties unit path).read [interface, changed, invalidated] = .ok signal

/-- A unit is tracked with a state that is fetched, and gets an entry. -/
def Enrolls (unit : String) (k : η) (x : RawState) (s : State η) (e : Entry η) : Prop :=
  ∃ n s', (track unit s).Given [⟨.subscribe unit, .ok k⟩, ⟨.fetch unit, .ok x⟩, ⟨.note n, ()⟩]
      (.done s' (.ok ())) ∧ s'.registry.get? unit = some e

/-- A session that listens takes a signal, yields nothing, and tracks what it has tracked. -/
def Ignores (c : Plan) (s : State η) (signal : Signal) : Prop :=
  ∃ p, (stage c .listening s).Given [⟨.nextSignal, .ok signal⟩] p ∧
    Quietly (fun t => ∀ v, t.registry.get? v = s.registry.get? v) (.ok .listening) p

section

variable {unit : String} {props changes : List (String × Value)} {x y : RawState} {s : State η}

theorem fetches_of_rawState (h : UnitProperties.rawState unit props = .ok x) :
    Fetches unit props x := by
  rintro ⟨scope, timeout, _, unitMatches, closing, arrivals⟩ bus path rfl
  have told (m : Wire.Manager) : (Action.ofExcept
      ((UnitProperties.rawState unit props).mapError Failure.crash) : Wire.Step _ RawState) m =
      .done m (.ok x) := by
    rw [h]
    rfl
  exact .cons (.cons (.of_eq (told _) (.nil _)))

theorem enrolls_first (hx : x.unit = unit) (k : η) (s : State η) :
    Enrolls unit k x s (Entry.first ⟨s.registry.scope, unit⟩ k x) := by
  refine ⟨.enrolled unit x, { s with registry := s.registry.enroll unit k x }, ?_, ?_⟩
  · exact .cons (.cons (.of_eq (enroll_eq unit k x s) (.cons (.nil _))))
  · rw [Registry.enroll_eq_put s.registry k hx]
    exact Registry.get?_put_self _ (Entry.first ⟨s.registry.scope, unit⟩ k x)

theorem ignores_echo (echo : UnitProperties.IsEcho y x) {id : UnitId} {k : η} (c : Plan)
    (tracked : s.registry.get? y.unit = some (Entry.first id k x)) : Ignores c s (.changed y) := by
  refine ⟨closing (receive c (.ok (.changed y))) s, .cons (.nil _), .closing_receive ?_⟩
  cases hr : y.report? with
  | none =>
    rw [handleSignal_changed_of_unrecognized tracked hr]
    exact .note (fun _ => rfl) (.done fun _ => rfl)
  | some r =>
    have quiet := Entry.first_update_of_echo echo hr id k
    rw [handleSignal_changed tracked hr]
    refine .clock (fun _ => rfl) fun now => ?_
    simp only [quiet]
    refine .done fun v => ?_
    have tracked' : s.registry.get? r.unit = some (Entry.first id k x) := by
      rw [RawState.unit_of_report hr, tracked]
    show (s.registry.apply r now).1.get? v = _
    rw [Registry.get?_apply now tracked', quiet]
    split
    · next same => rw [same, tracked']
    · rfl

theorem delivers_of_rawState {interface : Value}
    (own : interface.display = BusName.unitInterface)
    (stated : (Value.field? changes UnitProperties.stateKey).isSome = true)
    (h : UnitProperties.rawState unit changes = .ok y) :
    Delivers unit interface (.object changes) (some (.changed y)) := by
  intro path invalidated
  show Wire.Interest.readChange unit interface (.object changes) = _
  rw [Wire.Interest.readChange, if_neg (not_not_intro own)]
  simp only [stated, h]
  rfl

theorem delivers_nothing {interface changed : Value}
    (h : interface.display ≠ BusName.unitInterface ∨
      ∃ fs, changed = .object fs ∧ Value.field? fs UnitProperties.stateKey = none) :
    Delivers unit interface changed none := by
  intro path invalidated
  show Wire.Interest.readChange unit interface changed = _
  unfold Wire.Interest.readChange
  split
  · rfl
  · next own =>
    obtain other | ⟨fs, rfl, stateless⟩ := h
    · exact absurd other own
    · simp [stateless]

end

/-- **Echoes are silent.** Let the properties of a unit tell its state and, where they tell a time,
tell it as an integer. From any part of them that has the state, a session that tracks the unit as
it was fetched learns nothing: it yields no event and tracks what it has tracked. The whole of them
is delivered as it is fetched. Changes of another interface, or without the state, are not
delivered. -/
theorem echo_is_silent {unit : String} {props changes : List (String × Value)}
    (part : UnitProperties.IsPart changes props)
    (stated : (Value.field? changes UnitProperties.stateKey).isSome = true)
    (times : ∀ s : ActiveState, UnitProperties.Converts (Value.field? props s.monotonicKey) ∧
      UnitProperties.Converts (Value.field? props s.realtimeKey)) :
    ∃ fetched echo : RawState, Fetches unit props fetched ∧
      (∀ interface, interface.display = BusName.unitInterface →
        Delivers unit interface (.object changes) (some (.changed echo))) ∧
      (changes = props → echo = fetched) ∧
      (∀ (k : η) (s : State η), ∃ e, Enrolls unit k fetched s e ∧
        ∀ (c : Plan) (s' : State η), s'.registry.get? unit = some e →
          Ignores c s' (.changed echo)) ∧
      (∀ interface changed, interface.display ≠ BusName.unitInterface →
        Delivers unit interface changed none) ∧
      ∀ interface fs, Value.field? fs UnitProperties.stateKey = none →
        Delivers unit interface (.object fs) none := by
  obtain ⟨v, there⟩ := Option.isSome_iff_exists.mp stated
  obtain ⟨fetched, read⟩ : ∃ x, UnitProperties.rawState unit props = .ok x :=
    UnitProperties.readable_iff.mp ⟨v, part _ _ there, fun s _ => times s⟩
  obtain ⟨echo, readEcho, isEcho⟩ := UnitProperties.echo_of_part part stated read
  have ofUnit := UnitProperties.unit_of_rawState read
  refine ⟨fetched, echo, fetches_of_rawState read,
    fun interface own => delivers_of_rawState own stated readEcho, ?_, ?_,
    fun interface changed other => delivers_nothing (.inl other),
    fun interface fs stateless => delivers_nothing (.inr ⟨fs, rfl, stateless⟩)⟩
  · rintro rfl
    exact Except.ok.inj (readEcho.symm.trans read)
  · refine fun k s => ⟨_, enrolls_first ofUnit k s, fun c s' tracked => ?_⟩
    rw [← ofUnit, ← isEcho.unit] at tracked
    exact ignores_echo isEcho c tracked

/-- A unit fails at a known time. The change that only says that it failed is an echo of it. -/
theorem untimed_echo_is_silent :
    let props := [("InactiveEnterTimestampMonotonic", .int 7), ("ActiveState", .text "failed"),
      ("InactiveEnterTimestamp", .int 50)]
    ∃ fetched echo : RawState, Fetches "web.service" props fetched ∧
      Delivers "web.service" (.text BusName.unitInterface)
        (.object [("ActiveState", .text "failed")]) (some (.changed echo)) ∧
      ∀ (k : Nat) (s : State Nat), ∃ e, Enrolls "web.service" k fetched s e ∧
        ∀ (c : Plan) (s' : State Nat), s'.registry.get? "web.service" = some e →
          Ignores c s' (.changed echo) := by
  intro props
  have part : UnitProperties.IsPart [("ActiveState", .text "failed")] props := by
    intro key v h
    rw [Value.field?_cons] at h
    split at h
    · next same =>
      subst same
      exact h
    · cases h
  have times (s : ActiveState) : UnitProperties.Converts (Value.field? props s.monotonicKey) ∧
      UnitProperties.Converts (Value.field? props s.realtimeKey) := by
    cases s with
    | failed | inactive => exact ⟨⟨7, rfl⟩, ⟨50, rfl⟩⟩
    | _ => exact ⟨trivial, trivial⟩
  obtain ⟨fetched, echo, fetches, delivers, -, silent, -⟩ := echo_is_silent part rfl times
  exact ⟨fetched, echo, fetches, delivers _ rfl, silent⟩

end Session

end UnitWatch
