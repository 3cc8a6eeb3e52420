import UnitWatch.Proofs.Session.Minding

/-!
# Operations of a connection to a service manager

What each operation of a connection does to the units that a session minds, while the service
manager goes on between any two calls.

**The two subscriptions** (`subscribeManager_minds`). After the first one no removal is missed, and
that is what makes the queue the history of each unit (`Halfway`); from the second on no load is
missed either (`Subscribed`).

**Requests** (`ask_between`). What an operation does to the service manager is what it does to it
with the signals that were handed over put in front of the queue. So whatever holds with these in
front is not touched by handing them over.
-/

namespace UnitWatch.Session.Staggered

open Function (update)
open Safe (Succeeds Ends)
open Wire (Interest Manager MatchId BusId Linked Service)

/-! ## Operations -/

section

variable {path : String → String} {c : Plan} {todo : String → Prop}
  {r : Registry (Option MatchId)} {w : Service} {m : Manager} {u : String} {bus : BusId}

/-- Between the two subscriptions, and after them until units are listed. -/
structure Halfway (w : Service) : Prop where
  removed : w.Hears .removed
  announced : ∀ u, Announced w u

structure Subscribed (w : Service) : Prop extends Halfway w where
  added : w.Hears .added

theorem stable_fresh : (Service.bus path).library.Stable Service.Fresh :=
  fun _ _ step h => h.moves step

theorem Halfway.moves {w' : Service} (h : Halfway w) (step : Service.Moves path w w') :
    Halfway w' where
  removed := by simpa only [Service.Hears, step.live_eq] using h.removed
  announced u := (h.announced u).fares h.removed (step.fares u)

theorem stable_halfway : (Service.bus path).library.Stable Halfway := fun _ _ step h => h.moves step

theorem stable_subscribed : (Service.bus path).library.Stable Subscribed := fun _ _ step h =>
  { h.toHalfway.moves step with
    added := by simpa only [Service.Hears, step.live_eq] using h.added }

theorem stable_minds : (Service.bus path).library.Stable (Minds c todo r) :=
  fun _ _ step h => h.moves step

/-- With a subscription that no entry has. -/
structure Holding (c : Plan) (todo : String → Prop) (k : Option MatchId)
    (r : Registry (Option MatchId)) (w : Service) : Prop extends Minds c todo r w where
  held : w.Spares k

theorem Holding.moves {k : Option MatchId} {w' : Service} (h : Holding c todo k r w)
    (step : Service.Moves path w w') : Holding c todo k r w' :=
  { h.toMinds.moves step with
    held := by simpa only [Service.Spares, step.live_eq] using h.held }

theorem stable_holding {k : Option MatchId} :
    (Service.bus path).library.Stable (Holding c todo k r) :=
  fun _ _ step h => h.moves step

/-- A unit can be entered whose state has been fetched. -/
structure Fetched (c : Plan) (todo : String → Prop) (k : Option MatchId) (u : String)
    (r : Registry (Option MatchId)) (w : Service) : Prop extends Holding c todo k r w where
  enters : Minded w u False true

theorem stable_fetched {k : Option MatchId} :
    (Service.bus path).library.Stable (Fetched c todo k u r) := fun _ _ step h =>
  { h.toHolding.moves step with
    enters := h.enters.fares h.removed h.added (step.fares u) }

abbrev NoMatter (_ : Service) (_ : Manager) (_ : Wire.Request) : Prop := True

theorem prepare_minds {P : Service → Prop} (stable : (Service.bus path).library.Stable P) (hw : P w)
    (scope : BusScope) : Safe (Service.bus path).library NoMatter
      (Succeeds fun w m' _ => m' = m ∧ P w) (Wire.prepare scope m) w := by
  refine Safe.ask stable hw (fun _ _ => trivial) ?_
  intro w a w hw ans
  cases ans
  refine Safe.ask stable hw (fun _ _ => trivial) ?_
  intro w running w hw ans
  cases ans
  cases running with
  | true => exact Safe.done stable hw fun w hw => ⟨rfl, hw⟩
  | false =>
    refine Safe.ask stable hw (fun _ _ => trivial) ?_
    intro w a w hw ans
    cases ans
    refine Safe.ask stable hw (fun _ _ => trivial) ?_
    intro w a w hw ans
    cases ans
    refine Safe.ask stable hw (fun _ _ => trivial) ?_
    intro w a w hw ans
    cases ans
    exact Safe.done stable hw fun w hw => ⟨rfl, hw⟩

theorem connect_minds {P : Service → Prop} (stable : (Service.bus path).library.Stable P)
    (hw : P w) :
    Safe (Service.bus path).library NoMatter (Succeeds fun w m' _ =>
      (∃ bus, m'.bus = some bus) ∧ m'.arrivals = m.arrivals ∧ P w) (Manager.connect m) w := by
  show Safe _ _ _ ((Wire.prepare m.scope >>= _) m) w
  refine Safe.seq (prepare_minds stable hw m.scope) ?_
  rintro w _ _ ⟨rfl, hw⟩
  refine Safe.ask stable hw (fun _ _ => trivial) ?_
  intro w a w hw ans
  cases ans with
  | opened _ bus =>
    refine Safe.ask stable hw (fun _ _ => trivial) ?_
    intro w a w hw ans
    cases ans
    refine Safe.ask stable hw (fun _ _ => trivial) ?_
    intro w a w hw ans
    cases ans
    refine Safe.ask stable hw (fun _ _ => trivial) ?_
    intro w a w hw ans
    cases ans
    refine Safe.ask stable hw (fun _ _ => trivial) ?_
    intro w a w hw ans
    cases ans
    exact Safe.done stable hw fun w hw => ⟨⟨bus, rfl⟩, rfl, hw⟩

theorem onBus_of_connected {α : Type} {operation : String}
    (x : Manager → BusId → Wire.Step Manager α)
    (connected : m.bus = some bus) : Manager.onBus operation x m = x m bus m := by
  simp only [Manager.onBus, Action.get_bind, connected]

/-- **The two subscriptions.** -/
theorem subscribeManager_minds (fresh : w.Fresh) (connected : m.bus = some bus) :
    Safe (Service.bus path).library NoMatter (Succeeds fun w m' _ =>
      (∃ bus, m'.bus = some bus) ∧ m'.arrivals = m.arrivals ∧ Subscribed w)
      (Manager.subscribeManager m) w := by
  refine Safe.of_eq (onBus_of_connected _ connected) ?_
  refine Safe.ask stable_fresh fresh (fun _ _ => trivial) ?_
  intro w a w fresh ans
  cases ans
  refine Safe.ask stable_fresh fresh (fun _ _ => trivial) ?_
  intro w a w' fresh ans
  cases ans with
  | added _ _ k free =>
    have halfway : Halfway { w with live := update w.live k (some .removed) } := by
      refine ⟨⟨k, by simp⟩, fun u => ?_⟩
      have silent : fate u w.inbox = none := by rw [fresh.inbox]; rfl
      exact ⟨by simp [silent], by simp [silent], fun _ => fresh.unloadHeard u⟩
    refine Safe.ask stable_halfway halfway (fun _ _ => trivial) ?_
    intro w a w' halfway ans
    cases ans with
    | added _ _ k free =>
      have subscribed : Subscribed { w with live := update w.live k (some .added) } := by
        refine ⟨⟨halfway.removed.resubscribed (by simp [free]) _, fun u => ?_⟩, ⟨k, by simp⟩⟩
        exact ⟨(halfway.announced u).added, (halfway.announced u).removed,
          (halfway.announced u).silent⟩
      exact Safe.done stable_subscribed subscribed fun w h => ⟨⟨bus, connected⟩, rfl, h⟩

/-- Units are listed exactly when they are loaded. -/
theorem listUnits_minds (h : Subscribed w) (connected : m.bus = some bus)
    (empty : r.entries = []) :
    Safe (Service.bus path).library NoMatter (Succeeds fun w m' units =>
      m' = m ∧ units.Nodup ∧ Minds c (· ∈ units) r w) (Manager.listUnits m) w := by
  refine Safe.of_eq (onBus_of_connected _ connected) ?_
  refine Safe.ask stable_subscribed h (fun _ _ => trivial) ?_
  intro w a w' h ans
  cases ans with
  | listed _ _ units nodup all =>
    have absent (u : String) : r.contains u = false := by simp [Registry.contains, empty]
    have minds : Minds c (· ∈ units) r w := by
      refine ⟨h.removed, h.added, by simp [empty], by simp [absent], fun u _ => ?_⟩
      rw [absent]
      exact (h.announced u).minded (all u)
    exact Safe.done stable_minds minds fun w h => ⟨rfl, nodup, h⟩

theorem subscribe_minds (h : Minds c todo r w) (connected : m.bus = some bus) (u : String) :
    Safe (Service.bus path).library NoMatter
      (Ends (fun w m' k => m' = m ∧ Holding c todo k r w) fun w m' f =>
        m' = m ∧ Wire.IsCallFailure f ∧ Minds c (fun v => todo v ∧ v ≠ u) r w)
      ((some <$> Manager.subscribe u : Wire.Step Manager (Option MatchId)) m) w := by
  show Safe _ _ _ ((Manager.subscribe u >>= _) m) w
  refine Safe.of_eq (congrArg (Process.bind · _) (onBus_of_connected _ connected)) ?_
  refine Safe.ask stable_minds h (fun _ _ => trivial) ?_
  intro w a w' h ans
  cases ans with
  | notFound _ _ _ name text absent =>
    exact Safe.done stable_minds (h.skipped absent) fun w h => ⟨rfl, ⟨_, _, _, rfl⟩, h⟩
  | found _ _ _ loaded =>
    refine Safe.ask stable_minds h (fun _ _ => trivial) ?_
    intro w a w' h ans
    cases ans with
    | added _ _ k free =>
      have holding : Holding c todo (some k) r
          { w with live := update w.live k (some (.properties u (path u))) } := by
        refine ⟨h.subscribed free u (path u), ?_⟩
        rintro _ ⟨⟩
        simp
      exact Safe.done stable_holding holding fun w h => ⟨rfl, h⟩

theorem fetch_minds {k : Option MatchId} (distinct : Function.Injective path)
    (h : Holding c todo k r w) (watched : c.watches u = true) (due : todo u)
    (connected : m.bus = some bus) :
    Safe (Service.bus path).library NoMatter
      (Ends (fun w m' x => m' = m ∧ x.unit = u ∧ Fetched c todo k u r w) fun w m' f =>
        m' = m ∧ Wire.IsCallFailure f ∧ Holding c (fun v => todo v ∧ v ≠ u) k r w)
      (Manager.fetch u m) w := by
  refine Safe.of_eq (onBus_of_connected _ connected) ?_
  refine Safe.ask stable_holding h (fun _ _ => trivial) ?_
  intro w a w' h ans
  cases ans with
  | notFound _ _ _ name text absent =>
    have skipped : Holding c (fun v => todo v ∧ v ≠ u) k r w := ⟨h.skipped absent, h.held⟩
    exact Safe.done stable_holding skipped fun w h => ⟨rfl, ⟨_, _, _, rfl⟩, h⟩
  | found _ _ _ _ =>
    refine Safe.ask stable_holding h (fun _ _ => trivial) ?_
    intro w a w' h ans
    cases ans with
    | notRead _ _ _ name text absent =>
      have skipped : Holding c (fun v => todo v ∧ v ≠ u) k r w := ⟨h.skipped (absent u rfl), h.held⟩
      exact Safe.done stable_holding skipped fun w h => ⟨rfl, ⟨_, _, _, rfl⟩, h⟩
    | read _ u' _ props here loaded readable =>
      -- Paths tell units apart, so the properties read are those of the unit asked for.
      obtain rfl : u' = u := distinct here
      obtain ⟨x, read⟩ : ∃ x, UnitProperties.rawState u' props = .ok x :=
        UnitProperties.readable_iff.1 readable
      have fetched : Fetched c todo k u' r w := ⟨h, (h.minded u' watched).entered due loaded⟩
      show Safe _ _ _ (Action.ofExcept ((UnitProperties.rawState u' props).mapError .crash) m) w
      rw [read]
      exact Safe.done stable_fetched fetched fun w h =>
        ⟨rfl, UnitProperties.unit_of_rawState read, h⟩

theorem unsubscribe_minds {k : Option MatchId} (h : Holding c todo k r w)
    (connected : m.bus = some bus) :
    Safe (Service.bus path).library NoMatter (Succeeds fun w m' _ => m' = m ∧ Minds c todo r w)
      (Manager.unsubscribe k m) w := by
  cases k with
  | none => exact Safe.done stable_minds h.toMinds fun w h => ⟨rfl, h⟩
  | some k =>
    have removes : Manager.unsubscribe (some k) m =
        Manager.demand "remove PropertiesChanged match" (Wire.ask (.removeMatch k)) m := by
      simp only [Manager.unsubscribe, Action.get_bind, connected]
    rw [removes]
    refine Safe.ask stable_holding h (fun _ _ => trivial) ?_
    intro w a w' h ans
    cases ans
    exact Safe.done stable_minds (h.released h.held) fun w h => ⟨rfl, h⟩

end

/-! ## Requests -/

/-- Between the operations of a connection, with the signals that were handed over and not taken. -/
def Between (B : Option BusId → Prop) (P : Service → Prop) (x : Linked Service) : Prop :=
  B x.manager.bus ∧ ∃ handed, x.manager.arrivals = handed.map .signal ∧ P (x.bus.behind handed)

abbrev IsConnected (bus : Option BusId) : Prop := ∃ b, bus = some b

abbrev around (path : String → String) : Around (Option MatchId) (Linked Service) :=
  Linked.around (Service.bus path)

section

variable {path : String → String} {B C : Option BusId → Prop} {P P' : Service → Prop}
  {x : Linked Service} {s : State (Option MatchId)}

theorem Between.imp (h : Between B P x) (imp : ∀ w, P w → P' w) : Between B P' x := by
  obtain ⟨hb, handed, arrivals, hP⟩ := h
  exact ⟨hb, handed, arrivals, imp _ hP⟩

theorem stable_between (stable : (Service.bus path).library.Stable P) :
    (around path).Stable (Between B P) := by
  intro x x' step h
  obtain ⟨hb, handed, arrivals, hP⟩ := h
  cases step with
  | bus m step => exact ⟨hb, handed, arrivals, stable (step.behind handed) hP⟩
  | @signalled w w' signal m given =>
    obtain ⟨rest, inbox, rfl⟩ := given
    refine ⟨hb, handed ++ [signal], ?_, ?_⟩
    · simp [Manager.receive, show m.arrivals = handed.map .signal from arrivals]
    · have same :
          Service.behind { w with inbox := rest } (handed ++ [signal]) = w.behind handed := by
        simp [Service.behind, inbox]
      exact same ▸ hP
  | lost m lost => exact lost.elim

/-- A request that is carried out by the connection. -/
theorem ask_between {α : Type} {J : Linked Service → State (Option MatchId) →
      Request (Option MatchId) → Prop} {post : Linked Service → State (Option MatchId) → α → Prop}
    {q : Request (Option MatchId)} {resume : Answer q → Process (State (Option MatchId)) Answer α}
    {Q : Answer q → Service → Prop} (stable : (Service.bus path).library.Stable P)
    (h : Between B P x) (now : ∀ x, Between B P x → J x s q)
    (op : Manager → Process Manager Wire.Answer (Answer q)) (serves : ∀ m, m.serve q = some (op m))
    (spec : ∀ m w, B m.bus → P w → Safe (Service.bus path).library NoMatter
      (fun w m' a => C m'.bus ∧ m'.arrivals = m.arrivals ∧ Q a w) (op m) w)
    (later : ∀ x a, Between C (Q a) x → Safe (around path) J post (resume a) x) :
    Safe (around path) J post (.ask s q resume) x := by
  refine Safe.ask (stable_between stable) h now ?_
  intro x a x' h ans
  cases ans with
  | opened s m => cases serves m
  | taken | slept | time | noted => cases serves x.manager
  | @served _ _ p m m' w w' _ serves' run =>
    obtain ⟨hb, handed, arrivals, hP⟩ := h
    obtain rfl : op m = p := Option.some.inj ((serves m).symm.trans serves')
    obtain ⟨hc, same, hQ⟩ := Safe.of_carries (Service.carries_behind run handed) (spec m _ hb hP)
    exact later _ a ⟨hc, handed, same.trans arrivals, hQ⟩

end

end UnitWatch.Session.Staggered
