import UnitWatch.Proofs.Interference
import UnitWatch.Wire.Sender

/-!
# Operations of a sender, part by part

A sender is asked to send and to close at any time, whether or not it is done with what it was asked
before. The operations share nothing but the cache, which is touched in two places: where a send
fetches its connection, and where a close takes everything out. Nobody else comes in between there.

**Parts** (`Stage.part`). An operation is done in parts, and others may be done between two of its
parts. Part after part is the operation: what is left of it is its next part and what is left then
(`Stage.rest_eq_part`).

**The library** (`library`). Connections are private, so one that is opened has a number of its own.
It may be lost at any time, also in the middle of a part, and says whether it was. Whatever else the
library is asked may be answered in any way: openings, calls and closings fail with any error.

**What a part does** (`Does`). There are ten cases, and `Stage.part_leads` says that there are no
others.
-/

namespace UnitWatch

namespace Wire

/-! ## What is asked of the library -/

/-- A request, and what it was answered. -/
structure Exchange where
  request : Request
  answer : Answer request

namespace Exchange

abbrev opened (scope : BusScope) (r : Except Error BusId) : Exchange := ⟨.openBus scope, r⟩

abbrev outlived (bus : BusId) : Exchange := ⟨.outlive bus, ()⟩

abbrev probed (bus : BusId) (connected : Bool) : Exchange := ⟨.isConnected bus, connected⟩

abbrev notified (bus : BusId) (call : NotifyCall) (r : Except Error Unit) : Exchange :=
  ⟨.notify bus call, r⟩

abbrev closed (bus : BusId) (r : Except Error Unit) : Exchange := ⟨.close bus, r⟩

/-- The connection that was opened. -/
def opening? : Exchange → Option (BusId × BusScope)
  | ⟨.openBus scope, .ok bus⟩ => some (bus, scope)
  | _ => none

/-- The connection that was asked to be closed. -/
def closing? : Exchange → Option BusId
  | ⟨.close bus, _⟩ => some bus
  | _ => none

/-- No connection is concerned. -/
def Aside : Exchange → Prop
  | ⟨.installed _, _⟩ | ⟨.loopRunning, _⟩ | ⟨.startLoop, _⟩ | ⟨.note _, _⟩ => True
  | _ => False

/-- A send ends with it. -/
def Settles : Exchange → Prop
  | ⟨.openBus _, .error _⟩ | ⟨.notify _ _, _⟩ => True
  | _ => False

theorem Aside.not_settles {x : Exchange} (h : x.Aside) : ¬x.Settles := by
  rcases x with ⟨q, a⟩
  cases q <;> first | exact id | exact h.elim

theorem Aside.opening?_eq {x : Exchange} (h : x.Aside) : x.opening? = none := by
  rcases x with ⟨q, a⟩
  cases q <;> first | rfl | exact h.elim

theorem Aside.closing?_eq {x : Exchange} (h : x.Aside) : x.closing? = none := by
  rcases x with ⟨q, a⟩
  cases q <;> first | rfl | exact h.elim

end Exchange

/-- The connections that were opened. -/
def openings (asked : List Exchange) : List (BusId × BusScope) := asked.filterMap Exchange.opening?

/-- The connections that were asked to be closed. -/
def closings (asked : List Exchange) : List BusId := asked.filterMap Exchange.closing?

/-- The private connections of a library. -/
structure Buses where
  /-- What has been opened, with its scope, newest first. -/
  opened : List (BusId × BusScope) := []
  lost : List BusId := []

namespace Buses

def numbers (b : Buses) : List BusId := b.opened.map (·.1)

/-- What a request may be answered. -/
def Grants (b : Buses) : (q : Request) → Answer q → Prop
  | .openBus _, .ok bus => bus ∉ b.numbers
  | .isConnected bus, connected => connected = !b.lost.contains bus
  | _, _ => True

def after (b : Buses) (x : Exchange) : Buses :=
  { b with opened := x.opening?.toList ++ b.opened }

def lose (b : Buses) (bus : BusId) : Buses := { b with lost := bus :: b.lost }

/-- Every request can be answered. -/
theorem exists_grants (b : Buses) (q : Request) : ∃ a, b.Grants q a := by
  cases q with
  | openBus => exact ⟨(.error default : Except Error BusId), trivial⟩
  | isConnected bus => exact ⟨_, rfl⟩
  | installed | loopRunning => exact ⟨(true : Bool), trivial⟩
  | uniqueName => exact ⟨("" : String), trivial⟩
  | startLoop | outlive | reportLoss | note => exact ⟨(), trivial⟩
  | listUnits => exact ⟨(.error default : Except Error (List String)), trivial⟩
  | findUnit => exact ⟨(.error default : Except Error String), trivial⟩
  | readProperties => exact ⟨(.error default : Except Error (List (String × Value))), trivial⟩
  | addMatch => exact ⟨(.error default : Except Error MatchId), trivial⟩
  | subscribe | removeMatch | notify | close =>
    exact ⟨(.error default : Except Error Unit), trivial⟩

theorem nodup_after {b : Buses} {q : Request} {a : Answer q} (granted : b.Grants q a)
    (h : b.numbers.Nodup) : (b.after ⟨q, a⟩).numbers.Nodup := by
  cases q with
  | openBus scope =>
    match a with
    | .ok bus => exact List.nodup_cons.2 ⟨granted, h⟩
    | .error _ => exact h
  | _ => exact h

end Buses

/-- The library around a part of an operation, with what the part has asked for, newest first. -/
def library : Environment Cache Answer (Buses × List Exchange) where
  moves w w' := ∃ bus ∈ w.1.numbers, w' = (w.1.lose bus, w.2)
  answers w _ q a w' := w.1.Grants q a ∧ w' = (w.1.after ⟨q, a⟩, ⟨q, a⟩ :: w.2)

/-! ## Parts of operations -/

namespace Sender

/-- What a sender is asked to do. -/
inductive Errand where
  | send (scope : BusScope) (call : NotifyCall)
  | close

/-- The connection for a call. -/
def fetch (scope : BusScope) (call : NotifyCall) : Step Cache BusId := do
  match ← busFor scope with
  | .error e => Action.fail (call.failure e)
  | .ok bus => return bus

def transmit (call : NotifyCall) (bus : BusId) : Step Cache Unit := do
  match ← ask (.notify bus call) with
  | .error e => Action.fail (call.failure e)
  | .ok () => return

/-- Takes all connections out of the cache. -/
def takeAll : Step Cache (List BusId) := do
  let c ← Action.get
  Action.modify fun _ => []
  return c.map (·.2)

theorem send_eq (scope : BusScope) (call : NotifyCall) :
    send scope call = (do prepare scope; transmit call (← fetch scope call)) := by
  refine congrArg (prepare scope >>= ·) ?_
  funext _
  rw [fetch, Action.bind_assoc]
  refine congrArg (busFor scope >>= ·) ?_
  funext r
  cases r <;> rfl

/-- Where an operation stands. -/
inductive Stage : Errand → Type where
  | begun {t : Errand} : Stage t
  | prepared {scope : BusScope} {call : NotifyCall} : Stage (.send scope call)
  | fetched {scope : BusScope} {call : NotifyCall} (bus : BusId) : Stage (.send scope call)
  | closing (left : List BusId) : Stage .close
  | ended {t : Errand} (r : Except Failure Unit) : Stage t

namespace Stage

/-- The next part of an operation that is not over. -/
def part : {t : Errand} → Stage t → Option (Step Cache (Stage t))
  | .send scope _, .begun => some do prepare scope; return .prepared
  | .send scope call, .prepared => some do return .fetched (← fetch scope call)
  | .send _ call, .fetched bus => some do transmit call bus; return .ended (.ok ())
  | .close, .begun => some do return .closing (← takeAll)
  | .close, .closing (bus :: left) => some do closeBus bus; return .closing left
  | .close, .closing [] => some (return .ended (.ok ()))
  | _, .ended _ => none

/-- All that is left of an operation. -/
def rest : {t : Errand} → Stage t → Step Cache Unit
  | .send scope call, .begun => send scope call
  | .send scope call, .prepared => do transmit call (← fetch scope call)
  | .send _ call, .fetched bus => transmit call bus
  | .close, .begun => close
  | .close, .closing left => Action.each closeBus left
  | _, .ended r => Action.ofExcept r

/-- Where an operation stands after a part; a failure is its end. -/
def next {t : Errand} : Except Failure (Stage t) → Stage t
  | .ok st => st
  | .error f => .ended (.error f)

theorem bind_ended (x : Step Cache Unit) :
    (do x; Action.ofExcept (.ok ()) : Step Cache Unit) = x := by
  funext s
  show (x s).bind _ = x s
  generalize x s = p
  induction p with
  | done s r => cases r <;> rfl
  | ask s q resume ih => exact congrArg (Process.ask s q) (funext ih)

/-- **Part after part is the operation.** -/
theorem rest_eq_part {t : Errand} {st : Stage t} {x : Step Cache (Stage t)} (h : st.part = some x) :
    st.rest = x >>= rest := by
  cases st with
  | begun =>
    cases t with
    | send scope call =>
      cases h
      rw [Action.bind_assoc]
      exact send_eq scope call
    | close =>
      cases h
      rw [Action.bind_assoc]
      rfl
  | prepared =>
    cases h
    rw [Action.bind_assoc]
    rfl
  | fetched bus =>
    cases h
    rw [Action.bind_assoc]
    exact (bind_ended _).symm
  | closing left =>
    -- A close goes on with one connection after the other.
    cases left with
    | nil =>
      cases h
      rfl
    | cons bus left =>
      cases h
      rw [Action.bind_assoc]
      rfl
  | ended r => cases t <;> cases h

end Stage

/-! ## What a part does -/

/-- Whatever the library grants, `R` holds of the cache and the result that a process ends with, and
of what has been asked for until then. -/
def Leads {α : Type} (R : Cache → α → List Exchange → Prop) (p : Process Cache Answer α)
    (asked : List Exchange) : Prop :=
  ∀ b, Safe library (fun _ _ _ => True) (fun w c r => R c r w.2) p (b, asked)

namespace Leads

variable {α β : Type} {R : Cache → α → List Exchange → Prop} {asked : List Exchange} {c : Cache}

theorem stable_asked (P : List Exchange → Prop) : library.Stable fun w => P w.2 := by
  rintro w _ ⟨bus, -, rfl⟩ h
  exact h

theorem done {r : α} (h : R c r asked) : Leads R (.done c r) asked :=
  fun _ => Safe.done (stable_asked (R c r)) h fun _ h => h

theorem ask {q : Request} {resume : Answer q → Process Cache Answer α}
    (h : ∀ a, Leads R (resume a) (⟨q, a⟩ :: asked)) : Leads R (.ask c q resume) asked := by
  intro b
  refine Safe.ask (stable_asked (· = asked)) rfl (fun _ _ => trivial) ?_
  rintro w a _ rfl ⟨-, rfl⟩
  exact h a _

theorem andThen {M : Cache → Except Failure β → List Exchange → Prop}
    {R : Cache → Except Failure α → List Exchange → Prop} {x : Step Cache β}
    {f : β → Step Cache α} (h : Leads M (x c) asked)
    (ok : ∀ c a asked, M c (.ok a) asked → Leads R (f a c) asked)
    (error : ∀ c e asked, M c (.error e) asked → R c (.error e) asked) :
    Leads R ((x >>= f) c) asked := by
  intro b
  refine (h b).andThen (fun w c a hw => ok c a w.2 hw w.1) ?_
  intro w c e hw
  exact done (error c e w.2 hw) w.1

end Leads

/-- Why a connection is opened for a scope: none is cached, or the one that is says that it is
lost. -/
inductive Missing (scope : BusScope) (c : Cache) : List Exchange → Prop
  | never (none : c.lookup scope = none) : Missing scope c []
  | lost {bus : BusId} (cached : c.lookup scope = some bus) : Missing scope c [.probed bus false]

theorem Missing.probed {scope : BusScope} {c : Cache} {tried : List Exchange}
    (h : Missing scope c tried) : ∀ x ∈ tried, ∃ bus, x = .probed bus false := by
  cases h with
  | never => exact List.forall_mem_nil _
  | lost => exact List.forall_mem_singleton.2 ⟨_, rfl⟩

/-- What a part does that finds the cache `c`: what it asks the library for, newest first, what it
ends with, and the cache that it leaves. -/
inductive Does (c : Cache) : {t : Errand} → Stage t → List Exchange → Except Failure (Stage t) →
    Cache → Prop
  | prepares {scope : BusScope} {call : NotifyCall} {asked : List Exchange}
      (aside : ∀ x ∈ asked, x.Aside) :
      Does c (.begun : Stage (.send scope call)) asked (.ok .prepared) c
  | cannot {scope : BusScope} {call : NotifyCall} {asked : List Exchange} (f : Failure)
      (aside : ∀ x ∈ asked, x.Aside) :
      Does c (.begun : Stage (.send scope call)) asked (.error f) c
  | reuses {scope : BusScope} {call : NotifyCall} {bus : BusId}
      (cached : c.lookup scope = some bus) :
      Does c (.prepared : Stage (.send scope call)) [.probed bus true] (.ok (.fetched bus)) c
  | opens {scope : BusScope} {call : NotifyCall} {tried : List Exchange} (bus : BusId)
      (missing : Missing scope c tried) :
      Does c (.prepared : Stage (.send scope call))
        (.outlived bus :: .opened scope (.ok bus) :: tried) (.ok (.fetched bus)) (c.keep scope bus)
  | refused {scope : BusScope} {call : NotifyCall} {tried : List Exchange} (e : Error)
      (missing : Missing scope c tried) :
      Does c (.prepared : Stage (.send scope call)) (.opened scope (.error e) :: tried)
        (.error (call.failure e)) c
  | acknowledged {scope : BusScope} {call : NotifyCall} (bus : BusId) :
      Does c (.fetched bus : Stage (.send scope call)) [.notified bus call (.ok ())]
        (.ok (.ended (.ok ()))) c
  | fails {scope : BusScope} {call : NotifyCall} (bus : BusId) (e : Error) :
      Does c (.fetched bus : Stage (.send scope call)) [.notified bus call (.error e)]
        (.error (call.failure e)) c
  | takes : Does c (.begun : Stage .close) [] (.ok (.closing (c.map (·.2)))) []
  | closes {bus : BusId} {left : List BusId} (noted : List Exchange) (r : Except Error Unit)
      (aside : ∀ x ∈ noted, x.Aside) :
      Does c (.closing (bus :: left)) (noted ++ [.closed bus r]) (.ok (.closing left)) c
  | finishes : Does c (.closing []) [] (.ok (.ended (.ok ()))) c

theorem need_leads (scope : BusScope) (p : Component) (c : Cache) {asked : List Exchange}
    (aside : ∀ x ∈ asked, x.Aside) :
    Leads (fun c' _ asked => c' = c ∧ ∀ x ∈ asked, x.Aside) (need scope p c) asked := by
  refine .ask fun a => ?_
  have more : ∀ x ∈ (⟨.installed p, a⟩ : Exchange) :: asked, x.Aside :=
    List.forall_mem_cons.2 ⟨trivial, aside⟩
  cases a
  · exact .done ⟨rfl, more⟩
  · exact .done ⟨rfl, more⟩

theorem prepare_leads (scope : BusScope) (c : Cache) :
    Leads (fun c' _ asked => c' = c ∧ ∀ x ∈ asked, x.Aside) (prepare scope c) [] := by
  refine (need_leads scope .library c (List.forall_mem_nil _)).andThen ?_ fun _ _ _ h => h
  rintro _ _ asked ⟨rfl, aside⟩
  refine .ask fun a => ?_
  have more : ∀ x ∈ (⟨.loopRunning, a⟩ : Exchange) :: asked, x.Aside :=
    List.forall_mem_cons.2 ⟨trivial, aside⟩
  cases a with
  | true => exact .done ⟨rfl, more⟩
  | false =>
    refine (need_leads scope .loop _ more).andThen ?_ fun _ _ _ h => h
    rintro _ _ asked ⟨rfl, aside⟩
    refine .ask fun _ => .ask fun _ => .done ⟨rfl, ?_⟩
    exact List.forall_mem_cons.2 ⟨trivial, List.forall_mem_cons.2 ⟨trivial, aside⟩⟩

/-- How a connection is fetched for a call. -/
theorem fetch_leads (scope : BusScope) (call : NotifyCall) (c : Cache) :
    Leads (fun c' r asked => Does c (.prepared : Stage (.send scope call)) asked
      (r.map .fetched) c') (fetch scope call c) [] := by
  cases cached : c.lookup scope with
  | none =>
    simp only [fetch, busFor, bind, Action.bind, Action.get, Process.done_bind, cached, isUsable]
    refine .ask fun a => ?_
    cases a with
    | ok bus => exact .ask fun _ => .done (.opens bus (.never cached))
    | error e => exact .done (.refused e (.never cached))
  | some old =>
    simp only [fetch, busFor, bind, Action.bind, Action.get, Process.done_bind, cached, isUsable]
    refine .ask fun connected => ?_
    cases connected with
    | true => exact .done (.reuses cached)
    | false =>
      refine .ask fun a => ?_
      cases a with
      | ok bus => exact .ask fun _ => .done (.opens bus (.lost cached))
      | error e => exact .done (.refused e (.lost cached))

/-- A close does not fail, leaves nothing in the cache, and asks for all that was in it to be
closed, whether or not it can be. -/
theorem close_leads (c : Cache) :
    Leads (fun c' r asked => c' = [] ∧ r = .ok () ∧ closings asked = (c.map (·.2)).reverse)
      (close c) [] := by
  have closes (left done : List BusId) (asked : List Exchange) (past : closings asked = done) :
      Leads (fun c' r asked => c' = [] ∧ r = .ok () ∧ closings asked = left.reverse ++ done)
        (Action.each closeBus left []) asked := by
    induction left generalizing done asked with
    | nil => exact .done ⟨rfl, rfl, past⟩
    | cons bus left ih =>
      have more (r : Except Error Unit) : closings (.closed bus r :: asked) = bus :: done :=
        congrArg (bus :: ·) past
      rw [List.reverse_cons, List.append_assoc]
      refine .ask fun a => ?_
      match a with
      | .ok () => exact ih (bus :: done) _ (more (.ok ()))
      | .error e => exact .ask fun _ => ih (bus :: done) _ (more (.error e))
  have all := closes (c.map (·.2)) [] [] rfl
  rwa [List.append_nil] at all

theorem closeBus_leads (bus : BusId) (left : List BusId) (c : Cache) :
    Leads (fun c' r asked => Does c (.closing (bus :: left)) asked (r.map fun _ => .closing left)
      c') (closeBus bus c) [] := by
  refine .ask fun a => ?_
  match a with
  | .ok () => exact .done (.closes [] (.ok ()) (List.forall_mem_nil _))
  | .error e =>
    have aside : ∀ x ∈ [(⟨.note (.notifierBusNotClosed e.display), ()⟩ : Exchange)], x.Aside :=
      List.forall_mem_singleton.2 trivial
    exact .ask fun _ => .done (.closes _ (.error e) aside)

/-- Whatever the library grants, a part does one of these things. -/
theorem Stage.part_leads {t : Errand} {st : Stage t} {x : Step Cache (Stage t)}
    (h : st.part = some x) (c : Cache) :
    Leads (fun c' r asked => Does c st asked r c') (x c) [] := by
  cases st with
  | begun =>
    cases t with
    | send scope call =>
      cases h
      refine (prepare_leads scope c).andThen ?_ ?_
      · rintro _ _ asked ⟨rfl, aside⟩
        exact .done (.prepares aside)
      · rintro _ f asked ⟨rfl, aside⟩
        exact .cannot f aside
    | close =>
      cases h
      exact .done .takes
  | @prepared scope call =>
    cases h
    exact (fetch_leads scope call c).andThen (fun _ _ _ h => .done h) fun _ _ _ h => h
  | fetched bus =>
    cases h
    refine .ask fun a => ?_
    match a with
    | .ok () => exact .done (.acknowledged bus)
    | .error e => exact .done (.fails bus e)
  | closing left =>
    cases left with
    | nil =>
      cases h
      exact .done .finishes
    | cons bus left =>
      cases h
      exact (closeBus_leads bus left c).andThen (fun _ _ _ h => .done h) fun _ _ _ h => h
  | ended r => cases t <;> cases h

theorem Does.of_concludes {t : Errand} {st : Stage t} {x : Step Cache (Stage t)} {c c' : Cache}
    {b b' : Buses} {asked : List Exchange} {r : Except Failure (Stage t)} (h : st.part = some x)
    (run : Concludes library (x c) (b, []) c' r (b', asked)) : Does c st asked r c' :=
  (Stage.part_leads h c b).post_of_concludes run

/-! ## What becomes of the library -/

section

variable {α : Type} {p : Process Cache Answer α} {c c' : Cache} {r : α} {b b' : Buses}
  {asked asked' : List Exchange}

theorem drifts_library {w w' : Buses × List Exchange} (h : library.Drifts w w') :
    w'.2 = w.2 ∧ w'.1.opened = w.1.opened := by
  induction h with
  | refl => exact ⟨rfl, rfl⟩
  | tail _ step ih =>
    obtain ⟨bus, -, rfl⟩ := step
    exact ih

/-- What was asked for accounts for what has been opened, and no number is given twice. -/
theorem account_of_concludes {w w' : Buses × List Exchange} (run : Concludes library p w c r w') :
    ∃ asked, w'.2 = asked ++ w.2 ∧ w'.1.opened = openings asked ++ w.1.opened ∧
      (w.1.numbers.Nodup → w'.1.numbers.Nodup) := by
  induction run with
  | done drifts =>
    obtain ⟨asked, opened⟩ := drifts_library drifts
    exact ⟨[], asked, opened, fun h => by rwa [Buses.numbers, opened]⟩
  | @ask s s' q resume a r w w₁ w₂ w' drifts answers rest ih =>
    obtain ⟨asked, opened⟩ := drifts_library drifts
    obtain ⟨granted, rfl⟩ := answers
    obtain ⟨later, asked', opened', nodup⟩ := ih
    refine ⟨later ++ [⟨q, a⟩], ?_, ?_, ?_⟩
    · rw [asked', asked, List.append_assoc]
      rfl
    · rw [opened', Buses.after, opened, openings, openings, List.filterMap_append,
        List.append_assoc]
      cases h : Exchange.opening? ⟨q, a⟩ <;> simp [h]
    · intro before
      refine nodup (Buses.nodup_after granted ?_)
      rwa [Buses.numbers, opened]

/-- It is no matter what was asked for before. -/
theorem concludes_after {w w' : Buses × List Exchange} (run : Concludes library p w c r w') :
    ∃ asked, w'.2 = asked ++ w.2 ∧
      ∀ earlier, Concludes library p (w.1, earlier) c r (w'.1, asked ++ earlier) := by
  have drifts_after {w w' : Buses × List Exchange} (h : library.Drifts w w')
      (earlier : List Exchange) : library.Drifts (w.1, earlier) (w'.1, earlier) := by
    induction h with
    | refl => exact .refl
    | tail _ step ih =>
      obtain ⟨bus, here, rfl⟩ := step
      exact ih.tail ⟨bus, here, rfl⟩
  induction run with
  | done drifts =>
    exact ⟨[], (drifts_library drifts).1, fun earlier => .done (drifts_after drifts earlier)⟩
  | @ask s s' q resume a r w w₁ w₂ w' drifts answers rest ih =>
    obtain ⟨granted, rfl⟩ := answers
    obtain ⟨later, asked', again⟩ := ih
    refine ⟨later ++ [⟨q, a⟩], ?_, fun earlier => ?_⟩
    · rw [asked', (drifts_library drifts).1, List.append_assoc]
      rfl
    · have rest := again (⟨q, a⟩ :: earlier)
      rw [List.append_assoc]
      exact .ask (drifts_after drifts earlier) ⟨granted, rfl⟩ rest

end

end Sender

end Wire

end UnitWatch
