import UnitWatch.Proofs.Session.Standing

/-!
# Events chain across reconnects

However a session is surrounded, every event that it yields leads from one state to another, and
starts from where the last event of the unit led to. Every connection after the first begins with a
resync, and every loss comes after all that arrived before it (`events_chain`).

Each part of a session takes it from one standing to the next: `start` from `Starting` to
`Resyncing`, `openConnection` on to `Listening`, `listenOnce` back to `Listening` or to `Parted`.
-/

namespace UnitWatch.Session

open Safe (Succeeds Ends)

variable {η : Type}

namespace Journal

/-! ## What holds at every request -/

/-- Everything is in order; and before a signal, what the session knows is what it has been told. -/
def AtRequest (w : Journal η) (s : State η) (q : Request η) : Prop :=
  InOrder w ∧ (q = .nextSignal → Resynced (lastLost w.past) w.current ∧
    ∃ r, w.current.discovered = some r ∧ s.registry = replay r w.current.log)

/-- A failure that is no loss, with everything in order. -/
def Interrupted (w : Journal η) (_ : State η) (f : Failure) : Prop := InOrder w ∧ ¬IsLoss f

theorem InOrder.atRequest {w : Journal η} (h : InOrder w) (s : State η) {q : Request η}
    (hq : q ≠ .nextSignal) : AtRequest w s q :=
  ⟨h, fun wait => absurd wait hq⟩

variable {c : Plan} {w : Journal η} {s : State η}

section

variable {K : Journal η → Prop}

/-! ## Notes, and giving back -/

theorem note_of_quiet {r : Registry η} {n : Notice} (quiet : ∀ a b, n ≠ .started a b)
    (l : Leg η) : l.note r n = l := by
  cases n with
  | started a b => exact absurd rfl (quiet a b)
  | _ => rfl

/-- A note leaves worlds of any kind as they are. -/
theorem note_keeps {post : Journal η → State η → Except Failure Unit → Prop} {n : Notice}
    (stable : around.Stable K) (inOrder : ∀ w, K w → InOrder w) (h : K w)
    (quiet : ∀ a b, n ≠ .started a b) (imp : ∀ w, K w → post w s (.ok ())) :
    Safe around AtRequest post (note n s) w := by
  refine Safe.ask stable h (fun w h => (inOrder w h).atRequest s (by simp)) ?_
  intro w a w' h ans
  cases ans
  rw [note_of_quiet quiet]
  exact Safe.done stable h imp

/-- A subscription is given back in worlds of any kind. -/
theorem release_keeps (stable : around.Stable K) (inOrder : ∀ w, K w → InOrder w) (k : η)
    (h : K w) :
    Safe around AtRequest
      (Ends (fun w s' _ => s' = s ∧ K w) fun w _ f => K w ∧ ¬IsLoss f) (release k s) w := by
  refine Safe.ask stable h (fun w h => (inOrder w h).atRequest s (by simp)) ?_
  intro w a w' h ans
  have same : w' = w := by
    cases ans
    rfl
  subst same
  clear ans
  -- A bus that refuses is noted; any other failure goes on, and it is no loss.
  have refused (f : Failure) (other : ¬IsLoss f) : Safe around AtRequest
      (Ends (fun w s' (_ : Unit) => s' = s ∧ K w) fun w _ f => K w ∧ ¬IsLoss f)
      (.done s (.error f)) w' :=
    Safe.done stable h fun w h => ⟨h, other⟩
  obtain f | _ : Except Failure Unit := a
  · cases f with
    | fault f =>
      show Safe _ _ _ ((if f.isBusFault then note (.unsubscribeFailed f.message)
        else Action.fail (.fault f) : Step η Unit) s) w'
      split
      · exact note_keeps stable inOrder h (by simp) fun w h => ⟨rfl, h⟩
      · next other =>
        refine refused _ ?_
        rintro ⟨scope, ⟨⟩⟩
        exact other rfl
    | _ => exact refused _ (by simp [IsLoss])
  · exact Safe.done stable h fun w h => ⟨rfl, h⟩

end

/-! ## Tracking -/

/-- A standing in which a unit can be tracked: `P` before and after, `Q` between the subscription
and the fetch. -/
structure CanTrack (u : String) (r : Registry η) (P : Registry η → Journal η → Prop)
    (Q : η → Journal η → Prop) : Prop where
  stable : ∀ r, around.Stable (P r)
  stays : ∀ k, around.Stable (Q k)
  inOrder : ∀ r w, P r w → InOrder w
  subscribed : ∀ w k, P r w → Q k { w with current := w.current.remember (.subscribed u k) }
  forgets : ∀ w k, Q k w → P r w
  fetched : ∀ w k x, x.unit = u → Q k w →
    P (r.enroll u k x) { w with current := w.current.remember (.fetched u x) }
  unrecognized : ∀ w k, Q k w →
    P (r.insertPending u k) { w with current := w.current.remember (.unrecognized u) }

/-- Where tracking fails, nothing of the unit has been entered. -/
theorem CanTrack.fails {u : String} {P : Registry η → Journal η → Prop} {Q : η → Journal η → Prop}
    (t : CanTrack u s.registry P Q) (h : P s.registry w) {f : Failure} (noLoss : ¬IsLoss f) :
    Safe around AtRequest
      (Ends (fun w s' _ => P s'.registry w) fun w _ f => P s.registry w ∧ ¬IsLoss f)
      (.done s (.error f : Except Failure Unit)) w :=
  Safe.done (t.stable _) h fun _ h => ⟨h, noLoss⟩

/-- Tracking a unit ends where it started, with the unit enrolled or skipped. -/
theorem track_stands {u : String} {P : Registry η → Journal η → Prop} {Q : η → Journal η → Prop}
    (t : CanTrack u s.registry P Q) (h : P s.registry w) :
    Safe around AtRequest
      (Ends (fun w s' _ => P s'.registry w) fun w _ f => P s.registry w ∧ ¬IsLoss f)
      (track u s) w := by
  refine Safe.ask (t.stable _) h (fun w h => (t.inOrder _ w h).atRequest s (by simp)) ?_
  intro w a w' h ans
  cases ans with
  | notSubscribed _ f noLoss =>
    have fails := t.fails h noLoss
    cases f with
    | fault fault =>
      cases fault with
      | bus b =>
        cases b with
        | call call reason name =>
          exact note_keeps (t.stable _) (t.inOrder _) h (by simp) fun w h => h
        | connection scope reason => exact fails
        | disconnected scope => exact fails
      | _ => exact fails
    | crash _ => exact fails
    | cancelled => exact fails
  | subscribed _ k =>
    refine Safe.ask (t.stays k) (t.subscribed w k h)
      (fun w h => (t.inOrder _ w (t.forgets w k h)).atRequest s (by simp)) ?_
    intro w a w' h ans
    cases ans with
    | fetched _ x unit =>
      refine Safe.of_eq (enroll_eq u k x s) ?_
      refine note_keeps (t.stable _) (t.inOrder _) (t.fetched w k x unit h) ?_ fun w h => h
      unfold Notice.enrolled
      split <;> simp
    | unrecognized _ word =>
      exact note_keeps (t.stable _) (t.inOrder _) (t.unrecognized w k h) (by simp) fun w h => h
    | notFetched _ f noLoss other =>
      have h := t.forgets w k h
      have fails := t.fails h noLoss
      cases f with
      | fault fault =>
        cases fault with
        | bus b =>
          cases b with
          | call call reason name =>
            have noted (n : Notice) (quiet : ∀ a b, n ≠ .started a b) :
                Safe around AtRequest (Succeeds fun w s' _ => s' = s ∧ P s.registry w)
                  (note n s) w :=
              note_keeps (t.stable _) (t.inOrder _) h quiet fun w h => ⟨rfl, h⟩
            refine Safe.seq (noted (.stateUnavailable u _) (by simp)) ?_
            intro w s' _ hs
            obtain ⟨rfl, h⟩ := hs
            exact (release_keeps (t.stable _) (t.inOrder _) k h).weaken fun w s' r hr => by
              cases r with
              | ok _ => exact hr.1 ▸ hr.2
              | error f => exact hr
          | connection scope reason => exact fails
          | disconnected scope => exact fails
        | unknownActiveState word => exact absurd rfl (other word)
        | _ => exact fails
      | crash _ => exact fails
      | cancelled => exact fails

/-- Before the discovery, units are tracked without a trace. -/
theorem canTrack_starting (basis : Option Snapshot) (u : String) (r : Registry η) :
    CanTrack u r (fun r w => Starting basis w ∧ r.WellFormed)
      fun _ w => Starting basis w ∧ r.WellFormed where
  stable _ := fun _ _ step h => ⟨h.1.moves step, h.2⟩
  stays _ := fun _ _ step h => ⟨h.1.moves step, h.2⟩
  inOrder _ _ h := h.1.toInOrder
  subscribed w k h := by
    rw [h.1.remember]
    exact h
  forgets _ _ h := h
  fetched w k x unit h := by
    rw [h.1.remember]
    exact ⟨h.1, h.2.enroll k unit⟩
  unrecognized w k h := by
    rw [h.1.remember]
    exact ⟨h.1, h.2.insertPending u k⟩

theorem canTrack_listening {u : String} {r : Registry η} (fresh : r.get? u = none) :
    CanTrack u r (fun r w => Listening r [] w)
      fun k w => Listening r [] w ∧ ∃ log, w.current.log = .subscribed u k :: log where
  stable _ := fun _ _ step h => h.moves step
  stays _ := fun _ _ step h => ⟨h.1.moves step, by cases step; exact h.2⟩
  inOrder _ _ h := h.toInOrder
  subscribed w k h := ⟨h.subscribed u k, w.current.log, by rw [h.remember_eq]; rfl⟩
  forgets _ _ h := h.1
  fetched w k x unit h := by
    obtain ⟨h, log, last⟩ := h
    exact h.fetched fresh unit last
  unrecognized w k h := by
    obtain ⟨h, log, last⟩ := h
    exact h.unrecognized fresh last

/-! ## Opening -/

variable {basis : Option Snapshot}

/-- The events that are called for are due, whatever their times. -/
def Owing (basis : Option Snapshot) (r : Registry η) (w : Journal η) : Prop :=
  r.WellFormed ∧ ∀ ts, CalledFor basis r ts → Resyncing basis r ts w

section

variable {r : Registry η} {hand : List Transition}

theorem Owing.inOrder (h : Owing basis r w) : InOrder w := by
  cases basis with
  | none => exact (h.2 [] rfl).toInOrder
  | some snapshot =>
    have known : ((differences r snapshot).map (·.event 0)).map Transition.difference =
        differences r snapshot := List.map_map.trans (List.map_id _)
    exact (h.2 _ (isResync_of_differences h.1 known)).toInOrder

theorem InOrder.stable : around.Stable (InOrder (η := η)) := fun _ _ step h => h.moves step

theorem Parted.stable : around.Stable (Parted basis (η := η)) := fun _ _ step h => h.moves step

theorem Starting.stable : around.Stable (Starting basis (η := η)) := fun _ _ step h => h.moves step

theorem Owing.stable : around.Stable (Owing basis r) := fun _ _ step h =>
  ⟨h.1, fun ts calledFor => (h.2 ts calledFor).moves step⟩

theorem Resyncing.stable : around.Stable (Resyncing basis r hand) := fun _ _ step h => h.moves step

theorem Listening.stable : around.Stable (Listening r hand) := fun _ _ step h => h.moves step

end

/-- Units are tracked, one after the other. -/
theorem trackAll_stands (units : List String) (h : Starting basis w)
    (wellFormed : s.registry.WellFormed) :
    Safe around AtRequest
      (Ends (fun w s' _ => Starting basis w ∧ s'.registry.WellFormed) fun w _ _ => Parted basis w)
      (Action.each track units s) w := by
  refine Safe.each (I := fun _ w s' => Starting basis w ∧ s'.registry.WellFormed)
    ?_ ?_ (fun _ _ => Parted.stable) units ⟨h, wellFormed⟩
  · intro u _ w s' h
    refine (track_stands (canTrack_starting basis u s'.registry) h).weaken ?_
    intro w s'' r hr
    cases r with
    | ok _ => exact hr
    | error f => exact hr.1.1.toParted
  · intro w s' h
    exact Safe.done Starting.stable h.1 fun w hw => ⟨hw, h.2⟩

/-- A connection is started. After that the events of a resync are due. -/
theorem start_stands (h : Starting basis w) (wellFormed : s.registry.WellFormed) :
    Safe around AtRequest
      (Ends (fun w s' _ => Owing basis s'.registry w) fun w _ _ => Parted basis w)
      (start c s) w := by
  -- Before the discovery is complete, a failure leaves nothing but the way out.
  have failed (w : Journal η) (s : State η) (f : Failure) (h : Starting basis w) :
      Safe around AtRequest
        (Ends (fun w s' (_ : Unit) => Owing basis s'.registry w) fun w _ _ => Parted basis w)
        (.done s (.error f)) w :=
    Safe.done Starting.stable h fun w h => h.toParted
  refine Safe.ask Starting.stable h (fun w h => h.atRequest s (by simp)) ?_
  intro w a w' h ans
  cases ans
  cases a with
  | error f => exact failed w s f h
  | ok _ =>
    refine Safe.ask Starting.stable h (fun w h => h.atRequest _ (by simp)) ?_
    intro w a w' h ans
    cases ans
    cases a with
    | error f => exact failed w _ f h
    | ok _ =>
      refine Safe.ask Starting.stable h (fun w h => h.atRequest _ (by simp)) ?_
      intro w a w' h ans
      cases ans
      cases a with
      | error f => exact failed w _ f h
      | ok units =>
        refine Safe.andThen (trackAll_stands _ h wellFormed) ?_ ?_
        · intro w s' _ h
          obtain ⟨h, wellFormed⟩ := h
          refine Safe.ask Starting.stable h (fun w h => h.atRequest s' (by simp)) ?_
          intro w a w' h ans
          cases ans
          refine Safe.done Owing.stable ⟨wellFormed, fun ts calledFor => ?_⟩ fun w h => h
          exact h.discovered wellFormed _ _ calledFor
        · intro w s' f h
          exact Safe.done Parted.stable h fun w h => h

/-- What comes next: nothing, or the next connection. -/
def Onward (w : Journal η) (s : State η) : Option Stage → Prop
  | none => Listening s.registry [] w
  | some (.opening basis _) => Parted basis w
  | some .listening => False

/-- The events of a resync are yielded. -/
theorem emitAll_stands {ts : List Transition} (h : Resyncing basis s.registry ts w) :
    Safe around AtRequest
      (Ends (fun w s' _ => s' = s ∧ Resyncing basis s.registry [] w) fun w _ _ => InOrder w)
      (Action.each (fun t => demand (ask (.emit t))) ts s) w := by
  refine Safe.each (I := fun ts w s' => s' = s ∧ Resyncing basis s.registry ts w)
    ?_ ?_ (fun _ _ _ _ step h => InOrder.moves h step) ts
    ⟨rfl, h⟩
  · intro t rest w s' h
    obtain ⟨rfl, h⟩ := h
    refine Safe.ask Resyncing.stable h (fun w h => h.atRequest s' (by simp)) ?_
    intro w a w' h ans
    cases ans with
    | taken =>
      exact Safe.done Resyncing.stable h.yield fun w h => ⟨rfl, h⟩
    | notTaken _ f noLoss =>
      exact Safe.done Resyncing.stable h fun w h => h.toInOrder
  · intro w s' h
    exact Safe.done Resyncing.stable h.2 fun w hw => ⟨h.1, hw⟩

/-- After a pause comes the next connection. -/
theorem sleepThen_stands {n : Notice} (quiet : ∀ a b, n ≠ .started a b) (delay : Span)
    (attempt : Nat) (h : Parted basis w) :
    Safe around AtRequest (Ends Onward fun w _ _ => InOrder w)
      (sleepThen n delay (.opening basis attempt) s) w := by
  refine Safe.ask Parted.stable h (fun w h => h.atRequest s (by simp)) ?_
  intro w a w' h ans
  cases ans
  rw [note_of_quiet quiet]
  refine Safe.ask Parted.stable h (fun w h => h.atRequest s (by simp)) ?_
  intro w a w' h ans
  cases ans
  cases a with
  | error f => exact Safe.done Parted.stable h fun w h => h.toInOrder
  | ok _ => exact Safe.done Parted.stable h fun w h => h

theorem interlude_stands {p : Process (State η) (Answer (η := η)) (Except Failure (Option Stage))}
    (between : Interlude basis s p) (h : Parted basis w) :
    Safe around AtRequest (Ends Onward fun w _ _ => InOrder w) p w := by
  cases between with
  | fails f => exact Safe.done Parted.stable h fun w h => h.toInOrder
  | pauses quiet delay attempt => exact sleepThen_stands quiet delay attempt h

/-- A connection is opened: the session listens, or the connection has to be closed again. -/
theorem openConnection_stands (attempt : Nat) (h : Starting basis w)
    (wellFormed : s.registry.WellFormed) :
    Safe around AtRequest (Ends Onward fun w _ _ => InOrder w)
      (openConnection c basis attempt s) w := by
  refine (start_stands h wellFormed).attempt.seq ?_
  intro w s r hr
  cases r with
  | ok _ =>
    cases basis with
    | none =>
      have owing : Owing none s.registry w := hr
      exact Safe.done Listening.stable (owing.2 [] rfl).listen fun w h => h
    | some snapshot =>
      -- The clock is read for each event, and nothing is told meanwhile.
      have looks (w : Journal η) (h : Owing (some snapshot) s.registry w) : Safe around AtRequest
          (Succeeds fun w s' _ => s' = s ∧ Owing (some snapshot) s.registry w) (ask .clock s) w := by
        refine Safe.ask Owing.stable h (fun w h => h.inOrder.atRequest s (by simp)) ?_
        intro w now w' h ans
        cases ans
        exact Safe.done Owing.stable h fun w h => ⟨rfl, h⟩
      refine (resync_safe Owing.stable looks s.registry snapshot hr).seq ?_
      intro w s' ts hs
      obtain ⟨rfl, h, known⟩ := hs
      refine Safe.andThen (emitAll_stands (h.2 ts (isResync_of_differences h.1 known))) ?_ ?_
      · intro w s' _ h
        obtain ⟨rfl, h⟩ := h
        refine Safe.ask Resyncing.stable h (fun w h => h.atRequest s' (by simp)) ?_
        intro w a w' h ans
        cases ans
        exact Safe.done Listening.stable h.listen fun w h => h
      · intro w s' f h
        exact Safe.done InOrder.stable h fun w h => h
  | error f =>
    have failed (f : Failure) : Safe around AtRequest (Ends Onward fun w _ _ => InOrder w)
        (.done s (.error f : Except Failure (Option Stage))) w :=
      Safe.done Parted.stable hr fun w h => h.toInOrder
    cases f with
    | fault f =>
      show Safe _ _ _ ((if f.isBusFault then retry c basis attempt f.message
        else Action.fail (.fault f) : Step η (Option Stage)) s) w
      split
      · exact interlude_stands (retry_interlude c basis attempt f.message s) hr
      · exact failed _
    | crash _ => exact failed _
    | cancelled => exact failed _

/-! ## Listening -/

/-- A signal has been taken; what it brings depends on the time only in the time of the event. -/
def Heard (r : Registry η) (signal : Signal) (w : Journal η) : Prop :=
  ∀ now, Listening (react r now signal).1 (react r now signal).2.toList w

theorem Heard.stable {r : Registry η} {signal : Signal} : around.Stable (Heard r signal) :=
  fun _ _ step h now => (h now).moves step

theorem changed_stands {x : RawState} (h : Heard s.registry (.changed x) w) :
    Safe around AtRequest
      (Ends (fun w s' event => Listening s'.registry event.toList w) Interrupted)
      (handleSignal c (.changed x) s) w := by
  cases he : s.registry.get? x.unit with
  | none =>
    have h : Listening s.registry [] w := by simpa [react_of_untracked 0 he] using h 0
    rw [handleSignal_changed_of_none he]
    exact Safe.done Listening.stable h fun w h => h
  | some e =>
    cases hx : x.report? with
    | none =>
      have h : Listening s.registry [] w := by simpa [react_of_unrecognized _ 0 hx] using h 0
      rw [handleSignal_changed_of_unrecognized he hx]
      refine Safe.ask Listening.stable h (fun w h => h.atRequest s (by simp)) ?_
      intro w a w' h ans
      cases ans
      exact Safe.done Listening.stable h fun w h => h
    | some report =>
      rw [handleSignal_changed he hx]
      refine Safe.ask Heard.stable h (fun w h => (h 0).atRequest s (by simp)) ?_
      intro w now w' h ans
      cases ans
      -- The signal is heard for any time; this one is the time of its event.
      have h : Listening (s.registry.apply report now).1 (e.update report now).2.toList w := by
        simpa only [react_of_recognized now he hx] using h now
      cases event : (e.update report now).2 with
      | none =>
        rw [event] at h
        exact Safe.done Listening.stable h fun w h => h
      | some t =>
        rw [event] at h
        refine Safe.ask Listening.stable h (fun w h => h.atRequest _ (by simp)) ?_
        intro w a w' h ans
        cases ans
        exact Safe.done Listening.stable h fun w h => h

theorem added_stands {u : String} (h : Heard s.registry (.added u) w) :
    Safe around AtRequest
      (Ends (fun w s' event => Listening s'.registry event.toList w) Interrupted)
      (handleSignal c (.added u) s) w := by
  have h : Listening s.registry [] w := h 0
  cases he : s.registry.get? u with
  | some e =>
    rw [handleSignal_added_of_some he]
    exact Safe.done Listening.stable h fun w h => h
  | none =>
    cases watched : c.watches u with
    | false =>
      rw [handleSignal_added_of_not_watched watched]
      exact Safe.done Listening.stable h fun w h => h
    | true =>
      rw [handleSignal_added he watched]
      refine Safe.andThen (track_stands (canTrack_listening he) h) ?_ ?_
      · intro w s' _ h
        exact Safe.done Listening.stable h fun w h => h
      · intro w s' f h
        exact Safe.done Listening.stable h.1 fun w hw => ⟨hw.toInOrder, h.2⟩

theorem removed_stands {u : String} (h : Heard s.registry (.removed u) w) :
    Safe around AtRequest
      (Ends (fun w s' event => Listening s'.registry event.toList w) Interrupted)
      (handleSignal c (.removed u) s) w := by
  have h : Listening (s.registry.evict u) [] w := h 0
  cases he : s.registry.get? u with
  | none =>
    rw [Registry.evict_of_get?_none he] at h
    rw [handleSignal_removed_of_none he]
    exact Safe.done Listening.stable h fun w h => h
  | some e =>
    rw [handleSignal_removed he]
    refine Safe.andThen (release_keeps Listening.stable (fun w h => h.toInOrder) e.subscription h)
      ?_ ?_
    · intro w s' _ h
      obtain ⟨rfl, h⟩ := h
      refine Safe.ask Listening.stable h (fun w h => h.atRequest _ (by simp)) ?_
      intro w a w' h ans
      cases ans
      exact Safe.done Listening.stable h fun w h => h
    · intro w s' f h
      exact Safe.done Listening.stable h.1 fun w hw => ⟨hw.toInOrder, h.2⟩

theorem handleSignal_stands {signal : Signal} (h : Heard s.registry signal w) :
    Safe around AtRequest
      (Ends (fun w s' event => Listening s'.registry event.toList w) Interrupted)
      (handleSignal c signal s) w := by
  cases signal with
  | changed x => exact changed_stands h
  | added u => exact added_stands h
  | removed u => exact removed_stands h
  | other kind =>
    have h : Listening s.registry [] w := h 0
    refine Safe.ask Listening.stable h (fun w h => h.atRequest s (by simp)) ?_
    intro w a w' h ans
    cases ans
    exact Safe.done Listening.stable h fun w h => h

/-- What is known when a failure says that the connection is lost. -/
def Disconnected (w : Journal η) (s : State η) (f : Failure) : Prop :=
  InOrder w ∧ (IsLoss f → Parted (some s.registry.states) w)

theorem listenOnce_stands (h : Listening s.registry [] w) :
    Safe around AtRequest (Ends (fun w s' _ => Listening s'.registry [] w) Disconnected)
      (listenOnce c s) w := by
  refine Safe.ask Listening.stable h
    (fun w h => ⟨h.toInOrder, fun _ => ⟨h.resynced, h.replayed⟩⟩) ?_
  intro w a w' h ans
  cases ans with
  | signalled signal next =>
    have heard : Heard s.registry signal { w with current := w.current.hear s.registry signal } :=
      h.hear next
    refine Safe.andThen (handleSignal_stands heard) ?_ ?_
    · intro w s' event h
      cases event with
      | none => exact Safe.done Listening.stable h fun w h => h
      | some t =>
        refine Safe.ask Listening.stable h (fun w h => h.atRequest s' (by simp)) ?_
        intro w a w' h ans
        cases ans with
        | taken => exact Safe.done Listening.stable h.yield fun w h => h
        | notTaken _ f noLoss =>
          exact Safe.done Listening.stable h fun w h =>
            ⟨h.toInOrder, fun loss => absurd loss noLoss⟩
    · intro w s' f h
      exact Safe.done InOrder.stable h.1 fun w hw => ⟨hw, fun loss => absurd loss h.2⟩
  | lost scope next =>
    exact Safe.done Parted.stable (h.lose next) fun w h => ⟨h.toInOrder, fun _ => h⟩
  | interrupted f noLoss =>
    exact Safe.done Listening.stable h fun w h => ⟨h.toInOrder, fun loss => absurd loss noLoss⟩

/-- A signal is handled: the session goes on listening, or the connection is lost. -/
theorem listen_stands (h : Listening s.registry [] w) :
    Safe around AtRequest (Ends Onward fun w _ _ => InOrder w) (listen c s) w := by
  refine (listenOnce_stands h).attempt.seq ?_
  intro w s r hr
  cases r with
  | ok _ => exact Safe.done Listening.stable hr fun w h => h
  | error f =>
    have failed (f : Failure) : Safe around AtRequest (Ends Onward fun w _ _ => InOrder w)
        (.done s (.error f : Except Failure (Option Stage))) w :=
      Safe.done InOrder.stable hr.1 fun w h => h
    cases f with
    | fault fault =>
      cases fault with
      | bus b =>
        cases b with
        | disconnected scope =>
          have h : Parted (some s.registry.states) w := hr.2 ⟨scope, rfl⟩
          exact interlude_stands (recover_interlude c s) h
        | _ => exact failed _
      | _ => exact failed _
    | crash _ => exact failed _
    | cancelled => exact failed _

/-! ## Stages -/

/-- On the way out of a connection the registry is emptied, and nothing is told. -/
theorem teardown_stands {K : Journal η → Prop} (stable : around.Stable K)
    (inOrder : ∀ w, K w → InOrder w) (h : K w) :
    Safe around AtRequest
      (Ends (fun w s' _ => K w ∧ s'.registry.WellFormed) fun w _ _ => K w) (teardown s) w := by
  show Safe _ _ _ ((Action.each (fun e => release e.subscription) s.registry.entries >>= _)
    { s with registry := s.registry.drain }) w
  have released : Safe around AtRequest
      (Ends (fun w s' _ => K w ∧ s'.registry.WellFormed) fun w _ _ => K w)
      (Action.each (fun e => release e.subscription) s.registry.entries
        { s with registry := s.registry.drain }) w := by
    refine Safe.each (I := fun _ w s' => K w ∧ s'.registry.WellFormed) ?_ ?_ (fun _ _ => stable) _
      ⟨h, Registry.WellFormed.drain s.registry⟩
    · intro e _ w s' h
      refine (release_keeps stable inOrder e.subscription h.1).weaken ?_
      intro w s'' r hr
      cases r with
      | ok _ => exact ⟨hr.2, hr.1 ▸ h.2⟩
      | error f => exact hr.1
    · intro w s' h
      exact Safe.done stable h.1 fun w hw => ⟨hw, h.2⟩
  refine released.andThen ?_ fun w s' f h => Safe.done stable h fun w h => h
  intro w s' _ h
  obtain ⟨h, wellFormed⟩ := h
  refine Safe.ask stable h (fun w h => (inOrder w h).atRequest _ (by simp)) ?_
  intro w a w' h ans
  cases ans
  cases a with
  | error f => exact Safe.done stable h fun w h => h
  | ok _ => exact Safe.done stable h fun w h => ⟨h, wellFormed⟩

/-- Where a stage can start. -/
def Stands : Stage → Journal η → State η → Prop
  | .opening basis _, w, s => Parted basis w ∧ s.registry.WellFormed
  | .listening, w, s => Listening s.registry [] w

/-- What a stage ends with: where the next one can start, or with everything in order. -/
abbrev Leaves : Journal η → State η → Except Failure Stage → Prop :=
  Hands Stands fun w _ _ => InOrder w

theorem closing_stands {x : Step η (Option Stage)}
    (h : Safe around AtRequest (Ends Onward fun w _ _ => InOrder w) (x s) w) :
    Safe around AtRequest Leaves (closing x s) w := by
  refine closing_safe h ?_ ?_ ?_
  · intro w s h
    exact Safe.done Listening.stable h fun w h => h
  · intro w s next h
    match next, h with
    | .opening basis attempt, h =>
      have h : Parted basis w := h
      refine (teardown_stands Parted.stable (fun _ h => h.toInOrder) h).andThen ?_ ?_
      · intro w s _ h
        exact Safe.done Parted.stable h.1 fun w hw => ⟨hw, h.2⟩
      · intro w s f h
        exact Safe.done Parted.stable h fun w h => h.toInOrder
  · intro w s f h
    refine (teardown_stands InOrder.stable (fun _ h => h) h).andThen ?_ ?_
    · intro w s _ h
      exact Safe.done InOrder.stable h.1 fun w h => h
    · intro w s f h
      exact Safe.done InOrder.stable h fun w h => h

/-- Every stage leaves everything in order. -/
theorem stage_stands (st : Stage) (w : Journal η) (s : State η) (h : Stands st w s) :
    Safe around AtRequest Leaves (stage c st s) w := by
  cases st with
  | opening basis attempt =>
    obtain ⟨h, wellFormed⟩ := h
    refine Safe.ask Parted.stable h (fun w h => h.atRequest s (by simp)) ?_
    intro w a w' h ans
    cases ans with
    | opened => exact closing_stands (openConnection_stands attempt h.opened wellFormed)
    | notOpened f => exact Safe.done Parted.stable h fun w h => h.toInOrder
  | listening => exact closing_stands (listen_stands h)

theorem inOrder_of_safe {p : Phase η} (h : Safe around AtRequest Leaves p w) : InOrder w := by
  cases p with
  | ask s q resume => exact (h w .refl).1.1
  | done s r =>
    match r, h w .refl with
    | .ok (.opening basis attempt), h => exact h.1.toInOrder
    | .ok .listening, h => exact h.toInOrder
    | .error f, h => exact h

/-- Before the first connection nothing has happened. -/
theorem stands_initial (scope : BusScope) :
    Stands (.opening none 0) (⟨{}, []⟩ : Journal η) (State.initial scope) := by
  refine ⟨⟨⟨⟨?_, ?_, trivial⟩, trivial⟩, rfl, ?_⟩, .empty scope⟩
  · intro h
    simp at h
  · intro _ h
    cases h
  · intro u x h
    cases h

theorem Consistent.of_append {newer older : List (Leg η)} (h : Consistent (newer ++ older)) :
    Consistent older := by
  induction newer with
  | nil => exact h
  | cons l newer ih => exact ih h.2.2

/-- **Events chain across reconnects.** However a session is surrounded:

- every event leads from one state to another, and from where the event before it about the same
  unit led to, if the unit was not evicted in between and every discovery in between settled it;
- the events of a connection before its first signal are a resync of what was discovered with what
  was known when a connection was last lost, and they are all there when the session takes a
  signal;
- a loss comes after everything that arrived before it, and what is known then is what came of
  it. -/
theorem events_chain (c : Plan) {w : Journal η} {p : Phase η}
    (run : Runs c around (⟨{}, []⟩, begin c) (w, p)) :
    (∀ t, .yielded t ∈ w.history → t.previous ≠ t.current) ∧
    (∀ newer t' between t older,
      w.history = newer ++ .yielded t' :: (between ++ .yielded t :: older) →
      t'.unit.name = t.unit.name → (∀ x, .yielded x ∈ between → x.unit.name ≠ t.unit.name) →
      .evicted t.unit.name ∉ between →
      (∀ r, .discovered r ∈ between → (r.stateOf t.unit.name).isSome = true) →
      t'.previous = t.current) ∧
    (∀ newer l older, w.legs = newer ++ l :: older →
      ((l.log ≠ [] ∨ l.lost.isSome = true) → Resynced (lastLost older) l) ∧ LostLast l) ∧
    ∀ s resume, p = .ask s .nextSignal resume → Resynced (lastLost w.past) w.current ∧
      ∃ r, w.current.discovered = some r ∧ s.registry = replay r w.current.log := by
  have safe := run.safe stage_stands (stage_stands _ _ _ (stands_initial c.scope))
  have inOrder := inOrder_of_safe safe
  refine ⟨fun t ht => inOrder.chained.ne ht, ?_, ?_, ?_⟩
  · intro newer t' between t older split
    exact (split ▸ inOrder.chained).link
  · intro newer l older split
    have consistent := split ▸ inOrder.consistent
    exact ⟨consistent.of_append.1, consistent.of_append.2.1⟩
  · rintro s resume rfl
    exact (safe w .refl).1.2 rfl

/-! ## A failure before a loss -/

/-- The unit is active when it is discovered. -/
def discovery : Leg Nat where
  discovered := some ⟨.system, [⟨⟨.system, "web"⟩, some .active, some 3, 0⟩]⟩

/-- The unit fails, and the connection is lost. -/
def breakdown : Leg Nat where
  arrived := [.signal (.changed ⟨"web", "failed", some 7, none⟩), .loss]
  taken := 2
  discovered := discovery.discovered
  log := [.yielded ⟨⟨.system, "web"⟩, .active, .failed, 0⟩,
    .heard (.changed ⟨"web", "failed", some 7, none⟩)]
  lost := some [("web", .failed)]

/-- The unit is active again when it is discovered again. -/
def recovery : Leg Nat where
  discovered := some ⟨.system, [⟨⟨.system, "web"⟩, some .active, some 9, 1⟩]⟩
  resynced := [⟨⟨.system, "web"⟩, .failed, .active, 1⟩]

/-- A session that knows the unit in a state. -/
def knowing (state : ActiveState) (timestamp : Int) (subscription : Nat) : State Nat :=
  ⟨⟨.system, [⟨⟨.system, "web"⟩, some state, some timestamp, subscription⟩]⟩, true⟩

theorem to_discovery : Runs Plan.everything around (⟨{}, []⟩, begin .everything)
    (⟨discovery, [{}]⟩, stage .everything .listening (knowing .active 3 0)) := by
  refine .head (.answer _ (.opened _ _)) ?_
  refine .head (.answer _ (.connected _ _ (.ok ()))) ?_
  refine .head (.answer _ (.subscribedManager _ _ (.ok ()))) ?_
  refine .head (.answer _ (.listed _ _ (.ok ["web"]))) ?_
  refine .head (.answer _ (.subscribed _ _ _ 0)) ?_
  refine .head (.answer _ (.fetched _ _ _ ⟨"web", "active", some 3, none⟩ rfl)) ?_
  refine .head (.answer _ (.noted _ _ _)) ?_
  refine .head (.answer _ (.noted _ _ _)) ?_
  exact .head (.next _ _ _) .refl

theorem to_breakdown : Runs Plan.everything around
    (⟨discovery, [{}]⟩, stage .everything .listening (knowing .active 3 0))
    (⟨breakdown, [{}]⟩,
      stage .everything (.opening (some [("web", .failed)]) 1) ⟨⟨.system, []⟩, false⟩) := by
  refine .head (.move _ (.arrive _ (.signal (.changed ⟨"web", "failed", some 7, none⟩)))) ?_
  refine .head (.move _ (.arrive _ .loss)) ?_
  refine .head (.answer _ (.signalled _ _ _ rfl)) ?_
  refine .head (.answer _ (.time _ _ 0)) ?_
  refine .head (.answer _ (.noted _ _ _)) ?_
  refine .head (.answer _ (.taken _ _ _)) ?_
  refine .head (.next _ _ _) ?_
  refine .head (.answer _ (.lost _ _ "system" rfl)) ?_
  refine .head (.answer _ (.noted _ _ _)) ?_
  refine .head (.answer _ (.slept _ _ _ (.ok ()))) ?_
  refine .head (.answer _ (.unsubscribed _ _ _ (.ok ()))) ?_
  refine .head (.answer _ (.closed _ _ (.ok ()))) ?_
  exact .head (.next _ _ _) .refl

theorem to_recovery : Runs Plan.everything around
    (⟨breakdown, [{}]⟩,
      stage .everything (.opening (some [("web", .failed)]) 1) ⟨⟨.system, []⟩, false⟩)
    (⟨recovery, [breakdown, {}]⟩, stage .everything .listening (knowing .active 9 1)) := by
  refine .head (.answer _ (.opened _ _)) ?_
  refine .head (.answer _ (.connected _ _ (.ok ()))) ?_
  refine .head (.answer _ (.subscribedManager _ _ (.ok ()))) ?_
  refine .head (.answer _ (.listed _ _ (.ok ["web"]))) ?_
  refine .head (.answer _ (.subscribed _ _ _ 1)) ?_
  refine .head (.answer _ (.fetched _ _ _ ⟨"web", "active", some 9, none⟩ rfl)) ?_
  refine .head (.answer _ (.noted _ _ _)) ?_
  refine .head (.answer _ (.noted _ _ _)) ?_
  refine .head (.answer _ (.time _ _ 1)) ?_
  refine .head (.answer _ (.taken _ _ _)) ?_
  refine .head (.answer _ (.noted _ _ _)) ?_
  exact .head (.next _ _ _) .refl

/-- The event of the resync starts from the failure, which was the last event of the lost
connection. -/
theorem events_chain_after_breakdown :
    Runs Plan.everything around (⟨{}, []⟩, begin .everything)
        (⟨recovery, [breakdown, {}]⟩, stage .everything .listening (knowing .active 9 1)) ∧
      Resynced (some [("web", .failed)]) recovery ∧
      ∀ t' ∈ recovery.resynced, ∀ t, .yielded t ∈ breakdown.log → t'.previous = t.current := by
  have run := (to_discovery.trans to_breakdown).trans to_recovery
  obtain ⟨-, link, -, waits⟩ := events_chain .everything run
  refine ⟨run, (waits _ _ rfl).1, ?_⟩
  intro t' ht' t ht
  obtain rfl : t' = ⟨⟨.system, "web"⟩, .failed, .active, 1⟩ := by simpa [recovery] using ht'
  obtain rfl : t = ⟨⟨.system, "web"⟩, .active, .failed, 0⟩ := by simpa [breakdown] using ht
  refine link [] _ [.discovered ⟨.system, [⟨⟨.system, "web"⟩, some .active, some 9, 1⟩]⟩] _ _
    rfl rfl (by simp) (by simp) ?_
  simp [Registry.stateOf, Registry.get?]

end Journal

end UnitWatch.Session
