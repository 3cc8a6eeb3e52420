import UnitWatch.Proofs.Wire.Parts

/-!
# Operations of a sender side by side

A sender with all the operations that it was ever asked for. Each of them stands somewhere, and any
of them may go on by its next part (`World.Goes`); in between, connections are lost and more is
asked for (`World.Step`). No operation is ever stuck (`World.exists_goes`). Sends and closes that
nobody interrupts are a special case (`World.uninterrupted`).
-/

namespace UnitWatch.Wire

namespace Sender

/-! ## Operations side by side -/

namespace Stage

/-- What a close still has to close. -/
def left : {t : Errand} → Stage t → List BusId
  | .close, .closing left => left
  | _, _ => []

/-- A send is about to fetch a connection for the scope. -/
def Fetches : {t : Errand} → Stage t → BusScope → Prop
  | .send scope _, .prepared, scope' => scope' = scope
  | _, _, _ => False

/-- A close is about to take everything out of the cache. -/
def Takes : {t : Errand} → Stage t → Prop
  | .close, .begun => True
  | _, _ => False

end Stage

structure Operation where
  errand : Errand
  stage : Stage errand
  /-- What it has asked the library for, newest first. -/
  asked : List Exchange

/-- An opening or a call failed with the error. -/
def Operation.Met (o : Operation) (e : Error) : Prop :=
  (∃ scope, .opened scope (.error e) ∈ o.asked) ∨
    ∃ bus call, .notified bus call (.error e) ∈ o.asked

/-- What a close has taken out of the cache: it has yet to be closed, or has been asked to be. -/
def Operation.taken (o : Operation) : List BusId := o.stage.left ++ closings o.asked

/-- A sender with all operations that it has ever been asked for. -/
structure World where
  cache : Cache := []
  buses : Buses := {}
  operations : List Operation := []

namespace World

/-- The next part of an operation is done: where the operation stands before, what is asked for in
this part, and what it ends with. -/
inductive Goes : World → {t : Errand} → Stage t → List Exchange → Except Failure (Stage t) →
    World → Prop
  | mk (before after : List Operation) {t : Errand} {st : Stage t} {part : Step Cache (Stage t)}
      {earlier asked : List Exchange} {c c' : Cache} {b b' : Buses} {r : Except Failure (Stage t)}
      (here : st.part = some part) (run : Concludes library (part c) (b, []) c' r (b', asked)) :
      Goes ⟨c, b, before ++ ⟨t, st, earlier⟩ :: after⟩ st asked r
        ⟨c', b', before ++ ⟨t, .next r, asked ++ earlier⟩ :: after⟩

inductive Step : World → World → Prop
  | goes {w w' : World} {t : Errand} {st : Stage t} {asked : List Exchange}
      {r : Except Failure (Stage t)} (h : Goes w st asked r w') : Step w w'
  | begins (w : World) (t : Errand) :
      Step w { w with operations := w.operations ++ [⟨t, .begun, []⟩] }
  | lost (w : World) (bus : BusId) (here : bus ∈ w.buses.numbers) :
      Step w { w with buses := w.buses.lose bus }

/-- Any number of steps. -/
def Runs : World → World → Prop := Relation.ReflTransGen Step

/-- What closes have taken. -/
def taken (w : World) : List BusId := w.operations.flatMap Operation.taken

/-- A send was told that the connection is lost. -/
def FoundLost (w : World) (bus : BusId) : Prop := ∃ o ∈ w.operations, .probed bus false ∈ o.asked

/-- An operation that is not over can go on. -/
theorem exists_goes {w : World} {o : Operation} (member : o ∈ w.operations) :
    (∃ r, o.stage = .ended r) ∨ ∃ asked r w', Goes w o.stage asked r w' := by
  obtain ⟨cache, buses, operations⟩ := w
  obtain ⟨before, after, rfl⟩ := List.append_of_mem member
  obtain ⟨t, st, earlier⟩ := o
  cases here : st.part with
  | none =>
    refine .inl ?_
    cases st with
    | ended r => exact ⟨r, rfl⟩
    | begun => cases t <;> cases here
    | closing left => cases left <;> cases here
    | _ => cases here
  | some part =>
    refine .inr ?_
    obtain ⟨c', r, ⟨b', asked⟩, run⟩ := (Stage.part_leads here cache buses).exists_concludes (by
      intro w _ q _
      obtain ⟨a, granted⟩ := w.1.exists_grants q
      exact ⟨a, _, granted, rfl⟩)
    exact ⟨asked, r, _, .mk before after here run⟩

/-! ## An operation that nobody interrupts -/

/-- An operation at the stage is done to its end without others in between. -/
def Uninterrupted {t : Errand} (st : Stage t) : Prop :=
  ∀ (before after : List Operation) (c c' : Cache) (b b' : Buses) (asked asked' : List Exchange)
    (r : Except Failure Unit), Concludes library (st.rest c) (b, asked) c' r (b', asked') →
      Runs ⟨c, b, before ++ ⟨t, st, asked⟩ :: after⟩
        ⟨c', b', before ++ ⟨t, .ended r, asked'⟩ :: after⟩

theorem runs_of_drifts {w w' : Buses × List Exchange} (h : library.Drifts w w') (c : Cache)
    (operations : List Operation) : Runs ⟨c, w.1, operations⟩ ⟨c, w'.1, operations⟩ := by
  induction h with
  | refl => exact .refl
  | tail _ step ih =>
    obtain ⟨bus, here, rfl⟩ := step
    exact ih.tail (.lost _ bus here)

theorem uninterrupted_ended {t : Errand} (r : Except Failure Unit) :
    Uninterrupted (.ended r : Stage t) := by
  intro before after c c' b b' asked asked' r' run
  have ends : (.ended r : Stage t).rest c = .done c r := by cases t <;> cases r <;> rfl
  rw [ends] at run
  cases run with
  | done drifts =>
    obtain rfl : asked' = asked := (drifts_library drifts).1
    exact runs_of_drifts drifts c _

/-- A part, and then what is left. -/
theorem uninterrupted_of_part {t : Errand} {st : Stage t} {part : Wire.Step Cache (Stage t)}
    (here : st.part = some part)
    (later : ∀ c asked st' c', Does c st asked (.ok st') c' → Uninterrupted st') :
    Uninterrupted st := by
  intro before after c c' b b' asked asked' r run
  rw [Stage.rest_eq_part here] at run
  obtain ⟨c₁, r₁, ⟨b₁, asked₁⟩, first, rest⟩ := run.of_bind
  obtain ⟨more, rfl, again⟩ := concludes_after first
  have first := again []
  rw [List.append_nil] at first
  refine .head (.goes (.mk before after here first)) ?_
  match r₁, rest with
  | .ok st', rest => exact later _ _ _ _ (.of_concludes here first) _ _ _ _ _ _ _ _ _ rest
  | .error f, rest =>
    refine uninterrupted_ended (.error f) _ _ _ _ _ _ _ _ _ ?_
    have ends : (.ended (.error f) : Stage t).rest c₁ = .done c₁ (.error f) := by cases t <;> rfl
    rw [ends]
    exact rest

/-- **Operations one at a time.** Sends and closes that nobody interrupts are runs. -/
theorem uninterrupted {t : Errand} (st : Stage t) : Uninterrupted st := by
  -- From the last stage back to the first.
  have fetched {scope : BusScope} {call : NotifyCall} (bus : BusId) :
      Uninterrupted (.fetched bus : Stage (.send scope call)) := by
    refine uninterrupted_of_part rfl ?_
    rintro _ _ _ _ does
    cases does
    exact uninterrupted_ended _
  have prepared {scope : BusScope} {call : NotifyCall} :
      Uninterrupted (.prepared : Stage (.send scope call)) := by
    refine uninterrupted_of_part rfl ?_
    rintro _ _ _ _ does
    cases does <;> exact fetched _
  have closing (left : List BusId) : Uninterrupted (.closing left) := by
    induction left with
    | nil =>
      refine uninterrupted_of_part rfl ?_
      rintro _ _ _ _ does
      cases does
      exact uninterrupted_ended _
    | cons bus left ih =>
      refine uninterrupted_of_part rfl ?_
      rintro _ _ _ _ does
      cases does
      exact ih
  cases st with
  | begun =>
    cases t with
    | send =>
      refine uninterrupted_of_part rfl ?_
      rintro _ _ _ _ does
      cases does
      exact prepared
    | close =>
      refine uninterrupted_of_part rfl ?_
      rintro _ _ _ _ does
      cases does
      exact closing _
  | prepared => exact prepared
  | fetched bus => exact fetched bus
  | closing left => exact closing left
  | ended r => exact uninterrupted_ended r

end World

end Sender

end UnitWatch.Wire
