import Mathlib.Logic.Relation
import UnitWatch.Process

/-!
# Processes among others

While a process waits at a request, the world around it goes on. What it can rely on is what no move
of the world undoes.

**Environments.** An environment says how a world may move by itself, and how it may answer a
request, given the state that the process waits in. An answer may change the world as well.

**Safety** (`Safe`). A process is safe from a world on when, whatever the world does, `J` holds each
time the process waits at a request, and `post` holds of its result. Safety is closed under moves of
the world (`Safe.drift`), and composes along `Process.bind` (`Safe.bind`), so a program is proved
part by part: the postcondition of one part is the precondition of the next.

**Endings** (`Concludes`). Whatever a safe process ends with has `post` (`Safe.post_of_concludes`).
It does come to an end if whatever it may ask can be answered (`Safe.exists_concludes`).
-/

namespace UnitWatch

/-- What is around a process that keeps states `σ` and asks requests `Q`. -/
structure Environment (σ : Type) {Q : Type} (A : Q → Type) (ω : Type) where
  /-- What may happen while the process waits. -/
  moves : ω → ω → Prop
  /-- What a request may be answered, and the world after that. -/
  answers : ω → σ → (q : Q) → A q → ω → Prop

namespace Environment

variable {σ Q ω : Type} {A : Q → Type}

/-- Any number of moves. -/
def Drifts (e : Environment σ A ω) : ω → ω → Prop := Relation.ReflTransGen e.moves

/-- What no move of the world undoes. -/
def Stable (e : Environment σ A ω) (P : ω → Prop) : Prop := ∀ ⦃w w'⦄, e.moves w w' → P w → P w'

theorem Stable.drifts {e : Environment σ A ω} {P : ω → Prop} (stable : e.Stable P) {w w' : ω}
    (h : e.Drifts w w') (hw : P w) : P w' := by
  induction h with
  | refl => exact hw
  | tail _ step ih => exact stable step ih

end Environment

/-- Whatever the world does, `J` holds at every request of the process, and `post` at its end. -/
def Safe {σ Q ω : Type} {A : Q → Type} {α : Type} (e : Environment σ A ω) (J : ω → σ → Q → Prop)
    (post : ω → σ → α → Prop) : Process σ A α → ω → Prop
  | .done s r, w => ∀ w', e.Drifts w w' → post w' s r
  | .ask s q resume, w => ∀ w', e.Drifts w w' → J w' s q ∧
      ∀ a w'', e.answers w' s q a w'' → Safe e J post (resume a) w''

namespace Safe

variable {σ Q ω α β ι : Type} {A : Q → Type} {e : Environment σ A ω} {J : ω → σ → Q → Prop}

/-! ## Structure -/

theorem drift {post : ω → σ → α → Prop} {p : Process σ A α} {w w' : ω} (h : Safe e J post p w)
    (hw : e.Drifts w w') : Safe e J post p w' := by
  cases p with
  | done s r => exact fun w'' hw' => h w'' (hw.trans hw')
  | ask s q resume => exact fun w'' hw' => h w'' (hw.trans hw')

theorem of_eq {post : ω → σ → α → Prop} {p p' : Process σ A α} {w : ω} (eq : p = p')
    (h : Safe e J post p' w) : Safe e J post p w :=
  eq ▸ h

theorem move {post : ω → σ → α → Prop} {p : Process σ A α} {w w' : ω} (h : Safe e J post p w)
    (hw : e.moves w w') : Safe e J post p w' :=
  h.drift (Relation.ReflTransGen.single hw)

theorem weaken {post post' : ω → σ → α → Prop} {p : Process σ A α} {w : ω}
    (h : Safe e J post p w) (imp : ∀ w s r, post w s r → post' w s r) : Safe e J post' p w := by
  induction p generalizing w with
  | done s r => exact fun w' hw => imp _ _ _ (h w' hw)
  | ask s q resume ih =>
    exact fun w' hw => ⟨(h w' hw).1, fun a w'' ha => ih a ((h w' hw).2 a w'' ha)⟩

/-- **Composition.** What the first part ends with is what the second part starts from. -/
theorem bind {mid : ω → σ → α → Prop} {post : ω → σ → β → Prop} {p : Process σ A α}
    {next : σ → α → Process σ A β} {w : ω} (h : Safe e J mid p w)
    (then' : ∀ w s r, mid w s r → Safe e J post (next s r) w) : Safe e J post (p.bind next) w := by
  induction p generalizing w with
  | done s r => exact then' w s r (h w .refl)
  | ask s q resume ih =>
    exact fun w' hw => ⟨(h w' hw).1, fun a w'' ha => ih a ((h w' hw).2 a w'' ha)⟩

/-- What neither moves nor answers undo is kept along. -/
theorem keeping {post : ω → σ → α → Prop} {p : Process σ A α} {w : ω} {K : ω → Prop}
    (h : Safe e J post p w) (hw : K w) (stable : e.Stable K)
    (answers : ∀ w s q a w', e.answers w s q a w' → K w → K w') :
    Safe e J (fun w s r => post w s r ∧ K w) p w := by
  induction p generalizing w with
  | done s r => exact fun w' hd => ⟨h w' hd, stable.drifts hd hw⟩
  | ask s q resume ih =>
    exact fun w' hd => ⟨(h w' hd).1, fun a w'' ha =>
      ih a ((h w' hd).2 a w'' ha) (answers w' s q a w'' ha (stable.drifts hd hw))⟩

/-! ## Rules with stable assertions -/

/-- A request in worlds of which `P` holds. -/
theorem ask {post : ω → σ → α → Prop} {s : σ} {q : Q} {resume : A q → Process σ A α} {w : ω}
    {P : ω → Prop} (stable : e.Stable P) (hw : P w) (now : ∀ w, P w → J w s q)
    (later : ∀ w a w', P w → e.answers w s q a w' → Safe e J post (resume a) w') :
    Safe e J post (.ask s q resume) w := by
  intro w' hd
  have hw' := stable.drifts hd hw
  exact ⟨now w' hw', fun a w'' ha => later w' a w'' hw' ha⟩

theorem done {post : ω → σ → α → Prop} {s : σ} {r : α} {w : ω} {P : ω → Prop}
    (stable : e.Stable P) (hw : P w) (imp : ∀ w, P w → post w s r) :
    Safe e J post (.done s r) w :=
  fun _ hd => imp _ (stable.drifts hd hw)

/-! ## Actions -/

/-- What an action ends with that does not fail. -/
def Succeeds (P : ω → σ → α → Prop) (w : ω) (s : σ) : Except Failure α → Prop
  | .ok a => P w s a
  | .error _ => False

theorem Succeeds.imp {P P' : ω → σ → α → Prop} {w : ω} {s : σ} {r : Except Failure α}
    (h : Succeeds P w s r) (imp : ∀ a, P w s a → P' w s a) : Succeeds P' w s r := by
  cases r with
  | ok a => exact imp a h
  | error _ => exact h

/-- What an action ends with: a value, or a failure. -/
def Ends (P : ω → σ → α → Prop) (E : ω → σ → Failure → Prop) (w : ω) (s : σ) :
    Except Failure α → Prop
  | .ok a => P w s a
  | .error f => E w s f

/-- One action after another that does not fail. -/
theorem seq {mid : ω → σ → α → Prop} {post : ω → σ → Except Failure β → Prop} {x : Action σ A α}
    {f : α → Action σ A β} {s : σ} {w : ω} (h : Safe e J (Succeeds mid) (x s) w)
    (ok : ∀ w s a, mid w s a → Safe e J post (f a s) w) : Safe e J post ((x >>= f) s) w := by
  refine h.bind ?_
  intro w s r hr
  cases r with
  | ok a => exact ok w s a hr
  | error r => exact hr.elim

/-- One action after another; a failure of the first is the end. -/
theorem andThen {mid : ω → σ → Except Failure α → Prop} {post : ω → σ → Except Failure β → Prop}
    {x : Action σ A α} {f : α → Action σ A β} {s : σ} {w : ω} (h : Safe e J mid (x s) w)
    (ok : ∀ w s a, mid w s (.ok a) → Safe e J post (f a s) w)
    (error : ∀ w s r, mid w s (.error r) → Safe e J post (.done s (.error r)) w) :
    Safe e J post ((x >>= f) s) w := by
  refine h.bind ?_
  intro w s r hr
  cases r with
  | ok a => exact ok w s a hr
  | error r => exact error w s r hr

/-- Recording how an action ends. -/
theorem attempt {post : ω → σ → Except Failure α → Prop} {x : Action σ A α} {s : σ} {w : ω}
    (h : Safe e J post (x s) w) : Safe e J (Succeeds post) (Action.attempt x s) w := by
  unfold Action.attempt
  generalize x s = p at h
  induction p generalizing w with
  | done s r => exact h
  | ask s q resume ih =>
    exact fun w' hw => ⟨(h w' hw).1, fun a w'' ha => ih a ((h w' hw).2 a w'' ha)⟩

/-- An action that does not fail needs no cleanup. -/
theorem unfailing {P : ω → σ → α → Prop} {x : Action σ A α} {cleanup : Action σ A Unit} {s : σ}
    {w : ω} (h : Safe e J (Succeeds P) (x s) w) :
    Safe e J (Succeeds P) (Action.onFailure x cleanup s) w := by
  refine of_eq (Process.bind_assoc (x s) _ _) ?_
  generalize x s = p at h
  induction p generalizing w with
  | done s r =>
    cases r with
    | ok a => exact h
    | error f => exact (h w .refl).elim
  | ask s q resume ih =>
    exact fun w' hw => ⟨(h w' hw).1, fun a w'' ha => ih a ((h w' hw).2 a w'' ha)⟩

/-- One action for each item: an assertion about the items that are left leads from the first to the
last. -/
theorem each {f : ι → Action σ A Unit} {post : ω → σ → Except Failure Unit → Prop}
    {I : List ι → ω → σ → Prop}
    (step : ∀ i rest w s, I (i :: rest) w s → Safe e J
      (fun w s r => match r with | .ok _ => I rest w s | .error r => post w s (.error r)) (f i s) w)
    (stop : ∀ w s, I [] w s → Safe e J post (.done s (.ok ())) w)
    (stable : ∀ s r, e.Stable fun w => post w s (.error r)) (is : List ι) {w : ω} {s : σ}
    (h : I is w s) : Safe e J post (Action.each f is s) w := by
  induction is generalizing w s with
  | nil => exact stop w s h
  | cons i rest ih =>
    refine (step i rest w s h).andThen (fun w s _ h => ih h) ?_
    intro w s r h
    exact done (stable s r) h fun _ h => h

/-- One action that does not fail for each item. -/
theorem eachSucceeds {f : ι → Action σ A Unit} {P : ω → σ → Unit → Prop}
    {I : List ι → ω → σ → Prop}
    (step : ∀ i rest w s, I (i :: rest) w s →
      Safe e J (Succeeds fun w s _ => I rest w s) (f i s) w)
    (stop : ∀ w s, I [] w s → Safe e J (Succeeds P) (.done s (.ok ())) w) (is : List ι) {w : ω}
    {s : σ} (h : I is w s) : Safe e J (Succeeds P) (Action.each f is s) w := by
  refine each (fun i rest w s h => (step i rest w s h).weaken ?_) stop
    (fun _ _ _ _ _ => id) is h
  intro w s r hr
  cases r with
  | ok _ => exact hr
  | error _ => exact hr

/-- The values of one action that does not fail for each item: an assertion about the items that are
done, and about their values, leads from the first to the last. -/
theorem collectSucceeds {f : ι → Action σ A β} {I : List ι → List β → ω → σ → Prop}
    (stable : ∀ is bs s, e.Stable (I is bs · s))
    (step : ∀ is bs i w s, I is bs w s →
      Safe e J (Succeeds fun w s b => I (is ++ [i]) (bs ++ [b]) w s) (f i s) w)
    (is : List ι) {w : ω} {s : σ} (h : I [] [] w s) :
    Safe e J (Succeeds fun w s bs => I is bs w s) (Action.collect f is s) w := by
  -- by induction on the items that are left, behind those that are done
  suffices onward : ∀ is' bs' w s, I is' bs' w s →
      Safe e J (Succeeds fun w s bs => I (is' ++ is) (bs' ++ bs) w s) (Action.collect f is s) w by
    exact onward [] [] w s h
  clear h
  induction is with
  | nil =>
    intro is' bs' w s h
    refine done (stable is' bs' s) h fun w h => ?_
    simpa [Succeeds] using h
  | cons i rest ih =>
    intro is' bs' w s h
    refine (step is' bs' i w s h).seq ?_
    intro w s b h
    refine (ih _ _ w s h).seq ?_
    intro w s bs h
    refine done (stable _ _ s) h fun w h => ?_
    simpa [Succeeds] using h

end Safe

/-! ## Coming to an end -/

/-- A process that starts in a world may come to an end: with which state and result, and in which
world. -/
inductive Concludes {σ Q ω : Type} {A : Q → Type} {α : Type} (e : Environment σ A ω) :
    Process σ A α → ω → σ → α → ω → Prop
  | done {s : σ} {r : α} {w w' : ω} (drifts : e.Drifts w w') : Concludes e (.done s r) w s r w'
  | ask {s s' : σ} {q : Q} {resume : A q → Process σ A α} {a : A q} {r : α} {w w₁ w₂ w' : ω}
      (drifts : e.Drifts w w₁) (answers : e.answers w₁ s q a w₂)
      (rest : Concludes e (resume a) w₂ s' r w') : Concludes e (.ask s q resume) w s' r w'

theorem Concludes.of_drifts {σ Q ω α : Type} {A : Q → Type} {e : Environment σ A ω}
    {p : Process σ A α} {w w₁ w' : ω} {s : σ} {r : α} (drifts : e.Drifts w w₁)
    (h : Concludes e p w₁ s r w') : Concludes e p w s r w' := by
  cases h with
  | done later => exact .done (drifts.trans later)
  | ask later answers rest => exact .ask (drifts.trans later) answers rest

/-- The second part of a process begins where the first one has ended. -/
theorem Concludes.of_bind {σ Q ω α β : Type} {A : Q → Type} {e : Environment σ A ω}
    {p : Process σ A α} {next : σ → α → Process σ A β} {w w' : ω} {s' : σ} {r : β}
    (h : Concludes e (p.bind next) w s' r w') :
    ∃ s a w₁, Concludes e p w s a w₁ ∧ Concludes e (next s a) w₁ s' r w' := by
  induction p generalizing w with
  | done s a => exact ⟨s, a, w, .done .refl, h⟩
  | ask s q resume ih =>
    cases h with
    | ask drifts answers rest =>
      obtain ⟨s₁, a, w₁, first, second⟩ := ih _ rest
      exact ⟨s₁, a, w₁, .ask drifts answers first, second⟩

namespace Safe

variable {σ Q ω α : Type} {A : Q → Type} {e : Environment σ A ω} {J : ω → σ → Q → Prop}
  {post : ω → σ → α → Prop} {p : Process σ A α} {w : ω}

/-- What a safe process ends with. -/
theorem post_of_concludes {s : σ} {r : α} {w' : ω} (h : Safe e J post p w)
    (ends : Concludes e p w s r w') : post w' s r := by
  induction ends with
  | done drifts => exact h _ drifts
  | ask drifts answers _ ih => exact ih ((h _ drifts).2 _ _ answers)

/-- A safe process that asks only what can be answered comes to its end. -/
theorem exists_concludes (h : Safe e J post p w)
    (answered : ∀ w s q, J w s q → ∃ a w', e.answers w s q a w') :
    ∃ s r w', Concludes e p w s r w' := by
  induction p generalizing w with
  | done s r => exact ⟨s, r, w, .done .refl⟩
  | ask s q resume ih =>
    obtain ⟨now, later⟩ := h w .refl
    obtain ⟨a, w', answers⟩ := answered w s q now
    obtain ⟨s', r, w'', rest⟩ := ih a (later a w' answers)
    exact ⟨s', r, w'', .ask .refl answers rest⟩

end Safe

end UnitWatch
