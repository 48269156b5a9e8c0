import Mathlib
import ImageBuild.Log

/-!
# Results of logged outcomes

The records of an outcome never decide its result: each way to build an outcome
is described here by its result alone.
-/

namespace ImageBuild.Logged

variable {ε δ α β : Type}

@[simp] theorem result_pure (a : α) : (pure a : Logged ε α).result = .ok a := rfl

@[simp] theorem result_fail (e : ε) : (fail e : Logged ε α).result = .error e := rfl

@[simp] theorem result_note (level : LogLevel) (topic : LogTopic) (text : String) :
    (note level topic text : Logged ε Unit).result = .ok () := rfl

@[simp] theorem result_ofExcept (x : Except ε α) : (ofExcept x).result = x := rfl

@[simp] theorem result_liftM (x : Except ε α) : (liftM x : Logged ε α).result = x := rfl

@[simp] theorem result_mapError (f : ε → δ) (x : Logged ε α) :
    (x.mapError f).result = x.result.mapError f := rfl

/-- What nothing is noted on leaves the records of what follows alone. -/
theorem pure_bind (a : α) (f : α → Logged ε β) : (pure a >>= f) = f a := rfl

/-- Only a success goes on. -/
theorem result_bind (x : Logged ε α) (f : α → Logged ε β) :
    (x >>= f).result = x.result.bind fun a => (f a).result := by
  obtain ⟨records, result⟩ := x
  cases result with
  | error e => rfl
  | ok a => rfl

/-- A sequence succeeds exactly when both its parts do. -/
theorem result_bind_eq_ok_iff {x : Logged ε α} {f : α → Logged ε β} {b : β} :
    (x >>= f).result = .ok b ↔ ∃ a, x.result = .ok a ∧ (f a).result = .ok b := by
  rw [result_bind]
  cases x.result with
  | error e => simp [Except.bind]
  | ok a => simp [Except.bind]

/-- What follows only has to agree on what a sequence goes on with. -/
theorem bind_congr {x : Logged ε α} {f g : α → Logged ε β}
    (h : ∀ a, x.result = .ok a → f a = g a) : (x >>= f) = (x >>= g) := by
  obtain ⟨records, result⟩ := x
  cases result with
  | error e => rfl
  | ok a =>
      show (⟨records ++ (f a).records, (f a).result⟩ : Logged ε β) =
        ⟨records ++ (g a).records, (g a).result⟩
      rw [h a rfl]

theorem result_map (g : α → β) (x : Logged ε α) : (g <$> x).result = x.result.map g := by
  change (x >>= fun a => pure (g a)).result = _
  rw [result_bind]
  cases x.result with
  | error e => rfl
  | ok a => rfl

end ImageBuild.Logged

namespace ImageBuild

/-- Giving a failure another form makes no success of it. -/
theorem mapError_eq_ok_iff {ε δ α : Type} {f : ε → δ} {x : Except ε α} {a : α} :
    x.mapError f = .ok a ↔ x = .ok a := by
  cases x with
  | error e => simp [Except.mapError]
  | ok b => simp [Except.mapError]

end ImageBuild
