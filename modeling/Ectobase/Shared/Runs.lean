import Mathlib.Data.List.Basic

namespace Ectobase.Shared

variable {S Op : Type}

-- P holds of every operation of a run at the state the operation meets.
def Along (step : S -> Op -> S) (P : S -> Op -> Prop) : S -> List Op -> Prop
  | _, [] => True
  | s, op :: ops => P s op /\ Along step P (step s op) ops

instance Along.decidable (step : S -> Op -> S) (P : S -> Op -> Prop) [∀ s op, Decidable (P s op)] :
  ∀ s ops, Decidable (Along step P s ops)
  | _, [] => isTrue trivial
  | s, op :: ops =>
    have := Along.decidable step P (step s op) ops
    inferInstanceAs (Decidable (P s op /\ Along step P (step s op) ops))

lemma along_true (step : S -> Op -> S) (s : S) (ops : List Op) : Along step (fun _ _ => True) s ops := by
  induction ops generalizing s with
  | nil => trivial
  | cons op ops ih => exact ⟨trivial, ih (step s op)⟩

variable {step : S -> Op -> S} {P : S -> Op -> Prop} {s : S} {ops : List Op} {inv : S -> Prop}

lemma Along.invariant (keep : ∀ s op, inv s -> P s op -> inv (step s op)) {s : S} {ops : List Op} (start : inv s)
  (along : Along step P s ops) : inv (ops.foldl step s) := by
  induction ops generalizing s with
  | nil => exact start
  | cons op ops ih => exact ih (keep s op start along.1) along.2

lemma Along.imp {P Q : S -> Op -> Prop} {inv : S -> Prop}
  (keep : ∀ s op, inv s -> P s op -> inv (step s op) /\ Q s op) {s : S} {ops : List Op}
  (start : inv s) (along : Along step P s ops) : Along step Q s ops := by
  induction ops generalizing s with
  | nil => trivial
  | cons op ops ih =>
    obtain ⟨next, held⟩ := keep s op start along.1
    exact ⟨held, ih next along.2⟩

lemma Along.mono {P Q : S -> Op -> Prop} {s : S} {ops : List Op}
  (weaken : ∀ s op, P s op -> Q s op) (along : Along step P s ops) : Along step Q s ops := by
  induction ops generalizing s with
  | nil => trivial
  | cons op ops ih => exact ⟨weaken s op along.1, ih along.2⟩

lemma Along.foldl_congr {step' : S -> Op -> S} (same : ∀ s op, P s op -> step s op = step' s op)
  {s : S} {ops : List Op} (along : Along step P s ops) : ops.foldl step s = ops.foldl step' s := by
  induction ops generalizing s with
  | nil => rfl
  | cons op ops ih =>
    rw [List.foldl_cons, List.foldl_cons, <- same s op along.1]
    exact ih along.2

lemma Along.append {a b : List Op} (first : Along step P s a)
  (second : Along step P (a.foldl step s) b) : Along step P s (a ++ b) := by
  induction a generalizing s with
  | nil => exact second
  | cons op a ih => exact ⟨first.1, ih first.2 second⟩

lemma Along.take (along : Along step P s ops) (n : Nat) : Along step P s (ops.take n) := by
  induction ops generalizing s n with
  | nil => simpa using along
  | cons op ops ih =>
    cases n with
    | zero => trivial
    | succ n => exact ⟨along.1, ih along.2 n⟩

lemma Along.at_step (along : Along step P s ops) {n : Nat} {op : Op} (here : ops[n]? = some op) :
  P ((ops.take n).foldl step s) op := by
  induction ops generalizing s n with
  | nil => cases here
  | cons first rest ih =>
    cases n with
    | zero =>
      obtain rfl := Option.some.inj here
      exact along.1
    | succ n => exact ih along.2 here

lemma Along.persists (keep : ∀ s op, inv s -> P s op -> inv (step s op)) {s : S} {ops : List Op}
  (along : Along step P s ops) {m n : Nat} (later : m <= n)
  (held : inv ((ops.take m).foldl step s)) : inv ((ops.take n).foldl step s) := by
  induction later with
  | refl => exact held
  | @step n _ ih =>
    rw [List.take_add_one, List.foldl_append]
    cases here : ops[n]? with
    | none => exact ih
    | some op => exact keep _ op ih (along.at_step here)

end Ectobase.Shared
