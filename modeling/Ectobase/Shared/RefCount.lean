import Ectobase.Shared.Maps

/-! Shared objects, each kept for as long as something names it. -/

namespace Ectobase.Shared

variable {K V : Type} [DecidableEq K]

def acquire (refs : Map K Nat) (k : K) : Map K Nat := refs.insert k ((refs.lookup k).getD 0 + 1)

def release (refs : Map K Nat) (k : K) : Bool × Map K Nat := match refs.lookup k with
  | none => (false, refs)
  | some n => if n - 1 = 0 then (true, refs.erase k) else (false, refs.insert k (n - 1))

def Counted (refs : Map K Nat) (uses : K -> Nat) : Prop :=
  ∀ k, refs.lookup k = if uses k = 0 then none else some (uses k)

variable {refs : Map K Nat} {objects : Map K V} {uses : K -> Nat}

lemma Counted.isSome (counted : Counted refs uses) (k : K) : (refs.lookup k).isSome ↔ 0 < uses k := by
  rw [counted k]
  split
  next unused => simp [unused]
  next used => simp [Nat.pos_of_ne_zero used]

lemma Counted.acquire (counted : Counted refs uses) (k : K) :
  Counted (acquire refs k) (Function.update uses k (uses k + 1)) := by
  intro k'
  have before : (refs.lookup k).getD 0 = uses k := by
    rw [counted k]
    split
    next unused => rw [unused, Option.getD_none]
    · rw [Option.getD_some]
  rw [Shared.acquire, lookup_insert_ite, before]
  by_cases same : k' = k
  · subst same; simp
  · simp [same, counted k']

lemma Counted.release (counted : Counted refs uses) {k : K} (used : 0 < uses k) :
  (release refs k).1 = decide (uses k = 1) /\ Counted (release refs k).2 (Function.update uses k (uses k - 1)) := by
  have held : refs.lookup k = some (uses k) := by rw [counted k, if_neg (by omega)]
  simp only [Shared.release, held]
  split
  next last =>
    have one : uses k = 1 := by omega
    refine ⟨by simp [one], fun k' => ?_⟩
    rw [lookup_erase_ite]
    by_cases same : k' = k
    · subst same; simp [last]
    · simp [same, counted k']
  next more =>
    have several : uses k ≠ 1 := by omega
    refine ⟨by simp [several], fun k' => ?_⟩
    rw [lookup_insert_ite]
    by_cases same : k' = k
    · subst same; simp [more]
    · simp [same, counted k']

structure Pooled (refs : Map K Nat) (objects : Map K V) (uses : K -> Nat) : Prop where
  counted : Counted refs uses
  stored : ∀ k, (objects.lookup k).isSome ↔ 0 < uses k

lemma Pooled.absent_iff (pooled : Pooled refs objects uses) (k : K) : objects.lookup k = none ↔ uses k = 0 := by
  rw [<- Option.not_isSome_iff_eq_none, pooled.stored]
  omega

lemma Pooled.release (pooled : Pooled refs objects uses) {k : K} (used : 0 < uses k) :
  Pooled (release refs k).2 (if (release refs k).1 then objects.erase k else objects)
    (Function.update uses k (uses k - 1)) := by
  obtain ⟨last, counted⟩ := pooled.counted.release used
  refine ⟨counted, fun k' => ?_⟩
  rw [last]
  by_cases same : k' = k
  · subst same
    by_cases one : uses k' = 1
    · simp [one]
    · simp [one, pooled.stored]; omega
  · by_cases one : uses k = 1 <;> simp [one, same, pooled.stored]

end Ectobase.Shared
