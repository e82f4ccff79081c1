import Mathlib.Data.List.Basic

namespace Ectobase.Shared

open Function

-- A sender moves a receiver's store from one set of records to another by a diff: it upserts what
-- is new or changed and then discards what is gone. The two sides may key the records differently.

variable {V W KA KR : Type} [DecidableEq KR]

def upsert (key : V -> KR) (val : V -> W) (store : KR -> Option W) (vs : List V) : KR -> Option W :=
  vs.foldl (fun store v => update store (key v) (some (val v))) store

def discard (store : KR -> Option W) (ks : List KR) : KR -> Option W :=
  ks.foldl (fun store k => update store k none) store

def Mirrors (key : V -> KR) (val : V -> W) (store : KR -> Option W) (vs : List V) : Prop :=
  ∀ k w, store k = some w ↔ ∃ v ∈ vs, key v = k /\ val v = w

lemma upsert_cases (key : V -> KR) (val : V -> W) (store : KR -> Option W) (vs : List V) (k : KR) :
  ((∀ v ∈ vs, key v ≠ k) /\ upsert key val store vs k = store k) \/
    ∃ v ∈ vs, key v = k /\ upsert key val store vs k = some (val v) := by
  induction vs generalizing store with
  | nil => exact .inl ⟨by simp, rfl⟩
  | cons v vs ih =>
    rcases ih (update store (key v) (some (val v))) with ⟨absent, same⟩ | ⟨u, mem, here, last⟩
    · by_cases own : key v = k
      · refine .inr ⟨v, by simp, own, same.trans ?_⟩
        rw [own, update_self]
      · refine .inl ⟨?_, same.trans (update_of_ne (Ne.symm own) _ _)⟩
        simpa [own] using absent
    · exact .inr ⟨u, List.mem_cons_of_mem _ mem, here, last⟩

lemma upsert_all {key : V -> KR} {val : V -> W} {store : KR -> Option W} {vs : List V} {p : W -> Prop}
  (stored : ∀ k w, store k = some w -> p w) (new : ∀ v ∈ vs, p (val v)) (k : KR) (w : W)
  (held : upsert key val store vs k = some w) : p w := by
  rcases upsert_cases key val store vs k with ⟨_, same⟩ | ⟨v, mem, _, last⟩
  · exact stored k w (same.symm.trans held)
  · rw [last] at held
    cases held
    exact new v mem

lemma discard_apply (store : KR -> Option W) (ks : List KR) (k : KR) :
  discard store ks k = if k ∈ ks then none else store k := by
  induction ks generalizing store with
  | nil => rfl
  | cons gone ks ih =>
    refine (ih _).trans ?_
    by_cases own : k = gone
    · simp [own]
    · simp [own]

-- A name the sender keeps stays at its key, and what is new may be announced.
structure KeysAgree (name : V -> KA) (key : V -> KR) (val : V -> W) (may : V -> Bool)
  (applied next : List V) : Prop where
  name_of_key : ∀ a ∈ applied ++ next, ∀ n ∈ next, key a = key n -> name a = name n
  key_of_name : ∀ a ∈ applied, ∀ n ∈ next, name a = name n -> key a = key n
  allowed : ∀ n ∈ next, may n = true \/ ∃ a ∈ applied, key a = key n /\ val a = val n

section

variable {name : V -> KA} {key : V -> KR} {val : V -> W} {may : V -> Bool} {applied next : List V}
  {store : KR -> Option W} {announced : List V} {gone : List KR}

lemma converged_cases (key : V -> KR) (val : V -> W) (store : KR -> Option W) (announced : List V) (gone : List KR) (k : KR) :
  (k ∈ gone /\ discard (upsert key val store announced) gone k = none) \/ (k ∉ gone /\ ∃ n ∈ announced, key n = k /\
      discard (upsert key val store announced) gone k = some (val n)) \/
    (k ∉ gone /\ (∀ n ∈ announced, key n ≠ k) /\ discard (upsert key val store announced) gone k = store k) := by
  by_cases removed : k ∈ gone
  · exact .inl ⟨removed, by simp [discard_apply, removed]⟩
  · have kept : discard (upsert key val store announced) gone k = upsert key val store announced k := by
      simp [discard_apply, removed]
    rcases upsert_cases key val store announced k with ⟨absent, same⟩ | ⟨n, mem, here, last⟩
    · exact .inr (.inr ⟨removed, absent, kept.trans same⟩)
    · exact .inr (.inl ⟨removed, n, mem, here, kept.trans last⟩)

variable (appliedUnique : ∀ a ∈ applied, ∀ b ∈ applied, name a = name b -> a = b)
  (nextUnique : ∀ a ∈ next, ∀ b ∈ next, name a = name b -> a = b)
  (mirrors : Mirrors key val store applied)
  (announces : ∀ v, v ∈ announced ↔ v ∈ next /\ v ∉ applied /\ may v = true)
  (withdraws : ∀ k, k ∈ gone ↔ ∃ a ∈ applied, key a = k /\ ∀ n ∈ next, name n ≠ name a)
include appliedUnique nextUnique mirrors announces withdraws

lemma converges_of_keysAgree (agree : KeysAgree name key val may applied next) :
  Mirrors key val (discard (upsert key val store announced) gone) next := by
  intro k w
  rcases converged_cases key val store announced gone k with
    ⟨removed, after⟩ | ⟨_, n, mem, here, after⟩ | ⟨kept, absent, after⟩
  · obtain ⟨a, applied', atKey, unnamed⟩ := (withdraws k).mp removed
    rw [after]
    constructor
    · intro held
      cases held
    · rintro ⟨n, wanted, here, _⟩
      have named := agree.name_of_key a (List.mem_append_left _ applied') n wanted (atKey.trans here.symm)
      exact absurd named.symm (unnamed n wanted)
  · obtain ⟨wanted, _, _⟩ := (announces n).mp mem
    rw [after]
    constructor
    · intro held
      exact ⟨n, wanted, here, Option.some.inj held⟩
    · rintro ⟨v, wanted', here', rfl⟩
      have named := agree.name_of_key v (List.mem_append_right _ wanted') n wanted (here'.trans here.symm)
      rw [nextUnique v wanted' n wanted named]
  · -- Nothing was sent for this key, so what the store held must be what is wanted.
    have unsent : ∀ n ∈ next, key n = k -> n ∈ applied \/ ∃ a ∈ applied, key a = key n /\ val a = val n := by
      intro n wanted here
      by_cases old : n ∈ applied
      · exact .inl old
      · rcases agree.allowed n wanted with may | known
        · exact absurd here (absent n ((announces n).mpr ⟨wanted, old, may⟩))
        · exact .inr known
    rw [after, mirrors]
    constructor
    · rintro ⟨a, old, here, rfl⟩
      have named : ∃ n ∈ next, name n = name a := by
        by_contra none
        refine kept ((withdraws k).mpr ⟨a, old, here, fun n wanted same => none ⟨n, wanted, same⟩⟩)
      obtain ⟨n, wanted, named⟩ := named
      have atKey : key n = k := (agree.key_of_name a old n wanted named.symm).symm.trans here
      rcases unsent n wanted atKey with old' | ⟨b, old', sameKey, sameVal⟩
      · rw [appliedUnique n old' a old named] at wanted
        exact ⟨a, wanted, here, rfl⟩
      · have one : some (val a) = some (val b) := ((mirrors k _).mpr ⟨a, old, here, rfl⟩).symm.trans
          ((mirrors k _).mpr ⟨b, old', sameKey.trans atKey, rfl⟩)
        exact ⟨n, wanted, atKey, sameVal.symm.trans (Option.some.inj one).symm⟩
    · rintro ⟨n, wanted, here, rfl⟩
      rcases unsent n wanted here with old | ⟨a, old, sameKey, sameVal⟩
      · exact ⟨n, old, here, rfl⟩
      · exact ⟨a, old, sameKey.trans here, sameVal⟩

omit appliedUnique in
lemma keysAgree_of_converges (factors : (∀ v w : V, name v = name w -> key v = key w) \/
    ∀ v w : V, key v = key w -> name v = name w)
  (told : ∀ v w : V, key v = key w -> val v = val w -> name v = name w)
  (converged : Mirrors key val (discard (upsert key val store announced) gone) next) :
  KeysAgree name key val may applied next := by
  have held (n : V) (wanted : n ∈ next) : discard (upsert key val store announced) gone (key n) = some (val n) :=
    (converged _ _).mpr ⟨n, wanted, rfl, rfl⟩
  have key_of_name : ∀ a ∈ applied, ∀ n ∈ next, name a = name n -> key a = key n := by
    intro a old n wanted named
    rcases factors with byName | byKey
    · exact byName a n named
    · -- The kept name moved to another key, so the old key still holds the old record.
      by_contra moved
      have settled : discard (upsert key val store announced) gone (key a) = some (val a) := by
        rcases converged_cases key val store announced gone (key a) with
          ⟨removed, _⟩ | ⟨_, m, mem, here, _⟩ | ⟨_, _, after⟩
        · obtain ⟨b, _, here, unnamed⟩ := (withdraws _).mp removed
          exact absurd ((byKey b a here).trans named).symm (unnamed n wanted)
        · have same := nextUnique m ((announces m).mp mem).1 n wanted ((byKey m a here).trans named)
          exact absurd (same ▸ here).symm moved
        · exact after.trans ((mirrors _ _).mpr ⟨a, old, rfl, rfl⟩)
      obtain ⟨v, wanted', here, _⟩ := (converged _ _).mp settled
      have same := nextUnique v wanted' n wanted ((byKey v a here).trans named)
      exact moved (same ▸ here).symm
  have among : ∀ m ∈ next, ∀ n ∈ next, key m = key n -> name m = name n := by
    intro m wanted n wanted' here
    have both := (held m wanted).symm.trans (here ▸ held n wanted')
    exact told m n here (Option.some.inj both)
  refine ⟨?_, key_of_name, ?_⟩
  · intro a member n wanted here
    rcases List.mem_append.mp member with old | wanted'
    · by_cases named : ∃ m ∈ next, name m = name a
      · obtain ⟨m, wanted', named⟩ := named
        have there := key_of_name a old m wanted' named.symm
        exact named.symm.trans (among m wanted' n wanted (there.symm.trans here))
      · -- A name that is gone takes its key with it, and `n` would be lost.
        have removed : key n ∈ gone :=
          (withdraws _).mpr ⟨a, old, here, fun m wanted' same => named ⟨m, wanted', same⟩⟩
        have lost : discard (upsert key val store announced) gone (key n) = none := by
          rw [discard_apply, if_pos removed]
        rw [held n wanted] at lost
        cases lost
    · exact among a wanted' n wanted here
  · intro n wanted
    have final := held n wanted
    rcases converged_cases key val store announced gone (key n) with
      ⟨_, after⟩ | ⟨_, m, mem, here, _⟩ | ⟨_, _, after⟩
    · rw [after] at final
      cases final
    · obtain ⟨wanted', _, allowed⟩ := (announces m).mp mem
      rw [nextUnique m wanted' n wanted (among m wanted' n wanted here)] at allowed
      exact .inl allowed
    · rw [after] at final
      exact .inr ((mirrors _ _).mp final)

lemma converges_iff_keysAgree (factors : (∀ v w : V, name v = name w -> key v = key w) \/
    ∀ v w : V, key v = key w -> name v = name w)
  (told : ∀ v w : V, key v = key w -> val v = val w -> name v = name w) :
  Mirrors key val (discard (upsert key val store announced) gone) next ↔ KeysAgree name key val may applied next :=
  ⟨keysAgree_of_converges nextUnique mirrors announces withdraws factors told,
    converges_of_keysAgree appliedUnique nextUnique mirrors announces withdraws⟩

end

end Ectobase.Shared
