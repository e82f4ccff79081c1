import Ectobase.Shared.Maps
import Mathlib.Algebra.BigOperators.Group.Finset.Basic

/-! Queries of a finite map by the order of its keys, as a B-tree map answers them. -/

namespace Ectobase.Shared

open List

section

variable {K V : Type} [LinearOrder K]

def lastUpTo (m : Map K V) (k : K) : Option (K × V) :=
  (sorted (m.keys.filter (· <= k))).getLast?.bind fun k' => (m.lookup k').map fun v => (k', v)

def firstFrom (m : Map K V) (k : K) : Option (K × V) :=
  (sorted (m.keys.filter (k <= ·))).head?.bind fun k' => (m.lookup k').map fun v => (k', v)

def values (m : Map K V) : List V := (sorted m.keys).filterMap m.lookup

lemma sorted_pairwise (s : Finset K) : (sorted s).Pairwise (· <= ·) := by
  obtain ⟨⟨xs⟩, nodup⟩ := s
  exact pairwise_insertionSort (· <= ·) xs

variable {m : Map K V} {k k0 : K} {v0 : V} {s : Finset K}

lemma le_getLast_sorted {last : K} (found : (sorted s).getLast? = some last) : last ∈ s /\ ∀ k ∈ s, k <= last := by
  obtain ⟨init, split⟩ := getLast?_eq_some_iff.mp found
  have ascending := sorted_pairwise s
  rw [split, pairwise_append] at ascending
  constructor
  · rw [<- mem_sorted, split]
    simp
  · intro k member
    rw [<- mem_sorted, split, mem_append, mem_singleton] at member
    rcases member with before | rfl
    · exact ascending.2.2 k before last (mem_singleton.mpr rfl)
    · exact le_rfl

lemma head_sorted_le {first : K} (found : (sorted s).head? = some first) : first ∈ s /\ ∀ k ∈ s, first <= k := by
  obtain ⟨rest, split⟩ := head?_eq_some_iff.mp found
  have ascending := sorted_pairwise s
  rw [split, pairwise_cons] at ascending
  constructor
  · rw [<- mem_sorted, split]
    simp
  · intro k member
    rw [<- mem_sorted, split, mem_cons] at member
    rcases member with rfl | after
    · exact le_rfl
    · exact ascending.1 k after

lemma sorted_ne_nil {k : K} (member : k ∈ s) : sorted s ≠ [] :=
  ne_nil_of_mem ((mem_sorted s k).mpr member)

lemma lastUpTo_spec (held : m.lookup k0 = some v0)
  (before : k0 <= k) : ∃ k' v, lastUpTo m k = some (k', v) /\ m.lookup k' = some v /\ k' <= k /\ k0 <= k' := by
  have member : k0 ∈ m.keys.filter (· <= k) :=
    Finset.mem_filter.mpr ⟨(mem_keys_iff_lookup k0 m).mpr ⟨v0, held⟩, before⟩
  obtain ⟨last, found⟩ : ∃ last, (sorted (m.keys.filter (· <= k))).getLast? = some last :=
    ⟨_, getLast?_eq_some_getLast (sorted_ne_nil member)⟩
  obtain ⟨inside, greatest⟩ := le_getLast_sorted found
  obtain ⟨present, upTo⟩ := Finset.mem_filter.mp inside
  obtain ⟨v, lookup⟩ := (mem_keys_iff_lookup last m).mp present
  exact ⟨last, v, by rw [lastUpTo, found]; simp [lookup], lookup, upTo, greatest k0 member⟩

lemma firstFrom_spec (held : m.lookup k0 = some v0)
  (after : k <= k0) : ∃ k' v, firstFrom m k = some (k', v) /\ m.lookup k' = some v /\ k <= k' /\ k' <= k0 := by
  have member : k0 ∈ m.keys.filter (k <= ·) :=
    Finset.mem_filter.mpr ⟨(mem_keys_iff_lookup k0 m).mpr ⟨v0, held⟩, after⟩
  obtain ⟨first, found⟩ : ∃ first, (sorted (m.keys.filter (k <= ·))).head? = some first :=
    ⟨_, head?_eq_some_head (sorted_ne_nil member)⟩
  obtain ⟨inside, least⟩ := head_sorted_le found
  obtain ⟨present, fromK⟩ := Finset.mem_filter.mp inside
  obtain ⟨v, lookup⟩ := (mem_keys_iff_lookup first m).mp present
  exact ⟨first, v, by rw [firstFrom, found]; simp [lookup], lookup, fromK, least k0 member⟩

lemma mem_values {v : V} : v ∈ values m ↔ ∃ k, m.lookup k = some v := by
  rw [values, mem_filterMap]
  constructor
  · rintro ⟨k, _, held⟩
    exact ⟨k, held⟩
  · rintro ⟨k, held⟩
    exact ⟨k, (mem_sorted _ _).mpr ((mem_keys_iff_lookup k m).mpr ⟨v, held⟩), held⟩

end

section

variable {K V : Type} [DecidableEq K]

def total (weight : V -> Nat) (m : Map K V) : Nat := ∑ k ∈ m.keys, ((m.lookup k).map weight).getD 0

variable (weight : V -> Nat) {m : Map K V} {k : K} {v : V}

lemma total_empty : total weight (∅ : Map K V) = 0 := by
  have none : (∅ : Map K V).keys = ∅ := Finset.eq_empty_of_forall_notMem fun k member => by
    obtain ⟨v, held⟩ := (mem_keys_iff_lookup k _).mp member
    rw [Finmap.lookup_empty] at held
    cases held
  rw [total, none, Finset.sum_empty]

lemma keys_insert (m : Map K V) (k : K) (v : V) : (m.insert k v).keys = insert k m.keys := by
  ext k'
  rw [Finset.mem_insert, Finmap.mem_keys, Finmap.mem_keys, Finmap.mem_insert]

lemma total_split (held : m.lookup k = some v) :
  total weight m = weight v + ∑ k' ∈ m.keys.erase k, ((m.lookup k').map weight).getD 0 := by
  have member := (mem_keys_iff_lookup k m).mpr ⟨v, held⟩
  rw [total, <- Finset.add_sum_erase _ _ member, held, Option.map_some, Option.getD_some]

lemma sum_congr_lookup {m m' : Map K V} {keys : Finset K} (same : ∀ k ∈ keys, m'.lookup k = m.lookup k) :
  ∑ k ∈ keys, ((m'.lookup k).map weight).getD 0 = ∑ k ∈ keys, ((m.lookup k).map weight).getD 0 :=
  Finset.sum_congr rfl fun k member => by rw [same k member]

lemma total_insert_new (v : V) (absent : m.lookup k = none) : total weight (m.insert k v) = total weight m + weight v := by
  have fresh : k ∉ m.keys := by
    intro member
    obtain ⟨w, held⟩ := (mem_keys_iff_lookup k m).mp member
    rw [absent] at held
    cases held
  rw [total_split weight (Finmap.lookup_insert m), keys_insert, Finset.erase_insert fresh,
    sum_congr_lookup weight (m := m), Nat.add_comm, total]
  intro k' member
  have other : k' ≠ k := by
    rintro rfl
    exact fresh member
  rw [lookup_insert_ite, if_neg other]

lemma total_insert_same {v v' : V} (held : m.lookup k = some v) (same : weight v' = weight v) :
  total weight (m.insert k v') = total weight m := by
  have member := (mem_keys_iff_lookup k m).mpr ⟨v, held⟩
  rw [total_split weight held, total_split weight (Finmap.lookup_insert m), keys_insert,
    Finset.insert_eq_of_mem member, same, sum_congr_lookup weight]
  intro k' other
  rw [lookup_insert_ite, if_neg (Finset.ne_of_mem_erase other)]

lemma total_erase (held : m.lookup k = some v) : total weight m = weight v + total weight (m.erase k) := by
  rw [total_split weight held, total]
  congr 1
  have keys : (m.erase k).keys = m.keys.erase k := by
    ext k'
    rw [Finset.mem_erase, Finmap.mem_keys, Finmap.mem_keys, Finmap.mem_erase]
  rw [keys]
  refine (sum_congr_lookup weight ?_).symm
  intro k' other
  rw [lookup_erase_ite, if_neg (Finset.ne_of_mem_erase other)]

end

end Ectobase.Shared
