import Mathlib.Algebra.Ring.Int.Defs
import Mathlib.Data.List.Nodup

namespace Ectobase.Shared

open List

structure Store {K A : Type} (key : A -> K) where
  items : List A
  nodup : (items.map key).Nodup
  deriving DecidableEq

namespace Store

variable {K A : Type} [DecidableEq K] {key : A -> K}

def empty : Store key where
  items := []
  nodup := nodup_nil

def find (s : Store key) (k : K) : Option A := s.items.find? fun a => key a = k

def put (s : Store key) (a : A) : Store key where
  items := if key a ∈ s.items.map key then s.items.map fun old => if key old = key a then a else old
    else s.items ++ [a]
  nodup := by
    have sameKeys (old : A) : key (if key old = key a then a else old) = key old := by
      split
      next same => exact same.symm
      · rfl
    split
    · simpa [Function.comp_def, sameKeys] using s.nodup
    next absent => simpa using s.nodup.concat absent

def remove (s : Store key) (k : K) : Store key where
  items := s.items.filter fun a => key a ≠ k
  nodup := s.nodup.sublist (filter_sublist.map key)

variable {s : Store key} {k : K} {a : A}

lemma find_key (found : s.find k = some a) : key a = k := by
  simpa using find?_some found

lemma mem_of_find (found : s.find k = some a) : a ∈ s.items := mem_of_find?_eq_some found

lemma find_of_mem (member : a ∈ s.items) : s.find (key a) = some a := by
  cases found : s.find (key a) with
  | none => simpa using find?_eq_none.mp found a member
  | some b =>
    have same : b = a := inj_on_of_nodup_map s.nodup (mem_of_find found) member (find_key found)
    rw [same]

lemma find_eq_none_iff : s.find k = none ↔ ∀ a ∈ s.items, key a ≠ k := by
  simp [find]

lemma mem_put {a b : A} : b ∈ (s.put a).items ↔ b = a \/ (b ∈ s.items /\ key b ≠ key a) := by
  unfold put
  split
  next present =>
    obtain ⟨old, listed, same⟩ := mem_map.mp present
    grind
  next absent => grind

lemma mem_remove {b : A} : b ∈ (s.remove k).items ↔ b ∈ s.items /\ key b ≠ k := by
  simp [remove]

lemma find_eq_some_iff : s.find k = some a ↔ a ∈ s.items /\ key a = k :=
  ⟨fun found => ⟨mem_of_find found, find_key found⟩, fun held => held.2 ▸ find_of_mem held.1⟩

lemma find_put (s : Store key) (a : A) (k : K) : (s.put a).find k = if k = key a then some a else s.find k := by
  split
  next same =>
    rw [same]
    exact find_of_mem (mem_put.mpr (.inl rfl))
  next apart =>
    ext b
    rw [find_eq_some_iff, find_eq_some_iff, mem_put]
    constructor
    · rintro ⟨rfl | held, rfl⟩
      · exact absurd rfl apart
      · exact ⟨held.1, rfl⟩
    · rintro ⟨listed, rfl⟩
      exact ⟨.inr ⟨listed, apart⟩, rfl⟩

lemma find_remove (s : Store key) (k k' : K) : (s.remove k).find k' = if k' = k then none else s.find k' := by
  split
  next same =>
    rw [find_eq_none_iff, same]
    exact fun a member => (mem_remove.mp member).2
  next apart =>
    ext b
    rw [find_eq_some_iff, find_eq_some_iff, mem_remove]
    constructor
    · exact fun held => ⟨held.1.1, held.2⟩
    · rintro ⟨listed, rfl⟩
      exact ⟨⟨listed, apart⟩, rfl⟩

lemma sum_put (s : Store key) (weight : A -> Int) {old new : A} (found : s.find (key new) = some old) :
  ((s.put new).items.map weight).sum = (s.items.map weight).sum - weight old + weight new := by
  have present : key new ∈ s.items.map key := mem_map.mpr ⟨old, mem_of_find found, find_key found⟩
  have items : (s.put new).items = s.items.map fun a => if key a = key new then new else a :=
    if_pos present
  obtain ⟨before, behind, split⟩ := append_of_mem (mem_of_find found)
  have nodup := s.nodup
  rw [split, map_append, map_cons, nodup_middle, nodup_cons, find_key found] at nodup
  -- The key is nowhere else, so the rest stays as it is.
  have untouched {part : List A} (sub : part ⊆ before ++ behind) :
    (part.map fun a => if key a = key new then new else a) = part := by
    refine (map_congr_left fun a member => if_neg fun again => nodup.1 ?_).trans (map_id part)
    rw [<- again, <- map_append]
    exact mem_map_of_mem (sub member)
  rw [items, split, map_append, map_cons, if_pos (find_key found), untouched (subset_append_left _ _),
    untouched (subset_append_right _ _)]
  simp only [map_append, map_cons, sum_append, sum_cons]
  omega

end Store

end Ectobase.Shared
