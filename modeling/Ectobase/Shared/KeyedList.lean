import Mathlib.Data.List.Nodup

namespace Ectobase.Shared

open List

variable {K V : Type} [DecidableEq K]

def putKey (k : K) (v : V) : List (K × V) -> List (K × V)
  | [] => [(k, v)]
  | entry :: rest => if entry.1 = k then (k, v) :: rest else entry :: putKey k v rest

def dropKey (k : K) : List (K × V) -> List (K × V)
  | [] => []
  | entry :: rest => if entry.1 = k then rest else entry :: dropKey k rest

variable (k : K) (v : V) (l : List (K × V))

lemma lookup_cons_ite (entry : K × V) (rest : List (K × V)) :
  (entry :: rest).lookup k = if k = entry.1 then some entry.2 else rest.lookup k := by
  obtain ⟨key, value⟩ := entry
  by_cases same : k = key
  · simp [same]
  · have apart : (k == key) = false := by simpa using same
    simp [lookup_cons, apart, same]

lemma lookup_putKey (k k' : K) (v : V) (l : List (K × V)) :
  (putKey k v l).lookup k' = if k' = k then some v else l.lookup k' := by
  induction l with
  | nil => simp [putKey, lookup_cons_ite]
  | cons entry rest ih =>
    by_cases here : entry.1 = k
    · subst here
      by_cases same : k' = entry.1 <;> simp [putKey, lookup_cons_ite, same]
    · rw [putKey, if_neg here, lookup_cons_ite, lookup_cons_ite, ih]
      by_cases found : k' = entry.1
      · simp [found, here]
      · simp [found]

lemma keys_putKey : (putKey k v l).map Prod.fst = if k ∈ l.map Prod.fst then l.map Prod.fst else l.map Prod.fst ++ [k] := by
  induction l with
  | nil => simp [putKey]
  | cons entry rest ih =>
    by_cases here : entry.1 = k
    · simp [putKey, here]
    · by_cases later : k ∈ rest.map Prod.fst <;> simp_all [putKey, Ne.symm here]

lemma nodup_keys_putKey {l : List (K × V)} (nodup : (l.map Prod.fst).Nodup) : ((putKey k v l).map Prod.fst).Nodup := by
  rw [keys_putKey]
  split
  · exact nodup
  next absent => simpa using nodup.concat absent

lemma putKey_of_notMem {k : K} {v : V} {l : List (K × V)} (absent : k ∉ l.map Prod.fst) : putKey k v l = l ++ [(k, v)] := by
  induction l with
  | nil => rfl
  | cons entry rest ih =>
    simp only [map_cons, mem_cons, not_or] at absent
    rw [putKey, if_neg (Ne.symm absent.1), ih absent.2, cons_append]

lemma lookup_foldl_putKey {A : Type} (key : A -> K) (value : A -> V) (items : List A)
  (distinct : (items.map key).Nodup) (m : List (K × V)) (k : K) :
  (items.foldl (fun m a => putKey (key a) (value a) m) m).lookup k =
    ((items.find? fun a => key a = k).map value).or (m.lookup k) := by
  induction items generalizing m with
  | nil => simp
  | cons a rest ih =>
    rw [map_cons, nodup_cons] at distinct
    rw [foldl_cons, ih distinct.2, lookup_putKey]
    by_cases here : key a = k
    · have absent : rest.find? (fun b => key b = k) = none := by
        simp only [find?_eq_none, decide_eq_true_eq]
        exact fun b member same => distinct.1 (mem_map.mpr ⟨b, member, same.trans here.symm⟩)
      simp [absent, here]
    · simp [here, Ne.symm here]

lemma dropKey_sublist : (dropKey k l).Sublist l := by
  induction l with
  | nil => exact List.Sublist.refl []
  | cons entry rest ih =>
    unfold dropKey
    split
    · exact sublist_cons_self entry rest
    · exact ih.cons_cons entry

lemma nodup_keys_dropKey {l : List (K × V)} (nodup : (l.map Prod.fst).Nodup) : ((dropKey k l).map Prod.fst).Nodup :=
  nodup.sublist ((dropKey_sublist k l).map Prod.fst)

lemma lookup_eq_none_of_notMem {k : K} {l : List (K × V)} (absent : k ∉ l.map Prod.fst) : l.lookup k = none := by
  rw [lookup_eq_none_iff]
  intro entry listed
  have apart : entry.1 ≠ k := fun same => absent (same ▸ mem_map_of_mem listed)
  simpa using Ne.symm apart

lemma lookup_dropKey (k k' : K) {l : List (K × V)} (nodup : (l.map Prod.fst).Nodup) :
  (dropKey k l).lookup k' = if k' = k then none else l.lookup k' := by
  induction l with
  | nil => simp [dropKey]
  | cons entry rest ih =>
    rw [map_cons, nodup_cons] at nodup
    by_cases here : entry.1 = k
    · subst here
      rw [dropKey, if_pos rfl, lookup_cons_ite]
      by_cases same : k' = entry.1
      · rw [if_pos same, same]
        exact lookup_eq_none_of_notMem nodup.1
      · rw [if_neg same, if_neg same]
    · rw [dropKey, if_neg here, lookup_cons_ite, lookup_cons_ite, ih nodup.2]
      by_cases found : k' = entry.1
      · simp [found, here]
      · simp [found]

end Ectobase.Shared
