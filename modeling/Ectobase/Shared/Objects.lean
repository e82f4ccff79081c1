import Ectobase.Shared.Store

namespace Ectobase.Shared

open Store

section

variable {K A : Type} [DecidableEq K] {key : A -> K} {uid : A -> String} {store : Store key} {new : A}
  (distinct : ∀ a ∈ store.items, ∀ b ∈ store.items, uid a = uid b -> key a = key b)

include distinct

lemma distinct_put {old : A} (listed : old ∈ store.items) (keyed : key new = key old) (same : uid new = uid old) :
  ∀ a ∈ (store.put new).items, ∀ b ∈ (store.put new).items, uid a = uid b -> key a = key b := by
  have moved (a : A) (member : a ∈ (store.put new).items) :
    ∃ before ∈ store.items, key before = key a /\ uid before = uid a := by
    rcases mem_put.mp member with rfl | ⟨kept, -⟩
    · exact ⟨old, listed, keyed.symm, same.symm⟩
    · exact ⟨a, kept, rfl, rfl⟩
  intro a memberA b memberB uid
  obtain ⟨a', listedA, keyA, uidA⟩ := moved a memberA
  obtain ⟨b', listedB, keyB, uidB⟩ := moved b memberB
  rw [<- keyA, <- keyB]
  exact distinct a' listedA b' listedB (by rw [uidA, uidB, uid])

lemma distinct_file (fresh : ∀ a ∈ store.items, uid a ≠ uid new) :
  ∀ a ∈ (store.put new).items, ∀ b ∈ (store.put new).items, uid a = uid b -> key a = key b := by
  intro a memberA b memberB same
  rcases mem_put.mp memberA with rfl | ⟨listedA, -⟩ <;> rcases mem_put.mp memberB with rfl | ⟨listedB, -⟩
  · rfl
  · exact absurd same.symm (fresh b listedB)
  · exact absurd same (fresh a listedA)
  · exact distinct a listedA b listedB same

end

structure Objects {K A : Type} (key : A -> K) (uid : A -> String) where
  store : Store key
  distinct : ∀ a ∈ store.items, ∀ b ∈ store.items, uid a = uid b -> key a = key b

namespace Objects

variable {K A : Type} [DecidableEq K] {key : A -> K} {uid : A -> String}

def empty : Objects key uid where
  store := .empty
  distinct := nofun

def items (o : Objects key uid) : List A := o.store.items

def find (o : Objects key uid) (k : K) : Option A := o.store.find k

structure Update (key : A -> K) (uid : A -> String) where
  apply : A -> A
  key_eq : ∀ a, key (apply a) = key a
  uid_eq : ∀ a, uid (apply a) = uid a

def modify (o : Objects key uid) (k : K) (change : Update key uid) : Objects key uid :=
  match found : o.store.find k with
  | none => o
  | some old =>
    { store := o.store.put (change.apply old)
      distinct := distinct_put o.distinct (mem_of_find found) (change.key_eq old) (change.uid_eq old) }

def create (o : Objects key uid) (new : A) : Objects key uid :=
  if fresh : ∀ a ∈ o.store.items, key a ≠ key new /\ uid a ≠ uid new then
    { store := o.store.put new
      distinct := distinct_file o.distinct fun a listed => (fresh a listed).2 }
  else o

def remove (o : Objects key uid) (k : K) : Objects key uid where
  store := o.store.remove k
  distinct a memberA b memberB := o.distinct a (mem_remove.mp memberA).1 b (mem_remove.mp memberB).1

variable {o : Objects key uid}

lemma mem_modify {k : K} {change : Update key uid} {a : A} (member : a ∈ (o.modify k change).items) :
  (a ∈ o.items /\ key a ≠ k) \/ (∃ old, o.find k = some old /\ a = change.apply old) := by
  unfold modify items at member
  split at member
  next absent => exact .inl ⟨member, find_eq_none_iff.mp absent a member⟩
  next old found =>
    have named : key old = k := find_key found
    rcases mem_put.mp member with changed | ⟨kept, apart⟩
    · exact .inr ⟨old, found, changed⟩
    · exact .inl ⟨kept, by rwa [change.key_eq old, named] at apart⟩

lemma find_modify (o : Objects key uid) (k k' : K) (change : Update key uid) :
  (o.modify k change).find k' = if k' = k then (o.find k).map change.apply else o.find k' := by
  unfold modify find
  split
  next absent =>
    split
    next here => rw [here, absent, Option.map_none]
    · rfl
  next old found =>
    have named : key old = k := find_key found
    rw [find_put, change.key_eq old, named, found, Option.map_some]

lemma mem_create {new a : A} (member : a ∈ (o.create new).items) : a ∈ o.items \/ a = new := by
  unfold create at member
  split at member
  · rcases mem_put.mp member with same | ⟨kept, -⟩
    · exact .inr same
    · exact .inl kept
  · exact .inl member

lemma find_create_of_some {new a : A} {k : K} (found : o.find k = some a) : (o.create new).find k = some a := by
  unfold create
  split
  next fresh =>
    have named : key a = k := find_key found
    have apart : k ≠ key new := named ▸ (fresh a (mem_of_find found)).1
    change (o.store.put new).find k = some a
    rw [find_put, if_neg apart]
    exact found
  · exact found

lemma mem_remove {k : K} {a : A} : a ∈ (o.remove k).items ↔ a ∈ o.items /\ key a ≠ k :=
  Store.mem_remove

lemma find_remove (o : Objects key uid) (k k' : K) : (o.remove k).find k' = if k' = k then none else o.find k' :=
  Store.find_remove o.store k k'

lemma mem_of_find {k : K} {a : A} (found : o.find k = some a) : a ∈ o.items := Store.mem_of_find found

lemma find_of_mem {a : A} (member : a ∈ o.items) : o.find (key a) = some a := Store.find_of_mem member

lemma find_key {k : K} {a : A} (found : o.find k = some a) : key a = k := Store.find_key found

end Objects

end Ectobase.Shared
