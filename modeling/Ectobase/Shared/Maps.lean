import Mathlib.Data.Finmap
import Mathlib.Data.Finset.Sort

namespace Ectobase.Shared

open List

variable {K V : Type} [DecidableEq K]

abbrev Map (K V : Type) := Finmap fun _ : K => V

variable (k k' : K) {α : Type}

lemma lookup_insert_ite (v : V) (m : Map K V) : (m.insert k v).lookup k' = if k' = k then some v else m.lookup k' := by
  by_cases same : k' = k
  · subst same
    rw [if_pos rfl, Finmap.lookup_insert]
  · rw [if_neg same, Finmap.lookup_insert_of_ne _ same]

lemma lookup_erase_ite (m : Map K V) : (m.erase k).lookup k' = if k' = k then none else m.lookup k' := by
  by_cases same : k' = k
  · subst same
    rw [if_pos rfl, Finmap.lookup_erase]
  · rw [if_neg same, Finmap.lookup_erase_ne same]

lemma erase_of_lookup_none {k : K} {m : Map K V} (absent : m.lookup k = none) : m.erase k = m := by
  apply Finmap.ext_lookup
  intro k'
  rw [lookup_erase_ite]
  split
  next here => rw [here, absent]
  · rfl

def eraseAll (m : Map K V) (keys : List K) : Map K V := keys.foldl (fun m k => m.erase k) m

lemma lookup_eraseAll (keys : List K) (k : K) (m : Map K V) :
  (eraseAll m keys).lookup k = if k ∈ keys then none else m.lookup k := by
  induction keys generalizing m with
  | nil => simp [eraseAll]
  | cons first rest ih =>
    have unrolled : eraseAll m (first :: rest) = eraseAll (m.erase first) rest := rfl
    rw [unrolled, ih, lookup_erase_ite]
    by_cases here : k = first <;> simp [here]

lemma insert_eq_self_iff (k : K) (v : V) (m : Map K V) : m.insert k v = m ↔ m.lookup k = some v := by
  constructor
  · intro same
    rw [<- same, Finmap.lookup_insert]
  · intro held
    apply Finmap.ext_lookup
    intro k'
    rw [lookup_insert_ite]
    split
    next here => rw [here, held]
    · rfl

lemma mem_keys_iff_lookup (k : K) (m : Map K V) : k ∈ m.keys ↔ ∃ v, m.lookup k = some v := by
  rw [Finmap.mem_keys, <- Finmap.lookup_isSome, Option.isSome_iff_exists]

def Enumerates (order : List K) (s : Finset K) : Prop := order.Nodup /\ ∀ k, k ∈ order ↔ k ∈ s

instance Enumerates.decidable (order : List K) (s : Finset K) : Decidable (Enumerates order s) :=
  decidable_of_iff (order.Nodup /\ order.toFinset = s) (by simp [Enumerates, Finset.ext_iff])

def sorted {α : Type} [LinearOrder α] (s : Finset α) : List α :=
  Quot.liftOn s.val (fun xs => xs.insertionSort (· <= ·)) fun xs ys perm =>
    List.Perm.eq_of_pairwise (fun _ _ _ _ => le_antisymm) (pairwise_insertionSort _ xs) (pairwise_insertionSort _ ys)
      ((perm_insertionSort _ xs).trans (perm.trans (perm_insertionSort _ ys).symm))

lemma mem_sorted [LinearOrder α] (s : Finset α) (a : α) : a ∈ sorted s ↔ a ∈ s := by
  obtain ⟨⟨xs⟩, nodup⟩ := s
  exact mem_insertionSort (· <= ·)

lemma sorted_nodup [LinearOrder α] (s : Finset α) : (sorted s).Nodup := by
  obtain ⟨⟨xs⟩, nodup⟩ := s
  exact (perm_insertionSort _ xs).nodup_iff.mpr nodup

@[simp] lemma sorted_eq_nil [LinearOrder α] (s : Finset α) : sorted s = [] ↔ s = ∅ := by
  rw [eq_nil_iff_forall_not_mem, Finset.eq_empty_iff_forall_notMem]
  simp [mem_sorted]

end Ectobase.Shared
