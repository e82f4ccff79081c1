import Mathlib.Data.List.MinMax
import Mathlib.Data.List.Sort

namespace Ectobase.Shared

open List

section

variable {E R : Type} [LinearOrder R] (rank : E -> R) (covers : E -> E -> Bool)

-- An entry that is taken evicts those of higher rank that it covers.
def insertRanked (set : List E) (e : E) : List E :=
  if set.any fun x => decide (rank x < rank e) && covers x e then set
  else (set.filter fun x => !(decide (rank e < rank x) && covers e x)) ++ [e]

def survivors (all : List E) : List E := all.foldl (insertRanked rank covers) []

def byRank (set : List E) : List E := set.insertionSort (Order.Preimage rank (· <= ·))

def Undominated (all : List E) (e : E) : Prop := ∀ x ∈ all, rank x < rank e -> covers x e = false

end

section

variable {E R P : Type} [LinearOrder R] {rank : E -> R} {covers : E -> E -> Bool}

lemma survivors_append (all : List E) (e : E) :
  survivors rank covers (all ++ [e]) = insertRanked rank covers (survivors rank covers all) e := by
  simp [survivors]

variable (transitive : ∀ a b c, covers a b = true -> covers b c = true -> covers a c = true)

include transitive

lemma exists_undominated_cover {all : List E} {x e : E} (member : x ∈ all)
  (lower : rank x < rank e) (covered : covers x e = true) :
  ∃ y ∈ all, rank y < rank e /\ covers y e = true /\ Undominated rank covers all y := by
  let covering := all.filter fun y => decide (rank y < rank e) && covers y e
  have mem_covering (y : E) : y ∈ covering ↔ y ∈ all /\ rank y < rank e /\ covers y e = true := by
    simp [covering]
  have nonempty : covering ≠ [] := ne_nil_of_mem ((mem_covering x).mpr ⟨member, lower, covered⟩)
  obtain ⟨y, lowest⟩ := Option.ne_none_iff_exists'.mp (mt argmin_eq_none.mp nonempty : covering.argmin rank ≠ none)
  obtain ⟨inAll, below, covers_⟩ := (mem_covering y).mp (argmin_mem lowest)
  refine ⟨y, inAll, below, covers_, fun z inAll' lower' => ?_⟩
  by_contra dominated
  have dominated : covers z y = true := by simpa using dominated
  have again := (mem_covering z).mpr ⟨inAll', lower'.trans below, transitive z y e dominated covers_⟩
  exact absurd (le_of_mem_argmin again lowest) (not_le.mpr lower')

lemma survivors_eq_filter (all : List E) : survivors rank covers all =
  all.filter fun e => !all.any fun x => decide (rank x < rank e) && covers x e := by
  induction all using reverseRecOn with
  | nil => rfl
  | append_singleton all new ih =>
    rw [survivors_append, insertRanked, filter_append]
    -- `new` is covered from below by what was kept iff it is by anything listed.
    have lowest : (survivors rank covers all).any (fun x => decide (rank x < rank new) && covers x new) =
      all.any fun x => decide (rank x < rank new) && covers x new := by
      rw [ih, Bool.eq_iff_iff]
      simp only [any_eq_true, mem_filter, Bool.and_eq_true, decide_eq_true_eq]
      constructor
      · rintro ⟨x, ⟨member, -⟩, held⟩
        exact ⟨x, member, held⟩
      · rintro ⟨x, member, lower, covered⟩
        obtain ⟨y, member, below, covers_, free⟩ := exists_undominated_cover transitive member lower covered
        refine ⟨y, ⟨member, ?_⟩, below, covers_⟩
        simpa [Undominated, imp_iff_not_or] using free
    rw [lowest]
    split
    next refused =>
      rw [ih]
      simp only [filter_cons, any_append, refused, Bool.true_or, Bool.not_true,
        Bool.false_eq_true, if_false, filter_nil, append_nil]
      refine (filter_congr fun e member => ?_).symm
      obtain ⟨x, inAll, worse⟩ := any_eq_true.mp refused
      simp only [Bool.and_eq_true, decide_eq_true_eq] at worse
      by_cases evicts : decide (rank new < rank e) && covers new e
      · -- the one that keeps `new` out also covers whatever `new` would have evicted
        have dominated : (all.any fun y => decide (rank y < rank e) && covers y e) = true := by
          simp only [Bool.and_eq_true, decide_eq_true_eq] at evicts
          simp only [any_eq_true, Bool.and_eq_true, decide_eq_true_eq]
          exact ⟨x, inAll, worse.1.trans evicts.1, transitive x new e worse.2 evicts.2⟩
        simp [dominated]
      · simp [evicts]
    next taken =>
      rw [Bool.not_eq_true] at taken
      rw [ih, filter_filter]
      congr 1
      · simp only [any_append, any_cons, any_nil, Bool.or_false, Bool.not_or, Bool.and_comm]
      · simp [any_append, taken]

lemma mem_survivors {all : List E} {e : E} : e ∈ survivors rank covers all ↔ e ∈ all /\ Undominated rank covers all e := by
  simp [survivors_eq_filter transitive, Undominated, imp_iff_not_or]

lemma exists_survivor (rank : E -> R) {all : List E} {e : E} (member : e ∈ all) :
  ∃ y ∈ survivors rank covers all, y = e \/ (rank y < rank e /\ covers y e = true) := by
  by_cases undominated : Undominated rank covers all e
  · exact ⟨e, (mem_survivors transitive).mpr ⟨member, undominated⟩, .inl rfl⟩
  · simp only [Undominated, not_forall, Bool.not_eq_false] at undominated
    obtain ⟨x, inAll, lower, covered⟩ := undominated
    obtain ⟨y, inAll', below, covers_, free⟩ := exists_undominated_cover transitive inAll lower covered
    exact ⟨y, (mem_survivors transitive).mpr ⟨inAll', free⟩, .inr ⟨below, covers_⟩⟩

lemma survivors_eq_nil_iff {all : List E} : survivors rank covers all = [] ↔ all = [] := by
  refine ⟨fun empty => ?_, fun empty => by rw [empty]; rfl⟩
  by_contra nonempty
  obtain ⟨e, member⟩ := exists_mem_of_ne_nil all nonempty
  obtain ⟨y, kept, -⟩ := exists_survivor transitive rank member
  exact not_mem_nil (empty ▸ kept)

end

section

variable {E R P : Type} [LinearOrder R] {rank : E -> R} {covers : E -> E -> Bool}

lemma mem_byRank {set : List E} {e : E} : e ∈ byRank rank set ↔ e ∈ set := mem_insertionSort _

lemma byRank_sorted (set : List E) : (byRank rank set).Pairwise fun a b => rank a <= rank b :=
  pairwise_insertionSort (Order.Preimage rank (· <= ·)) set

lemma rank_le_of_find? {set : List E} (sorted : set.Pairwise fun a b => rank a <= rank b)
  {p : E -> Bool} {m y : E} (found : set.find? p = some m) (member : y ∈ set) (hit : p y = true) :
  rank m <= rank y := by
  obtain ⟨-, before, behind, rfl, quiet⟩ := find?_eq_some_iff_append.mp found
  rcases mem_append.mp member with early | late
  · simpa [hit] using quiet y early
  · rcases mem_cons.mp late with rfl | later
    · exact le_refl _
    · exact (pairwise_cons.mp (pairwise_append.mp sorted).2.1).1 y later

variable {hits : E -> P -> Bool} (transitive : ∀ a b c, covers a b = true -> covers b c = true -> covers a c = true)
  (sound : ∀ a e p, covers a e = true -> hits e p = true -> hits a p = true)

include transitive sound

-- A match that was dropped is covered by a survivor of lower rank, which matches too.
lemma exists_survivor_hit (rank : E -> R) {all : List E} {p : P} {y : E} (member : y ∈ all) (hit : hits y p = true) :
  ∃ z ∈ byRank rank (survivors rank covers all), rank z <= rank y /\ hits z p = true := by
  obtain ⟨z, kept, rfl | ⟨below, covers_⟩⟩ := exists_survivor transitive rank member
  · exact ⟨z, mem_byRank.mpr kept, le_refl _, hit⟩
  · exact ⟨z, mem_byRank.mpr kept, below.le, sound z y p covers_ hit⟩

lemma find?_survivors {all : List E} {p : P} {m : E}
  (found : (byRank rank (survivors rank covers all)).find? (hits · p) = some m) :
  m ∈ all /\ hits m p = true /\ ∀ y ∈ all, hits y p = true -> rank m <= rank y := by
  have kept := mem_byRank.mp (mem_of_find?_eq_some found)
  have hit : hits m p = true := by simpa using find?_some found
  refine ⟨((mem_survivors transitive).mp kept).1, hit, fun y member hit => ?_⟩
  obtain ⟨z, kept, below, hit⟩ := exists_survivor_hit transitive sound rank member hit
  exact (rank_le_of_find? (byRank_sorted _) found kept hit).trans below

lemma find?_survivors_eq_none {all : List E} {p : P}
  (missed : (byRank rank (survivors rank covers all)).find? (hits · p) = none) {y : E}
  (member : y ∈ all) : hits y p = false := by
  by_contra hit
  obtain ⟨z, kept, -, hit⟩ := exists_survivor_hit transitive sound rank member (by simpa using hit)
  exact find?_eq_none.mp missed z kept hit

omit sound in
lemma byRank_survivors_perm {all all' : List E} (distinct : (all.map rank).Nodup) (perm : all.Perm all') :
  byRank rank (survivors rank covers all) = byRank rank (survivors rank covers all') := by
  have nodup {l : List E} (distinct : (l.map rank).Nodup) : ((byRank rank (survivors rank covers l)).map rank).Nodup := by
    have perm := perm_insertionSort (Order.Preimage rank (· <= ·)) (survivors rank covers l)
    have kept : (survivors rank covers l).Sublist l := by
      rw [survivors_eq_filter transitive]
      exact filter_sublist
    exact (perm.map rank).nodup_iff.mpr (distinct.sublist (kept.map rank))
  have distinct' : (all'.map rank).Nodup := (perm.map rank).nodup_iff.mp distinct
  have same : (byRank rank (survivors rank covers all)).Perm (byRank rank (survivors rank covers all')) := by
    rw [perm_ext_iff_of_nodup (nodup distinct).of_map (nodup distinct').of_map]
    intro e
    simp only [mem_byRank, mem_survivors transitive, Undominated, perm.mem_iff]
  refine same.eq_of_pairwise (fun a b left right below above => ?_) (byRank_sorted _) (byRank_sorted _)
  have inj := inj_on_of_nodup_map (nodup distinct)
  exact inj left (same.mem_iff.mpr right) (le_antisymm below above)

end

end Ectobase.Shared
