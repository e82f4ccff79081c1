import Mathlib.Order.Bounds.Basic
import Ectobase.Shared.Precedence

namespace Ectobase.Shared

open List

variable {E V : Type}

def GreatestOf (s : Set Nat) : Option Nat -> Prop
  | none => s = ∅
  | some p => IsGreatest s p

def optionMax : Option Nat -> Option Nat -> Option Nat
  | some a, some b => some (if b < a then a else b)
  | a, none => a
  | none, b => b

lemma optionMax_greatestOf (s t : Set Nat) (a b : Option Nat) (left : GreatestOf s a) (right : GreatestOf t b) :
  GreatestOf (s ∪ t) (optionMax a b) := by
  cases a with
  | none =>
    cases b with
    | none => simp_all [GreatestOf, optionMax]
    | some q => simpa [GreatestOf, optionMax, show s = ∅ from left] using right
  | some p =>
    cases b with
    | none => simpa [GreatestOf, optionMax, show t = ∅ from right] using left
    | some q =>
      have both : IsGreatest (s ∪ t) (max p q) := left.union right
      have same : max p q = if q < p then p else q := by split <;> omega
      simpa [GreatestOf, optionMax, same] using both

def LongestHit (entries : List E) (hits : E -> Prop) (len : E -> Nat) (value : E -> V) : Option V -> Prop
  | none => ∀ e ∈ entries, ¬ hits e
  | some v => ∃ e ∈ entries, hits e /\ value e = v /\ ∀ other ∈ entries, hits other -> len other <= len e

def keepMax (key : E -> Nat) (best : Option E) (x : E) : Option E := match best with
  | none => some x
  | some b => if key b <= key x then some x else some b

def maxByKey (key : E -> Nat) (xs : List E) : Option E := xs.foldl (keepMax key) none

def MaxOf (key : E -> Nat) (xs : List E) : Option E -> Prop
  | none => xs = []
  | some best => best ∈ xs /\ ∀ x ∈ xs, key x <= key best

lemma keepMax_maxOf (key : E -> Nat) (seen : List E) (best : Option E) (x : E)
  (correct : MaxOf key seen best) : MaxOf key (seen ++ [x]) (keepMax key best x) := by
  cases best with
  | none => simp_all [MaxOf, keepMax]
  | some b =>
    obtain ⟨member, bound⟩ := correct
    by_cases order : key b <= key x
    · simp only [keepMax, if_pos order]
      refine ⟨by simp, fun y hy => ?_⟩
      rcases mem_append.mp hy with old | new
      · exact (bound y old).trans order
      · rw [mem_singleton.mp new]
    · simp only [keepMax, if_neg order]
      refine ⟨by simp [member], fun y hy => ?_⟩
      rcases mem_append.mp hy with old | new
      · exact bound y old
      · rw [mem_singleton.mp new]
        omega

lemma maxByKey_maxOf (key : E -> Nat) (xs : List E) : MaxOf key xs (maxByKey key xs) := by
  have scan (xs seen : List E) (best : Option E) (correct : MaxOf key seen best) :
    MaxOf key (seen ++ xs) (xs.foldl (keepMax key) best) := by
    induction xs generalizing seen best with
    | nil => simpa using correct
    | cons x xs ih =>
      have next := ih (seen ++ [x]) _ (keepMax_maxOf key seen best x correct)
      rwa [append_assoc, singleton_append] at next
  exact scan xs [] none rfl

lemma maxByKey_longestHit (entries : List E) (hits : E -> Bool) (len : E -> Nat) (value : E -> V) :
  LongestHit entries (fun e => hits e = true) len value ((maxByKey len (entries.filter hits)).map value) := by
  have spec := maxByKey_maxOf len (entries.filter hits)
  cases found : maxByKey len (entries.filter hits) with
  | none =>
    rw [found] at spec
    simpa [MaxOf, LongestHit] using spec
  | some best =>
    rw [found] at spec
    obtain ⟨member, bound⟩ := spec
    obtain ⟨inside, hit⟩ := mem_filter.mp member
    refine ⟨best, inside, hit, rfl, fun other hother hhit => ?_⟩
    exact bound other (mem_filter.mpr ⟨hother, hhit⟩)

section

variable (covers : E -> E -> Bool) (prec : E -> Nat)

structure Shadowed (inserted entries : List E) : Prop where
  subset : ∀ e ∈ entries, e ∈ inserted
  covered : ∀ e ∈ inserted, ∃ x ∈ entries, covers x e = true /\ prec e <= prec x
  nested : ∀ x ∈ entries, ∀ y ∈ entries, covers x y = true -> prec x <= prec y

variable {covers prec}

lemma shadowed_survivors (refl : ∀ x, covers x x = true)
  (trans : ∀ x y z, covers x y = true -> covers y z = true -> covers x z = true) (all : List E) :
  Shadowed covers prec all (survivors (fun e => OrderDual.toDual (prec e)) covers all) where
  subset e kept := ((mem_survivors trans).mp kept).1
  covered e member := by
    by_cases free : Undominated (fun e => OrderDual.toDual (prec e)) covers all e
    · exact ⟨e, (mem_survivors trans).mpr ⟨member, free⟩, refl e, le_refl _⟩
    · simp only [Undominated, not_forall, Bool.not_eq_false] at free
      obtain ⟨x, inAll, above, wider⟩ := free
      obtain ⟨y, inAll', higher, covered, free⟩ := exists_undominated_cover trans inAll above wider
      exact ⟨y, (mem_survivors trans).mpr ⟨inAll', free⟩, covered, le_of_lt higher⟩
  nested x keptX y keptY wider := by
    obtain ⟨-, free⟩ := (mem_survivors trans).mp keptY
    by_contra above
    rw [free x ((mem_survivors trans).mp keptX).1 (not_le.mp above)] at wider
    cases wider

-- Provided hits of one key are nested.
lemma Shadowed.longest_greatest {inserted entries : List E} {hits : E -> Prop} {len : E -> Nat}
  (h : Shadowed covers prec inserted entries)
  (upward : ∀ x y, covers x y = true -> hits y -> hits x)
  (laminar : ∀ x ∈ inserted, ∀ y ∈ inserted, hits x -> hits y -> len x <= len y -> covers x y = true)
  (found : Option Nat) (lookup : LongestHit entries hits len prec found) :
  GreatestOf {p | ∃ e ∈ inserted, hits e /\ prec e = p} found := by
  cases found with
  | none =>
    apply Set.eq_empty_of_forall_notMem
    rintro p ⟨e, member, hit, _⟩
    obtain ⟨x, hx, wider, _⟩ := h.covered e member
    exact lookup x hx (upward x e wider hit)
  | some p =>
    obtain ⟨e, member, hit, value, longest⟩ := lookup
    refine ⟨⟨e, h.subset e member, hit, value⟩, ?_⟩
    rintro q ⟨other, hother, otherHit, rfl⟩
    obtain ⟨x, hx, wider, order⟩ := h.covered other hother
    have xHit := upward x other wider otherHit
    have nested := h.nested x hx e member (laminar x (h.subset x hx) e (h.subset e member) xHit hit (longest x hx xHit))
    omega

end

end Ectobase.Shared
