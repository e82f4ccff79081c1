import Ectobase.Shared.Maps

/-! One table that holds both leases and the slots they lease: an entry may name another key of the
same table, and the entry under that key then has to back it. -/

namespace Ectobase.Shared

variable {K E : Type} [DecidableEq K]
variable {slot : K -> E -> Option K} {backs : K -> E -> E -> Prop}

structure Leased (slot : K -> E -> Option K) (backs : K -> E -> E -> Prop) (m : Map K E) : Prop where
  backed : ∀ {k e r}, m.lookup k = some e -> slot k e = some r ->
    ∃ b, m.lookup r = some b /\ backs k e b
  exclusive : ∀ {k1 e1 k2 e2 r}, m.lookup k1 = some e1 -> slot k1 e1 = some r ->
    m.lookup k2 = some e2 -> slot k2 e2 = some r -> k1 = k2

def IsSlot (slot : K -> E -> Option K) (m : Map K E) (k : K) : Prop :=
  ∃ k' e', k' ≠ k /\ m.lookup k' = some e' /\ slot k' e' = some k

lemma leased_empty : Leased slot backs ∅ where
  backed held := by simp at held
  exclusive held := by simp at held

variable {m : Map K E}

lemma Leased.not_isSlot_of_absent (leased : Leased slot backs m) {k : K}
  (absent : m.lookup k = none) : ¬ IsSlot slot m k := by
  rintro ⟨k', e', _, held, leases⟩
  obtain ⟨b, present, _⟩ := leased.backed held leases
  rw [absent] at present
  cases present

lemma leasing_of_insert_plain {k k' r : K} {e e' : E} (plain : slot k e = none)
  (held : (m.insert k e).lookup k' = some e') (leases : slot k' e' = some r) : k' ≠ k /\ m.lookup k' = some e' := by
  rw [lookup_insert_ite] at held
  split at held
  next same =>
    cases held
    rw [same, plain] at leases
    cases leases
  next other => exact ⟨other, held⟩

lemma Leased.insert_plain (leased : Leased slot backs m) {k : K} {e : E}
  (free : ¬ IsSlot slot m k) (plain : slot k e = none) : Leased slot backs (m.insert k e) where
  backed {k' e' r} held leases := by
    obtain ⟨other, held⟩ := leasing_of_insert_plain plain held leases
    obtain ⟨b, present, back⟩ := leased.backed held leases
    have elsewhere : r ≠ k := by
      intro same
      exact free ⟨k', e', other, held, same ▸ leases⟩
    exact ⟨b, by rw [lookup_insert_ite, if_neg elsewhere, present], back⟩
  exclusive {k1 e1 k2 e2 r} held1 leases1 held2 leases2 := leased.exclusive
    (leasing_of_insert_plain plain held1 leases1).2 leases1 (leasing_of_insert_plain plain held2 leases2).2 leases2

lemma Leased.insert_lease (leased : Leased slot backs m) {k r : K} {e b : E}
  (free : ¬ IsSlot slot m k) (leases : slot k e = some r) (present : m.lookup r = some b)
  (back : backs k e b) (other : r ≠ k) (unleased : ¬ IsSlot slot m r)
  (unowned : slot r b ≠ some r) : Leased slot backs (m.insert k e) where
  backed {k' e' r'} held leases' := by
    rw [lookup_insert_ite] at held
    split at held
    next same =>
      cases held
      rw [same, leases] at leases'
      cases leases'
      exact ⟨b, by rw [lookup_insert_ite, if_neg other, present], same ▸ back⟩
    next differs =>
      obtain ⟨b', present', back'⟩ := leased.backed held leases'
      have elsewhere : r' ≠ k := by
        intro same
        exact free ⟨k', e', differs, held, same ▸ leases'⟩
      exact ⟨b', by rw [lookup_insert_ite, if_neg elsewhere, present'], back'⟩
  exclusive {k1 e1 k2 e2 r'} held1 leases1 held2 leases2 := by
    -- an older entry leasing `r` is either another key, or `r` leasing itself
    have fresh : ∀ {k' e'}, m.lookup k' = some e' -> slot k' e' ≠ some r := by
      intro k' e' held same
      by_cases itself : k' = r
      · rw [itself] at held same
        rw [present] at held
        cases held
        exact unowned same
      · exact unleased ⟨k', e', itself, held, same⟩
    rw [lookup_insert_ite] at held1 held2
    split at held1
    next same1 =>
      cases held1
      rw [same1, leases] at leases1
      cases leases1
      split at held2
      next same2 => rw [same1, same2]
      · exact absurd leases2 (fresh held2)
    · split at held2
      next same2 =>
        cases held2
        rw [same2, leases] at leases2
        cases leases2
        exact absurd leases1 (fresh held1)
      · exact leased.exclusive held1 leases1 held2 leases2

lemma isSlot_of_insert_plain {k k' : K} {e : E} (plain : slot k e = none)
  (leased : IsSlot slot (m.insert k e) k') : IsSlot slot m k' := by
  obtain ⟨k1, e1, other, held, leases⟩ := leased
  exact ⟨k1, e1, other, (leasing_of_insert_plain plain held leases).2, leases⟩

lemma Leased.reserve (leased : Leased slot backs m) {k r : K} {e b : E}
  (free : ¬ IsSlot slot m k) (absent : m.lookup r = none) (plain : slot r b = none)
  (leases : slot k e = some r) (back : backs k e b) (other : r ≠ k) :
  Leased slot backs ((m.insert r b).insert k e) := by
  have unleased : ¬ IsSlot slot m r := leased.not_isSlot_of_absent absent
  have kept (k' : K) (free' : ¬ IsSlot slot m k') : ¬ IsSlot slot (m.insert r b) k' :=
    fun taken => free' (isSlot_of_insert_plain plain taken)
  apply (leased.insert_plain unleased plain).insert_lease (kept k free) leases
    (Finmap.lookup_insert m) back other (kept r unleased)
  simp [plain]

lemma Leased.rewrite (leased : Leased slot backs m) {k : K} {e e' : E}
  (held : m.lookup k = some e) (same : slot k e' = slot k e)
  (asLease : ∀ b, backs k e b -> backs k e' b)
  (asSlot : ∀ k0 e0, backs k0 e0 e -> backs k0 e0 e') : Leased slot backs (m.insert k e') := by
  -- every entry of the new table stands for one of the old table under the same key
  have before : ∀ {k1 e1}, (m.insert k e').lookup k1 = some e1 ->
    ∃ e0, m.lookup k1 = some e0 /\ slot k1 e1 = slot k1 e0 /\ ∀ b, backs k1 e0 b -> backs k1 e1 b := by
    intro k1 e1 now
    rw [lookup_insert_ite] at now
    split at now
    next here =>
      cases now
      subst here
      exact ⟨e, held, same, asLease⟩
    · exact ⟨e1, now, rfl, fun _ back => back⟩
  constructor
  · intro k1 e1 r now leases
    obtain ⟨e0, was, slots, keeps⟩ := before now
    obtain ⟨b, present, back⟩ := leased.backed was (slots ▸ leases)
    by_cases here : r = k
    · subst here
      rw [held] at present
      cases present
      refine ⟨e', by rw [lookup_insert_ite, if_pos rfl], ?_⟩
      exact asSlot _ _ (keeps _ back)
    · exact ⟨b, by rw [lookup_insert_ite, if_neg here, present], keeps _ back⟩
  · intro k1 e1 k2 e2 r now1 leases1 now2 leases2
    obtain ⟨e₀₁, was1, slots1, _⟩ := before now1
    obtain ⟨e₀₂, was2, slots2, _⟩ := before now2
    exact leased.exclusive was1 (slots1 ▸ leases1) was2 (slots2 ▸ leases2)

lemma Leased.erase (leased : Leased slot backs m) {k : K} (free : ¬ IsSlot slot m k) : Leased slot backs (m.erase k) where
  backed {k' e' r} held leases := by
    rw [lookup_erase_ite] at held
    split at held
    · cases held
    next other =>
      obtain ⟨b, present, back⟩ := leased.backed held leases
      have elsewhere : r ≠ k := by
        intro same
        exact free ⟨k', e', other, held, same ▸ leases⟩
      exact ⟨b, by rw [lookup_erase_ite, if_neg elsewhere, present], back⟩
  exclusive {k1 e1 k2 e2 r} held1 leases1 held2 leases2 := by
    rw [lookup_erase_ite] at held1 held2
    split at held1
    · cases held1
    · split at held2
      · cases held2
      · exact leased.exclusive held1 leases1 held2 leases2

end Ectobase.Shared
