import Ectobase.Flowplane.NatStore

namespace Ectobase.Flowplane

open Shared List NatStore BlockKey

section

variable {A : Type} [LinearOrder A] {addrBits : Nat}

def ownerPaths (addrBits : Nat) (b : NeighborNatBlock A) : List (Nat × NatOwnerKeyData A) :=
  (ownerPrefixes addrBits b).map OwnerEntry.path

def Apart (b c : NeighborNatBlock A) : Prop :=
  b.natIp = c.natIp -> b.portMax <= c.portMin \/ c.portMax <= b.portMin

structure NatStore.Sound (addrBits : Nat) (s : NatStore A) : Prop where
  keyed : ∀ {k b}, s.blocks.lookup k = some b -> b.key = k
  nonempty : ∀ {k b}, s.blocks.lookup k = some b -> b.portMin < b.portMax
  disjoint : ∀ {k1 k2 b1 b2}, s.blocks.lookup k1 = some b1 -> s.blocks.lookup k2 = some b2 ->
    k1 ≠ k2 -> Apart b1 b2
  owned : ∀ p ∈ s.owners.keys, ∃ k b, s.blocks.lookup k = some b /\ p ∈ ownerPaths addrBits b
  counted : s.ownerCount = total (fun b => (ownerPrefixes addrBits b).length) s.blocks

lemma NatStore.empty_sound : (empty : NatStore A).Sound addrBits where
  keyed held := by simp [empty] at held
  nonempty held := by simp [empty] at held
  disjoint held := by simp [empty] at held
  owned p member := by
    obtain ⟨v, held⟩ := (mem_keys_iff_lookup p _).mp member
    simp [empty] at held
  counted := (total_empty _).symm

omit [LinearOrder A] in
lemma Apart.symm {b c : NeighborNatBlock A} (apart : Apart b c) : Apart c b :=
  fun same => (apart same.symm).symm

lemma BlockKey.le_iff {k k' : BlockKey A} :
  k <= k' ↔ k.natIp < k'.natIp \/ k.natIp = k'.natIp /\ k.portMin.toNat <= k'.portMin.toNat :=
  Prod.Lex.le_iff

omit [LinearOrder A] in
lemma ownerPaths_congr (addrBits : Nat) {b c : NeighborNatBlock A} (key : b.key = c.key)
  (portMax : b.portMax = c.portMax) : ownerPaths addrBits b = ownerPaths addrBits c := by
  obtain ⟨ip, portMin⟩ := mk.inj key
  simp only [ownerPaths, ownerPrefixes, ip, portMin, portMax, apply_ite (map _), map_nil, map_map]
  rfl

omit [LinearOrder A] in
lemma length_ownerPaths (addrBits : Nat) (b : NeighborNatBlock A) :
  (ownerPaths addrBits b).length = (ownerPrefixes addrBits b).length := by
  rw [ownerPaths, length_map]

variable (owners : OwnerTrie A) (faults : Faults) (e : OwnerEntry A) {s : NatStore A}

lemma ownerRemove_cases : ∃ failed owners' faults', ownerRemove owners faults e = (failed, owners', faults') /\
    owners'.keys ⊆ owners.keys /\ (failed = none -> OwnerEntry.path e ∉ owners'.keys) := by
  unfold ownerRemove
  split
  · exact ⟨_, _, _, rfl, subset_rfl, by simp⟩
  · refine ⟨_, _, _, rfl, ?_⟩
    rw [Finmap.keys_erase]
    exact ⟨Finset.erase_subset _ _, fun _ => Finset.notMem_erase _ _⟩

lemma removeEach_cases (entries : List (OwnerEntry A)) :
  ∃ failed owners' faults', removeEach owners faults entries = (failed, owners', faults') /\ owners'.keys ⊆ owners.keys /\
    (failed = none -> ∀ e ∈ entries, OwnerEntry.path e ∉ owners'.keys) := by
  induction entries generalizing owners faults with
  | nil => exact ⟨none, owners, faults, rfl, subset_rfl, by simp⟩
  | cons e rest ih =>
    obtain ⟨failed, owners1, faults1, here, fewer, removed⟩ := ownerRemove_cases owners faults e
    obtain ⟨later, owners', faults', tail, fewer', removed'⟩ := ih owners1 faults1
    refine ⟨failed.or later, owners', faults', by simp only [removeEach, here, tail], fewer'.trans fewer, ?_⟩
    intro none e' member
    obtain ⟨first, rest⟩ := Option.or_eq_none_iff.mp none
    rcases mem_cons.mp member with rfl | inTail
    · exact fun present => removed first (fewer' present)
    · exact removed' rest e' inTail

lemma ownerUpsert_cases : (∃ owners' faults', ownerUpsert owners faults e = (none, owners', faults') /\
      owners'.keys = Insert.insert (OwnerEntry.path e) owners.keys) \/
    ∃ cause faults', ownerUpsert owners faults e = (some cause, owners, faults') := by
  unfold ownerUpsert
  split
  next cause rest => exact .inr ⟨cause, rest, rfl⟩
  · exact .inl ⟨_, _, rfl, keys_insert _ _ _⟩

lemma upsertEach_cases (written entries : List (OwnerEntry A)) :
  (∃ owners' faults', upsertEach owners faults written entries = (none, owners', faults') /\
      ∀ p ∈ owners'.keys, p ∈ owners.keys \/ p ∈ entries.map OwnerEntry.path) \/
    ∃ cause done owners' faults', upsertEach owners faults written entries = (some (cause, done), owners', faults') /\
      written ⊆ done /\ done ⊆ written ++ entries /\
      ∀ p ∈ owners'.keys, p ∈ owners.keys \/ p ∈ done.map OwnerEntry.path := by
  induction entries generalizing owners faults written with
  | nil => exact .inl ⟨owners, faults, rfl, fun p member => .inl member⟩
  | cons e rest ih =>
    rcases ownerUpsert_cases owners faults e with
      ⟨owners1, faults1, wrote, keys⟩ | ⟨cause, faults1, failed⟩
    · simp only [upsertEach, wrote]
      have later := ih owners1 faults1 (written ++ [e])
      simp only [keys, Finset.mem_insert] at later
      rcases later with ⟨owners', faults', all, added⟩ | ⟨cause, done, owners', faults', all, before, within, added⟩
      · refine .inl ⟨owners', faults', all, fun p member => ?_⟩
        rcases added p member with (rfl | old) | new
        · exact .inr (mem_map_of_mem mem_cons_self)
        · exact .inl old
        · exact .inr (mem_cons_of_mem _ new)
      · obtain ⟨kept, here⟩ := append_subset.mp before
        refine .inr ⟨cause, done, owners', faults', all, kept, by simpa using within, fun p member => ?_⟩
        rcases added p member with (rfl | old) | new
        · exact .inr (mem_map_of_mem (here mem_cons_self))
        · exact .inl old
        · exact .inr new
    · simp only [upsertEach, failed]
      exact .inr ⟨cause, written, owners, faults1, rfl, List.Subset.refl _,
        subset_append_left _ _, fun p member => .inl member⟩

lemma NatStore.Sound.rewrite (sound : s.Sound addrBits) {owners : OwnerTrie A}
  (covered : ∀ p ∈ owners.keys, p ∈ s.owners.keys \/ ∃ k b, s.blocks.lookup k = some b /\ p ∈ ownerPaths addrBits b) :
  NatStore.Sound addrBits { s with owners } where
  keyed := sound.keyed
  nonempty := sound.nonempty
  disjoint := sound.disjoint
  owned p member := (covered p member).elim (sound.owned p) id
  counted := sound.counted

def NatStore.Free (s : NatStore A) (b : NeighborNatBlock A) : Prop :=
  ∀ k c, s.blocks.lookup k = some c -> Apart b c

lemma NatStore.Free.absent (sound : s.Sound addrBits) {b : NeighborNatBlock A}
  (nonempty : b.portMin < b.portMax) (free : s.Free b) : s.blocks.lookup b.key = none := by
  by_contra present
  obtain ⟨c, held⟩ := Option.ne_none_iff_exists'.mp present
  obtain ⟨ip, start⟩ := BlockKey.mk.inj (sound.keyed held)
  have other := sound.nonempty held
  rcases free b.key c held ip.symm with before | after
  · rw [UInt16.le_iff_toNat_le, start] at before
    rw [UInt16.lt_iff_toNat_lt] at nonempty
    omega
  · rw [UInt16.le_iff_toNat_le, <- start] at after
    rw [UInt16.lt_iff_toNat_lt] at other
    omega

lemma NatStore.Sound.list (sound : s.Sound addrBits) {b : NeighborNatBlock A}
  (nonempty : b.portMin < b.portMax) (free : s.Free b) {owners : OwnerTrie A}
  (covered : ∀ p ∈ owners.keys, p ∈ s.owners.keys \/ p ∈ ownerPaths addrBits b) :
  (s.list addrBits owners b).Sound addrBits := by
  have absent := NatStore.Free.absent sound nonempty free
  -- an entry of the new list is the new block or an old entry under another key
  have listed {k c} (held : (s.blocks.insert b.key b).lookup k = some c) :
    (k = b.key /\ c = b) \/ (k ≠ b.key /\ s.blocks.lookup k = some c) := by
    rw [lookup_insert_ite] at held
    split at held
    next same => cases held; exact .inl ⟨same, rfl⟩
    next other => exact .inr ⟨other, held⟩
  constructor
  · intro k c held
    rcases listed held with ⟨rfl, rfl⟩ | ⟨_, held⟩
    · rfl
    · exact sound.keyed held
  · intro k c held
    rcases listed held with ⟨rfl, rfl⟩ | ⟨_, held⟩
    · exact nonempty
    · exact sound.nonempty held
  · intro k1 k2 c1 c2 held1 held2 differ
    rcases listed held1 with ⟨rfl, rfl⟩ | ⟨_, was1⟩ <;> rcases listed held2 with ⟨rfl, rfl⟩ | ⟨_, was2⟩
    · exact absurd rfl differ
    · exact free k2 c2 was2
    · exact (free k1 c1 was1).symm
    · exact sound.disjoint was1 was2 differ
  · intro p member
    rcases covered p member with old | new
    · obtain ⟨k, c, held, path⟩ := sound.owned p old
      refine ⟨k, c, ?_, path⟩
      have other : k ≠ b.key := by
        rintro rfl
        rw [absent] at held
        cases held
      show (s.blocks.insert b.key b).lookup k = some c
      rw [lookup_insert_ite, if_neg other, held]
    · exact ⟨b.key, b, Finmap.lookup_insert _, new⟩
  · show s.ownerCount + _ = total _ (s.blocks.insert b.key b)
    rw [total_insert_new _ b absent, sound.counted]

lemma NatStore.Sound.storeBlock (sound : s.Sound addrBits)
  {b : NeighborNatBlock A} (nonempty : b.portMin < b.portMax) (free : s.Free b)
  (faults : Faults) : (s.storeBlock addrBits faults b).2.1.Sound addrBits := by
  simp only [NatStore.storeBlock]
  split
  · exact sound
  · rcases upsertEach_cases s.owners faults [] (ownerPrefixes addrBits b) with
      ⟨owners, faults', all, added⟩ | ⟨cause, done, owners, faults', all, _, within, added⟩
    · rw [all]
      exact sound.list nonempty free added
    · obtain ⟨failed, owners', faults'', result, fewer, removed⟩ := removeEach_cases owners faults' done
      have covered : ∀ p ∈ owners'.keys, p ∈ s.owners.keys \/ p ∈ done.map OwnerEntry.path :=
        fun p member => added p (fewer member)
      simp only [all, result]
      cases failed with
      | some cause' =>
        refine sound.list nonempty free fun p member => (covered p member).imp id ?_
        exact fun path => map_subset _ within path
      | none =>
        refine sound.rewrite fun p member => (covered p member).imp id ?_
        intro path
        obtain ⟨e, entry, rfl⟩ := mem_map.mp path
        exact absurd member (removed rfl e entry)

lemma BlockKey.between {k0 k' k : BlockKey A} (low : k0 <= k') (high : k' <= k) (same : k0.natIp = k.natIp) :
  k'.natIp = k.natIp /\ k0.portMin.toNat <= k'.portMin.toNat /\ k'.portMin.toNat <= k.portMin.toNat := by
  rcases le_iff.mp low with less | ⟨ip, le⟩ <;> rcases le_iff.mp high with less' | ⟨ip', le'⟩
  · rw [same] at less
    exact absurd less (not_lt_of_gt less')
  · rw [same, ip'] at less
    exact absurd less (lt_irrefl _)
  · rw [<- ip, same] at less'
    exact absurd less' (lt_irrefl _)
  · exact ⟨ip', le, le'⟩

lemma NatStore.Sound.ordered (sound : s.Sound addrBits) {k k' : BlockKey A}
  {c c' : NeighborNatBlock A} (held : s.blocks.lookup k = some c)
  (held' : s.blocks.lookup k' = some c') (same : k.natIp = k'.natIp)
  (le : k.portMin.toNat <= k'.portMin.toNat) (differ : k ≠ k') :
  c.portMax.toNat <= k'.portMin.toNat := by
  obtain ⟨ip, start⟩ := BlockKey.mk.inj (sound.keyed held)
  obtain ⟨ip', start'⟩ := BlockKey.mk.inj (sound.keyed held')
  have nonempty' := UInt16.lt_iff_toNat_lt.mp (sound.nonempty held')
  rcases sound.disjoint held held' differ (by rw [ip, ip', same]) with left | right
  · rw [start'] at left
    exact UInt16.le_iff_toNat_le.mp left
  · rw [start, UInt16.le_iff_toNat_le] at right
    rw [start'] at nonempty'
    omega

lemma NatStore.Sound.free_of_overlaps (sound : s.Sound addrBits)
  {b : NeighborNatBlock A} (clear : s.overlaps b.natIp b.portMin b.portMax = false) :
  s.Free b := by
  intro k c held same
  simp only [overlaps, Bool.or_eq_false_iff] at clear
  obtain ⟨ip, start⟩ := BlockKey.mk.inj (sound.keyed held)
  have sameIp : k.natIp = b.natIp := by rw [<- ip, same]
  by_cases before : k.portMin.toNat <= b.portMin.toNat
  · -- `c` is the predecessor, or ends before the predecessor starts
    have upTo : k <= b.key := le_iff.mpr (.inr ⟨sameIp, before⟩)
    obtain ⟨k', c', found, held', below, above⟩ := lastUpTo_spec held upTo
    obtain ⟨ip', le, le'⟩ := between above below sameIp
    have missed := clear.1
    rw [show (⟨b.natIp, b.portMin⟩ : BlockKey A) = b.key from rfl, found] at missed
    have ends : ¬ b.portMin < c'.portMax := fun reaches =>
      absurd missed (by simp only [decide_eq_false_iff_not, not_not]; exact ⟨ip', reaches⟩)
    rw [UInt16.lt_iff_toNat_lt, not_lt] at ends
    refine .inr (UInt16.le_iff_toNat_le.mpr ?_)
    by_cases itself : k = k'
    · rw [itself, held'] at held
      cases held
      exact ends
    · have short := sound.ordered held held' (sameIp.trans ip'.symm) le itself
      exact short.trans le'
  · -- `c` is the successor, or starts after the successor does
    have onward : b.key <= k := le_iff.mpr (.inr ⟨sameIp.symm, by show b.portMin.toNat <= _; omega⟩)
    obtain ⟨k', c', found, held', below, above⟩ := firstFrom_spec held onward
    obtain ⟨ip', _, le'⟩ := between below above sameIp.symm
    have missed := clear.2
    rw [show (⟨b.natIp, b.portMin⟩ : BlockKey A) = b.key from rfl, found] at missed
    have starts : ¬ k'.portMin < b.portMax := fun reaches =>
      absurd missed (by simp only [decide_eq_false_iff_not, not_not]; exact ⟨ip'.trans sameIp, reaches⟩)
    rw [UInt16.lt_iff_toNat_lt, not_lt] at starts
    refine .inl (UInt16.le_iff_toNat_le.mpr ?_)
    rw [start]
    exact starts.trans le'

lemma NatStore.Sound.add (sound : s.Sound addrBits) (b : NeighborNatBlock A)
  (faults : Faults) : (s.add addrBits faults b).2.1.Sound addrBits := by
  unfold NatStore.add
  split
  · exact sound
  next nonempty =>
    split
    · exact sound
    next clear =>
      exact sound.storeBlock (UInt16.not_le.mp nonempty) (sound.free_of_overlaps (Bool.eq_false_of_not_eq_true clear)) faults

lemma NatStore.Sound.relist (sound : s.Sound addrBits) {b c : NeighborNatBlock A} (held : s.blocks.lookup b.key = some c)
  (portMax : c.portMax = b.portMax) :
  NatStore.Sound addrBits { s with blocks := s.blocks.insert b.key b } := by
  have key := sound.keyed held
  obtain ⟨ip, start⟩ := BlockKey.mk.inj key
  -- every entry of the new list has an old one of the same key and range
  have listed {k d} (now : (s.blocks.insert b.key b).lookup k = some d) :
    ∃ d0, s.blocks.lookup k = some d0 /\ d.key = d0.key /\ d.portMax = d0.portMax := by
    rw [lookup_insert_ite] at now
    split at now
    next same => cases now; exact ⟨c, same ▸ held, key.symm, portMax.symm⟩
    · exact ⟨d, now, rfl, rfl⟩
  constructor
  · intro k d now
    obtain ⟨d0, was, sameKey, _⟩ := listed now
    rw [sameKey, sound.keyed was]
  · intro k d now
    obtain ⟨d0, was, sameKey, sameMax⟩ := listed now
    rw [sameMax, (BlockKey.mk.inj sameKey).2]
    exact sound.nonempty was
  · intro k1 k2 d1 d2 now1 now2 differ
    obtain ⟨e1, was1, key1, max1⟩ := listed now1
    obtain ⟨e2, was2, key2, max2⟩ := listed now2
    have apart := sound.disjoint was1 was2 differ
    rw [Apart, (BlockKey.mk.inj key1).1, (BlockKey.mk.inj key1).2, (BlockKey.mk.inj key2).1,
      (BlockKey.mk.inj key2).2, max1, max2]
    exact apart
  · intro p member
    obtain ⟨k, d, was, path⟩ := sound.owned p member
    by_cases same : k = b.key
    · rw [same, held] at was
      cases was
      rw [ownerPaths_congr addrBits key portMax] at path
      exact ⟨b.key, b, Finmap.lookup_insert _, path⟩
    · refine ⟨k, d, ?_, path⟩
      show (s.blocks.insert b.key b).lookup k = some d
      rw [lookup_insert_ite, if_neg same, was]
  · rw [sound.counted]
    refine (total_insert_same _ held ?_).symm
    rw [<- length_ownerPaths, <- length_ownerPaths, ownerPaths_congr addrBits key portMax]

lemma NatStore.Sound.upsert (sound : s.Sound addrBits) (b : NeighborNatBlock A)
  (faults : Faults) : (s.upsert addrBits faults b).2.1.Sound addrBits := by
  unfold NatStore.upsert
  split
  · exact sound
  · split
    next refresh =>
      obtain ⟨c, held, portMax⟩ := Option.map_eq_some_iff.mp refresh
      have paths := ownerPaths_congr addrBits (sound.keyed held) portMax
      rcases upsertEach_cases s.owners faults [] (ownerPrefixes addrBits b) with
        ⟨owners, faults', all, added⟩ | ⟨cause, done, owners, faults', all, _, within, added⟩
      · rw [all]
        have rewritten := sound.rewrite fun p member =>
          (added p member).imp id fun path => ⟨b.key, c, held, by rw [paths]; exact path⟩
        exact rewritten.relist held portMax
      · rw [all]
        refine sound.rewrite fun p member =>
          (added p member).imp id fun path => ⟨b.key, c, held, ?_⟩
        rw [paths]
        exact map_subset _ within path
    · exact sound.add b faults

lemma NatStore.Sound.del (sound : s.Sound addrBits) (faults : Faults) (vni : UInt32) (natIp : A) (portMin portMax : UInt16) :
  (s.del addrBits faults vni natIp portMin portMax).2.1.Sound addrBits := by
  unfold NatStore.del
  split
  · exact sound
  next b held =>
    split
    · exact sound
    · obtain ⟨failed, owners, faults', result, fewer, removed⟩ :=
        removeEach_cases s.owners faults (ownerPrefixes addrBits b)
      simp only [result]
      cases failed with
      | some cause => exact sound.rewrite fun p member => .inl (fewer member)
      | none =>
        have listed {k c} (now : (s.blocks.erase ⟨natIp, portMin⟩).lookup k = some c) : s.blocks.lookup k = some c := by
          rw [lookup_erase_ite] at now
          split at now
          · cases now
          · exact now
        constructor
        · exact fun now => sound.keyed (listed now)
        · exact fun now => sound.nonempty (listed now)
        · exact fun now1 now2 => sound.disjoint (listed now1) (listed now2)
        · intro p member
          obtain ⟨k, c, was, path⟩ := sound.owned p (fewer member)
          refine ⟨k, c, ?_, path⟩
          have other : k ≠ ⟨natIp, portMin⟩ := by
            rintro rfl
            rw [held] at was
            cases was
            obtain ⟨e, entry, rfl⟩ := mem_map.mp path
            exact removed rfl e entry member
          show (s.blocks.erase ⟨natIp, portMin⟩).lookup k = some c
          rw [lookup_erase_ite, if_neg other, was]
        · show s.ownerCount - _ = _
          rw [sound.counted, total_erase _ held, Nat.add_sub_cancel_left]

end

end Ectobase.Flowplane
