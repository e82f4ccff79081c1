import Ectobase.Flowplane.NatStoreSound

namespace Ectobase.Flowplane

open Shared List NatStore

section

variable {A : Type} [LinearOrder A] {addrBits : Nat}

structure EndsBefore (r r' : A × UInt16 × UInt16) : Prop where
  sorted : rangeKey r <= rangeKey r'
  nonempty : r.2.1.toNat < r.2.2.toNat
  apart : r.1 = r'.1 -> r.2.2.toNat <= r'.2.1.toNat

lemma EndsBefore.trans {a b c : A × UInt16 × UInt16} (ab : EndsBefore a b) (bc : EndsBefore b c) : EndsBefore a c := by
  refine ⟨ab.sorted.trans bc.sorted, ab.nonempty, ?_⟩
  intro same
  have first : a.1 <= b.1 := (Prod.Lex.le_iff.mp ab.sorted).elim le_of_lt fun eq => le_of_eq eq.1
  have second : b.1 <= c.1 := (Prod.Lex.le_iff.mp bc.sorted).elim le_of_lt fun eq => le_of_eq eq.1
  have middle : a.1 = b.1 := le_antisymm first (same ▸ second)
  have before := ab.apart middle
  have after := bc.apart (middle ▸ same)
  have nonempty := bc.nonempty
  omega

instance : IsTrans (A × UInt16 × UInt16) EndsBefore := ⟨fun _ _ _ => EndsBefore.trans⟩

lemma isChain_iff_zip_tail {α : Type} {R : α -> α -> Prop} {xs : List α} :
  List.IsChain R xs ↔ ∀ p ∈ xs.zip xs.tail, R p.1 p.2 := by
  induction xs with
  | nil => simp
  | cons x rest ih =>
    cases rest with
    | nil => simp
    | cons y rest => simpa [isChain_cons_cons] using fun _ => ih

def portRange (b : NeighborNatBlock A) : A × UInt16 × UInt16 := (b.natIp, b.portMin, b.portMax)

lemma checkBlocks_ok {blocks : List (NeighborNatBlock A)} (ok : checkBlocks blocks = .ok ()) :
  (∀ b ∈ blocks, b.portMin < b.portMax) /\ blocks.Pairwise Apart := by
  simp only [checkBlocks, checkBlockSet, map_map] at ok
  split at ok
  · cases ok
  next full =>
    have nonempty : ∀ b ∈ blocks, b.portMin < b.portMax := by
      simpa [any_eq_true, UInt16.not_le] using full
    refine ⟨nonempty, ?_⟩
    split at ok
    · cases ok
    · split at ok
      · cases ok
      next clear =>
        let ranges := (blocks.map portRange).insertionSort fun r r' => rangeKey r <= rangeKey r'
        have perm : ranges.Perm (blocks.map portRange) := perm_insertionSort _ _
        have ascending : ranges.IsChain fun r r' => rangeKey r <= rangeKey r' :=
          (pairwise_insertionSort _ _).isChain
        have chain : ranges.IsChain EndsBefore := by
          rw [isChain_iff_zip_tail] at ascending ⊢
          intro p neighbours
          obtain ⟨b, member, range⟩ := mem_map.mp (perm.mem_iff.mp (of_mem_zip neighbours).1)
          refine ⟨ascending p neighbours, ?_, ?_⟩
          · rw [<- range]
            exact UInt16.lt_iff_toNat_lt.mp (nonempty b member)
          · intro same
            by_contra meets
            refine clear (any_eq_true.mpr ⟨p, neighbours, ?_⟩)
            simp only [decide_eq_true_eq]
            exact ⟨same, UInt16.lt_iff_toNat_lt.mpr (by omega)⟩
        have pairs : ranges.Pairwise fun r r' =>
            r.1 = r'.1 -> r.2.2 <= r'.2.1 \/ r'.2.2 <= r.2.1 :=
          (isChain_iff_pairwise.mp chain).imp fun before same =>
            .inl (UInt16.le_iff_toNat_le.mpr (before.apart same))
        rw [perm.pairwise_iff (fun apart same => (apart same.symm).symm), pairwise_map] at pairs
        exact pairs

omit [LinearOrder A] in
lemma blockId_injective {b c : NeighborNatBlock A} (same : blockId b = blockId c) : b = c := by
  obtain ⟨_, _, _, _, _⟩ := b
  obtain ⟨_, _, _, _, _⟩ := c
  obtain ⟨rfl, rfl, rfl, rfl, rfl⟩ := same
  rfl

lemma del_cases (addrBits : Nat) (s : NatStore A) (faults : Faults) (b : NeighborNatBlock A) :
  ∃ answer s' faults', s.del addrBits faults b.vni b.natIp b.portMin b.portMax = (answer, s', faults') /\
    (∀ k c, s'.blocks.lookup k = some c -> s.blocks.lookup k = some c) /\
    (answer.isOk = true -> s'.blocks.lookup b.key ≠ some b) := by
  unfold del
  split
  next missing =>
    refine ⟨_, s, faults, rfl, fun _ _ now => now, fun _ listed => ?_⟩
    cases missing.symm.trans listed
  next d held =>
    split
    next differs =>
      refine ⟨_, s, faults, rfl, fun _ _ now => now, fun _ listed => ?_⟩
      cases held.symm.trans listed
      simp at differs
    · dsimp only
      split
      next cause owners faults' _ =>
        exact ⟨_, _, faults', rfl, fun _ _ now => now, fun answered => by cases answered⟩
      next owners faults' _ =>
        refine ⟨_, _, faults', rfl, ?_, fun _ listed => ?_⟩
        · intro k c now
          rw [lookup_erase_ite] at now
          split at now
          · cases now
          · exact now
        · rw [NeighborNatBlock.key, lookup_erase_ite, if_pos rfl] at listed
          cases listed

lemma dropStale_spec {s : NatStore A} (sound : s.Sound addrBits) (faults : Faults)
  (removed : Nat) (stale : List (NeighborNatBlock A)) :
  ∃ answer s' faults', s.dropStale addrBits faults removed stale = (answer, s', faults') /\
    s'.Sound addrBits /\ (answer.isOk = true -> ∀ k c, s'.blocks.lookup k = some c ->
      s.blocks.lookup k = some c /\ c ∉ stale) := by
  induction stale generalizing s faults removed with
  | nil => exact ⟨_, s, faults, rfl, sound, fun _ k c now => ⟨now, not_mem_nil⟩⟩
  | cons b rest ih =>
    have kept := sound.del faults b.vni b.natIp b.portMin b.portMax
    obtain ⟨answer, s1, faults1, deleted, fewer, gone⟩ := del_cases addrBits s faults b
    rw [deleted] at kept
    simp only [dropStale, deleted]
    cases answer with
    | error e => exact ⟨_, s1, faults1, rfl, kept, fun answered => by cases answered⟩
    | ok found =>
      obtain ⟨answer', s', faults', dropped, sound', listed⟩ := ih kept faults1 (removed + 1)
      refine ⟨answer', s', faults', dropped, sound', ?_⟩
      intro answered k c now
      obtain ⟨was, fresh⟩ := listed answered k c now
      refine ⟨fewer k c was, ?_⟩
      intro member
      rcases mem_cons.mp member with rfl | tail
      · rw [<- kept.keyed was] at was
        exact gone rfl was
      · exact fresh tail

lemma storeBlock_listed (addrBits : Nat) (s : NatStore A) (faults : Faults)
  (b : NeighborNatBlock A) {k : BlockKey A} {c : NeighborNatBlock A}
  (now : (s.storeBlock addrBits faults b).2.1.blocks.lookup k = some c) :
  s.blocks.lookup k = some c \/ c = b := by
  have inserted (held : (s.blocks.insert b.key b).lookup k = some c) : s.blocks.lookup k = some c \/ c = b := by
    rw [lookup_insert_ite] at held
    split at held
    · cases held; exact .inr rfl
    · exact .inl held
  simp only [storeBlock] at now
  split at now
  · exact .inl now
  · split at now
    · exact inserted now
    · split at now
      · exact inserted now
      · exact .inl now

lemma storeMissing_sound {wanted : List (NeighborNatBlock A)}
  (nonempty : ∀ b ∈ wanted, b.portMin < b.portMax) (apart : wanted.Pairwise Apart)
  {ids : List (UInt32 × A × UInt16 × UInt16 × Octets 16)} {done rest : List (NeighborNatBlock A)}
  (parts : wanted = done ++ rest) {s : NatStore A} (sound : s.Sound addrBits)
  (listed : ∀ k c, s.blocks.lookup k = some c -> c ∈ done \/ (c ∈ wanted /\ blockId c ∈ ids))
  (faults : Faults) (added kept : Nat) :
  (s.storeMissing addrBits faults ids added kept rest).2.1.Sound addrBits := by
  induction rest generalizing s done faults added kept with
  | nil => exact sound
  | cons b rest ih =>
    have onward : wanted = (done ++ [b]) ++ rest := by rw [parts]; simp
    simp only [storeMissing]
    split
    · refine ih onward sound (fun k c held => ?_) faults added (kept + 1)
      exact (listed k c held).imp (mem_append_left _) id
    next missing =>
      have member : b ∈ wanted := by rw [parts]; simp
      have free : s.Free b := by
        intro k c held
        rw [parts, pairwise_append, pairwise_cons] at apart
        obtain ⟨_, ⟨later, _⟩, earlier⟩ := apart
        rcases listed k c held with before | ⟨inSet, known⟩
        · exact (earlier c before b mem_cons_self).symm
        · rw [parts, mem_append, mem_cons] at inSet
          rcases inSet with before | rfl | after
          · exact (earlier c before b mem_cons_self).symm
          · exact absurd known missing
          · exact later c after
      have stored := sound.storeBlock (nonempty b member) free faults
      have now {k c} := @storeBlock_listed A _ addrBits s faults b k c
      rcases outcome : s.storeBlock addrBits faults b with ⟨answer, s1, faults1⟩
      rw [outcome] at stored now
      cases answer with
      | error e => exact stored
      | ok _ =>
        refine ih onward stored (fun k c held => ?_) faults1 (added + 1) kept
        rcases now held with old | rfl
        · exact (listed k c old).imp (mem_append_left _) id
        · exact .inl (by simp)

lemma NatStore.Sound.restock {s : NatStore A} (sound : s.Sound addrBits)
  {wanted : List (NeighborNatBlock A)} (checked : checkBlocks wanted = .ok ())
  (listed : ∀ k c, s.blocks.lookup k = some c -> blockId c ∈ wanted.map blockId)
  (faults : Faults) (added kept : Nat) :
  (s.storeMissing addrBits faults s.ids added kept wanted).2.1.Sound addrBits := by
  obtain ⟨nonempty, apart⟩ := checkBlocks_ok checked
  refine storeMissing_sound nonempty apart (nil_append wanted).symm sound ?_ faults added kept
  intro k c held
  obtain ⟨c', member, same⟩ := mem_map.mp (listed k c held)
  rw [blockId_injective same] at member
  exact .inr ⟨member, mem_map_of_mem (mem_values.mpr ⟨k, held⟩)⟩

lemma wanted_of_not_stale {s : NatStore A} {wanted : List (NeighborNatBlock A)} {k : BlockKey A}
  {c : NeighborNatBlock A} (held : s.blocks.lookup k = some c) (fresh : c ∉ s.stale wanted) :
  blockId c ∈ wanted.map blockId := by
  by_contra unwanted
  exact fresh (mem_filter.mpr ⟨mem_values.mpr ⟨k, held⟩, decide_eq_true unwanted⟩)

end

structure NeighborNats.Sound (s : NeighborNats) : Prop where
  v4 : s.v4.Sound natOwnerAddrBits4
  v6 : s.v6.Sound natOwnerAddrBits6

lemma NeighborNats.Sound.replace {s : NeighborNats} (sound : s.Sound) (faults : Faults)
  (v4 : List NeighborNatEntry) (v6 : List NeighborNat6Entry) :
  (replaceNeighborNats s faults v4 v6).2.1.Sound := by
  unfold replaceNeighborNats
  split
  · exact sound
  · exact sound
  next checked4 checked6 =>
    obtain ⟨answer4, s4, faults4, dropped4, sound4, kept4⟩ :=
      dropStale_spec sound.v4 faults 0 (s.v4.stale v4)
    rw [dropped4]
    cases answer4 with
    | error e => exact ⟨sound4, sound.v6⟩
    | ok removed4 =>
      dsimp only
      obtain ⟨answer6, s6, faults6, dropped6, sound6, kept6⟩ :=
        dropStale_spec sound.v6 faults4 removed4 (s.v6.stale v6)
      rw [dropped6]
      cases answer6 with
      | error e => exact ⟨sound4, sound6⟩
      | ok removed6 =>
        dsimp only
        have stocked4 := sound4.restock checked4
          (fun k c now => wanted_of_not_stale (kept4 rfl k c now).1 (kept4 rfl k c now).2) faults6 0 0
        rcases outcome4 : s4.storeMissing natOwnerAddrBits4 faults6 s4.ids 0 0 v4 with
          ⟨answer, s4', faults'⟩
        rw [outcome4] at stocked4
        cases answer with
        | error e => exact ⟨stocked4, sound6⟩
        | ok counts =>
          dsimp only
          have stocked6 := sound6.restock checked6
            (fun k c now => wanted_of_not_stale (kept6 rfl k c now).1 (kept6 rfl k c now).2)
            faults' counts.1 counts.2
          rcases outcome6 : s6.storeMissing natOwnerAddrBits6 faults' s6.ids counts.1 counts.2 v6 with
            ⟨answer', s6', faults''⟩
          rw [outcome6] at stocked6
          cases answer' with
          | error | ok => exact ⟨stocked4, stocked6⟩

inductive NatOp where
  | addNeighborNat (b : NeighborNatEntry)
  | addNeighborNat6 (b : NeighborNat6Entry)
  | upsertNeighborNat (b : NeighborNatEntry)
  | upsertNeighborNat6 (b : NeighborNat6Entry)
  | delNeighborNat (vni : UInt32) (natIp : Octets 4) (portMin portMax : UInt16)
  | delNeighborNat6 (vni : UInt32) (natIp : Octets 16) (portMin portMax : UInt16)
  | replaceNeighborNats (v4 : List NeighborNatEntry) (v6 : List NeighborNat6Entry)

def NeighborNats.step (s : NeighborNats) : NatOp × Faults -> NeighborNats
  | (.addNeighborNat b, faults) => { s with v4 := (s.v4.add natOwnerAddrBits4 faults b).2.1 }
  | (.addNeighborNat6 b, faults) => { s with v6 := (s.v6.add natOwnerAddrBits6 faults b).2.1 }
  | (.upsertNeighborNat b, faults) => { s with v4 := (s.v4.upsert natOwnerAddrBits4 faults b).2.1 }
  | (.upsertNeighborNat6 b, faults) => { s with v6 := (s.v6.upsert natOwnerAddrBits6 faults b).2.1 }
  | (.delNeighborNat vni natIp portMin portMax, faults) =>
    { s with v4 := (s.v4.del natOwnerAddrBits4 faults vni natIp portMin portMax).2.1 }
  | (.delNeighborNat6 vni natIp portMin portMax, faults) =>
    { s with v6 := (s.v6.del natOwnerAddrBits6 faults vni natIp portMin portMax).2.1 }
  | (.replaceNeighborNats v4 v6, faults) => (Ectobase.Flowplane.replaceNeighborNats s faults v4 v6).2.1

lemma NeighborNats.Sound.step {s : NeighborNats} (sound : s.Sound) (op : NatOp × Faults) : (s.step op).Sound := by
  obtain ⟨op, faults⟩ := op
  cases op with
  | addNeighborNat b => exact ⟨sound.v4.add b faults, sound.v6⟩
  | addNeighborNat6 b => exact ⟨sound.v4, sound.v6.add b faults⟩
  | upsertNeighborNat b => exact ⟨sound.v4.upsert b faults, sound.v6⟩
  | upsertNeighborNat6 b => exact ⟨sound.v4, sound.v6.upsert b faults⟩
  | delNeighborNat vni natIp portMin portMax => exact ⟨sound.v4.del faults vni natIp portMin portMax, sound.v6⟩
  | delNeighborNat6 vni natIp portMin portMax => exact ⟨sound.v4, sound.v6.del faults vni natIp portMin portMax⟩
  | replaceNeighborNats v4 v6 => exact sound.replace faults v4 v6

theorem neighbor_nat_store_sound (ops : List (NatOp × Faults)) : (ops.foldl NeighborNats.step ⟨empty, empty⟩).Sound := by
  have start : NeighborNats.Sound ⟨empty, empty⟩ := ⟨empty_sound, empty_sound⟩
  generalize (⟨empty, empty⟩ : NeighborNats) = s at start
  induction ops generalizing s with
  | nil => exact start
  | cons op ops ih => exact ih (s.step op) (start.step op)

end Ectobase.Flowplane
