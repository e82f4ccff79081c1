import Ectobase.Mesh.BlockLayout
import Ectobase.Mesh.NatGateway
import Ectobase.Shared.Runs

namespace Ectobase.Mesh

open Shared List Option Allocator ZonedAddr NATGatewayStatus

variable {table : List NATAllocation}

section

structure Filled (ips : List String) (size : Int32) (a : Allocator) : Prop
  extends a.Over ips size where
  held : ∀ {source b}, a.assigned.lookup source = some b -> ∃ idx ∈ a.used, Slot ips size idx b
  owner : ∀ {idx}, idx ∈ a.used -> ∃ source b, a.assigned.lookup source = some b /\
    Slot ips size idx b
  single : ∀ {source source' b}, a.assigned.lookup source = some b ->
    a.assigned.lookup source' = some b -> source = source'

variable {ips : List String} {size : Int32} {a : Allocator}

lemma Filled.new (ips : List String) (size : Int32) : Filled ips size (new ips size) where
  toOver := new_over ips size
  held found := by simp [Allocator.new] at found
  owner used := by simp [Allocator.new] at used
  single found := by simp [Allocator.new] at found

lemma Filled.take (filled : Filled ips size a) (distinct : ips.Nodup) {source : String}
  {idx : Int32} {b : PortBlock} (slot : Slot ips size idx b) (free : idx ∉ a.used)
  (new : a.assigned.lookup source = none) :
  ∃ a', a.take source idx = some (b, a') /\ Filled ips size a' /\
    ∀ s, a'.assigned.lookup s = if s = source then some b else a.assigned.lookup s := by
  let next : Allocator := { a with used := insert idx a.used, assigned := a.assigned.insert source b }
  have taken : a.take source idx = some (b, next) := by
    rw [Allocator.take, filled.blockAt_eq, slot.blockAt]
    rfl
  have after (s : String) : (a.assigned.insert source b).lookup s =
    if s = source then some b else a.assigned.lookup s := lookup_insert_ite source s b a.assigned
  have untaken {s : String} (other : a.assigned.lookup s = some b) : False := by
    obtain ⟨idx', used, slot'⟩ := filled.held other
    exact free (slot.index_unique distinct slot' ▸ used)
  refine ⟨next, taken, ⟨(filled.toOver.take (.inl slot.nonneg) taken).1, ?_, ?_, ?_⟩, after⟩
  · intro s b' found
    rw [after] at found
    split at found
    · obtain rfl := some.inj found
      exact ⟨idx, Finset.mem_insert_self idx a.used, slot⟩
    · obtain ⟨idx', used, slot'⟩ := filled.held found
      exact ⟨idx', Finset.mem_insert_of_mem used, slot'⟩
  · intro idx' used
    rcases Finset.mem_insert.mp used with rfl | used
    · exact ⟨source, b, by rw [after, if_pos rfl], slot⟩
    · obtain ⟨s, b', found, slot'⟩ := filled.owner used
      have other : s ≠ source := fun same => by rw [same, new] at found; cases found
      exact ⟨s, b', by rw [after, if_neg other, found], slot'⟩
  · intro s s' b' found found'
    rw [after] at found found'
    split at found <;> split at found'
    next here here' => rw [here, here']
    · obtain rfl := some.inj found
      exact (untaken found').elim
    · obtain rfl := some.inj found'
      exact (untaken found).elim
    · exact filled.single found found'

lemma Filled.preassign (filled : Filled ips size a) (distinct : ips.Nodup)
  (counted : Counted ips size) {source : String} {b : PortBlock} {q : Int32}
  (placed : Placed size b q) (listed : b.publicIP ∈ ips)
  (same : ∀ b', a.assigned.lookup source = some b' -> b' = b)
  (own : ∀ s, a.assigned.lookup s = some b -> s = source) :
  ∃ a', a.preassign source b = some a' /\ Filled ips size a' /\
    ∀ s, a'.assigned.lookup s = if s = source then some b else a.assigned.lookup s := by
  obtain ⟨idx, index, slot⟩ := blockToIndex_slot counted placed listed
  rw [<- filled.blockToIndex_eq] at index
  simp only [Allocator.preassign, index]
  by_cases used : idx ∈ a.used
  · -- The slot is this source's own, from an equal entry before.
    obtain ⟨s, b', found, slot'⟩ := filled.owner used
    obtain rfl := slot.unique slot'
    obtain rfl := own s found
    refine ⟨a, if_pos used, filled, fun s' => ?_⟩
    split
    next here => rw [here, found]
    · rfl
  · have new : a.assigned.lookup source = none := by
      by_contra some_
      obtain ⟨b', found⟩ := ne_none_iff_exists'.mp some_
      obtain rfl := same b' found
      obtain ⟨idx', used', slot'⟩ := filled.held found
      exact used (slot.index_unique distinct slot' ▸ used')
    obtain ⟨a', taken, filled', after⟩ := filled.take distinct slot used new
    exact ⟨a', by rw [if_neg used, taken]; rfl, filled', after⟩

lemma Filled.lowestFree (filled : Filled ips size a) (counted : Counted ips size) {idx : Int32}
  (found : a.lowestFree = some idx) : idx ∉ a.used /\ ∃ b, Slot ips size idx b := by
  have free : idx ∉ a.used := by simpa using find?_some found
  refine ⟨free, ?_⟩
  have low := lowestFree_nonneg found
  obtain ⟨i, inside, rfl⟩ := mem_map.mp (mem_of_find?_eq_some found)
  have total := filled.total_eq
  have below : i < a.total.toInt.toNat := mem_range.mp inside
  have bound := a.total.toInt_lt
  have value : (Int32.ofNat i).toInt = i := Int32.toInt_ofNat_of_lt (by omega)
  have inPool : (Int32.ofNat i).toInt < ips.length * (Allocator.new ips size).blocksPerIP.toInt := by
    rw [<- total_toInt counted, <- total]
    omega
  obtain ⟨b, -, slot⟩ := blockAt_slot low inPool
  exact ⟨b, slot⟩

lemma Filled.assign (filled : Filled ips size a) (distinct : ips.Nodup) (counted : Counted ips size) (source : String) :
  ∃ answer a', a.assign source = some (answer, a') /\ Filled ips size a' /\
    (∀ s, a'.assigned.lookup s = if s = source then answer else a.assigned.lookup s) /\
    ∀ b, a.assigned.lookup source = some b -> answer = some b := by
  have kept {answer : Option PortBlock} (found : a.assigned.lookup source = answer) (s : String) :
    a.assigned.lookup s = if s = source then answer else a.assigned.lookup s := by
    split
    next here => rw [here, found]
    · rfl
  unfold Allocator.assign
  split
  next b found => exact ⟨some b, a, rfl, filled, kept found, fun b' found' => found.symm.trans found'⟩
  next new =>
    have unheld {answer : Option PortBlock} (b : PortBlock) (found : a.assigned.lookup source = some b) :
      answer = some b := by
      rw [new] at found
      cases found
    split
    · exact ⟨none, a, rfl, filled, kept new, unheld⟩
    · split
      · exact ⟨none, a, rfl, filled, kept new, unheld⟩
      next idx lowest =>
        obtain ⟨free, b, slot⟩ := filled.lowestFree counted lowest
        obtain ⟨a', taken, filled', after⟩ := filled.take distinct slot free new
        exact ⟨some b, a', by rw [taken]; rfl, filled', after, unheld⟩

lemma Filled.assignSources (filled : Filled ips size a) (distinct : ips.Nodup)
  (counted : Counted ips size) (sources : List String) :
  ∃ out unblocked a', assignSources a sources = some (out, unblocked) /\ Filled ips size a' /\
    (∀ {s b}, a.assigned.lookup s = some b -> a'.assigned.lookup s = some b) /\
    (∀ x ∈ out, a'.assigned.lookup x.source = some x.block) /\
    ∀ s ∈ sources, ∀ b, a.assigned.lookup s = some b -> natAllocation s b ∈ out := by
  induction sources generalizing a with
  | nil => exact ⟨[], 0, a, rfl, filled, id, forall_mem_nil _, forall_mem_nil _⟩
  | cons source rest ih =>
    obtain ⟨answer, next, assigned, filled, after, sticky⟩ := filled.assign distinct counted source
    obtain ⟨out, unblocked, a', rest_, filled, kept, lookups, stays⟩ := ih filled
    have grows {s : String} {b : PortBlock} (found : a.assigned.lookup s = some b) :
      next.assigned.lookup s = some b := by
      rw [after]
      split
      next here => exact sticky b (here ▸ found)
      · exact found
    cases answer with
    | none =>
      refine ⟨out, unblocked + 1, a', ?_, filled, fun found => kept (grows found), lookups, ?_⟩
      · simp only [Mesh.assignSources, assigned, rest_, bind_eq_bind, bind_some]
      · intro s member b found
        rcases mem_cons.mp member with rfl | later
        · cases sticky b found
        · exact stays s later b (grows found)
    | some block =>
      refine ⟨natAllocation source block :: out, unblocked, a', ?_, filled, fun found => kept (grows found), ?_, ?_⟩
      · simp only [Mesh.assignSources, assigned, rest_, bind_eq_bind, bind_some]
      · intro x member
        rcases mem_cons.mp member with rfl | later
        · exact kept (by rw [after, show (natAllocation source block).source = source from rfl,
            if_pos rfl]; rfl)
        · exact lookups x later
      · intro s member b found
        rcases mem_cons.mp member with rfl | later
        · obtain rfl := some.inj (sticky b found)
          exact mem_cons_self
        · exact mem_cons_of_mem _ (stays s later b (grows found))

def NATAllocation.Disjoint (x y : NATAllocation) : Prop := parse x.publicIP = parse y.publicIP ->
  x.portMax.toInt < y.portMin.toInt \/ y.portMax.toInt < x.portMin.toInt

structure Tidy (size : Int32) (table : List NATAllocation) : Prop where
  placed : ∀ x ∈ table, ∃ q, Placed size x.block q
  source : ∀ x ∈ table, ∀ y ∈ table, x.source = y.source -> x = y
  disjoint : ∀ x ∈ table, ∀ y ∈ table, x ≠ y -> x.Disjoint y

lemma Tidy.empty (size : Int32) : Tidy size [] where
  placed _ member := absurd member not_mem_nil
  source _ member := absurd member not_mem_nil
  disjoint _ member := absurd member not_mem_nil

lemma NATAllocation.ext_block {x y : NATAllocation} (source : x.source = y.source) (block : x.block = y.block) : x = y := by
  obtain ⟨s, ip, low, high⟩ := x
  obtain ⟨s', ip', low', high'⟩ := y
  simp_all [NATAllocation.block]

lemma Tidy.single (tidy : Tidy size table) {x y : NATAllocation} (memberX : x ∈ table)
  (memberY : y ∈ table) (same : x.block = y.block) : x = y := by
  by_contra differ
  obtain ⟨ip, low, high⟩ := PortBlock.mk.inj same
  obtain ⟨q, placed⟩ := tidy.placed x memberX
  obtain ⟨first, last, -⟩ := placed.ports
  have sized := placed.sized.1
  have apart := tidy.disjoint x memberX y memberY differ (congrArg parse ip)
  rw [<- low, <- high] at apart
  simp only [NATAllocation.block] at first last
  omega

-- A table keeps its ports when the block size changes; an entry then names the block that starts there, if one does.
def NATAllocation.blockOf (size : Int32) (x : NATAllocation) : PortBlock :=
  ⟨x.publicIP, x.portMin, x.portMin + size - 1⟩

def NATAllocation.Names (ips : List String) (size : Int32) (x : NATAllocation) : Prop :=
  x.publicIP ∈ ips /\ 0 < size.toInt /\ 1024 <= x.portMin.toInt /\ size.toInt ∣ x.portMin.toInt - 1024 /\
    x.portMin.toInt + size.toInt - 1 <= 65535

instance (ips : List String) (size : Int32) (x : NATAllocation) : Decidable (x.Names ips size) :=
  inferInstanceAs (Decidable (_ /\ _))

lemma NATAllocation.Names.placed {x : NATAllocation} (names : x.Names ips size) : ∃ q, Placed size (x.blockOf size) q := by
  obtain ⟨-, positive, low, ⟨k, aligned⟩, high⟩ := names
  have nonneg : 0 <= k := by
    by_contra negative
    have := mul_neg_of_pos_of_neg positive (not_le.mp negative)
    omega
  have inside : k < 64512 / size.toInt := by
    apply Int.add_one_le_iff.mp
    rw [Int.le_ediv_iff_mul_le positive, add_mul, one_mul, mul_comm]
    omega
  have few := Int.ediv_le_self size.toInt (show 0 <= (64512 : Int) by omega)
  have value : (Int32.ofNat k.toNat).toInt = k := by
    rw [Int32.toInt_ofNat_of_lt (by omega)]
    omega
  refine ⟨Int32.ofNat k.toNat, ?_, ?_, ?_, rfl⟩
  · rwa [value]
  · rwa [value, blocksPerIP_eq [] (by omega) (by omega)]
  · apply Int32.toInt_inj.mp
    rw [(ports_toInt (by omega) (by rw [value, mul_comm]; omega) (by rw [value, mul_comm]; omega)).1, value, mul_comm]
    simp only [NATAllocation.blockOf]
    omega

lemma names_of_offset {x : NATAllocation} (listed : x.publicIP ∈ ips) (positive : 1 <= size.toInt)
  (low : 0 <= (x.portMin - firstUsablePort).toInt) (aligned : (x.portMin - firstUsablePort).toInt % size.toInt = 0)
  (inside : (x.portMin - firstUsablePort).toInt / size.toInt < 64512 / size.toInt) : x.Names ips size := by
  have whole := Int.mul_ediv_add_emod (x.portMin - firstUsablePort).toInt size.toInt
  have last := Int.ediv_mul_le 64512 (show size.toInt ≠ 0 by omega)
  have below := mul_le_mul_of_nonneg_right (Int.add_one_le_of_lt inside) (show 0 <= size.toInt by omega)
  rw [add_mul, one_mul, mul_comm] at below
  have start : x.portMin.toInt = (x.portMin - firstUsablePort).toInt + 1024 := by
    have fits : (x.portMin - firstUsablePort + firstUsablePort).toInt = (x.portMin - firstUsablePort).toInt + 1024 :=
      toInt_add_of_fits (by rw [show firstUsablePort.toInt = 1024 from rfl]; omega)
        (by rw [show firstUsablePort.toInt = 1024 from rfl]; omega)
    rwa [Int32.sub_add_cancel] at fits
  exact ⟨listed, by omega, by omega, Int.dvd_of_emod_eq_zero (by rw [start, Int.add_sub_cancel, aligned]), by omega⟩

lemma names_of_index {x : NATAllocation} {idx : Int32} (index : (new ips size).blockToIndex x.block = some idx) :
  x.Names ips size := by
  simp only [blockToIndex] at index
  split at index
  · cases index
  next sized =>
    split at index
    · cases index
    next i found =>
      split at index
      · cases index
      · split at index
        · cases index
        next placed =>
          split at index
          · cases index
          next inside =>
            have blocks : 1 <= (new ips size).blocksPerIP.toInt := by
              have some_ : (new ips size).blocksPerIP.toInt ≠ 0 := fun zero => sized (.inl (Int32.toInt_inj.mp zero))
              have := blocksPerIP_nonneg ips size
              omega
            obtain ⟨positive, small⟩ := size_of_blocks ips blocks
            simp only [not_or, not_not, Int32.lt_iff_toInt_lt, Int32.le_iff_toInt_le, Int32.toInt_zero, not_lt,
              show (new ips size).size = size from rfl] at placed inside
            obtain ⟨low, aligned⟩ := placed
            rw [toInt_div_of_pos (by omega), Int.tdiv_eq_ediv_of_nonneg low, not_le, blocksPerIP_eq ips positive small] at inside
            have aligned := congrArg Int32.toInt aligned
            rw [Int32.toInt_mod, Int.tmod_eq_emod_of_nonneg low, Int32.toInt_zero] at aligned
            obtain ⟨row, here, -⟩ := findIdx?_eq_some_iff_getElem.mp found
            have listed : x.publicIP ∈ ips := by
              rw [show x.publicIP = (new ips size).ips[i] from (beq_iff_eq.mp here).symm]
              exact getElem_mem row
            exact names_of_offset listed positive low aligned inside

-- A table entry is known by its source, and by where its block starts.
def Sound (table : List NATAllocation) : Prop := ∀ x ∈ table, ∀ y ∈ table,
  x.source = y.source ↔ x.publicIP = y.publicIP /\ x.portMin = y.portMin

lemma Sound.preassignAll (sound : Sound table) (distinct : ips.Nodup) (counted : Counted ips size) :
  ∃ a, preassignAll (new ips size) table = some a /\ Filled ips size a /\
    (∀ s b, a.assigned.lookup s = some b -> ∃ x ∈ table, x.Names ips size /\ x.source = s /\ x.blockOf size = b) /\
    ∀ x ∈ table, x.Names ips size -> a.assigned.lookup x.source = some (x.blockOf size) := by
  -- Over what is left of the table: everything assigned so far is of the table.
  have all (rest : List NATAllocation) (sub : ∀ x ∈ rest, x ∈ table) {a : Allocator} (filled : Filled ips size a)
    (from_ : ∀ s b, a.assigned.lookup s = some b -> ∃ x ∈ table, x.Names ips size /\ x.source = s /\ x.blockOf size = b) :
    ∃ a', Mesh.preassignAll a rest = some a' /\ Filled ips size a' /\
      (∀ s b, a'.assigned.lookup s = some b -> ∃ x ∈ table, x.Names ips size /\ x.source = s /\ x.blockOf size = b) /\
      (∀ s b, a.assigned.lookup s = some b -> a'.assigned.lookup s = some b) /\
      ∀ x ∈ rest, x.Names ips size -> a'.assigned.lookup x.source = some (x.blockOf size) := by
    induction rest generalizing a with
    | nil => exact ⟨a, rfl, filled, from_, fun _ _ => id, forall_mem_nil _⟩
    | cons x rest ih =>
      have member := sub x mem_cons_self
      have later := fun y listed => sub y (mem_cons_of_mem x listed)
      by_cases names : x.Names ips size
      · obtain ⟨q, placed⟩ := names.placed
        have same (b : PortBlock) (found : a.assigned.lookup x.source = some b) : b = x.blockOf size := by
          obtain ⟨y, listed, -, source, rfl⟩ := from_ _ _ found
          obtain ⟨ip, start⟩ := (sound y listed x member).mp source
          rw [NATAllocation.blockOf, NATAllocation.blockOf, ip, start]
        have own (s : String) (found : a.assigned.lookup s = some (x.blockOf size)) : s = x.source := by
          obtain ⟨y, listed, -, rfl, block⟩ := from_ _ _ found
          obtain ⟨ip, start, -⟩ := PortBlock.mk.inj block
          exact (sound y listed x member).mpr ⟨ip, start⟩
        obtain ⟨next, seeded, filled, after⟩ := filled.preassign distinct counted placed names.1 same own
        have grows (s : String) (b : PortBlock) (found : a.assigned.lookup s = some b) :
          next.assigned.lookup s = some b := by
          rw [after]
          split
          next here => rw [same b (here ▸ found)]
          · exact found
        obtain ⟨a', folded, filled, from_, kept, seeds⟩ := ih later filled fun s b found => by
          rw [after] at found
          split at found
          next here => exact ⟨x, member, names, here.symm, some.inj found⟩
          · exact from_ s b found
        refine ⟨a', ?_, filled, from_, fun s b found => kept s b (grows s b found), ?_⟩
        · have seeded : a.preassign x.source x.block = some next := seeded
          simp only [Mesh.preassignAll, foldlM_cons, seeded, bind_eq_bind, bind_some]
          exact folded
        · refine forall_mem_cons.mpr ⟨fun _ => kept _ _ (by rw [after, if_pos rfl]), seeds⟩
      · have skipped : a.preassign x.source x.block = some a := by
          rw [Allocator.preassign, filled.blockToIndex_eq, eq_none_iff_forall_ne_some.mpr fun idx index =>
            names (names_of_index index)]
        obtain ⟨a', folded, rest⟩ := ih later filled from_
        refine ⟨a', ?_, rest.1, rest.2.1, rest.2.2.1, forall_mem_cons.mpr ⟨fun here => absurd here names, rest.2.2.2⟩⟩
        simp only [Mesh.preassignAll, foldlM_cons, skipped, bind_eq_bind, bind_some]
        exact folded
  obtain ⟨a, folded, filled, from_, -, seeds⟩ := all table (fun _ => id) (Filled.new ips size)
    (fun s b found => by simp [new] at found)
  exact ⟨a, folded, filled, from_, seeds⟩

lemma Tidy.named (tidy : Tidy size table) {x : NATAllocation} (member : x ∈ table) (listed : x.publicIP ∈ ips) :
  x.Names ips size /\ x.blockOf size = x.block := by
  obtain ⟨q, placed⟩ := tidy.placed x member
  have sized := placed.sized.1
  obtain ⟨first, last, low, high⟩ := placed.ports
  obtain ⟨-, -, -, end_⟩ := placed
  simp only [NATAllocation.block] at first last end_
  refine ⟨⟨listed, by omega, by omega, ⟨q.toInt, by rw [mul_comm]; omega⟩, by omega⟩, ?_⟩
  rw [NATAllocation.blockOf, ← end_]
  rfl

lemma Tidy.sound (tidy : Tidy size table) : Sound table := by
  intro x memberX y memberY
  constructor
  · intro same
    rw [tidy.source x memberX y memberY same]
    exact ⟨rfl, rfl⟩
  · rintro ⟨ip, start⟩
    have block : x.block = y.block := by
      rw [← (tidy.named memberX (mem_singleton_self _)).2, ← (tidy.named memberY (mem_singleton_self _)).2,
        NATAllocation.blockOf, NATAllocation.blockOf, ip, start]
    rw [tidy.single memberX memberY block]

lemma Tidy.assignBlocks (tidy : Tidy size table) (distinct : (ips.map parse).Nodup)
  (counted : Counted ips size) (listed : ∀ x ∈ table, x.publicIP ∈ ips) (sources : List String) :
  ∃ out unblocked, assignBlocks table ips size sources = some (out, unblocked) /\ Tidy size out /\
    ∀ x ∈ table, x.source ∈ sources -> x ∈ out := by
  have nodup := List.Nodup.of_map _ distinct
  obtain ⟨a, seeded, filled, -, seeds⟩ := tidy.sound.preassignAll nodup counted
  obtain ⟨out, unblocked, a', assigned, filled', -, lookups, stays⟩ :=
    filled.assignSources nodup counted sources
  refine ⟨out, unblocked, ?_, ⟨?_, ?_, ?_⟩, ?_⟩
  · rw [Mesh.assignBlocks, seeded, bind_some, assigned]
  · intro x member
    obtain ⟨idx, -, slot⟩ := filled'.held (lookups x member)
    exact slot.placed.2
  · intro x memberX y memberY same
    have lookupX := lookups x memberX
    rw [same, lookups y memberY] at lookupX
    exact NATAllocation.ext_block same (some.inj lookupX).symm
  · intro x memberX y memberY differ
    obtain ⟨idx, -, slot⟩ := filled'.held (lookups x memberX)
    obtain ⟨idx', -, slot'⟩ := filled'.held (lookups y memberY)
    have indices : idx ≠ idx' := by
      rintro rfl
      have same : x.block = y.block := slot.unique slot'
      have lookupX := lookups x memberX
      rw [same] at lookupX
      exact differ (NATAllocation.ext_block (filled'.single lookupX (lookups y memberY)) same)
    have apart := Slot.disjoint parse distinct slot slot' indices
    exact apart
  · intro x member present
    obtain ⟨names, block⟩ := tidy.named member (listed x member)
    exact stays x.source present x.block (block ▸ seeds x member names)

end

section

structure GatewayPass where
  gateway : NATGateway
  reads : GatewayReads
  stored : Bool

def NATGatewayStatus.step (status : NATGatewayStatus) (pass : GatewayPass) : NATGatewayStatus :=
  if pass.stored then
    match pass.gateway.sync pass.reads with
    | .failed => status
    | .stopped state => { status with state }
    | .written written => written
  else status

def NATGatewayStatus.empty : NATGatewayStatus where
  allocations := []
  state := ""

def GatewayPass.layouts (pass : GatewayPass) : List (List String) :=
  match pass.gateway.publicAddresses pass.reads with
  | .ready pooled addrs =>
    addrs :: match pass.reads.grown with
      | .claimed extra => if pooled then [insertSorted addrs extra] else []
      | _ => []
  | _ => []

-- The current table, no address listed twice, and none in use taken away.
structure Steady (size : Int32) (status : NATGatewayStatus) (pass : GatewayPass) : Prop where
  current : pass.gateway.status.allocations = status.allocations
  sized : pass.gateway.blockSize = size
  pool : ∀ addrs ∈ pass.layouts, (addrs.map parse).Nodup /\ Counted addrs size /\
    ∀ x ∈ status.allocations, x.publicIP ∈ addrs

instance (size : Int32) (status : NATGatewayStatus) (pass : GatewayPass) :
  Decidable (Steady size status pass) :=
  decidable_of_iff (_ /\ _ /\ _)
    ⟨fun ⟨current, sized, pool⟩ => ⟨current, sized, pool⟩,
      fun steady => ⟨steady.current, steady.sized, steady.pool⟩⟩

lemma sync_written {pass : GatewayPass} {status : NATGatewayStatus} (ended : pass.gateway.sync pass.reads = .written status) :
  ∃ nics ∈ pass.reads.nics, ∃ addrs ∈ pass.layouts, ∃ unblocked,
    assignBlocks pass.gateway.status.allocations addrs pass.gateway.blockSize
      (pass.gateway.sources nics) = some (status.allocations, unblocked) := by
  have table {result : Option (List NATAllocation × Nat)} (ended : .ofTable result = PassEnd.written status) :
    ∃ unblocked, result = some (status.allocations, unblocked) := by
    cases result with
    | none => cases ended
    | some pair =>
      obtain ⟨allocations, unblocked⟩ := pair
      obtain rfl := PassEnd.written.inj ended
      exact ⟨unblocked, rfl⟩
  unfold NATGateway.sync at ended
  split at ended
  · cases ended
  next nics read =>
    refine ⟨nics, read, ?_⟩
    dsimp only at ended
    split at ended
    · cases ended
    · cases ended
    next pooled addrs ready =>
      have first : addrs ∈ pass.layouts := by
        simp only [GatewayPass.layouts, ready]
        exact mem_cons_self
      split at ended
      · split at ended
        next pooled =>
          split at ended
          · cases ended
          · cases ended
          next extra grown =>
            have second : insertSorted addrs extra ∈ pass.layouts := by
              simp [GatewayPass.layouts, ready, grown, pooled]
            exact ⟨_, second, table ended⟩
          · exact ⟨addrs, first, table ended⟩
        · exact ⟨addrs, first, table ended⟩
      · exact ⟨addrs, first, table ended⟩

variable {size : Int32} {status : NATGatewayStatus} {pass : GatewayPass}

lemma step_tidy (tidy : Tidy size status.allocations) (steady : Steady size status pass) :
  Tidy size (status.step pass).allocations /\
    ∀ nics ∈ pass.reads.nics, ∀ x ∈ status.allocations, x.source ∈ pass.gateway.sources nics ->
      x ∈ (status.step pass).allocations := by
  unfold step
  split
  · split
    · exact ⟨tidy, fun _ _ _ member _ => member⟩
    · exact ⟨tidy, fun _ _ _ member _ => member⟩
    next written ended =>
      obtain ⟨nics, read, addrs, listed, unblocked, assigned⟩ := sync_written ended
      obtain ⟨distinct, counted, inUse⟩ := steady.pool addrs listed
      rw [steady.current, steady.sized] at assigned
      obtain ⟨out, unblocked', laid, tidy', kept⟩ :=
        tidy.assignBlocks distinct counted inUse (pass.gateway.sources nics)
      obtain ⟨rfl, -⟩ := Prod.mk.inj (mem_unique assigned laid)
      refine ⟨tidy', fun nics' read' x member present => kept x member ?_⟩
      obtain rfl := mem_unique read read'
      exact present
  · exact ⟨tidy, fun _ _ _ member _ => member⟩

lemma Tidy.ports (tidy : Tidy size table) {x : NATAllocation} (member : x ∈ table) :
  1024 <= x.portMin.toInt /\ x.portMin.toInt <= x.portMax.toInt /\ x.portMax.toInt <= 65535 := by
  obtain ⟨q, placed⟩ := tidy.placed x member
  have sized := placed.sized
  obtain ⟨first, last, low, high⟩ := placed.ports
  simp only [NATAllocation.block] at first last
  omega

end

theorem blocks_disjoint_and_kept (size : Int32) (passes : List GatewayPass)
  (along : Along step (Steady size) .empty passes) (n : Nat) :
  let status := (passes.take n).foldl step .empty
  (∀ x ∈ status.allocations, ∀ y ∈ status.allocations, x ≠ y -> x.source ≠ y.source /\ x.Disjoint y) /\
  (∀ x ∈ status.allocations, 1024 <= x.portMin.toInt /\ x.portMin.toInt <= x.portMax.toInt /\ x.portMax.toInt <= 65535) /\
  ∀ pass ∈ passes[n]?, ∀ nics ∈ pass.reads.nics, ∀ x ∈ status.allocations,
    x.source ∈ pass.gateway.sources nics -> x ∈ (status.step pass).allocations := by
  have keep (status : NATGatewayStatus) (pass : GatewayPass)
    (tidy : Tidy size status.allocations) (steady : Steady size status pass) :
    Tidy size (status.step pass).allocations := (step_tidy tidy steady).1
  have tidy : Tidy size ((passes.take n).foldl step .empty).allocations :=
    Along.invariant keep (Tidy.empty size) (along.take n)
  intro status
  refine ⟨fun x memberX y memberY differ => ⟨fun same => differ ?_, ?_⟩, fun x => tidy.ports, ?_⟩
  · exact tidy.source x memberX y memberY same
  · exact tidy.disjoint x memberX y memberY differ
  · exact fun pass here => (step_tidy tidy (along.at_step here)).2

def plainNIC (name ip : String) : NIC where
  key := { ns := "tenant", name }
  uid := name
  generation := 1
  terminating := false
  finalizer := false
  spec := { vpcRef := "vpc", subnetRef := "", ips := [], mac := "" }
  status := { state := .allocated, observedGeneration := 1, allocatedIPs := [ip], allocatedMAC := "" }

def plainGateway (publicIPs : List String) (size : Int32) (allocations : List NATAllocation) : NATGateway where
  key := { ns := "tenant", name := "gw" }
  uid := "uid-gw"
  spec := { vpcRef := "vpc", publicIPs, portsPerSource := some size, poolRef := "" }
  status := { allocations, state := "" }

def plainPass (gateway : NATGateway) (nics : List NIC) : GatewayPass where
  gateway := gateway
  reads :=
    { nics := some nics, pool := .notFound, pin := fun _ => .failed, held := none, grown := .failed }
  stored := true

-- An address listed twice; a cached table without the last pass's blocks.
theorem blocks_overlap_and_move : ((empty.step (plainPass (plainGateway ["198.51.100.1", "198.51.100.1"] 64512 [])
    [plainNIC "a" "10.0.0.2", plainNIC "b" "10.0.0.3"])).allocations =
      [⟨"10.0.0.2", "198.51.100.1", 1024, 65535⟩, ⟨"10.0.0.3", "198.51.100.1", 1024, 65535⟩]) /\
  let first := empty.step (plainPass (plainGateway ["198.51.100.1"] 1024 []) [plainNIC "b" "10.0.0.3"])
  let second := first.step (plainPass (plainGateway ["198.51.100.1"] 1024 [])
    [plainNIC "a" "10.0.0.2", plainNIC "b" "10.0.0.3"])
  first.allocations = [⟨"10.0.0.3", "198.51.100.1", 1024, 2047⟩] /\
    second.allocations = [⟨"10.0.0.2", "198.51.100.1", 1024, 2047⟩, ⟨"10.0.0.3", "198.51.100.1", 2048, 3071⟩] := by
  decide +kernel

def growingPasses : List GatewayPass :=
  [plainPass (plainGateway ["198.51.100.2"] 1024 []) [plainNIC "b" "10.0.0.3"],
    plainPass (plainGateway ["198.51.100.1", "198.51.100.2"] 1024 [⟨"10.0.0.3", "198.51.100.2", 1024, 2047⟩])
      [plainNIC "a" "10.0.0.2", plainNIC "b" "10.0.0.3"]]

theorem block_kept_as_addresses_grow : (⟨"10.0.0.3", "198.51.100.2", 1024, 2047⟩ : NATAllocation) ∈
    (growingPasses.foldl step .empty).allocations := by
  have along : Along step (Steady 1024) .empty growingPasses :=
    ⟨by decide +kernel, by decide +kernel, trivial⟩
  exact (blocks_disjoint_and_kept 1024 growingPasses along 1).2.2 _ rfl _ rfl _ (by decide +kernel) (by decide +kernel)

end Ectobase.Mesh
