import Ectobase.Mesh.NicRuns

namespace Ectobase.Mesh

open Shared List Option Objects ZonedAddr Fabric

variable {used : List ZonedAddr} {reserved : List String}

section

structure AllocatedFor (pins : List String) (ips : List String) (first second : Option ZonedAddr) :
  Prop where
  sorted : ips = ((first.toList ++ second.toList).map text).insertionSort (· <= ·)
  v4 : ∀ a ∈ first, a.addr.isV4 = true /\ a.zone = [] /\ parse a.text = some a
  v6 : ∀ a ∈ second, a.addr.isV4 = false /\ a.zone = [] /\ parse a.text = some a
  nonempty : first.toList ++ second.toList ≠ []
  pinned : ∃ addrs, pins.mapM parse = some addrs /\
    (pins ≠ [] -> (family true addrs).getLast? = first /\ (family false addrs).getLast? = second)

lemma assignIn_shape {block : Option NetPrefix} {pinned preferred : Option ZonedAddr} {hasPins : Bool} {out : List ZonedAddr}
  (assigned : assignIn block pinned preferred hasPins used reserved = .ok out) :
  ∃ a : Option ZonedAddr, out = a.toList /\ (hasPins = true -> pinned = a) := by
  unfold assignIn at assigned
  split at assigned
  next p =>
    split at assigned
    next some_ =>
      split at assigned
      · cases assigned
      next a found =>
        obtain rfl := Except.ok.inj assigned
        refine ⟨some a, rfl, fun pins => ?_⟩
        obtain ⟨b, rfl⟩ : ∃ b, pinned = some b := by
          rw [pins] at some_
          exact isSome_iff_exists.mp (by simpa using some_)
        simp only [assignFamily] at found
        split at found
        · exact found
        · cases found
    next none_ =>
      obtain rfl := Except.ok.inj assigned
      refine ⟨none, rfl, fun pins => ?_⟩
      rw [pins] at none_
      simpa using none_
  · split at assigned
    · cases assigned
    next none_ =>
      obtain rfl := Except.ok.inj assigned
      exact ⟨none, rfl, fun _ => by simpa using none_⟩

lemma Allocation.fits {nics : List NIC} {subnets : List Subnet} {nic nic' : NIC}
  (allocation : Allocation nics subnets nic nic') :
  ∃ first second, AllocatedFor nic'.spec.ips nic'.status.allocatedIPs first second := by
  obtain ⟨sub, v4, v6, ips, mac, -, -, blocks, allocated, rfl⟩ := allocation.found
  obtain ⟨valid4, valid6⟩ := parseSubnetPrefixes_spec blocks
  obtain ⟨addrs, out4, out6, parsed, assigned4, assigned6, nonempty, rfl, -⟩ := allocate_cases allocated
  have pinsValid := mapM_parse_valid parsed
  have spec4 := assign_spec valid4 pinsValid (fun _ => mem_parseAddrs_valid) assigned4
  have spec6 := assign_spec valid6 pinsValid (fun _ => mem_parseAddrs_valid) assigned6
  obtain ⟨first, rfl, pinned4⟩ := assignIn_shape assigned4
  obtain ⟨second, rfl, pinned6⟩ := assignIn_shape assigned6
  have isV4 {p : NetPrefix} {used : List ZonedAddr} {reserved : List String} {a : ZonedAddr}
    (free : Assignable p used reserved a) : a.addr.isV4 = p.addr.isV4 := by
    have inside := free.inside
    simp only [NetPrefix.contains, Bool.and_eq_true, beq_iff_eq] at inside
    exact inside.1.symm
  refine ⟨first, second, rfl, fun a own => ?_, fun a own => ?_, nonempty, addrs, parsed,
    fun pins => ⟨pinned4 (decide_eq_true pins), pinned6 (decide_eq_true pins)⟩⟩
  · obtain ⟨p, block, free⟩ := spec4 a (by simpa using own)
    exact ⟨(isV4 free).trans (valid4 p block).2, free.unzoned, free.parse_text⟩
  · obtain ⟨p, block, free⟩ := spec6 a (by simpa using own)
    exact ⟨(isV4 free).trans (valid6 p block).2, free.unzoned, free.parse_text⟩

variable {pins ips : List String} {first second : Option ZonedAddr}

lemma parseAddrs_map_text {addrs : List ZonedAddr} (readable : ∀ a ∈ addrs, parse a.text = some a) :
  parseAddrs (addrs.map text) = addrs := by
  induction addrs with
  | nil => rfl
  | cons a rest ih =>
    obtain ⟨own, later⟩ := forall_mem_cons.mp readable
    simp only [parseAddrs, map_cons, filterMap_cons, own] at ih ⊢
    rw [ih later]

lemma AllocatedFor.parsed (fits : AllocatedFor pins ips first second) :
  (parseAddrs ips).Perm (first.toList ++ second.toList) := by
  have readable : ∀ a ∈ first.toList ++ second.toList, parse a.text = some a := by
    intro a member
    rcases mem_append.mp member with own | own
    · exact (fits.v4 a (by simpa using own)).2.2
    · exact (fits.v6 a (by simpa using own)).2.2
  have perm := (perm_insertionSort (· <= ·) ((first.toList ++ second.toList).map text)).filterMap parse
  rw [<- fits.sorted] at perm
  exact perm.trans (List.Perm.of_eq (parseAddrs_map_text readable))

lemma family_toList {isV4 : Bool} {a : Option ZonedAddr} (own : ∀ b ∈ a, b.addr.isV4 = isV4) :
  family isV4 a.toList = a.toList /\ family (!isV4) a.toList = [] := by
  cases a with
  | none => exact ⟨rfl, rfl⟩
  | some b =>
    have isV4 := own b rfl
    simp [family, isV4]

lemma perm_toList_getLast? {l : List ZonedAddr} {a : Option ZonedAddr} (perm : l.Perm a.toList) : l.getLast? = a := by
  cases a with
  | none => rw [List.Perm.eq_nil perm]; rfl
  | some b => rw [perm_singleton.mp perm]; rfl

lemma AllocatedFor.current (fits : AllocatedFor pins ips first second) :
  (family true (parseAddrs ips)).getLast? = first /\ (family false (parseAddrs ips)).getLast? = second := by
  obtain ⟨own4, other4⟩ := family_toList fun a member => (fits.v4 a member).1
  obtain ⟨own6, other6⟩ := family_toList fun a member => (fits.v6 a member).1
  have split (isV4 : Bool) : (family isV4 (parseAddrs ips)).Perm (family isV4 first.toList ++ family isV4 second.toList) := by
    have perm := fits.parsed.filter fun a => a.addr.isV4 == isV4
    rwa [filter_append] at perm
  constructor
  · have perm := split true
    rw [own4, show family true second.toList = [] from other6, append_nil] at perm
    exact perm_toList_getLast? perm
  · have perm := split false
    rw [own6, show family false first.toList = [] from other4, nil_append] at perm
    exact perm_toList_getLast? perm

end

-- A Ready subnet that still has the addresses, offers no family without one, and a MAC.
structure Served (w : Fabric) (nic : NIC) : Prop where
  subnet : ∃ sub ∈ resolveSubnet w.subnets.items nic, sub.state = "Ready" /\
    ∃ blocks ∈ parseSubnetPrefixes sub,
      (∀ a ∈ parseAddrs nic.status.allocatedIPs, ∃ p ∈ if a.addr.isV4 then blocks.1 else blocks.2,
        p.contains a.addr = true /\ a ∉ reservedFor p /\ a ∉ parseAddrs sub.reservedIPs) /\
      (nic.spec.ips = [] -> ∀ isV4, (if isV4 then blocks.1 else blocks.2).isSome ->
        ∃ a ∈ parseAddrs nic.status.allocatedIPs, a.addr.isV4 = isV4)
  unused : ∀ a ∈ parseAddrs nic.status.allocatedIPs, a ∉ usedAddrs w.nics.items nic
  mac : (assignMAC nic (usedMACs w.nics.items nic)).isSome

instance (w : Fabric) (nic : NIC) : Decidable (Served w nic) :=
  decidable_of_iff (_ /\ _ /\ _)
    ⟨fun ⟨subnet, unused, mac⟩ => ⟨subnet, unused, mac⟩,
      fun served => ⟨served.subnet, served.unused, served.mac⟩⟩

def Undisturbed (key : NamespacedName) (w : Fabric) : FabricEvent -> Prop
  | .edit k spec => k = key -> ∀ nic ∈ w.nics.find key,
      spec.ips = nic.spec.ips /\ spec.subnetRef = nic.spec.subnetRef /\ spec.vpcRef = nic.spec.vpcRef
  | .purge k => k ≠ key
  | .sync k reads => k = key -> ∀ nic ∈ w.nics.find key, nic.terminating = false ->
      nic.settled = false -> reads.subnet = true /\ Served w nic
  | _ => True

instance (key : NamespacedName) (w : Fabric) (e : FabricEvent) : Decidable (Undisturbed key w e) := by
  cases e <;> unfold Undisturbed <;> infer_instance

section

lemma assignFamily_free {p : NetPrefix} {pinned preferred : Option ZonedAddr} {a : ZonedAddr}
  (wanted : pinned = some a \/ pinned = none /\ preferred = some a) (unzoned : a.zone = [])
  (inside : p.contains a.addr = true) (unused : a ∉ used) (unreserved : a ∉ reservedFor p)
  (unlisted : a ∉ parseAddrs reserved) :
  assignFamily p pinned preferred used reserved = some a := by
  have free : (inPrefix p a && decide (a ∉ used) && decide (a ∉ reservedFor p ++ parseAddrs reserved)) = true := by
    simp [inPrefix, unzoned, inside, unused, unreserved, unlisted]
  rcases wanted with rfl | ⟨rfl, rfl⟩
  · simp only [assignFamily, free, if_true]
  · simp only [assignFamily, filter_some, free, if_true]

lemma assignIn_keeps {isV4 : Bool} {block : Option NetPrefix} {held : Option ZonedAddr}
  {pins : List String} {addrs : List ZonedAddr} (parsed : pins.mapM parse = some addrs)
  (pinned : pins ≠ [] -> (family isV4 addrs).getLast? = held)
  (offered : pins = [] -> block.isSome -> held.isSome) (free : ∀ a ∈ held, a.zone = [] /\ a ∉ used /\
    ∃ p ∈ block, p.contains a.addr = true /\ a ∉ reservedFor p /\ a ∉ parseAddrs reserved) :
  assignIn block (family isV4 addrs).getLast? held (decide (pins ≠ [])) (family isV4 used) reserved = .ok held.toList := by
  have given {p : NetPrefix} {pinned : Option ZonedAddr} {a : ZonedAddr} (own : held = some a)
    (block_ : block = some p) (choice : pinned = some a \/ pinned = none) :
    assignFamily p pinned (some a) (family isV4 used) reserved = some a := by
    obtain ⟨unzoned, unused, q, offered, inside, unreserved, unlisted⟩ := free a own
    obtain rfl := mem_unique block_ offered
    exact assignFamily_free (choice.imp_right fun none => ⟨none, rfl⟩) unzoned inside
      (fun member => unused (mem_filter.mp member).1) unreserved unlisted
  have inBlock {a : ZonedAddr} (own : held = some a) : ∃ p, block = some p := by
    obtain ⟨-, -, p, offered, -⟩ := free a own
    exact ⟨p, offered⟩
  cases pins with
  | nil =>
    obtain rfl : [] = addrs := some.inj parsed
    cases held with
    | none =>
      cases block with
      | none => rfl
      | some p => cases offered rfl rfl
    | some a =>
      obtain ⟨p, rfl⟩ := inBlock rfl
      have unpinned : (family isV4 []).getLast? = none := rfl
      simp [assignIn, unpinned, given rfl rfl (.inr rfl)]
  | cons pin rest =>
    rw [pinned (cons_ne_nil pin rest)]
    cases held with
    | none => cases block <;> rfl
    | some a =>
      obtain ⟨p, rfl⟩ := inBlock rfl
      simp [assignIn, given rfl rfl (.inl rfl)]

variable {w : Fabric} {nic : NIC} {first second : Option ZonedAddr}

lemma allocate_keeps (fits : AllocatedFor nic.spec.ips nic.status.allocatedIPs first second) (served : Served w nic) :
  ∃ sub v4 v6 mac, resolveSubnet w.subnets.items nic = some sub /\ sub.state = "Ready" /\
    parseSubnetPrefixes sub = some (v4, v6) /\ allocate w.nics.items sub v4 v6 nic =
      .ok ((first.toList ++ second.toList).map text, mac) := by
  obtain ⟨⟨sub, resolved, ready, ⟨v4, v6⟩, blocks, inside, offered⟩, unused, mac⟩ := served
  obtain ⟨mac, assigned⟩ := isSome_iff_exists.mp mac
  obtain ⟨addrs, parsed, pinned⟩ := fits.pinned
  obtain ⟨current4, current6⟩ := fits.current
  have listed (a : ZonedAddr) : a ∈ parseAddrs nic.status.allocatedIPs ↔ a ∈ first \/ a ∈ second := by
    rw [fits.parsed.mem_iff, mem_append, mem_toList, mem_toList]
    exact Iff.rfl
  have keeps4 : assignIn v4 (family true addrs).getLast? first (decide (nic.spec.ips ≠ []))
    (family true (usedAddrs w.nics.items nic)) sub.reservedIPs = .ok first.toList := by
    refine assignIn_keeps parsed (fun pins => (pinned pins).1) (fun none offers => ?_) fun a own => ?_
    · obtain ⟨a, held, isV4⟩ := offered none true offers
      rcases (listed a).mp held with own | own
      · exact isSome_iff_exists.mpr ⟨a, own⟩
      · exact absurd (isV4.symm.trans (fits.v6 a own).1) (by simp)
    · have held := (listed a).mpr (.inl own)
      have within := inside a held
      rw [if_pos (fits.v4 a own).1] at within
      exact ⟨(fits.v4 a own).2.1, unused a held, within⟩
  have keeps6 : assignIn v6 (family false addrs).getLast? second (decide (nic.spec.ips ≠ []))
    (family false (usedAddrs w.nics.items nic)) sub.reservedIPs = .ok second.toList := by
    refine assignIn_keeps parsed (fun pins => (pinned pins).2) (fun none offers => ?_) fun a own => ?_
    · obtain ⟨a, held, isV4⟩ := offered none false offers
      rcases (listed a).mp held with own | own
      · exact absurd (isV4.symm.trans (fits.v4 a own).1) (by simp)
      · exact isSome_iff_exists.mpr ⟨a, own⟩
    · have held := (listed a).mpr (.inr own)
      have within := inside a held
      rw [if_neg (by simp [(fits.v6 a own).1])] at within
      exact ⟨(fits.v6 a own).2.1, unused a held, within⟩
  refine ⟨sub, v4, v6, mac, resolved, ready, blocks, ?_⟩
  simp only [allocate, parsed, current4, current6, keeps4, keeps6, bind, Except.bind, fits.nonempty, if_false, assigned]

lemma sync_keeps (fits : AllocatedFor nic.spec.ips nic.status.allocatedIPs first second)
  (allocated : nic.status.state = .allocated) {reads : SyncReads}
  (served : nic.settled = false -> reads.subnet = true /\ Served w nic) :
  (sync w.nics.items w.subnets.items reads nic).status.state = .allocated /\
    (sync w.nics.items w.subnets.items reads nic).status.allocatedIPs =
      nic.status.allocatedIPs := by
  unfold sync
  split
  · exact ⟨allocated, rfl⟩
  next unsettled =>
    obtain ⟨readable, served⟩ := served (by simpa using unsettled)
    obtain ⟨sub, v4, v6, mac, resolved, ready, blocks, given⟩ := allocate_keeps fits served
    simp only [readable, if_true, resolved, ready, ne_eq, not_true_eq_false, if_false, blocks, given]
    split
    · exact ⟨allocated, rfl⟩
    · exact ⟨rfl, fits.sorted.symm⟩

end

section

structure Fitting (nics : List NIC) : Prop extends Exclusive nics where
  fits : ∀ nic ∈ nics, nic.Current ->
    ∃ first second, AllocatedFor nic.spec.ips nic.status.allocatedIPs first second

lemma step_fitting (w : Fabric) (e : FabricEvent) (fitting : Fitting w.nics.items) : Fitting (w.step e).nics.items where
  toExclusive := step_exclusive w e fitting.toExclusive
  fits nic member current := by
    rcases step_member member with listed | ⟨key, uid, spec, rfl⟩ | ⟨old, found, written, -⟩
    · exact fitting.fits nic listed current
    · cases current.1
    · have listed := mem_of_find found
      rcases written.current (fitting.observed old listed) current with ⟨before, spec, status⟩ | ⟨-, -, allocation⟩
      · rw [spec, status]
        exact fitting.fits old listed before
      · exact allocation.fits

lemma run_fitting (events : List FabricEvent) : Fitting (events.foldl step empty).nics.items := by
  have start : Fitting empty.nics.items :=
    { empty_exclusive with fits := fun _ member => absurd member not_mem_nil }
  generalize Fabric.empty = w at start ⊢
  induction events generalizing w with
  | nil => exact start
  | cons e rest ih => exact ih (w.step e) (step_fitting w e start)

abbrev StillHeld (key : NamespacedName) (nic : NIC) (nics : Objects NIC.key NIC.uid) : Prop :=
  ∃ nic', nics.find key = some nic' /\ nic'.uid = nic.uid /\
    nic'.spec.ips = nic.spec.ips /\ nic'.spec.vpcRef = nic.spec.vpcRef /\
    nic'.status.state = .allocated /\ nic'.status.allocatedIPs = nic.status.allocatedIPs

structure Kept (key : NamespacedName) (nic : NIC) (w : Fabric) : Prop where
  exclusive : Exclusive w.nics.items
  held : StillHeld key nic w.nics
  others : ∀ m ∈ w.nics.items, m.key ≠ key -> m.key.ns = key.ns -> m.spec.vpcRef = nic.spec.vpcRef ->
    m.Current -> ApartIPs m.status.allocatedIPs nic.status.allocatedIPs

variable {key : NamespacedName} {nic : NIC} {w : Fabric}

lemma Kept.others_step (kept : Kept key nic w) (e : FabricEvent) :
  ∀ m ∈ (w.step e).nics.items, m.key ≠ key -> m.key.ns = key.ns -> m.spec.vpcRef = nic.spec.vpcRef -> m.Current ->
    ApartIPs m.status.allocatedIPs nic.status.allocatedIPs := by
  intro m member differ ns vpc current
  rcases step_member member with listed | ⟨k, uid, spec, rfl⟩ | ⟨old, found, written, -⟩
  · exact kept.others m listed differ ns vpc current
  · cases current.1
  · have named : old.key = m.key := find_key found
    have listed := mem_of_find found
    rcases written.current (kept.exclusive.observed old listed) current with
      ⟨before, spec, status⟩ | ⟨-, -, allocation⟩
    · rw [status]
      exact kept.others old listed (named ▸ differ) (named ▸ ns) (spec ▸ vpc) before
    · -- A new allocation stays clear of everyone of the VPC, this NIC included.
      obtain ⟨nic', own, -, -, vpc', -, ips⟩ := kept.held
      have key' : nic'.key = key := find_key own
      have apart := allocation.apart (named ▸ found) (mem_of_find own) (by rw [key', named]; exact differ.symm)
        ⟨by rw [key', named]; exact ns, by rw [vpc', <- allocation.same_spec]; exact vpc⟩
      exact ips ▸ apart.ips

lemma Kept.held_step {first second : Option ZonedAddr}
  (fits : AllocatedFor nic.spec.ips nic.status.allocatedIPs first second) (kept : Kept key nic w)
  {e : FabricEvent} (undisturbed : Undisturbed key w e) : StillHeld key nic (w.step e).nics := by
  obtain ⟨nic', found, uid, pins, vpc, state, ips⟩ := kept.held
  have modified (k : NamespacedName) (change : NICUpdate) (keeps : k = key -> (change.apply nic').spec.ips = nic'.spec.ips /\
      (change.apply nic').spec.vpcRef = nic'.spec.vpcRef /\
      (change.apply nic').status.state = .allocated /\
      (change.apply nic').status.allocatedIPs = nic'.status.allocatedIPs) :
    StillHeld key nic (w.nics.modify k change) := by
    rw [StillHeld, find_modify]
    split
    next here =>
      obtain ⟨pins', vpc', state', ips'⟩ := keeps here.symm
      rw [<- here, found]
      exact ⟨change.apply nic', rfl, (change.uid_eq nic').trans uid, pins'.trans pins, vpc'.trans vpc, state', ips'.trans ips⟩
    · exact ⟨nic', found, uid, pins, vpc, state, ips⟩
  have same : StillHeld key nic w.nics := kept.held
  cases e with
  | create k uid' spec =>
    exact ⟨nic', find_create_of_some found, uid, pins, vpc, state, ips⟩
  | edit k spec =>
    refine modified k _ fun here => ?_
    obtain ⟨pins', -, vpc'⟩ := undisturbed here nic' found
    exact ⟨pins', vpc', state, rfl⟩
  | delete k => exact modified k _ fun _ => ⟨rfl, rfl, state, rfl⟩
  | purge k =>
    dsimp only [step]
    split
    · refine ⟨nic', ?_, uid, pins, vpc, state, ips⟩
      have other : key ≠ k := fun same => undisturbed same.symm
      change (w.nics.remove k).find key = some nic'
      rw [find_remove, if_neg other, found]
    · exact same
  | putSubnet | removeSubnet => exact same
  | sync k reads =>
    refine modified k _ fun here => ?_
    simp only [syncStatus]
    split
    · exact ⟨rfl, rfl, state, rfl⟩
    next alive =>
      rw [<- pins, <- ips] at fits
      obtain ⟨state', ips'⟩ :=
        sync_keeps fits state (undisturbed here nic' found (by simpa using alive))
      obtain ⟨status, frame⟩ := sync_frame w.nics.items w.subnets.items reads nic'
      exact ⟨by rw [frame], by rw [frame], state', ips'⟩
  | compile k placed vni =>
    have held (holds : Bool) := modified k (setFinalizer holds) fun _ => ⟨rfl, rfl, state, rfl⟩
    simp only [step, compile]
    split
    · exact same
    · split_ifs
      · exact held false
      · exact same
      · exact held true
      · exact held true

end

theorem addresses_kept (before later : List FabricEvent) {key : NamespacedName} {nic : NIC}
  (found : (before.foldl step empty).nics.find key = some nic)
  (current : nic.Current)
  (along : Along step (Undisturbed key) (before.foldl step empty) later)
  (n : Nat) :
  let w := (later.take n).foldl step (before.foldl step empty)
  ∃ nic', w.nics.find key = some nic' /\ nic'.uid = nic.uid /\ nic'.status.state = .allocated /\
    nic'.status.allocatedIPs = nic.status.allocatedIPs /\
    ∀ m ∈ w.nics.items, m.key ≠ key -> SameVPC nic' m -> m.Current ->
      ApartIPs m.status.allocatedIPs nic'.status.allocatedIPs := by
  have fitting := run_fitting before
  have listed := mem_of_find found
  have named : nic.key = key := find_key found
  obtain ⟨first, second, fits⟩ := fitting.fits nic listed current
  have start : Kept key nic (before.foldl step empty) :=
    { exclusive := fitting.toExclusive
      held := ⟨nic, found, rfl, rfl, rfl, current.1, rfl⟩
      others := fun m member differ ns vpc current' =>
        (fitting.apart m member nic listed (named ▸ differ) ⟨named ▸ ns, vpc⟩ current' current).ips }
  have kept : Kept key nic ((later.take n).foldl step _) := (along.take n).invariant (fun w e kept undisturbed =>
      { exclusive := step_exclusive w e kept.exclusive
        held := kept.held_step fits undisturbed
        others := kept.others_step e }) start
  intro w
  obtain ⟨nic', found', uid, -, vpc, state, ips⟩ := kept.held
  have named' : nic'.key = key := find_key found'
  refine ⟨nic', found', uid, state, ips, fun m member differ same current' => ?_⟩
  rw [ips]
  exact kept.others m member differ (named' ▸ same.1.symm) (vpc ▸ same.2.symm) current'

def macSeven : String := "02:00:00:00:00:07"

def settledNICs : List FabricEvent := [.putSubnet readySubnet,
  .create (tenantKey "a") "uid-a" (vpcSpec ""), .sync (tenantKey "a") readable,
  .create (tenantKey "c") "uid-c" (vpcSpec macSeven), .sync (tenantKey "c") readable]

def macMistake : List FabricEvent :=
  [.edit (tenantKey "a") (vpcSpec macSeven), .sync (tenantKey "a") readable,
    .create (tenantKey "b") "uid-b" (vpcSpec ""), .sync (tenantKey "b") readable,
    .edit (tenantKey "a") (vpcSpec ""), .sync (tenantKey "a") readable]

theorem mac_mistake_renumbers : let w := settledNICs.foldl step empty
  HoldsIP w "a" "10.0.0.2" /\ HoldsIP (macMistake.foldl step w) "b" "10.0.0.2" /\
    HoldsIP (macMistake.foldl step w) "a" "10.0.0.4" := by
  decide +kernel

def macPinned : List FabricEvent := [.edit (tenantKey "a") (vpcSpec "02:00:00:00:00:08"),
  .create (tenantKey "b") "uid-b" (vpcSpec ""), .sync (tenantKey "b") readable,
  .sync (tenantKey "a") readable]

theorem pinned_mac_keeps : ∃ a, ((macPinned.take 4).foldl step
      (settledNICs.foldl step empty)).nics.find (tenantKey "a") = some a /\
    a.status.allocatedIPs = ["10.0.0.2"] := by
  obtain ⟨a, found, current, ips, -⟩ : HoldsIP (settledNICs.foldl step empty) "a" "10.0.0.2" := by decide +kernel
  have along : Along step (Undisturbed (tenantKey "a")) (settledNICs.foldl step empty) macPinned :=
    ⟨by decide +kernel, by decide +kernel, by decide +kernel, by decide +kernel, trivial⟩
  obtain ⟨a', found', -, -, kept, -⟩ := addresses_kept settledNICs macPinned found current along 4
  exact ⟨a', found', kept.trans ips⟩

end Ectobase.Mesh
