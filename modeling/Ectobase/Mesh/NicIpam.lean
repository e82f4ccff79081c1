import Ectobase.Mesh.Ipam
import Ectobase.Mesh.Vpc
import Ectobase.Shared.Objects
import Mathlib.Data.String.Basic

namespace Ectobase.Mesh

open Shared List Option ZonedAddr Except

inductive NICState where
  | unset
  | pending
  | invalid
  | exhausted
  | allocated
  deriving DecidableEq, Repr

structure NICSpec where
  vpcRef : String
  subnetRef : String
  ips : List String
  mac : String
  deriving DecidableEq, Repr

structure NICStatus where
  state : NICState
  observedGeneration : Int
  allocatedIPs : List String
  allocatedMAC : String
  deriving DecidableEq, Repr

structure NIC where
  key : NamespacedName
  uid : String
  generation : Int
  terminating : Bool
  finalizer : Bool
  spec : NICSpec
  status : NICStatus
  deriving DecidableEq, Repr

structure Subnet where
  key : NamespacedName
  vpcRef : String
  v4Prefix : Option String
  v6Prefix : Option String
  reservedIPs : List String
  state : String
  deriving DecidableEq, Repr

def parseFamily (v4 : Bool) : Option String -> Option (Option NetPrefix)
  | none => some none
  | some text =>
    ((NetPrefix.parse text).filter fun p => p.addr.isV4 == v4).map fun p => some p.masked

def parseSubnetPrefixes (s : Subnet) : Option (Option NetPrefix × Option NetPrefix) := do
  let v4 <- parseFamily true s.v4Prefix
  let v6 <- parseFamily false s.v6Prefix
  if v4 = none /\ v6 = none then none else some (v4, v6)

def resolveSubnet (subnets : List Subnet) (nic : NIC) : Option Subnet := if nic.spec.subnetRef ≠ "" then
  (subnets.find? fun s => s.key = { ns := nic.key.ns, name := nic.spec.subnetRef }).filter fun s => s.vpcRef = nic.spec.vpcRef
  else
    match subnets.filter fun s => s.key.ns = nic.key.ns /\ s.vpcRef = nic.spec.vpcRef with
    | [s] => some s
    | _ => none

def parseAddrs (texts : List String) : List ZonedAddr := texts.filterMap parse

def NIC.isSelf (self other : NIC) : Bool :=
  (decide (other.uid ≠ "") && decide (other.uid = self.uid)) || decide (other.key = self.key)

def peers (nics : List NIC) (self : NIC) : List NIC := nics.filter fun o =>
  decide (o.key.ns = self.key.ns) && !self.isSelf o && decide (o.spec.vpcRef = self.spec.vpcRef)

def usedAddrs (nics : List NIC) (self : NIC) : List ZonedAddr :=
  (peers nics self).flatMap fun o => parseAddrs o.status.allocatedIPs

def usedMACs (nics : List NIC) (self : NIC) : List String :=
  (peers nics self).filterMap fun o => (parseMAC o.status.allocatedMAC).map HardwareAddr.text

def family (v4 : Bool) (addrs : List ZonedAddr) : List ZonedAddr :=
  addrs.filter fun a => a.addr.isV4 == v4

def assignFamily (p : NetPrefix) (pinned preferred : Option ZonedAddr) (used : List ZonedAddr)
  (reserved : List String) : Option ZonedAddr :=
  let resv := reservedFor p ++ parseAddrs reserved
  let free (a : ZonedAddr) : Bool := inPrefix p a && decide (a ∉ used) && decide (a ∉ resv)
  match pinned with
  | some a => if free a then some a else none
  | none =>
    -- Sticky: the address the NIC has already comes before the lowest free one.
    match preferred.filter free with
    | some a => some a
    | none => (lowestFree p used resv).map fun addr => { addr, zone := [] }

def exhaustedOrInvalid (pinned : Option ZonedAddr) : NICState :=
  if pinned.isSome then .invalid else .exhausted

def assignIn (p : Option NetPrefix) (pinned preferred : Option ZonedAddr) (hasPins : Bool)
  (used : List ZonedAddr) (reserved : List String) : Except NICState (List ZonedAddr) :=
  match p with
  | some p =>
    if pinned.isSome || !hasPins then
      match assignFamily p pinned preferred used reserved with
      | none => .error (exhaustedOrInvalid pinned)
      | some a => .ok [a]
    else .ok []
  | none => if pinned.isSome then .error .invalid else .ok []

def macSeed (nic : NIC) : String := if nic.uid ≠ "" then nic.uid else nic.key.ns ++ "/" ++ nic.key.name

def assignMAC (nic : NIC) (used : List String) : Option String :=
  let free (text : String) : Option String :=
    ((parseMAC text).map HardwareAddr.text).filter fun m => m ∉ used
  if nic.spec.mac ≠ "" then free nic.spec.mac
  else
    match free nic.status.allocatedMAC with
    | some m => some m
    | none => lowestFreeMAC (macSeed nic) used

def allocate (nics : List NIC) (sub : Subnet) (v4 v6 : Option NetPrefix) (nic : NIC) :
  Except NICState (List String × String) := do
  match nic.spec.ips.mapM parse with
  | none => .error .invalid
  | some pins =>
    let used := usedAddrs nics nic
    let current := parseAddrs nic.status.allocatedIPs
    let hasPins := decide (nic.spec.ips ≠ [])
    let assign (isV4 : Bool) (p : Option NetPrefix) :=
      -- Where a family is pinned or held more than once, the last one counts.
      assignIn p (family isV4 pins).getLast? (family isV4 current).getLast? hasPins (family isV4 used) sub.reservedIPs
    let out4 <- assign true v4
    let out6 <- assign false v6
    if out4 ++ out6 = [] then .error .invalid
    else
      match assignMAC nic (usedMACs nics nic) with
      | none => .error .invalid
      | some mac => .ok ((out4 ++ out6).map text, mac)

def NIC.setState (nic : NIC) (state : NICState) (allocated : List String) : NIC := { nic with
  status := { nic.status with
    state
    observedGeneration := nic.generation
    allocatedIPs := allocated.insertionSort (· <= ·) } }

structure SyncReads where
  subnet : Bool
  list : Bool
  deriving DecidableEq, Repr

def NIC.settled (nic : NIC) : Bool := decide (nic.status.state = .allocated) &&
  decide (nic.status.observedGeneration = nic.generation) &&
  decide (nic.status.allocatedIPs ≠ []) && decide (nic.status.allocatedMAC ≠ "")

def sync (nics : List NIC) (subnets : List Subnet) (reads : SyncReads) (nic : NIC) : NIC :=
  if nic.settled then nic
  else
    match if reads.subnet then resolveSubnet subnets nic else none with
    | none => nic.setState .invalid []
    | some sub =>
      if sub.state ≠ "Ready" then nic.setState .pending []
      else
        match parseSubnetPrefixes sub with
        | none => nic.setState .pending []
        | some (v4, v6) =>
          if reads.list = false then nic
          else
            match allocate nics sub v4 v6 nic with
            | .error state => nic.setState state []
            | .ok (ips, mac) =>
              { nic with status := { nic.status with allocatedMAC := mac } }.setState .allocated ips

variable {a : ZonedAddr} {v4 : Bool} {nic : NIC} {sub : Subnet} {v6 : Option NetPrefix}

variable {block : Option NetPrefix} {hasPins : Bool} {addrs : List ZonedAddr} {nics : List NIC}

structure Assignable (p : NetPrefix) (used : List ZonedAddr) (reserved : List String)
  (a : ZonedAddr) : Prop where
  valid : a.addr.Valid
  unzoned : a.zone = []
  inside : p.contains a.addr = true
  unused : a ∉ used
  unreserved : a ∉ reservedFor p
  unlisted : a ∉ parseAddrs reserved

lemma Assignable.parse_text {p : NetPrefix} {used : List ZonedAddr} {reserved : List String}
  (assignable : Assignable p used reserved a) :
  parse a.text = some a := by
  obtain ⟨addr, zone⟩ := a
  obtain rfl : zone = [] := assignable.unzoned
  exact parse_text assignable.valid

lemma parseFamily_spec {text : Option String} {p : NetPrefix}
  (read : parseFamily v4 text = some (some p)) : p.addr.Valid /\ p.addr.isV4 = v4 := by
  cases text with
  | none => cases read
  | some text =>
    obtain ⟨q, parsed, same⟩ := map_eq_some_iff.mp read
    obtain rfl := some.inj same
    obtain ⟨parsed, isV4⟩ := filter_eq_some_iff.mp parsed
    exact ⟨masked_valid (NetPrefix.parse_valid parsed), beq_iff_eq.mp isV4⟩

lemma mem_parseAddrs_valid {texts : List String} (listed : a ∈ parseAddrs texts) :
  a.addr.Valid := by
  obtain ⟨text, -, read⟩ := mem_filterMap.mp listed
  exact parse_valid read

section

variable {p : NetPrefix} {pinned preferred : Option ZonedAddr} {used : List ZonedAddr} {reserved : List String}

lemma assignFamily_spec (valid : p.addr.Valid) (pinnedValid : ∀ a ∈ pinned, a.addr.Valid)
  (preferredValid : ∀ a ∈ preferred, a.addr.Valid)
  (assigned : assignFamily p pinned preferred used reserved = some a) :
  Assignable p used reserved a := by
  have free {b : ZonedAddr} (ok : b.addr.Valid) (free : (inPrefix p b && decide (b ∉ used) &&
      decide (b ∉ reservedFor p ++ parseAddrs reserved)) = true) :
    Assignable p used reserved b := by
    simp only [Bool.and_eq_true, inPrefix, decide_eq_true_eq, mem_append, not_or] at free
    exact ⟨ok, free.1.1.1, free.1.1.2, free.1.2, free.2.1, free.2.2⟩
  unfold assignFamily at assigned
  dsimp only at assigned
  split at assigned
  next pin =>
    split at assigned
    next ok => exact some.inj assigned ▸ free (pinnedValid pin rfl) ok
    · cases assigned
  · split at assigned
    next b sticky =>
      obtain ⟨held, ok⟩ := filter_eq_some_iff.mp sticky
      exact some.inj assigned ▸ free (preferredValid b held) ok
    · obtain ⟨addr, lowest, rfl⟩ := map_eq_some_iff.mp assigned
      obtain ⟨ok, inside, unused, unreserved⟩ := lowestFree_spec valid lowest
      rw [mem_append, not_or] at unreserved
      exact ⟨ok, rfl, inside, unused, unreserved.1, unreserved.2⟩

lemma assignIn_spec (valid : ∀ p ∈ block, p.addr.Valid) (pinnedValid : ∀ a ∈ pinned, a.addr.Valid)
  (preferredValid : ∀ a ∈ preferred, a.addr.Valid) {out : List ZonedAddr}
  (assigned : assignIn block pinned preferred hasPins used reserved = .ok out) :
  ∀ a ∈ out, ∃ p ∈ block, Assignable p used reserved a := by
  intro a member
  unfold assignIn at assigned
  split at assigned
  next p =>
    split at assigned
    · split at assigned
      · cases assigned
      next b found =>
        obtain rfl := ok.inj assigned
        obtain rfl := mem_singleton.mp member
        exact ⟨p, rfl, assignFamily_spec (valid p rfl) pinnedValid preferredValid found⟩
    · obtain rfl := ok.inj assigned
      cases member
  · split at assigned
    · cases assigned
    · obtain rfl := ok.inj assigned
      cases member

lemma assignIn_error {state : NICState} (failed : assignIn block pinned preferred hasPins used reserved = .error state) :
  state ≠ .allocated := by
  unfold assignIn exhaustedOrInvalid at failed
  split at failed
  · split at failed
    · split at failed
      · obtain rfl := error.inj failed
        split <;> simp
      · cases failed
    · cases failed
  · split at failed
    · obtain rfl := error.inj failed
      simp
    · cases failed

end

lemma assignMAC_spec {used : List String} {m : String} (assigned : assignMAC nic used = some m) :
  m ∉ used /\ ∃ hw : HardwareAddr, m = hw.text /\ parseMAC m = some hw := by
  have free {text : String} (found : ((parseMAC text).map HardwareAddr.text).filter (fun m => m ∉ used) = some m) :
    m ∉ used /\ ∃ hw : HardwareAddr, m = hw.text /\ parseMAC m = some hw := by
    obtain ⟨read, unused⟩ := filter_eq_some_iff.mp found
    obtain ⟨hw, parsed, rfl⟩ := map_eq_some_iff.mp read
    exact ⟨by simpa using unused, hw, rfl, parseMAC_text (parseMAC_length parsed)⟩
  unfold assignMAC at assigned
  dsimp only at assigned
  split at assigned
  · exact free assigned
  · split at assigned
    next sticky =>
      obtain rfl := some.inj assigned
      exact free sticky
    · exact lowestFreeMAC_spec assigned

def Subnet.HasBlock (sub : Subnet) (p : NetPrefix) : Prop :=
  ∃ v4 v6, parseSubnetPrefixes sub = some (v4, v6) /\ (v4 = some p \/ v6 = some p)

lemma parseSubnetPrefixes_spec {v4 : Option NetPrefix} (read : parseSubnetPrefixes sub = some (v4, v6)) :
  (∀ p ∈ v4, p.addr.Valid /\ p.addr.isV4 = true) /\ ∀ p ∈ v6, p.addr.Valid /\ p.addr.isV4 = false := by
  unfold parseSubnetPrefixes at read
  simp only [bind_eq_bind, bind_eq_some_iff] at read
  obtain ⟨first, read4, second, read6, blocks⟩ := read
  split at blocks
  · cases blocks
  · obtain ⟨rfl, rfl⟩ := Prod.mk.inj (some.inj blocks)
    exact ⟨fun p own => parseFamily_spec (own ▸ read4), fun p own => parseFamily_spec (own ▸ read6)⟩

lemma not_mem_of_family (absent : a ∉ family v4 addrs) (own : a.addr.isV4 = v4) : a ∉ addrs :=
  fun listed => absent (mem_filter.mpr ⟨listed, by simp [own]⟩)

lemma family_getLast_valid (valid : ∀ a ∈ addrs, a.addr.Valid) : ∀ a ∈ (family v4 addrs).getLast?, a.addr.Valid :=
  fun a last => valid a (mem_filter.mp (mem_of_getLast? last)).1

lemma assign_spec {pins current used : List ZonedAddr} {reserved : List String}
  {out : List ZonedAddr} (valid : ∀ p ∈ block, p.addr.Valid /\ p.addr.isV4 = v4)
  (pinsValid : ∀ a ∈ pins, a.addr.Valid) (currentValid : ∀ a ∈ current, a.addr.Valid)
  (assigned : assignIn block (family v4 pins).getLast? (family v4 current).getLast? hasPins
    (family v4 used) reserved = .ok out) :
  ∀ a ∈ out, ∃ p ∈ block, Assignable p used reserved a := by
  intro a member
  obtain ⟨p, own, assignable⟩ := assignIn_spec (fun p own => (valid p own).1)
    (family_getLast_valid pinsValid) (family_getLast_valid currentValid) assigned a member
  have inside := assignable.inside
  simp only [NetPrefix.contains, Bool.and_eq_true, beq_iff_eq] at inside
  have isV4 : a.addr.isV4 = v4 := inside.1.symm.trans (valid p own).2
  exact ⟨p, own, { assignable with unused := not_mem_of_family assignable.unused isV4 }⟩

lemma mapM_parse_valid {texts : List String} (read : texts.mapM parse = some addrs) : ∀ a ∈ addrs, a.addr.Valid := by
  intro a member
  obtain ⟨text, -, parsed⟩ := mem_map.mp (map_of_mapM read ▸ mem_map_of_mem member)
  exact parse_valid parsed

lemma allocate_cases {v4 : Option NetPrefix} {ips : List String} {mac : String}
  (allocated : allocate nics sub v4 v6 nic = .ok (ips, mac)) :
  ∃ pins out4 out6, nic.spec.ips.mapM parse = some pins /\
    assignIn v4 (family true pins).getLast? (family true (parseAddrs nic.status.allocatedIPs)).getLast?
      (decide (nic.spec.ips ≠ [])) (family true (usedAddrs nics nic)) sub.reservedIPs = .ok out4 /\
    assignIn v6 (family false pins).getLast?
      (family false (parseAddrs nic.status.allocatedIPs)).getLast? (decide (nic.spec.ips ≠ []))
      (family false (usedAddrs nics nic)) sub.reservedIPs = .ok out6 /\
    out4 ++ out6 ≠ [] /\ ips = (out4 ++ out6).map text /\
    assignMAC nic (usedMACs nics nic) = some mac := by
  unfold allocate at allocated
  split at allocated
  · cases allocated
  next pins parsed =>
    simp only [bind, Except.bind] at allocated
    split at allocated
    · cases allocated
    next out4 assigned4 =>
      split at allocated
      · cases allocated
      next out6 assigned6 =>
        split at allocated
        · cases allocated
        next nonempty =>
          split at allocated
          · cases allocated
          next m assigned =>
            obtain ⟨rfl, rfl⟩ := Prod.mk.inj (ok.inj allocated)
            exact ⟨pins, out4, out6, parsed, assigned4, assigned6, nonempty, rfl, assigned⟩

lemma allocate_error {v4 : Option NetPrefix} {state : NICState} (failed : allocate nics sub v4 v6 nic = .error state) :
  state ≠ .allocated := by
  unfold allocate at failed
  split at failed
  · obtain rfl := error.inj failed
    simp
  · simp only [bind, Except.bind] at failed
    split at failed
    next error assigned => exact Except.error.inj failed ▸ assignIn_error assigned
    · split at failed
      next error assigned => exact Except.error.inj failed ▸ assignIn_error assigned
      · split at failed
        · obtain rfl := error.inj failed
          simp
        · split at failed
          · obtain rfl := error.inj failed
            simp
          · cases failed

lemma allocate_spec {v4 : Option NetPrefix} (blocks : parseSubnetPrefixes sub = some (v4, v6))
  {ips : List String} {mac : String} (allocated : allocate nics sub v4 v6 nic = .ok (ips, mac)) :
  ips ≠ [] /\ (∀ ip ∈ ips, ∃ a p, ip = a.text /\ sub.HasBlock p /\ Assignable p (usedAddrs nics nic) sub.reservedIPs a) /\
    mac ∉ usedMACs nics nic /\ ∃ hw : HardwareAddr, mac = hw.text /\ parseMAC mac = some hw := by
  obtain ⟨valid4, valid6⟩ := parseSubnetPrefixes_spec blocks
  obtain ⟨pins, out4, out6, parsed, assigned4, assigned6, nonempty, rfl, assigned⟩ :=
    allocate_cases allocated
  have pinsValid := mapM_parse_valid parsed
  refine ⟨by simpa using nonempty, fun ip member => ?_, assignMAC_spec assigned⟩
  obtain ⟨a, listed, rfl⟩ := mem_map.mp member
  rcases mem_append.mp listed with own | own
  · obtain ⟨p, block, assignable⟩ :=
      assign_spec valid4 pinsValid (fun _ => mem_parseAddrs_valid) assigned4 a own
    exact ⟨a, p, rfl, ⟨v4, v6, blocks, .inl block⟩, assignable⟩
  · obtain ⟨p, block, assignable⟩ :=
      assign_spec valid6 pinsValid (fun _ => mem_parseAddrs_valid) assigned6 a own
    exact ⟨a, p, rfl, ⟨v4, v6, blocks, .inr block⟩, assignable⟩

structure Allocation (nics : List NIC) (subnets : List Subnet) (nic nic' : NIC) : Prop where
  open_ : nic.settled = false
  found : ∃ sub v4 v6 ips mac, resolveSubnet subnets nic = some sub /\ sub.state = "Ready" /\
    parseSubnetPrefixes sub = some (v4, v6) /\ allocate nics sub v4 v6 nic = .ok (ips, mac) /\
    nic' = { nic with status := { nic.status with allocatedMAC := mac } }.setState .allocated ips

lemma sync_cases (nics : List NIC) (subnets : List Subnet) (reads : SyncReads) (nic : NIC) :
  sync nics subnets reads nic = nic \/ (∃ state, state ≠ .allocated /\ sync nics subnets reads nic = nic.setState state []) \/
    Allocation nics subnets nic (sync nics subnets reads nic) := by
  unfold sync
  split
  · exact .inl rfl
  next unsettled =>
    split
    · exact .inr (.inl ⟨.invalid, by simp, rfl⟩)
    next sub resolved =>
      split
      · exact .inr (.inl ⟨.pending, by simp, rfl⟩)
      next ready =>
        split
        · exact .inr (.inl ⟨.pending, by simp, rfl⟩)
        next v4 v6 blocks =>
          split
          · exact .inl rfl
          · split
            next state failed => exact .inr (.inl ⟨state, allocate_error failed, rfl⟩)
            next ips mac allocated =>
              refine .inr (.inr ⟨by simpa using unsettled, sub, v4, v6, ips, mac, ?_,
                not_not.mp ready, blocks, allocated, rfl⟩)
              split at resolved
              · exact resolved
              · cases resolved

end Ectobase.Mesh
