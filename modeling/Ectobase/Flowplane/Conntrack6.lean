import Ectobase.Flowplane.Conntrack

namespace Ectobase.Flowplane

open Shared

structure CtKey6 where
  vni : UInt32
  srcIp : Vector UInt8 16
  dstIp : Vector UInt8 16
  srcPort : UInt16
  dstPort : UInt16
  proto : UInt8
  deriving DecidableEq, Repr

-- The firewall-only IPv6 flows: a `CtEntry` that never translates.
abbrev Conntrack6 := Map CtKey6 CtEntry

def ctKey6 (pkt : Pkt) (ipOff : Nat) (vni : UInt32) : Option CtKey6 := do
  let src <- pkt.readArray 16 (ipOff + 8)
  let dst <- pkt.readArray 16 (ipOff + 24)
  let (proto, sport, dport) := (l4PortsV6 pkt ipOff).getD ((pkt.readU8 (ipOff + 6)).getD 0, 0, 0)
  some ⟨vni, src, dst, sport, dport, proto⟩

def invertKey6 (k : CtKey6) : CtKey6 := ⟨k.vni, k.dstIp, k.srcIp, k.dstPort, k.srcPort, k.proto⟩

def tcpFlagsV6 (pkt : Pkt) (ipOff : Nat) : Option UInt8 :=
  if pkt.readU8 (ipOff + 6) ≠ some ipprotoTcp then none else pkt.readU8 (ipOff + 40 + 13)

section

variable {K : Type} [DecidableEq K]

def seedFlow (invert : K -> K) (ct : Map K CtEntry) (key : K) (e : CtEntry) : Map K CtEntry :=
  let ct := ct.insert key e
  let rev := invert key
  if ct.lookup rev = none then ct.insert rev { e with flags := ctFDefault ||| ctFReply } else ct

def forgetFlow (invert : K -> K) (ct : Map K CtEntry) (key : K) : Map K CtEntry :=
  let ct := ct.erase key
  let rev := invert key
  if (ct.lookup rev).any fun e => e.flags == ctFDefault ||| ctFReply then ct.erase rev else ct

def refreshedBy (flags : Option UInt8) (e : CtEntry) (now : UInt64) (epoch : UInt32) : CtEntry :=
  let tcpState := match flags with
    | some fl => tcpAdvance e.tcpState fl
    | none => e.tcpState
  { e with lastSeen := now, policyEpoch := epoch, tcpState }

def defaultEntryBy (flags : Option UInt8) (now : UInt64) (epoch : UInt32) : CtEntry :=
  ⟨now, Vector.replicate 4 0, 0, ctFDefault, (flags.map (tcpAdvance 0)).getD 0, 0, epoch⟩

end

def ctRefresh6 (ct : Conntrack6) (pkt : Pkt) (ipOff : Nat) (key : CtKey6) (e : CtEntry)
  (now : UInt64) (epoch : UInt32) : Conntrack6 :=
  ct.insert key (refreshedBy (tcpFlagsV6 pkt ipOff) e now epoch)

def ctCreateDefault6 (ct : Conntrack6) (pkt : Pkt) (ipOff : Nat) (vni : UInt32) (now : UInt64)
  (epoch : UInt32) : Conntrack6 :=
  match ctKey6 pkt ipOff vni with
  | none => ct
  | some key => seedFlow invertKey6 ct key (defaultEntryBy (tcpFlagsV6 pkt ipOff) now epoch)

def ctHitRecheck6 (pkt : Pkt) (ipOff : Nat) (e : CtEntry) (epoch : UInt32) : Bool :=
  ctNeedsRecheck e epoch (tcpFlagsV6 pkt ipOff)

def ctForgetDefault6 (ct : Conntrack6) (pkt : Pkt) (ipOff : Nat) (vni : UInt32) : Conntrack6 :=
  match ctKey6 pkt ipOff vni with
  | none => ct
  | some key => forgetFlow invertKey6 ct key

def trackFlow6 (ct : Conntrack6) (pkt : Pkt) (ipOff : Nat) (vni : UInt32) (now : UInt64) (epoch : UInt32) : Conntrack6 :=
  match ctKey6 pkt ipOff vni with
  | none => ct
  | some key =>
    match ct.lookup key with
    | none => ctCreateDefault6 ct pkt ipOff vni now epoch
    | some e => ctRefresh6 ct pkt ipOff key e now epoch

-- The IPv4 functions are the same table operations at their own key.

variable (ct : Conntrack) (pkt : Pkt) (ipOff : Nat) (vni : UInt32)

lemma ctCreateDefault_eq (now : UInt64) (epoch : UInt32) {key : CtKey} (keyed : ctKey pkt ipOff vni = some key) :
  ctCreateDefault ct pkt ipOff vni now epoch = seedFlow invertKey ct key (defaultEntryBy (tcpFlags pkt ipOff) now epoch) := by
  rw [ctCreateDefault, keyed]
  rfl

lemma ctForgetDefault_eq {key : CtKey} (keyed : ctKey pkt ipOff vni = some key) :
  ctForgetDefault ct pkt ipOff vni = forgetFlow invertKey ct key := by
  rw [ctForgetDefault, keyed]
  rfl

section

variable {K : Type} [DecidableEq K] (invert : K -> K) (ct : Map K CtEntry) (key k : K)

lemma lookup_seedFlow (e : CtEntry) : (seedFlow invert ct key e).lookup k =
    if k = invert key /\ k ≠ key /\ ct.lookup k = none then
      some { e with flags := ctFDefault ||| ctFReply }
    else if k = key then some e else ct.lookup k := by
  -- the inverse is looked up after the insertion, so a key that is its own inverse seeds no reply
  have inverse : (ct.insert key e).lookup (invert key) = none ↔ invert key ≠ key /\ ct.lookup (invert key) = none := by
    rw [lookup_insert_ite]
    split
    next self => simp [self]
    next apart => simp [apart]
  simp only [seedFlow]
  by_cases seeds : (ct.insert key e).lookup (invert key) = none
  · obtain ⟨apart, absent⟩ := inverse.mp seeds
    rw [if_pos seeds, lookup_insert_ite, lookup_insert_ite]
    by_cases here : k = invert key
    · rw [if_pos here, if_pos ⟨here, here ▸ apart, here ▸ absent⟩]
    · have plain : ¬(k = invert key /\ k ≠ key /\ ct.lookup k = none) := fun both => here both.1
      rw [if_neg here, if_neg plain]
  · rw [if_neg seeds, lookup_insert_ite]
    have kept : ¬(k = invert key /\ k ≠ key /\ ct.lookup k = none) := by
      rintro ⟨here, apart, absent⟩
      exact seeds (inverse.mpr ⟨here ▸ apart, here ▸ absent⟩)
    rw [if_neg kept]

lemma lookup_forgetFlow_of_ne (apart : k ≠ key) : (forgetFlow invert ct key).lookup k = ct.lookup k \/
    k = invert key /\ (forgetFlow invert ct key).lookup k = none /\
      ∃ e, ct.lookup k = some e /\ e.flags = ctFDefault ||| ctFReply := by
  simp only [forgetFlow]
  split
  next reply =>
    rw [lookup_erase_ite]
    by_cases here : k = invert key
    · subst here
      rw [lookup_erase_ite, if_neg apart] at reply
      obtain ⟨e, held, same⟩ := Option.any_eq_true _ _ |>.mp reply
      exact .inr ⟨rfl, if_pos rfl, e, held, by simpa using same⟩
    · rw [if_neg here, lookup_erase_ite, if_neg apart]
      exact .inl rfl
  · rw [lookup_erase_ite, if_neg apart]
    exact .inl rfl

end

end Ectobase.Flowplane
