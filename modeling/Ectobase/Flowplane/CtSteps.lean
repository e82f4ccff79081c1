import Ectobase.Flowplane.GuestTxSteps
import Ectobase.Flowplane.Rewrites
import Ectobase.Flowplane.SnatRuns

namespace Ectobase.Flowplane

open Shared

def CtEntry.xlation (e : CtEntry) : UInt8 × Vector UInt8 4 × UInt16 := (e.flags, e.xlateIp, e.xlatePort)

def Keeps (ct ct' : Conntrack) : Prop :=
  ∀ k e, ct.lookup k = some e -> ∃ e', ct'.lookup k = some e' /\ e'.xlation = e.xlation

variable (ct : Conntrack) (pkt : Pkt) (ipOff : Nat) (e : CtEntry) (vni : UInt32) (now : UInt64)
  (epoch : UInt32) (nat : NatValue) (key : CtKey) (range : UInt16)

lemma Keeps.refl : Keeps ct ct := fun _ e held => ⟨e, held, rfl⟩

lemma keeps_insert {ct : Conntrack} {key : CtKey} {e e' : CtEntry} (held : ct.lookup key = some e)
  (same : e'.xlation = e.xlation) : Keeps ct (ct.insert key e') := by
  intro k f there
  rw [lookup_insert_ite]
  split
  next here =>
    rw [here, held] at there
    cases there
    exact ⟨e', rfl, same⟩
  · exact ⟨f, there, rfl⟩

lemma refreshed_xlation : (refreshed pkt ipOff e now epoch).xlation = e.xlation := rfl

lemma keeps_seedFlow {ct : Conntrack} {key : CtKey} (absent : ct.lookup key = none) (e : CtEntry) :
  Keeps ct (seedFlow invertKey ct key e) := by
  intro k f held
  rw [lookup_seedFlow, if_neg (by simp [held]), if_neg (by rintro rfl; simp [absent] at held)]
  exact ⟨f, held, rfl⟩

lemma trackFlow_cases : (ctKey pkt ipOff vni = none /\ trackFlow ct pkt ipOff vni now epoch = ct) \/
    ∃ key, ctKey pkt ipOff vni = some key /\ ((ct.lookup key = none /\ trackFlow ct pkt ipOff vni now epoch
          = seedFlow invertKey ct key (defaultEntryBy (tcpFlags pkt ipOff) now epoch)) \/
        ∃ e, ct.lookup key = some e /\ trackFlow ct pkt ipOff vni now epoch
          = ct.insert key (refreshed pkt ipOff e now epoch)) := by
  unfold trackFlow
  split
  next unkeyed => exact .inl ⟨unkeyed, rfl⟩
  next key keyed =>
    refine .inr ⟨key, keyed, ?_⟩
    split
    next absent => exact .inl ⟨absent, ctCreateDefault_eq ct pkt ipOff vni now epoch keyed⟩
    next e held => exact .inr ⟨e, held, rfl⟩

lemma keeps_trackFlow : Keeps ct (trackFlow ct pkt ipOff vni now epoch) := by
  rcases trackFlow_cases ct pkt ipOff vni now epoch with
    ⟨_, same⟩ | ⟨key, _, ⟨absent, seeded⟩ | ⟨e, held, refreshed⟩⟩
  · rw [same]
    exact Keeps.refl ct
  · rw [seeded]
    exact keeps_seedFlow absent _
  · rw [refreshed]
    exact keeps_insert held (refreshed_xlation pkt ipOff e now epoch)

def PortFree (ct : Conntrack) (vni : UInt32) (nat : NatValue) (proto : UInt8) (range place : UInt16) : Prop :=
  ct.lookup (revKey vni nat.natIpv4 (nat.portMin + place % range) proto) = none

lemma probe_isSome_iff (proto : UInt8) (start range : UInt16) (left : Nat) (i : UInt16) :
  (probe ct vni nat proto start range left i).isSome ↔
    ∃ j < left, PortFree ct vni nat proto range (start + (i + UInt16.ofNat j)) := by
  induction left generalizing i with
  | zero => simp [probe]
  | succ left ih =>
    have here : start + (i + UInt16.ofNat 0) = start + i := by
      rw [show UInt16.ofNat 0 = 0 from rfl, UInt16.add_zero]
    have next (j : Nat) : i + UInt16.ofNat (j + 1) = i + 1 + UInt16.ofNat j := by
      rw [UInt16.ofNat_add, UInt16.add_assoc, UInt16.add_comm 1]
      rfl
    unfold probe
    dsimp only
    split
    next free => exact iff_of_true rfl ⟨0, by omega, by rw [here]; exact free⟩
    next taken =>
      rw [ih]
      constructor
      · rintro ⟨j, below, free⟩
        exact ⟨j + 1, by omega, by rw [next]; exact free⟩
      · rintro ⟨j, below, free⟩
        cases j with
        | zero =>
          rw [here] at free
          exact absurd free taken
        | succ j =>
          rw [next] at free
          exact ⟨j, by omega, free⟩

variable {ct ct' : Conntrack} {nat : NatValue} {key : CtKey} {range port : UInt16} {now : UInt64}

lemma allocate_pins {epoch : UInt32} (allocated : allocate ct nat key range now epoch = some (port, ct')) :
  ∃ e, ct'.lookup key = some e /\ e.flags &&& ctFSrcNat ≠ 0 /\ e.xlatePort = port :=
  allocateBy_pins allocated fun _ => ⟨(by decide : (ctRewriteSrc ||| ctFSrcNat) &&& ctFSrcNat ≠ 0), rfl⟩

lemma nat64Allocate_pins (allocated : nat64Allocate ct nat key range now = some (port, ct')) :
  ∃ e, ct'.lookup key = some e /\ e.flags &&& ctFSrcNat ≠ 0 /\ e.xlatePort = port :=
  allocateBy_pins allocated fun _ =>
    ⟨(by decide : (ctRewriteSrc ||| ctFSrcNat ||| ctFNat64) &&& ctFSrcNat ≠ 0), rfl⟩

def KeptAt (ct ct' : Conntrack) (key : CtKey) : Prop :=
  ∀ e, ct.lookup key = some e -> e.flags &&& ctFSrcNat ≠ 0 -> ∃ e', ct'.lookup key = some e' /\ e'.xlation = e.xlation

lemma keptAt_of_keeps (keeps : Keeps ct ct') (key : CtKey) : KeptAt ct ct' key :=
  fun e held _ => keeps key e held

lemma KeptAt.trans {a b c : Conntrack} {key : CtKey} (first : KeptAt a b key) (second : KeptAt b c key) : KeptAt a c key := by
  intro e held natted
  obtain ⟨e', held', same⟩ := first e held natted
  have flags : e'.flags = e.flags := congrArg (fun x => x.1) same
  obtain ⟨e'', held'', same'⟩ := second e' held' (by rw [flags]; exact natted)
  exact ⟨e'', held'', same'.trans same⟩

lemma keptAt_allocateBy {rev : CtEntry} {fwd : UInt16 -> CtEntry} {ct ct' : Conntrack} {nat : NatValue}
  {k : CtKey} {range port : UInt16} (allocated : allocateBy rev fwd ct nat k range = some (port, ct'))
  (key : CtKey) : KeptAt ct ct' key := by
  rcases allocateBy_cases allocated with ⟨_, _, _, _, rfl⟩ | ⟨untracked, ⟨free, _⟩, rfl⟩
  · exact keptAt_of_keeps (Keeps.refl _) key
  · intro e held natted
    have one : key ≠ k := by
      rintro rfl
      exact natted (untracked e held)
    have two : key ≠ revKey k.vni nat.natIpv4 port k.proto := by
      rintro rfl
      rw [free] at held
      cases held
    rw [lookup_insert_ite, if_neg one, lookup_insert_ite, if_neg two]
    exact ⟨e, held, rfl⟩

lemma snatEgress_cases {pkt : Pkt} {ipOff : Nat} {hdr : Vector UInt8 20}
  (header : pkt.readArray 20 ipOff = some hdr) (nat : NatConfig) (ct : Conntrack) (vni : UInt32)
  (now : UInt64) (epoch : UInt32) :
  ((∀ b, nat.lookup ⟨vni, addrAt hdr 12⟩ = some b -> b.portMax - b.portMin = 0) /\
    snatEgress pkt nat ct ipOff vni true now epoch = (.continue, pkt, ct)) \/
    ∃ b, nat.lookup ⟨vni, addrAt hdr 12⟩ = some b /\ b.portMax - b.portMin ≠ 0 /\ ((l4Ports pkt ipOff = none /\
          snatEgress pkt nat ct ipOff vni true now epoch = (.untranslatable, pkt, ct)) \/
        ∃ proto sport dport, l4Ports pkt ipOff = some (proto, sport, dport) /\
          ((allocate ct b ⟨vni, addrAt hdr 12, addrAt hdr 16, sport, dport, proto⟩ (b.portMax - b.portMin) now epoch = none /\
            snatEgress pkt nat ct ipOff vni true now epoch = (.exhausted, pkt, ct)) \/
          ∃ natPort ct', allocate ct b ⟨vni, addrAt hdr 12, addrAt hdr 16, sport, dport, proto⟩
              (b.portMax - b.portMin) now epoch = some (natPort, ct') /\
            snatEgress pkt nat ct ipOff vni true now epoch
              = (.continue, rewriteSource pkt ipOff hdr b.natIpv4 proto sport natPort, ct'))) := by
  have external : ¬ true = false := by decide
  simp only [snatEgress, if_neg external, header]
  rw [addrAt_source, addrAt_dest]
  cases bound : nat.lookup ⟨vni, addrAt hdr 12⟩ with
  | none => simp
  | some b =>
    by_cases empty : b.portMax - b.portMin = 0
    · simp [empty]
    · simp only [if_neg empty]
      refine .inr ⟨b, rfl, empty, ?_⟩
      cases ports : l4Ports pkt ipOff with
      | none => exact .inl ⟨rfl, rfl⟩
      | some found =>
        obtain ⟨proto, sport, dport⟩ := found
        refine .inr ⟨proto, sport, dport, rfl, ?_⟩
        dsimp only
        cases allocated : allocate ct b ⟨vni, addrAt hdr 12, addrAt hdr 16, sport, dport, proto⟩
          (b.portMax - b.portMin) now epoch with
        | none => exact .inl ⟨rfl, rfl⟩
        | some result => exact .inr ⟨result.1, result.2, rfl, rfl⟩

end Ectobase.Flowplane
