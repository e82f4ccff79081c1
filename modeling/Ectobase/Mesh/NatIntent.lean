import Ectobase.Flowplane.NatBindings
import Ectobase.Mesh.NatIsolation
import Ectobase.Mesh.PortAgreement

namespace Ectobase.Mesh

open Shared Flowplane

structure NatNIC where
  vni : Int32
  overlayIPs : List String
  nat : List CompiledNATSource

structure AddrTexts where
  v4 : Vector UInt8 4 -> String
  v6 : Vector UInt8 16 -> String

def AddrTexts.display (texts : AddrTexts) : NatSource -> String
  | .v4 a _ => texts.v4 a
  | .v6 a _ => texts.v6 a

def localSet (texts : AddrTexts) (s : NatState) : List (UInt32 × String) :=
  (s.ifaces.items.filter (·.vni ≠ 0)).flatMap fun r =>
    (if r.ipv4 = .replicate 4 0 then [] else [(r.vni, texts.v4 r.ipv4)]) ++
      if r.ipv6 = .replicate 16 0 then [] else [(r.vni, texts.v6 r.ipv6)]

def natRequest (c : NatNIC) (src : CompiledNATSource) : AddNatSourceRequest :=
  ⟨c.vni.toUInt32, src.sourceIP, src.natIP, (natRange src.block).1, (natRange src.block).2⟩

def natRequests (texts : AddrTexts) (s : NatState) (nics : List NatNIC) : List AddNatSourceRequest :=
  let keys := localSet texts s
  (nics.filter fun c => c.overlayIPs.any fun ip => keys.contains (c.vni.toUInt32, ip)).flatMap fun c =>
    (c.nat.filter fun src => keys.contains (c.vni.toUInt32, src.sourceIP) && c.vni.toUInt32 ≠ 0).map (natRequest c)

def sendNat (texts : AddrTexts) (s : NatState) (req : AddNatSourceRequest) : NatState :=
  (addNatSource texts.display noFaults s req).2

def natTick (texts : AddrTexts) (s : NatState) (nics : List NatNIC) : NatState :=
  (natRequests texts s nics).foldl (sendNat texts) s

def Answered (texts : AddrTexts) (s : NatState) (req : AddNatSourceRequest) : Prop :=
  (addNatSource texts.display noFaults s req).1 = .ok ()

abbrev IPBytes := Vector UInt8 4 ⊕ Vector UInt8 16

def sourceIP : NatSource -> IPBytes
  | .v4 a _ => .inl a
  | .v6 a _ => .inr a

def overlapping : NatSource -> NatSource -> Bool
  | .v4 _ b, .v4 _ b' => b.overlaps b'
  | .v6 _ b, .v6 _ b' => b.overlaps b'
  | _, _ => false

def held (s : NatState) (vni : UInt32) : IPBytes -> Option NatSource
  | .inl a => (s.v4.nat (vni, a)).map (.v4 a)
  | .inr a => (s.v6.nat (vni, a)).map (.v6 a)

def Attached (s : NatState) (vni : UInt32) (ip : IPBytes) : Prop :=
  ∃ r ∈ s.ifaces.items, r.vni = vni /\ (ip = .inl r.ipv4 \/ ip = .inr r.ipv6)

def Uses (s : NatState) (vni : UInt32) (src : NatSource) : Prop :=
  Attached s vni (sourceIP src) /\ held s vni (sourceIP src) = some src

def Asked (reqs : List AddNatSourceRequest) (vni : UInt32) (src : NatSource) : Prop :=
  ∃ req ∈ reqs, req.vni = vni /\ readNatSource req = .ok src

def Exact (texts : AddrTexts) (s : NatState) (nics : List NatNIC) : Prop :=
  ∀ vni src, Uses s vni src ↔ Asked (natRequests texts s nics) vni src

def Covered (texts : AddrTexts) (s : NatState) (nics : List NatNIC) : Prop :=
  (∀ vni src, Uses s vni src -> ∃ new, sourceIP new = sourceIP src /\ Asked (natRequests texts s nics) vni new) /\
    ∀ vni src src', Asked (natRequests texts s nics) vni src ->
      Asked (natRequests texts s nics) vni src' -> sourceIP src = sourceIP src' -> src = src'

variable {s : NatState} {texts : AddrTexts}

lemma addSource_done {A K E : Type} [DecidableEq A] {fam : NatFamily A K E} {t : NatTable A K E}
  {vni : UInt32} {source : A} {b : NatBinding A} {shown : String}
  (done : (addSource fam s noFaults t vni source b shown).1 = .ok ()) :
  (∃ r ∈ s.ifaces.items, r.vni = vni /\ fam.addr r = source) /\
    (addSource fam s noFaults t vni source b shown).2.nat = Function.update t.nat (vni, source) (some b) := by
  unfold addSource at done ⊢
  cases found : findIfaceByVniIp fam s.ifaces vni source with
  | none => simp [found] at done
  | some r =>
    obtain ⟨listed, rfl, rfl⟩ := findIfaceByVniIp_some found
    refine ⟨⟨r, listed, rfl, rfl⟩, rebind_done listed ?_⟩
    simp only [found] at done
    cases res : (rebind fam s.ifaces s.lbUnderlays noFaults t r.id b).1 with
    | error e => simp [res, Except.mapError] at done
    | ok => rfl

lemma map_update {A B C : Type} [DecidableEq A] {f : UInt32 × A -> Option B} {key vni : UInt32}
  {a c : A} {b : B} (g : A -> B -> C) :
  (Function.update f (key, a) (some b) (vni, c)).map (g c) =
    if vni = key /\ c = a then some (g a b) else (f (vni, c)).map (g c) := by
  simp only [Function.update_apply, Prod.mk.injEq]
  split
  next own => rw [own.2, Option.map_some]
  · rfl

lemma sendNat_answered {req : AddNatSourceRequest} (answered : Answered texts s req) :
  ∃ src, readNatSource req = .ok src /\ Attached s req.vni (sourceIP src) /\ (sendNat texts s req).ifaces = s.ifaces /\
    ∀ vni ip, held (sendNat texts s req) vni ip = if vni = req.vni /\ ip = sourceIP src then some src else held s vni ip := by
  unfold Answered addNatSource at answered
  unfold sendNat addNatSource
  cases read : readNatSource req with
  | error e => simp [read] at answered
  | ok src =>
    refine ⟨src, rfl, ?_⟩
    simp only [read] at answered
    cases src with
    | v4 a b =>
      obtain ⟨⟨r, listed, vni, rfl⟩, nat⟩ := addSource_done answered
      refine ⟨⟨r, listed, vni, .inl rfl⟩, rfl, fun vni ip => ?_⟩
      cases ip with
      | inl c => simp only [held, nat, map_update, sourceIP, Sum.inl.injEq]
      | inr c => simp [held, sourceIP]
    | v6 a b =>
      obtain ⟨⟨r, listed, vni, rfl⟩, nat⟩ := addSource_done answered
      refine ⟨⟨r, listed, vni, .inr rfl⟩, rfl, fun vni ip => ?_⟩
      cases ip with
      | inl c => simp [held, sourceIP]
      | inr c => simp only [held, nat, map_update, sourceIP, Sum.inr.injEq]

lemma sends_answered {reqs : List AddNatSourceRequest} (answered : Along (sendNat texts) (Answered texts) s reqs) :
  (reqs.foldl (sendNat texts) s).ifaces = s.ifaces /\ (∀ vni src, Asked reqs vni src -> Attached s vni (sourceIP src)) /\
    ∀ vni ip, (∃ src, sourceIP src = ip /\ Asked reqs vni src /\ held (reqs.foldl (sendNat texts) s) vni ip = some src) \/
        (∀ src, sourceIP src = ip -> ¬ Asked reqs vni src) /\ held (reqs.foldl (sendNat texts) s) vni ip = held s vni ip := by
  induction reqs generalizing s with
  | nil => simp [Asked]
  | cons req reqs ih =>
    obtain ⟨src, read, here, ifaces, written⟩ := sendNat_answered answered.1
    obtain ⟨same, attached, ends⟩ := ih answered.2
    simp only [List.foldl_cons]
    have asked (vni : UInt32) (other : NatSource) : Asked (req :: reqs) vni other ↔
      (vni = req.vni /\ other = src) \/ Asked reqs vni other := by
      simp only [Asked, List.mem_cons, exists_eq_or_imp, read, Except.ok.injEq]
      grind
    refine ⟨same.trans ifaces, fun vni other sent => ?_, fun vni ip => ?_⟩
    · rcases (asked vni other).mp sent with ⟨rfl, rfl⟩ | later
      · exact here
      · have := attached vni other later
        rwa [Attached, ifaces] at this
    · simp only [asked]
      rcases ends vni ip with ⟨other, at', sent, last⟩ | ⟨none, last⟩
      · exact .inl ⟨other, at', .inr sent, last⟩
      · rw [written] at last
        by_cases own : vni = req.vni /\ ip = sourceIP src
        · exact .inl ⟨src, own.2.symm, .inl ⟨own.1, rfl⟩, by rw [last, if_pos own]⟩
        · rw [if_neg own] at last
          refine .inr ⟨fun other at' sent => ?_, last⟩
          rcases sent with ⟨rfl, rfl⟩ | later
          · exact own ⟨rfl, at'.symm⟩
          · exact none other at' later

def BlocksApart (nics : List NatNIC) : Prop :=
  ∀ c1 ∈ nics, ∀ e1 ∈ c1.nat, ∀ c2 ∈ nics, ∀ e2 ∈ c2.nat, ∀ src1 src2,
    readNatSource (natRequest c1 e1) = .ok src1 -> readNatSource (natRequest c2 e2) = .ok src2 ->
    (c1.vni.toUInt32, sourceIP src1) ≠ (c2.vni.toUInt32, sourceIP src2) ->
    overlapping src1 src2 = false

lemma Asked.entry {nics : List NatNIC} {vni : UInt32} {src : NatSource} (asked : Asked (natRequests texts s nics) vni src) :
  ∃ c ∈ nics, ∃ e ∈ c.nat, c.vni.toUInt32 = vni /\ readNatSource (natRequest c e) = .ok src := by
  obtain ⟨req, member, rfl, read⟩ := asked
  simp only [natRequests, List.mem_flatMap, List.mem_map, List.mem_filter] at member
  obtain ⟨c, ⟨listed, -⟩, e, ⟨entry, -⟩, rfl⟩ := member
  exact ⟨c, listed, e, entry, rfl, read⟩

lemma exact_tick_iff {nics : List NatNIC} (answered : Along (sendNat texts) (Answered texts) s (natRequests texts s nics)) :
  Exact texts (natTick texts s nics) nics ↔ Covered texts s nics := by
  obtain ⟨ifaces, attached, ends⟩ := sends_answered answered
  have keys : localSet texts (natTick texts s nics) = localSet texts s := by
    simp only [localSet, natTick, ifaces]
  have same : natRequests texts (natTick texts s nics) nics = natRequests texts s nics := by
    simp only [natRequests, keys]
  have uses (vni : UInt32) (src : NatSource) : Uses (natTick texts s nics) vni src ↔
    Attached s vni (sourceIP src) /\ held (natTick texts s nics) vni (sourceIP src) = some src := by
    simp only [Uses, Attached, natTick, ifaces]
  simp only [Exact, same, uses]
  constructor
  · intro exact
    refine ⟨fun vni src bound => ?_, fun vni src src' sent sent' one => ?_⟩
    · rcases ends vni (sourceIP src) with ⟨new, at', sent, -⟩ | ⟨-, kept⟩
      · exact ⟨new, at', sent⟩
      · exact ⟨src, rfl, (exact vni src).mp ⟨bound.1, kept.trans bound.2⟩⟩
    · have first := ((exact vni src).mpr sent).2
      rw [one, ((exact vni src').mpr sent').2] at first
      exact (Option.some.inj first).symm
  · rintro ⟨covered, agree⟩ vni src
    rcases ends vni (sourceIP src) with ⟨last, at', sent, bound⟩ | ⟨none, kept⟩
    · constructor
      · rintro ⟨-, held⟩
        rwa [<- Option.mem_unique bound held]
      · intro asked
        rw [<- agree vni last src sent asked at']
        exact ⟨attached vni last sent, at' ▸ bound⟩
    · refine iff_of_false (fun used => ?_) (none src rfl)
      obtain ⟨new, at', sent⟩ := covered vni src ⟨used.1, kept.symm.trans used.2⟩
      exact none new at' sent

-- A tick of the agent over the CompiledNICs it lists, or a call another client makes in between.
inductive IntentOp where
  | tick (nics : List NatNIC)
  | call (op : BindingOp)

def intentStep (texts : AddrTexts) (s : NatState) : IntentOp -> NatState
  | .tick nics => natTick texts s nics
  | .call op => s.step op

-- P of every tick of a run at the state the tick meets; a call in between is free.
def AtTicks (texts : AddrTexts) (P : NatState -> List NatNIC -> Prop) : NatState -> List IntentOp -> Prop :=
  Along (intentStep texts) fun s op => match op with
    | .tick nics => P s nics
    | .call _ => True

lemma AtTicks.imp {P Q R : NatState -> List NatNIC -> Prop} {ops : List IntentOp} (first : AtTicks texts P s ops)
  (imp : ∀ s nics, P s nics -> Q s nics -> R s nics) (second : AtTicks texts Q s ops) : AtTicks texts R s ops := by
  induction ops generalizing s with
  | nil => trivial
  | cons op ops ih =>
    refine ⟨?_, ih first.2 second.2⟩
    cases op with
    | tick nics => exact imp s nics first.1 second.1
    | call op => trivial

def node (last : UInt8) : NatState :=
  NatState.fresh.step (.attach ⟨[last], 5, #v[10, 0, 0, last], .replicate 16 0, .replicate 16 1⟩)

def dotted : AddrTexts :=
  ⟨fun a => ".".intercalate (a.toList.map fun b => toString b.toNat), fun _ => ""⟩

def nic (ip : String) (nat : List CompiledNATSource) : NatNIC := ⟨5, [ip], nat⟩

def block (ip : String) : List CompiledNATSource := [⟨ip, "203.0.113.1", 1024, 2047⟩]

def guestRequest (ip : String) (portMin portMax : UInt32) : AddNatSourceRequest :=
  ⟨5, ip, "203.0.113.1", portMin, portMax⟩

def publicAddr (last : UInt8) : Vector UInt8 4 := #v[203, 0, 113, last]

def guestSource (last : UInt8) (portMin portMax : UInt16) : NatSource :=
  .v4 #v[10, 0, 0, last] ⟨publicAddr 1, portMin, portMax⟩

lemma read_of_toOption {req : AddNatSourceRequest} {src : NatSource} (read : (readNatSource req).toOption = some src) :
  readNatSource req = .ok src := by
  cases done : readNatSource req with
  | error e => simp [done, Except.toOption] at read
  | ok other => simpa [done, Except.toOption] using read

lemma held_attach (s : NatState) (r : IfaceMeta) : held (s.step (.attach r)) = held s := by
  rw [NatState.step]
  split <;> rfl

-- A second guest is attached and the block of the first one is moved up between two ticks.
def firstNics : List NatNIC := [nic "10.0.0.2" (block "10.0.0.2")]

def laterNics : List NatNIC :=
  [nic "10.0.0.2" [⟨"10.0.0.2", "203.0.113.1", 2048, 4095⟩], nic "10.0.0.3" (block "10.0.0.3")]

def secondGuest : IfaceMeta := ⟨[3], 5, #v[10, 0, 0, 3], .replicate 16 0, .replicate 16 1⟩

lemma later_covered (asks : natRequests dotted (node 2) firstNics = [guestRequest "10.0.0.2" 1024 2048])
  (answered : Answered dotted (node 2) (guestRequest "10.0.0.2" 1024 2048))
  (asks' : natRequests dotted ((natTick dotted (node 2) firstNics).step (.attach secondGuest)) laterNics =
    [guestRequest "10.0.0.2" 2048 4096, guestRequest "10.0.0.3" 1024 2048]) :
  Covered dotted ((natTick dotted (node 2) firstNics).step (.attach secondGuest)) laterNics := by
  have first : readNatSource (guestRequest "10.0.0.2" 1024 2048) = .ok (guestSource 2 1024 2048) :=
    read_of_toOption (by decide +kernel)
  have moved : readNatSource (guestRequest "10.0.0.2" 2048 4096) = .ok (guestSource 2 2048 4096) :=
    read_of_toOption (by decide +kernel)
  have other : readNatSource (guestRequest "10.0.0.3" 1024 2048) = .ok (guestSource 3 1024 2048) :=
    read_of_toOption (by decide +kernel)
  obtain ⟨src, read, -, -, written⟩ := sendNat_answered answered
  obtain rfl : guestSource 2 1024 2048 = src := Except.ok.inj (first.symm.trans read)
  rw [Covered, asks']
  refine ⟨fun vni src uses => ?_, fun vni src src' asked asked' one => ?_⟩
  · have found := uses.2
    rw [held_attach, natTick, asks, List.foldl_cons, List.foldl_nil, written] at found
    split at found
    next own => exact ⟨guestSource 2 2048 4096, own.2.symm, _, List.mem_cons_self, own.1.symm, moved⟩
    · cases h : sourceIP src <;> rw [h] at found <;> cases found
  · simp only [Asked, List.mem_cons, List.not_mem_nil, or_false, exists_eq_or_imp, exists_eq_left, moved, other,
      Except.ok.injEq] at asked asked'
    rcases asked with ⟨-, rfl⟩ | ⟨-, rfl⟩ <;> rcases asked' with ⟨-, rfl⟩ | ⟨-, rfl⟩
    · rfl
    · exact absurd one (by decide)
    · exact absurd one (by decide)
    · rfl

end Ectobase.Mesh
