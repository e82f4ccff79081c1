import Ectobase.Flowplane.FwLowering

namespace Ectobase.Flowplane

open Shared Mesh List CompiledFwRule

variable {n : Nat}

def unshadowed (rules : List (Parsed n)) : List Entry :=
  let all := emittedEntries (classesOf (peerPrefixes rules)) rules.zipIdx
  all.filter fun e => !all.any fun x => x.key.cls = e.key.cls && (e.prec < x.prec && x.covers e)

lemma sum_length_filter {K E : Type} [DecidableEq K] {keys : List K} (nodup : keys.Nodup)
  (key : E -> K) (l : List E) (all : ∀ e ∈ l, key e ∈ keys) :
  (keys.map fun k => (l.filter fun e => key e = k).length).sum = l.length := by
  induction keys generalizing l with
  | nil => simp [eq_nil_iff_forall_not_mem.mpr fun e member => not_mem_nil (all e member)]
  | cons k keys ih =>
    obtain ⟨absent, nodup⟩ := nodup_cons.mp nodup
    have rest := ih nodup (l.filter fun e => !decide (key e = k)) fun e member => by
      obtain ⟨listed, other⟩ := mem_filter.mp member
      exact (mem_cons.mp (all e listed)).resolve_left (by simpa using other)
    rw [map_cons, sum_cons, length_eq_length_filter_add (l := l) fun e => key e = k, <- rest]
    congr 2
    refine map_congr_left fun k' listed => ?_
    rw [filter_filter]
    congr 1
    refine filter_congr fun e _ => ?_
    by_cases same : key e = k'
    · have other : k' ≠ k := fun eq => absent (eq ▸ listed)
      simp [same, other]
    · simp [same]

variable (rules : List (Parsed n))

lemma bucket_unshadowed (c : UInt32) : Buckets.bucket (rules.zipIdx.foldl (addRule (classesOf (peerPrefixes rules))) ∅) c =
    (unshadowed rules).filter (·.key.cls = c) := by
  rw [addRules_bucket, foldl_insert_eq, survivors_eq_filter Entry.covers_trans, unshadowed]
  simp only [filter_filter, any_filter]
  refine filter_congr fun e _ => ?_
  by_cases own : e.key.cls = c <;> simp [own]

lemma entries_length : (((rules.zipIdx.foldl (addRule (classesOf (peerPrefixes rules))) ∅ : Buckets).entries.map
    fun b => b.2).flatten).length = (unshadowed rules).length := by
  have bucket := bucket_unshadowed rules
  generalize (rules.zipIdx.foldl (addRule (classesOf (peerPrefixes rules))) ∅ : Buckets) = buckets at *
  have held : (buckets.entries.map fun b => b.2) = buckets.keys.map buckets.bucket := by
    rw [AList.keys, keys, map_map]
    refine map_congr_left fun b member => ?_
    have found : buckets.lookup b.1 = some b.2 := AList.mem_lookup_iff.mpr member
    simp [Buckets.bucket, found]
  rw [held, length_flatten, map_map]
  simp only [Function.comp_def, bucket]
  refine sum_length_filter buckets.nodupKeys _ _ fun e member => ?_
  by_contra absent
  have none : buckets.bucket e.key.cls = [] := by
    simp [Buckets.bucket, AList.lookup_eq_none.mpr absent]
  rw [bucket, filter_eq_nil_iff] at none
  simpa using none e member

lemma peerPrefixes_length : (peerPrefixes rules).length <= rules.length := by
  unfold peerPrefixes
  refine (List.Sublist.length_le (destutter_sublist _ _)).trans ?_
  rw [length_insertionSort, length_map]
  exact length_filter_le _ _

lemma compileFamily_iff {rules : List (Parsed n)} (few : rules.length <= fwScopeMaxClasses)
  (family : String) : (∃ t, compileFamily rules family = .ok t) ↔ (unshadowed rules).length <= fwScopeMaxEntries := by
  have classes : ¬ fwScopeMaxClasses < (peerPrefixes rules).length := by
    have := peerPrefixes_length rules
    omega
  simp only [compileFamily, if_neg classes, length_insertionSort, length_map, entries_length rules]
  split
  next above => simp [Nat.not_le.mpr above]
  next within => simp [Nat.not_lt.mp within]

lemma prefixLen_prefixMask : (∀ len ≤ 32, prefixLen (prefixMask 4 len) = some len) /\
  ∀ len ≤ 128, prefixLen (prefixMask 16 len) = some len := by
  decide +kernel

variable {cr : CompiledFwRule}

lemma selWord_octet {x : Int} (low : 0 <= x) (high : x <= 255) : selWord (some x) ≠ 0xffff /\ ¬ 255 < selWord (some x) := by
  have value : (selWord (some x)).toNat = x.toNat := by
    rw [selWord, UInt16.toNat_ofNat']
    omega
  constructor
  · intro all
    rw [all] at value
    have : (0xffff : UInt16).toNat = 65535 := rfl
    omega
  · rw [UInt16.lt_iff_toNat_lt, value]
    have : (255 : UInt16).toNat = 255 := rfl
    omega

def CompiledFwRule.selector (cr : CompiledFwRule) : Selector := match cr.icmpType with
  | some t => .icmp (selWord (some t)).toUInt8 (cr.icmpCode.map fun c => (selWord (some c)).toUInt8)
  | none =>
    if portWords cr = (0, 65535) then .any else .ports (portWords cr).1 (portWords cr).2

def policyRule (n : Nat) (cr : CompiledFwRule) : Option (Parsed n) :=
  ((NetPrefix.parse cr.cidr).filter (·.addr.isV4 = decide (n = 4))).map fun p =>
    ⟨masked (octets n p.addr.bytes) p.bits, p.bits, (protoNum cr.proto (decide (n ≠ 4))).toUInt8,
      selector cr, cr.action == "Allow"⟩

lemma portWords_order (regular : CompiledFwRule.Regular cr) : ¬ (portWords cr).2 < (portWords cr).1 := by
  obtain ⟨low, high, -⟩ := regular.port
  have range := regular.endPort
  unfold portWords lastPort
  split
  · decide
  · rw [UInt16.lt_iff_toNat_lt, UInt16.toNat_ofNat', UInt16.toNat_ofNat']
    split <;> omega

lemma parseSelector_regular (regular : CompiledFwRule.Regular cr) {v : RuleView n}
  (proto : v.proto = (protoNum cr.proto (decide (n ≠ 4))).toUInt8) (ports : v.dports = portWords cr)
  (icmp : v.icmp = (selWord cr.icmpType, selWord cr.icmpCode)) :
  parseSelector v (icmpOf n) = .ok (some (selector cr)) := by
  have untyped (other : cr.proto ≠ "ICMP") : cr.icmpType = none := by
    cases set : cr.icmpType with
    | none => rfl
    | some t => exact absurd (regular.icmpType t set).2.2 other
  have uncoded (typed : cr.icmpType = none) : cr.icmpCode = none := by
    cases set : cr.icmpCode with
    | none => rfl
    | some c => exact absurd typed (regular.icmpCode c set).2.2
  have unported (other : ¬ (cr.proto = "TCP" \/ cr.proto = "UDP")) : portWords cr = (0, 65535) := by
    refine if_pos ?_
    by_contra set
    exact other (regular.port.2.2 set)
  have order := portWords_order regular
  have apart : ¬ (icmpOf n = 6 \/ icmpOf n = 17) /\ ¬ 0 = icmpOf n := by
    unfold icmpOf
    split <;> decide
  have named := regular.proto
  simp only [mem_cons, not_mem_nil, or_false] at named
  unfold parseSelector selector
  rw [proto, ports, icmp]
  rcases named with any | tcp | udp | ping
  · have zero : (protoNum cr.proto (decide (n ≠ 4))).toUInt8 = 0 := by
      rw [any]
      rfl
    have typed := untyped (by simp [any])
    rw [zero, if_neg (by decide), if_neg apart.2, typed, uncoded typed, unported (by simp [any])]
    rfl
  · have six : (protoNum cr.proto (decide (n ≠ 4))).toUInt8 = 6 := by
      rw [tcp]
      rfl
    rw [six, if_pos (.inl rfl), if_neg order, untyped (by simp [tcp])]
    split <;> rfl
  · have seventeen : (protoNum cr.proto (decide (n ≠ 4))).toUInt8 = 17 := by
      rw [udp]
      rfl
    rw [seventeen, if_pos (.inr rfl), if_neg order, untyped (by simp [udp])]
    split <;> rfl
  · have own : (protoNum cr.proto (decide (n ≠ 4))).toUInt8 = icmpOf n := by
      rw [ping]
      unfold icmpOf
      by_cases four : n = 4 <;> simp [four] <;> decide
    rw [own, if_neg apart.1, if_pos rfl, unported (by simp [ping])]
    cases typed : cr.icmpType with
    | none =>
      rw [uncoded typed]
      rfl
    | some t =>
      have bound := regular.icmpType t typed
      obtain ⟨set, small⟩ := selWord_octet bound.1 bound.2.1
      cases coded : cr.icmpCode with
      | none => simp [set, small, show selWord none = 65535 from rfl]
      | some c =>
        have bound := regular.icmpCode c coded
        obtain ⟨set', small'⟩ := selWord_octet bound.1 bound.2.1
        simp [set, small, set', small']

lemma parse_lowered (regular : CompiledFwRule.Regular cr) (dir : Direction) {p : NetPrefix}
  (mask : prefixLen (prefixMask n p.bits) = some p.bits) (family : p.addr.isV4 = decide (n = 4)) :
  parse (view (loweredRule n dir cr p)) (dirByte dir) (icmpOf n) = .ok (some ⟨masked (octets n p.addr.bytes) p.bits, p.bits,
      (protoNum cr.proto (decide (n ≠ 4))).toUInt8, selector cr,
      cr.action == "Allow"⟩) := by
  have proto : (view (loweredRule n dir cr p)).proto = (protoNum cr.proto (decide (n ≠ 4))).toUInt8 := by
    rw [show decide (n ≠ 4) = !p.addr.isV4 by rw [family]; simp]
    rfl
  have read := parseSelector_regular regular proto rfl rfl
  have allow : (view (loweredRule n dir cr p)).allow = (cr.action == "Allow") := by
    by_cases allow : cr.action = "Allow"
    · simp [view, loweredRule, fwRuleOf, allow]
    · simp [view, loweredRule, fwRuleOf, allow]
      decide
  have whole : (view (loweredRule n dir cr p)).sports = (0, 65535) := rfl
  cases dir with
  | ingress | egress =>
    show parsePeer _ _ (octets n p.addr.bytes) (prefixMask n p.bits) (Vector.replicate n 0) = _
    simp [parsePeer, read, mask, whole, proto, allow, Except.map]

lemma policyRule_eq {p : NetPrefix} (read : NetPrefix.parse cr.cidr = some p) : policyRule n cr =
  if p.addr.isV4 = decide (n = 4) then some ⟨masked (octets n p.addr.bytes) p.bits, p.bits,
    (protoNum cr.proto (decide (n ≠ 4))).toUInt8, selector cr, cr.action == "Allow"⟩
  else none := by
  by_cases family : p.addr.isV4 = decide (n = 4) <;> simp [policyRule, read, Option.filter, family]

lemma parseAll_lowered {tagged : List TaggedRule} (regular : ∀ t ∈ tagged, CompiledFwRule.Regular t.cr)
  (mask : ∀ cidr p, NetPrefix.parse cidr = some p -> p.addr.isV4 = decide (n = 4) ->
    prefixLen (prefixMask n p.bits) = some p.bits) (dir : Direction) :
  parseAll (icmpOf n) (dirByte dir) ((tagged.filterMap (lowered n)).map Prod.snd) =
    .ok (((tagged.filter (·.dir == dir)).map TaggedRule.cr).filterMap (policyRule n)) := by
  induction tagged with
  | nil => rfl
  | cons t rest ih =>
    obtain ⟨own, later⟩ := forall_mem_cons.mp regular
    obtain ⟨p, read⟩ := own.cidr
    rw [filterMap_cons, lowered_eq read]
    by_cases family : p.addr.isV4 = decide (n = 4)
    · have direction : (loweredRule n t.dir t.cr p).direction = dirByte t.dir := by
        cases t.dir <;> rfl
      have parsed := parse_lowered own t.dir (mask _ p read family) family
      simp only [if_pos family, map_cons, parseAll, direction, ih later]
      by_cases same : t.dir = dir
      · rw [same] at parsed
        simp [same, parsed, policyRule_eq read, family, bind, Except.bind, pure, Except.pure]
      · have other : dirByte t.dir ≠ dirByte dir := by
          revert same
          cases t.dir <;> cases dir <;> decide
        simp [same, other]
    · rw [if_neg family, ih later]
      by_cases same : t.dir = dir <;> simp [same, policyRule_eq read, family]

lemma compiled_few {Selector Labels : Type} {selectors : LabelSelectors Selector Labels}
  {nicLabels : Labels} {policies : List (FirewallPolicy Selector)} {defaultPolicy : Option String}
  {fw : CompiledFirewall}
  (compiled : compileFirewall selectors nicLabels policies defaultPolicy = .ok fw) :
  fw.ingress.length + fw.egress.length <= 512 := by
  have total (s : FwSet) : (FwSet.rules s).length = s.count false + s.count true := by
    rw [FwSet.rules, length_map, length_insertionSort, length_eq_countP_add_countP fun e => FwEntry.v6 e == false]
    simp [FwSet.count]
  simp only [compileFirewall, bind, Except.bind, pure, Except.pure, overBudget] at compiled
  split at compiled
  · cases compiled
  next sets =>
    split_ifs at compiled with four six
    cases compiled
    simp only [total]
    simp only [firewallRuleBudget] at four six
    omega

def Programmable (fw : CompiledFirewall) : Prop :=
  ∃ v4 v6, splitFamilies ((firewallRules fw).map FwRuleWithID.spec) = .ok (v4, v6) /\
    ∀ dir, ∃ scope, compileScope (dirByte dir) (v4.map Prod.snd) (v6.map Prod.snd) = .ok scope

lemma compileScope_iff {dir : UInt8} {v4 : List FwRule} {v6 : List FwRule6} {p4 : List (Parsed 4)}
  {p6 : List (Parsed 16)} (read4 : parseAll 1 dir v4 = .ok p4) (read6 : parseAll 58 dir v6 = .ok p6)
  (few4 : p4.length <= fwScopeMaxClasses) (few6 : p6.length <= fwScopeMaxClasses) :
  (∃ scope, compileScope dir v4 v6 = .ok scope) ↔
    (unshadowed p4).length <= fwScopeMaxEntries /\ (unshadowed p6).length <= fwScopeMaxEntries := by
  rw [<- compileFamily_iff few4 "IPv4", <- compileFamily_iff few6 "IPv6"]
  simp only [compileScope, read4, read6, bind, Except.bind, pure, Except.pure]
  split
  next empty =>
    obtain ⟨rfl, rfl⟩ := empty
    exact iff_of_true ⟨none, rfl⟩ ⟨⟨_, rfl⟩, ⟨_, rfl⟩⟩
  · cases compileFamily p4 "IPv4" with
    | error => simp
    | ok => cases compileFamily p6 "IPv6" <;> simp

variable {Selector Labels : Type} (selectors : LabelSelectors Selector Labels) (nicLabels : Labels)

def Fits (defaultPolicy : Option String) (policies : List (FirewallPolicy Selector)) : Prop := ∀ dir,
  let rules := (survivingEntries selectors nicLabels defaultPolicy policies dir).rules
  (unshadowed (rules.filterMap (policyRule 4))).length <= fwScopeMaxEntries /\
    (unshadowed (rules.filterMap (policyRule 16))).length <= fwScopeMaxEntries

theorem programmable_iff (policies : List (FirewallPolicy Selector))
  (valid : ∀ pol ∈ policies, pol.validate selectors = []) (defaultPolicy : Option String)
  (fw : CompiledFirewall)
  (compiled : compileFirewall selectors nicLabels policies defaultPolicy = .ok fw) :
  Programmable fw ↔ Fits selectors nicLabels defaultPolicy policies := by
  have regular := regular_of_compiled selectors nicLabels valid compiled
  have all : ∀ t ∈ taggedRules fw, CompiledFwRule.Regular t.cr := by
    intro t listed
    refine regular t.dir t.cr ?_
    rw [<- taggedRules_dir]
    exact mem_map_of_mem (mem_filter.mpr ⟨listed, beq_self_eq_true t.dir⟩)
  have split := splitFamilies_lowered all
  rw [<- firewallRules_eq] at split
  have each (dir : Direction) : (∃ scope, compileScope (dirByte dir) (((taggedRules fw).filterMap (lowered 4)).map Prod.snd)
    (((taggedRules fw).filterMap (lowered 16)).map Prod.snd) = .ok scope) ↔
      (unshadowed ((fw.rules dir).filterMap (policyRule 4))).length <= fwScopeMaxEntries /\
        (unshadowed ((fw.rules dir).filterMap (policyRule 16))).length <= fwScopeMaxEntries := by
    have few (n : Nat) : ((fw.rules dir).filterMap (policyRule n)).length <= fwScopeMaxClasses := by
      have limit : fwScopeMaxClasses = 4096 := rfl
      have total := compiled_few compiled
      have kept := length_filterMap_le (policyRule n) (fw.rules dir)
      cases dir <;> simp only [CompiledFirewall.rules] at kept ⊢ <;> omega
    rw [<- taggedRules_dir] at few ⊢
    refine compileScope_iff (parseAll_lowered all ?_ dir) (parseAll_lowered all ?_ dir) (few 4) (few 16)
    · exact fun cidr p read four => prefixLen_prefixMask.1 _ (by simpa [four] using bits_le read)
    · exact fun cidr p read six => prefixLen_prefixMask.2 _ (by simpa [six] using bits_le read)
  simp only [compileFirewall_rules selectors nicLabels valid compiled] at each
  constructor
  · rintro ⟨_, _, again, scopes⟩ dir
    obtain ⟨rfl, rfl⟩ := Prod.mk.inj (Except.ok.inj (again.symm.trans split))
    exact (each dir).mp (scopes dir)
  · exact fun fits => ⟨_, _, split, fun dir => (each dir).mpr (fits dir)⟩

theorem webFirewall_programmable : Programmable webFirewall ↔ Fits byLabel ["web"] none webPolicies :=
  programmable_iff byLabel ["web"] webPolicies (by decide +kernel) none webFirewall rfl

theorem unadmitted_not_programmable :
  ∃ fw, compileFirewall byLabel ["web"] unadmittedPolicies none = .ok fw /\ ¬ Programmable fw := by
  obtain ⟨fw, compiled, refused⟩ : ∃ fw, compileFirewall byLabel ["web"] unadmittedPolicies none = .ok fw /\
      (splitFamilies ((firewallRules fw).map FwRuleWithID.spec)).isOk = false :=
    ⟨_, rfl, by decide +kernel⟩
  refine ⟨fw, compiled, ?_⟩
  rintro ⟨v4, v6, split, -⟩
  rw [split] at refused
  cases refused

end Ectobase.Flowplane
