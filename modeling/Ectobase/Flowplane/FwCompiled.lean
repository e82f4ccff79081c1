import Ectobase.Flowplane.FwTries

namespace Ectobase.Flowplane

open Shared
open List hiding Vector

variable {n : Nat}

def Buckets.Holds (buckets : Buckets) (emitted : List Entry) : Prop :=
  ∀ cls, Shadowed Entry.covers Entry.prec (emitted.filter fun e => e.key.cls = cls) (buckets.bucket cls)

lemma foldl_insert_eq (entries : List Entry) : entries.foldl insert [] =
  survivors (fun e => OrderDual.toDual e.prec) Entry.covers entries := rfl

lemma ruleEntries_cls (rank : Nat) (r : Parsed n) (cls : UInt32) (e : Entry)
  (member : e ∈ ruleEntries rank r cls) : e.key.cls = cls := by
  obtain ⟨suffix, _, rfl⟩ := mem_map.mp member
  rfl

variable (classes : List (Vector UInt8 n × Nat × UInt32)) (buckets : Buckets)
  (ranked : List (Parsed n × Nat)) (e : Entry) (policy : List (Nat × FwPolKey × Nat))

lemma addRule_bucket (ranked : Parsed n × Nat) (c : UInt32) : (addRule classes buckets ranked).bucket c =
    (((targets classes ranked.1).flatMap (ruleEntries ranked.2 ranked.1)).filter
      (·.key.cls = c)).foldl insert (buckets.bucket c) := by
  unfold addRule
  induction targets classes ranked.1 generalizing buckets with
  | nil => rfl
  | cons cls rest ih =>
    rw [foldl_cons, ih, flatMap_cons, filter_append, foldl_append]
    congr 1
    have here (e : Entry) (member : e ∈ ruleEntries ranked.2 ranked.1 cls) : e.key.cls = cls :=
      ruleEntries_cls ranked.2 ranked.1 cls e member
    by_cases target : c = cls
    · subst target
      have own : (ruleEntries ranked.2 ranked.1 c).filter (·.key.cls = c) = ruleEntries ranked.2 ranked.1 c := by
        simpa [filter_eq_self] using here
      rw [Buckets.bucket, AList.lookup_insert, Option.getD_some, own]
    · have other : (ruleEntries ranked.2 ranked.1 cls).filter (·.key.cls = c) = [] := by
        rw [filter_eq_nil_iff]
        intro e member
        simpa [here e member] using Ne.symm target
      rw [Buckets.bucket, AList.lookup_insert_ne target, other]
      rfl

def emittedEntries (classes : List (Vector UInt8 n × Nat × UInt32)) (ranked : List (Parsed n × Nat)) : List Entry :=
  ranked.flatMap fun r => (targets classes r.1).flatMap (ruleEntries r.2 r.1)

lemma addRules_bucket (c : UInt32) : Buckets.bucket (ranked.foldl (addRule classes) ∅) c =
    ((emittedEntries classes ranked).filter (·.key.cls = c)).foldl insert [] := by
  induction ranked using reverseRecOn with
  | nil => rfl
  | append_singleton ranked r ih =>
    rw [foldl_append, foldl_cons, foldl_nil, addRule_bucket, ih]
    simp [emittedEntries]

lemma addRules_holds : Buckets.Holds (ranked.foldl (addRule classes) ∅) (emittedEntries classes ranked) := by
  intro cls
  rw [addRules_bucket, foldl_insert_eq]
  exact shadowed_survivors Entry.covers_refl Entry.covers_trans _

lemma suffixes_plen (r : Parsed n) (suffix : Nat × UInt8 × UInt8) (member : suffix ∈ suffixes r) : 32 <= suffix.1 := by
  unfold suffixes at member
  split at member
  · simp_all [fwPolPrefixClass]
  · split at member
    · simp_all [fwPolPrefixProto]
    next lo hi _ =>
      obtain ⟨pair, _, rfl⟩ := mem_map.mp member
      simp [fwPolPrefixProto]
      omega
    · simp_all [fwPolPrefixProto]
    · simp_all [fwPolPrefixProto]

lemma mem_emittedEntries : e ∈ emittedEntries classes ranked ↔
    ∃ r ∈ ranked, ∃ cls ∈ targets classes r.1, e ∈ ruleEntries r.2 r.1 cls := by
  simp [emittedEntries]

lemma emittedEntries_plen (member : e ∈ emittedEntries classes ranked) : 32 <= e.plen := by
  obtain ⟨r, _, cls, _, emitted⟩ := (mem_emittedEntries classes ranked e).mp member
  obtain ⟨suffix, hsuffix, rfl⟩ := mem_map.mp emitted
  exact suffixes_plen r.1 suffix hsuffix

lemma mem_bucketEntries : e ∈ (buckets.entries.map fun b => b.2).flatten ↔ ∃ cls, e ∈ buckets.bucket cls := by
  simp only [mem_flatten, mem_map]
  constructor
  · rintro ⟨_, ⟨b, member, rfl⟩, inside⟩
    have found : buckets.lookup b.1 = some b.2 := AList.mem_lookup_iff.mpr member
    exact ⟨b.1, by rwa [Buckets.bucket, found]⟩
  · rintro ⟨cls, inside⟩
    cases found : buckets.lookup cls with
    | none => simp [Buckets.bucket, found] at inside
    | some bucket =>
      rw [Buckets.bucket, found, Option.getD_some] at inside
      exact ⟨bucket, ⟨⟨cls, bucket⟩, AList.mem_lookup_iff.mp found, rfl⟩, inside⟩

def ClassTrie (classes : List (Vector UInt8 n × Nat × UInt32)) (addr : Vector UInt8 n) : Option UInt32 -> Prop :=
  LongestHit classes (fun entry => BitsAgree entry.1.toList addr.toList entry.2.1)
    (fun entry => entry.2.1) (fun entry => entry.2.2)

def PolicyTrie (policy : List (Nat × FwPolKey × Nat)) (key : FwPolKey) : Option Nat -> Prop :=
  LongestHit policy (fun entry => BitsAgree entry.2.1.bytes key.bytes entry.1) (fun entry => entry.1) (fun entry => entry.2.2)

lemma classLpm_classTrie (addr : Vector UInt8 n) : ClassTrie classes addr (classLpm classes addr) := by
  have lookup := maxByKey_longestHit classes
    (fun entry => prefixMatch entry.1.toList addr.toList entry.2.1) (fun entry => entry.2.1)
    (fun entry => entry.2.2)
  simpa [ClassTrie, classLpm, prefixMatch_iff] using lookup

lemma policyLpm_policyTrie (key : FwPolKey) : PolicyTrie policy key (policyLpm policy key) := by
  have lookup := maxByKey_longestHit policy
    (fun entry => prefixMatch entry.2.1.bytes key.bytes entry.1) (fun entry => entry.1)
    (fun entry => entry.2.2)
  have hits (entry : Nat × FwPolKey × Nat) : prefixMatch entry.2.1.bytes key.bytes entry.1 = true ↔
      BitsAgree entry.2.1.bytes key.bytes entry.1 :=
    prefixMatch_iff (a := entry.2.1.bytes) (b := key.bytes) rfl _
  simpa only [PolicyTrie, policyLpm, hits] using lookup

lemma PolicyTrie.bucket {buckets : Buckets} {emitted : List Entry}
  {policy : List (Nat × FwPolKey × Nat)} (h : buckets.Holds emitted)
  (lengths : ∀ e ∈ emitted, 32 <= e.plen)
  (members : ∀ t, t ∈ policy ↔ ∃ e ∈ (buckets.entries.map fun b => b.2).flatten, (e.plen, e.key, e.prec) = t)
  (key : FwPolKey) (found : Option Nat) (lookup : PolicyTrie policy key found) :
  LongestHit (buckets.bucket key.cls) (Entry.Hits key) Entry.plen Entry.prec found := by
  have origin (cls : UInt32) (e : Entry) (inside : e ∈ buckets.bucket cls) : e ∈ emitted /\ e.key.cls = cls := by
    simpa using (h cls).subset e inside
  have listed (e : Entry) (inside : e ∈ buckets.bucket key.cls) : (e.plen, e.key, e.prec) ∈ policy :=
    (members _).mpr ⟨e, (mem_bucketEntries buckets e).mpr ⟨key.cls, inside⟩, rfl⟩
  have unlisted (e : Entry) (inside : e ∈ (buckets.entries.map fun b => b.2).flatten)
    (hit : e.Hits key) : e ∈ buckets.bucket key.cls := by
    obtain ⟨cls, bucket⟩ := (mem_bucketEntries buckets e).mp inside
    obtain ⟨source, same⟩ := origin cls e bucket
    obtain ⟨m, plen⟩ := Nat.exists_eq_add_of_le (lengths e source)
    have agree : BitsAgree e.key.bytes key.bytes (32 + m) := plen ▸ hit
    rw [<- (FwPolKey.bitsAgree_bytes e.key key m).mp agree |>.1, same]
    exact bucket
  cases found with
  | none => exact fun e inside hit => lookup _ (listed e inside) hit
  | some p =>
    obtain ⟨t, member, hit, value, longest⟩ := lookup
    obtain ⟨e, inside, rfl⟩ := (members t).mp member
    exact ⟨e, unlisted e inside hit, hit, value, fun other hother otherHit => longest _ (listed other hother) otherHit⟩

def SuffixHits (r : Parsed n) (proto : UInt8) (port : UInt8 × UInt8) : Prop := ∃ suffix ∈ suffixes r,
  BitsAgree [r.proto, suffix.2.1, suffix.2.2] [proto, port.1, port.2] (suffix.1 - 32)

lemma ruleEntries_hits (r : Parsed n × Nat) (key : FwPolKey) (p : Nat) :
  (∃ e ∈ ruleEntries r.2 r.1 key.cls, e.Hits key /\ e.prec = p) ↔
    SuffixHits r.1 key.proto key.port /\ fwPrecedence r.2 r.1.allow = p := by
  have hits (suffix : Nat × UInt8 × UInt8) (member : suffix ∈ suffixes r.1) :
    BitsAgree (FwPolKey.bytes { cls := key.cls, proto := r.1.proto, port := suffix.2 }) key.bytes suffix.1 ↔
      BitsAgree [r.1.proto, suffix.2.1, suffix.2.2] [key.proto, key.port.1, key.port.2] (suffix.1 - 32) := by
    obtain ⟨m, plen⟩ := Nat.exists_eq_add_of_le (suffixes_plen r.1 suffix member)
    rw [plen, FwPolKey.bitsAgree_bytes, Nat.add_sub_cancel_left]
    exact and_iff_right rfl
  constructor
  · rintro ⟨e, member, hit, rfl⟩
    obtain ⟨suffix, hsuffix, rfl⟩ := mem_map.mp member
    exact ⟨⟨suffix, hsuffix, (hits suffix hsuffix).mp hit⟩, rfl⟩
  · rintro ⟨⟨suffix, hsuffix, agree⟩, prec⟩
    exact ⟨_, mem_map.mpr ⟨suffix, hsuffix, rfl⟩, (hits suffix hsuffix).mpr agree, prec⟩

lemma policyTrie_greatest (members : ∀ t, t ∈ policy ↔
    ∃ e ∈ (((ranked.foldl (addRule classes) ∅ : Buckets).entries.map fun b => b.2).flatten), (e.plen, e.key, e.prec) = t)
  (key : FwPolKey) (found : Option Nat) (lookup : PolicyTrie policy key found) :
  GreatestOf {p | ∃ r ∈ ranked, key.cls ∈ targets classes r.1 /\
    SuffixHits r.1 key.proto key.port /\ fwPrecedence r.2 r.1.allow = p} found := by
  have holds := addRules_holds classes ranked
  have bucket := PolicyTrie.bucket holds (emittedEntries_plen classes ranked) members key found lookup
  have greatest := (holds key.cls).longest_greatest (Entry.covers_upward key)
    (fun x _ y _ => Entry.covers_laminar key x y) found bucket
  convert greatest using 2
  ext p
  constructor
  · rintro ⟨r, member, target, hit⟩
    obtain ⟨e, emitted, ehit⟩ := (ruleEntries_hits r key p).mpr hit
    have cls := ruleEntries_cls r.2 r.1 key.cls e emitted
    exact ⟨e, mem_filter.mpr ⟨(mem_emittedEntries classes ranked e).mpr
      ⟨r, member, key.cls, target, emitted⟩, by simpa using cls⟩, ehit⟩
  · rintro ⟨e, inside, ehit⟩
    obtain ⟨emitted, same⟩ := mem_filter.mp inside
    obtain ⟨r, member, cls, target, entry⟩ := (mem_emittedEntries classes ranked e).mp emitted
    have own : cls = key.cls := by
      rw [<- ruleEntries_cls r.2 r.1 cls e entry]
      simpa using same
    subst own
    exact ⟨r, member, target, (ruleEntries_hits r key p).mp ⟨e, entry, ehit⟩⟩

lemma mem_destutter_ne {α : Type} [DecidableEq α] (xs : List α) (x : α) (member : x ∈ xs) : x ∈ xs.destutter (· ≠ ·) := by
  have scan (xs : List α) (head x : α) (member : x ∈ head :: xs) : x ∈ destutter' (· ≠ ·) head xs := by
    induction xs generalizing head with
    | nil => simpa using member
    | cons y ys ih =>
      by_cases repeated : head = y
      · subst repeated
        rw [destutter'_cons_neg _ (by simp)]
        exact ih head (by simpa using member)
      · rw [destutter'_cons_pos _ repeated]
        rcases mem_cons.mp member with rfl | tail
        · simp
        · exact mem_cons_of_mem _ (ih y tail)
  cases xs with
  | nil => simp at member
  | cons head rest => exact scan rest head x member

lemma mem_peerPrefixes (rules : List (Parsed n)) (r : Parsed n) (member : r ∈ rules)
  (narrow : 0 < r.len) : (r.peer, r.len) ∈ peerPrefixes rules := by
  apply mem_destutter_ne
  rw [mem_insertionSort]
  exact mem_map.mpr ⟨r, mem_filter.mpr ⟨member, by simpa using narrow⟩, rfl⟩

lemma mem_classesOf (prefixes : List (Vector UInt8 n × Nat)) (entry : Vector UInt8 n × Nat × UInt32) :
  entry ∈ classesOf prefixes ↔ ∃ i, prefixes[i]? = some (entry.1, entry.2.1) /\ entry.2.2 = UInt32.ofNat i + 1 := by
  simp only [classesOf, mem_map, mem_zipIdx_iff_getElem?]
  constructor
  · rintro ⟨⟨⟨a, l⟩, i⟩, found, rfl⟩
    exact ⟨i, found, rfl⟩
  · rintro ⟨i, found, cls⟩
    exact ⟨⟨(entry.1, entry.2.1), i⟩, found, by rw [<- cls]⟩

section

variable (prefixes : List (Vector UInt8 n × Nat)) (fits : prefixes.length <= fwScopeMaxClasses)

include fits

variable (entry : Vector UInt8 n × Nat × UInt32)

lemma classesOf_toNat (member : entry ∈ classesOf prefixes) :
  ∃ i, prefixes[i]? = some (entry.1, entry.2.1) /\ entry.2.2.toNat = i + 1 := by
  obtain ⟨i, found, cls⟩ := (mem_classesOf prefixes entry).mp member
  have bound : i < prefixes.length := (List.getElem?_eq_some_iff.mp found).1
  refine ⟨i, found, ?_⟩
  unfold fwScopeMaxClasses at fits
  rw [cls, UInt32.toNat_add, UInt32.toNat_ofNat']
  simp
  omega

lemma classesOf_ne_any (member : entry ∈ classesOf prefixes) : entry.2.2 ≠ fwClassAny := by
  obtain ⟨i, _, cls⟩ := classesOf_toNat prefixes fits entry member
  intro any
  rw [any] at cls
  simp [fwClassAny] at cls

lemma classesOf_unique (a b : Vector UInt8 n × Nat × UInt32)
  (ha : a ∈ classesOf prefixes) (hb : b ∈ classesOf prefixes) (same : a.2.2 = b.2.2) :
  a = b := by
  obtain ⟨i, left, clsA⟩ := classesOf_toNat prefixes fits a ha
  obtain ⟨j, right, clsB⟩ := classesOf_toNat prefixes fits b hb
  have index : i = j := by rw [same] at clsA; omega
  subst index
  rw [left, Option.some.injEq, Prod.mk.injEq] at right
  exact Prod.ext right.1 (Prod.ext right.2 same)

lemma mem_targets_any (r : Parsed n) : fwClassAny ∈ targets (classesOf prefixes) r ↔ r.len = 0 := by
  unfold targets
  by_cases wide : r.len = 0
  · simp [wide]
  · rw [if_neg wide, iff_false_right wide]
    intro member
    obtain ⟨entry, inside, cls⟩ := mem_map.mp member
    exact classesOf_ne_any prefixes fits entry (mem_filter.mp inside).1 cls

lemma mem_targets_class (addr : Vector UInt8 n) (member : entry ∈ classesOf prefixes)
  (hit : BitsAgree entry.1.toList addr.toList entry.2.1)
  (longest : ∀ other ∈ classesOf prefixes, BitsAgree other.1.toList addr.toList other.2.1 -> other.2.1 <= entry.2.1)
  (r : Parsed n) (listed : 0 < r.len -> (r.peer, r.len) ∈ prefixes) :
  entry.2.2 ∈ targets (classesOf prefixes) r ↔ 0 < r.len /\ BitsAgree r.peer.toList addr.toList r.len := by
  unfold targets
  by_cases wide : r.len = 0
  · have any := classesOf_ne_any prefixes fits entry member
    simp [wide, any]
  · have narrow : 0 < r.len := by omega
    rw [if_neg wide]
    constructor
    · intro target
      obtain ⟨other, inside, cls⟩ := mem_map.mp target
      obtain ⟨source, within⟩ := mem_filter.mp inside
      have same := classesOf_unique prefixes fits other entry source member cls
      subst same
      rw [Bool.and_eq_true, decide_eq_true_eq, bitsMatch_iff (by simp)] at within
      exact ⟨narrow, within.2.symm.trans (hit.mono within.1)⟩
    · rintro ⟨_, agree⟩
      obtain ⟨i, found⟩ := getElem?_of_mem (listed narrow)
      have order := longest (r.peer, r.len, UInt32.ofNat i + 1) ((mem_classesOf prefixes _).mpr ⟨i, found, rfl⟩) agree
      refine mem_map.mpr ⟨entry, mem_filter.mpr ⟨member, ?_⟩, rfl⟩
      rw [Bool.and_eq_true, decide_eq_true_eq, bitsMatch_iff (by simp)]
      exact ⟨order, (hit.mono order).trans agree.symm⟩

end

lemma compileFamily_ok (rules : List (Parsed n)) (family : String) (tries : ScopeTries n)
  (ok : compileFamily rules family = .ok tries) :
  (peerPrefixes rules).length <= fwScopeMaxClasses /\ tries.classes = classesOf (peerPrefixes rules) /\
    ∀ t, t ∈ tries.policy ↔ ∃ e ∈ (((rules.zipIdx.foldl (addRule tries.classes) ∅ : Buckets).entries.map
        fun b => b.2).flatten), (e.plen, e.key, e.prec) = t := by
  simp only [compileFamily] at ok
  split at ok
  · simp at ok
  next small =>
    split at ok
    · simp at ok
    · rw [Except.ok.injEq] at ok
      subst ok
      refine ⟨by omega, rfl, fun t => ?_⟩
      rw [mem_insertionSort, mem_map]

def probeClass (policy : FwPolKey -> Option Nat) (proto : UInt8) (port : UInt8 × UInt8) : Option UInt32 -> Option Nat
  | some c => if c ≠ fwClassAny then policy { cls := c, proto, port } else none
  | none => none

def RuleHits (r : Parsed n) (peer : Vector UInt8 n) (proto : UInt8) (port : UInt8 × UInt8) : Prop :=
  BitsAgree r.peer.toList peer.toList r.len /\ SuffixHits r proto port

def hitPrecedences (rules : List (Parsed n)) (peer : Vector UInt8 n) (proto : UInt8) (port : UInt8 × UInt8) : Set Nat :=
  {p | ∃ r ∈ rules.zipIdx, RuleHits r.1 peer proto port /\ fwPrecedence r.2 r.1.allow = p}

lemma hitPrecedences_split (rules : List (Parsed n)) (peer : Vector UInt8 n) (proto : UInt8) (port : UInt8 × UInt8) :
  hitPrecedences rules peer proto port =
    {p | ∃ r ∈ rules.zipIdx, (0 < r.1.len /\ BitsAgree r.1.peer.toList peer.toList r.1.len) /\
      SuffixHits r.1 proto port /\ fwPrecedence r.2 r.1.allow = p} ∪
    {p | ∃ r ∈ rules.zipIdx, r.1.len = 0 /\ SuffixHits r.1 proto port /\
      fwPrecedence r.2 r.1.allow = p} := by
  ext p
  constructor
  · rintro ⟨r, member, ⟨agree, suffix⟩, prec⟩
    rcases Nat.eq_zero_or_pos r.1.len with wide | narrow
    · exact .inr ⟨r, member, wide, suffix, prec⟩
    · exact .inl ⟨r, member, ⟨narrow, agree⟩, suffix, prec⟩
  · rintro (⟨r, member, ⟨_, agree⟩, suffix, prec⟩ | ⟨r, member, wide, suffix, prec⟩)
    · exact ⟨r, member, ⟨agree, suffix⟩, prec⟩
    · exact ⟨r, member, ⟨fun i bound => by omega, suffix⟩, prec⟩

section

variable (rules : List (Parsed n)) (family : String) (tries : ScopeTries n)
  (ok : compileFamily rules family = .ok tries) (policy : FwPolKey -> Option Nat)
  (policyLookup : ∀ key, PolicyTrie tries.policy key (policy key))

include ok policyLookup

lemma probe_greatest (key : FwPolKey) :
  GreatestOf {p | ∃ r ∈ rules.zipIdx, key.cls ∈ targets (classesOf (peerPrefixes rules)) r.1 /\
    SuffixHits r.1 key.proto key.port /\ fwPrecedence r.2 r.1.allow = p} (policy key) := by
  obtain ⟨_, classes, members⟩ := compileFamily_ok rules family tries ok
  rw [classes] at members
  exact policyTrie_greatest _ rules.zipIdx tries.policy members key _ (policyLookup key)

variable (peer : Vector UInt8 n) (proto : UInt8) (port : UInt8 × UInt8) (cls : Option UInt32)

lemma probeAny_greatest :
  GreatestOf {p | ∃ r ∈ rules.zipIdx, r.1.len = 0 /\ SuffixHits r.1 proto port /\
    fwPrecedence r.2 r.1.allow = p}
    (policy { cls := fwClassAny, proto, port }) := by
  obtain ⟨fits, _, _⟩ := compileFamily_ok rules family tries ok
  have probe := probe_greatest rules family tries ok policy policyLookup { cls := fwClassAny, proto, port }
  simpa only [mem_targets_any _ fits] using probe

lemma probeClass_greatest (classLookup : ClassTrie tries.classes peer cls) :
  GreatestOf {p | ∃ r ∈ rules.zipIdx, (0 < r.1.len /\ BitsAgree r.1.peer.toList peer.toList r.1.len) /\
      SuffixHits r.1 proto port /\ fwPrecedence r.2 r.1.allow = p}
    (probeClass policy proto port cls) := by
  obtain ⟨fits, classes, _⟩ := compileFamily_ok rules family tries ok
  rw [classes] at classLookup
  have listed (r : Parsed n × Nat) (member : r ∈ rules.zipIdx) (narrow : 0 < r.1.len) :
    (r.1.peer, r.1.len) ∈ peerPrefixes rules :=
    mem_peerPrefixes rules r.1 (fst_mem_of_mem_zipIdx member) narrow
  cases cls with
  | none =>
    -- A matching narrow rule's own prefix would be a class that holds the address.
    apply Set.eq_empty_of_forall_notMem
    rintro p ⟨r, member, ⟨narrow, agree⟩, _⟩
    obtain ⟨i, found⟩ := getElem?_of_mem (listed r member narrow)
    exact classLookup (r.1.peer, r.1.len, UInt32.ofNat i + 1) ((mem_classesOf _ _).mpr ⟨i, found, rfl⟩) agree
  | some c =>
    obtain ⟨entry, inside, hit, rfl, longest⟩ := classLookup
    have any := classesOf_ne_any _ fits entry inside
    have probe := probe_greatest rules family tries ok policy policyLookup { cls := entry.2.2, proto, port }
    rw [probeClass, if_pos any]
    convert probe using 3 with p
    refine exists_congr fun r => and_congr_right fun member => ?_
    rw [mem_targets_class _ fits entry peer inside hit longest r.1 (listed r member)]

lemma compileFamily_greatest (classLookup : ClassTrie tries.classes peer cls) :
  GreatestOf (hitPrecedences rules peer proto port) (optionMax (probeClass policy proto port cls)
      (policy { cls := fwClassAny, proto, port })) := by
  rw [hitPrecedences_split]
  exact optionMax_greatestOf _ _ _ _
    (probeClass_greatest rules family tries ok policy policyLookup peer proto port cls classLookup)
    (probeAny_greatest rules family tries ok policy policyLookup proto port)

end

end Ectobase.Flowplane
