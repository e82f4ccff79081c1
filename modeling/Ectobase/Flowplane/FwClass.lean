import Ectobase.Flowplane.FwTypes
import Ectobase.Flowplane.Ports
import Mathlib.Data.List.AList
import Mathlib.Data.List.Destutter

namespace Ectobase.Flowplane

open Shared

structure ScopeTries (n : Nat) where
  classes : List (Vector UInt8 n × Nat × UInt32)
  policy : List (Nat × FwPolKey × Nat)
  deriving DecidableEq, Repr

structure Scope where
  id : UInt64
  v4 : ScopeTries 4
  v6 : ScopeTries 16
  deriving DecidableEq, Repr

inductive Selector where
  | any
  | ports (lo hi : UInt16)
  | icmp (type : UInt8) (code : Option UInt8)
  deriving DecidableEq, Repr

structure Parsed (n : Nat) where
  peer : Vector UInt8 n
  len : Nat
  proto : UInt8
  sel : Selector
  allow : Bool
  deriving DecidableEq, Repr

structure RuleView (n : Nat) where
  src : Vector UInt8 n
  srcMask : Vector UInt8 n
  dst : Vector UInt8 n
  dstMask : Vector UInt8 n
  sports : UInt16 × UInt16
  dports : UInt16 × UInt16
  icmp : UInt16 × UInt16
  proto : UInt8
  allow : Bool
  enabled : Bool

def countOnes (b : UInt8) : Nat :=
  (List.range 8).countP b.toNat.testBit

-- ones as u8 keeps every length of the two families.
def prefixLen {n : Nat} (mask : Vector UInt8 n) : Option Nat :=
  let ones := (mask.toList.map countOnes).sum
  let canonical := (List.finRange n).all fun i => mask.get i == maskByte (bitsInByte ones i)
  if canonical then some ones else none

def masked {n : Nat} (addr : Vector UInt8 n) (len : Nat) : Vector UInt8 n :=
  Vector.ofFn fun i => addr.get i &&& maskByte (bitsInByte len i)

def bitsMatch (a b : List UInt8) (len : Nat) : Bool :=
  let full := len / 8
  if a.take full ≠ b.take full then false
  else
    let rem := len % 8
    rem == 0 || (a.getD full 0 ^^^ b.getD full 0) &&& maskByte rem == 0

def parseSelector {n : Nat} (r : RuleView n) (icmpProto : UInt8) : Except FwError (Option Selector) :=
  if r.proto = 6 \/ r.proto = 17 then
    if r.dports.2 < r.dports.1 then .ok none
    else if r.dports = (0, 65535) then .ok (some .any)
    else .ok (some (.ports r.dports.1 r.dports.2))
  else if r.proto = icmpProto then
    let (t, c) := r.icmp
    if t = 0xffff /\ c = 0xffff then .ok (some .any)
    else if t = 0xffff then .error (.unsupported "an ICMP code without a type")
    else if 255 < t then .error (.unsupported "an ICMP type above 255")
    else if c = 0xffff then .ok (some (.icmp t.toUInt8 none))
    else if 255 < c then .error (.unsupported "an ICMP code above 255")
    else .ok (some (.icmp t.toUInt8 (some c.toUInt8)))
  else if r.proto = 0 /\ (r.dports ≠ (0, 65535) \/ r.icmp ≠ (0xffff, 0xffff)) then
    .error (.unsupported "ports or ICMP selectors on an any-protocol rule")
  else .ok (some .any)

def parsePeer {n : Nat} (r : RuleView n) (icmpProto : UInt8) (peer peerMask localMask : Vector UInt8 n) :
  Except FwError (Option (Parsed n)) :=
  if localMask.toList.any (· != 0) then
    .error (.unsupported "a rule matching the interface's own address")
  else if r.sports ≠ (0, 65535) then .error (.unsupported "a source-port restriction")
  else
    match prefixLen peerMask with
    | none => .error (.unsupported "a non-contiguous peer mask")
    | some len =>
      (parseSelector r icmpProto).map fun sel =>
        sel.map fun sel =>
          { peer := masked peer len
            len := len
            proto := r.proto
            sel := sel
            allow := r.allow }

-- ok none: the rule can never match.
def parse {n : Nat} (r : RuleView n) (dir icmpProto : UInt8) : Except FwError (Option (Parsed n)) :=
  if r.enabled = false then .ok none
  else if dir = fwDirEgress then parsePeer r icmpProto r.dst r.dstMask r.srcMask
  else parsePeer r icmpProto r.src r.srcMask r.dstMask

def view {n : Nat} (r : Rule n) : RuleView n where
  src := r.srcIp
  srcMask := r.srcMask
  dst := r.dstIp
  dstMask := r.dstMask
  sports := (r.srcPortMin, r.srcPortMax)
  dports := (r.dstPortMin, r.dstPortMax)
  icmp := (r.icmpType, r.icmpCode)
  proto := r.proto
  allow := r.action == fwActionAccept
  enabled := r.enabled != 0

def view4 (r : FwRule) : RuleView 4 := view r
def view6 (r : FwRule6) : RuleView 16 := view r

structure Entry where
  plen : Nat
  key : FwPolKey
  prec : Nat
  deriving DecidableEq, Repr

def toLeBytes (v : UInt32) : List UInt8 :=
  [v.toUInt8, (v >>> 8).toUInt8, (v >>> 16).toUInt8, (v >>> 24).toUInt8]

def FwPolKey.bytes (key : FwPolKey) : List UInt8 :=
  toLeBytes key.cls ++ [key.proto, key.port.1, key.port.2]

def Entry.bytes (e : Entry) : List UInt8 :=
  e.key.bytes

def Entry.covers (e other : Entry) : Bool :=
  decide (e.plen <= other.plen) && bitsMatch e.bytes other.bytes e.plen

def insert (entries : List Entry) (e : Entry) : List Entry :=
  if entries.any (fun x => decide (e.prec < x.prec) && x.covers e) then entries
  else entries.filter (fun x => !(decide (x.prec < e.prec) && e.covers x)) ++ [e]

def bytesLe : List UInt8 -> List UInt8 -> Bool
  | [], _ => true
  | _ :: _, [] => false
  | a :: as, b :: bs => decide (a < b) || (a == b && bytesLe as bs)

def prefixLe {n : Nat} (a b : Vector UInt8 n × Nat) : Prop :=
  a.2 < b.2 \/ (a.2 = b.2 /\ bytesLe a.1.toList b.1.toList = true)

instance {n : Nat} : DecidableRel (prefixLe (n := n)) :=
  fun _ _ => inferInstanceAs (Decidable (_ \/ _))

def policyLe (a b : Nat × FwPolKey × Nat) : Prop :=
  a.2.1.cls < b.2.1.cls \/ (a.2.1.cls = b.2.1.cls /\ (a.1 < b.1 \/ (a.1 = b.1 /\
          bytesLe [a.2.1.proto, a.2.1.port.1, a.2.1.port.2] [b.2.1.proto, b.2.1.port.1, b.2.1.port.2] = true)))

instance : DecidableRel policyLe :=
  fun _ _ => inferInstanceAs (Decidable (_ \/ _))

def peerPrefixes {n : Nat} (rules : List (Parsed n)) : List (Vector UInt8 n × Nat) :=
  (((rules.filter fun r => 0 < r.len).map fun r => (r.peer, r.len)).insertionSort prefixLe).destutter (· ≠ ·)

def classesOf {n : Nat} (prefixes : List (Vector UInt8 n × Nat)) : List (Vector UInt8 n × Nat × UInt32) :=
  prefixes.zipIdx.map fun ((a, l), i) => (a, l, UInt32.ofNat i + 1)

def targets {n : Nat} (classes : List (Vector UInt8 n × Nat × UInt32)) (r : Parsed n) : List UInt32 :=
  if r.len = 0 then [fwClassAny]
  else
    (classes.filter fun (a, l, _) =>
      decide (r.len <= l) && bitsMatch a.toList r.peer.toList r.len).map fun (_, _, c) => c

def suffixes {n : Nat} (r : Parsed n) : List (Nat × UInt8 × UInt8) :=
  if r.proto = 0 then [(fwPolPrefixClass, 0, 0)]
  else
    match r.sel with
    | .any => [(fwPolPrefixProto, 0, 0)]
    | .ports lo hi => (portPrefixes lo hi).map fun (v, bits) => (fwPolPrefixProto + bits, toBeBytes v)
    | .icmp t none => [(fwPolPrefixProto + 8, t, 0)]
    | .icmp t (some c) => [(fwPolPrefixProto + 16, t, c)]

abbrev Buckets := AList fun _ : UInt32 => List Entry

def Buckets.bucket (buckets : Buckets) (cls : UInt32) : List Entry :=
  (buckets.lookup cls).getD []

def ruleEntries {n : Nat} (rank : Nat) (r : Parsed n) (cls : UInt32) : List Entry :=
  (suffixes r).map fun (plen, port) =>
    { plen := plen
      key := { cls, proto := r.proto, port }
      prec := fwPrecedence rank r.allow }

def addRule {n : Nat} (classes : List (Vector UInt8 n × Nat × UInt32)) (buckets : Buckets)
  (ranked : Parsed n × Nat) : Buckets :=
  (targets classes ranked.1).foldl (fun buckets cls =>
      AList.insert cls ((ruleEntries ranked.2 ranked.1 cls).foldl insert (buckets.bucket cls)) buckets)
    buckets

def compileFamily {n : Nat} (rules : List (Parsed n)) (family : String) : Except FwError (ScopeTries n) :=
  let prefixes := peerPrefixes rules
  if fwScopeMaxClasses < prefixes.length then
    .error (.scopeTooLarge family "peer classes" prefixes.length)
  else
    let classes := classesOf prefixes
    let byClass : Buckets := rules.zipIdx.foldl (addRule classes) ∅
    -- The map yields its values in any order; the sort below fixes one.
    let policy := (((byClass.entries.map fun b => b.2).flatten.map fun e =>
      (e.plen, e.key, e.prec)).insertionSort policyLe)
    if fwScopeMaxEntries < policy.length then
      .error (.scopeTooLarge family "policy entries" policy.length)
    else .ok { classes, policy }

def feed (h : UInt64) (bytes : List UInt8) : UInt64 :=
  bytes.foldl (fun h b => (h ^^^ b.toUInt64) * 0x100000001b3) h

def feedTries {n : Nat} (h : UInt64) (t : ScopeTries n) : UInt64 :=
  let h := t.classes.foldl (fun h (a, l, c) => feed (feed (feed h a.toList) [UInt8.ofNat l]) (toLeBytes c)) h
  let h := feed h [0xff]
  t.policy.foldl (fun h (plen, k, prec) =>
      let h := feed h (toLeBytes (UInt32.ofNat plen))
      let h := feed h (toLeBytes k.cls)
      let h := feed h [k.proto, k.port.1, k.port.2]
      feed h (toLeBytes (UInt32.ofNat prec))) h

def scopeId (v4 : ScopeTries 4) (v6 : ScopeTries 16) : UInt64 :=
  let h := feedTries (feed 0xcbf29ce484222325 [4]) v4
  let h := feedTries (feed h [6]) v6
  if h = fwScopeNone then 1 else h

lemma scopeId_ne_none (v4 : ScopeTries 4) (v6 : ScopeTries 16) : scopeId v4 v6 ≠ fwScopeNone := by
  simp only [scopeId]
  split
  · decide
  · assumption

def parseAll {n : Nat} (icmpProto dir : UInt8) : List (Rule n) -> Except FwError (List (Parsed n))
  | [] => .ok []
  | r :: rest =>
    if r.direction = dir then do
      let parsed <- parse (view r) dir icmpProto
      let others <- parseAll icmpProto dir rest
      pure (parsed.toList ++ others)
    else parseAll icmpProto dir rest

def compileScope (dir : UInt8) (v4 : List FwRule) (v6 : List FwRule6) : Except FwError (Option Scope) := do
  let p4 <- parseAll 1 dir v4
  let p6 <- parseAll 58 dir v6
  if p4 = [] /\ p6 = [] then pure none
  else
    let v4 <- compileFamily p4 "IPv4"
    let v6 <- compileFamily p6 "IPv6"
    pure (some { id := scopeId v4 v6, v4, v6 })

lemma compileScope_ok (dir : UInt8) (v4 : List FwRule) (v6 : List FwRule6)
  (scope : Option Scope) (compiled : compileScope dir v4 v6 = .ok scope) :
  ∃ p4 p6, parseAll 1 dir v4 = .ok p4 /\ parseAll 58 dir v6 = .ok p6 /\ match scope with
    | none => p4 = [] /\ p6 = []
    | some scope => compileFamily p4 "IPv4" = .ok scope.v4 /\
        compileFamily p6 "IPv6" = .ok scope.v6 /\ scope.id = scopeId scope.v4 scope.v6 := by
  unfold compileScope at compiled
  cases parsed4 : parseAll 1 dir v4 with
  | error e => simp [parsed4, bind, Except.bind] at compiled
  | ok p4 =>
  cases parsed6 : parseAll 58 dir v6 with
  | error e => simp [parsed4, parsed6, bind, Except.bind] at compiled
  | ok p6 =>
  refine ⟨p4, p6, rfl, rfl, ?_⟩
  simp only [parsed4, parsed6, bind, Except.bind] at compiled
  split at compiled
  next empty =>
    simp only [pure, Except.pure, Except.ok.injEq] at compiled
    subst compiled
    exact empty
  · cases tries4 : compileFamily p4 "IPv4" with
    | error e => simp [tries4] at compiled
    | ok t4 =>
    cases tries6 : compileFamily p6 "IPv6" with
    | error e => simp [tries4, tries6] at compiled
    | ok t6 =>
    simp only [tries4, tries6, pure, Except.pure, Except.ok.injEq] at compiled
    subst compiled
    exact ⟨rfl, rfl, rfl⟩

end Ectobase.Flowplane
