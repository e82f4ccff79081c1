import Ectobase.Flowplane.FwStore
import Ectobase.Flowplane.NatHandlers
import Ectobase.Shared.NetPrefix

namespace Ectobase.Flowplane

open Shared

structure FwRuleSpec where
  ruleId : String
  srcCidr : String
  dstCidr : String
  proto : UInt32
  dstPortMin : UInt32
  dstPortMax : UInt32
  allow : Bool
  egress : Bool
  icmpType : Option UInt32
  icmpCode : Option UInt32
  deriving DecidableEq, Repr

def stripPlus : List Char -> List Char
  | '+' :: rest => rest
  | s => s

-- A plus sign and leading zeros are read over, as in str::parse::<u32>.
def parseU32 (s : List Char) : Except String Nat := let digits := stripPlus s
  if s = [] then .error "cannot parse integer from empty string"
  else if digits = [] then .error "invalid digit found in string"
  else
    match parseDecimal digits with
    | none => .error "invalid digit found in string"
    | some n =>
      if n < 2 ^ 32 then .ok n else .error "number too large to fit in target type"

def octets (n : Nat) (bytes : List UInt8) : Vector UInt8 n := Vector.ofFn fun i => bytes.getD i 0

-- std::net reads the texts net/netip reads, a zone apart.
def ipv4Addr (s : List Char) : Option (Vector UInt8 4) := (parseIPv4Fields s).map (octets 4)
def ipv6Addr (s : List Char) : Option (Vector UInt8 16) := (parseIPv6 s).map (octets 16)

def beBytes (n : Nat) (word : BitVec (8 * n)) : Vector UInt8 n :=
  Vector.ofFn fun i => ⟨word.extractLsb' (8 * (n - 1 - i)) 8⟩

def prefixMask (n len : Nat) : Vector UInt8 n :=
  beBytes n (if len = 0 then 0 else BitVec.allOnes (8 * n) <<< (8 * n - len))

inductive FwCidr where
  | v4 (ip mask : Vector UInt8 4)
  | v6 (ip mask : Vector UInt8 16)
  deriving DecidableEq, Repr

def FwCidr.isV6 : FwCidr -> Bool
  | .v4 .. => false
  | .v6 .. => true

def splitOnce (c : Char) (s : List Char) : List Char × Option (List Char) := match splitAtChar c s with
  | first :: second :: rest => (first, some ([c].intercalate (second :: rest)))
  | _ => (s, none)

def cidrLen (family : String) (whole : Nat) (cidr : String) (text : Option (List Char)) : Except String Nat := do
  let len <- match text with
    | none => pure whole
    | some digits => parseU32 digits
  if whole < len then
    .error (family ++ " prefix len " ++ toString len ++ " > " ++ toString whole ++ " in " ++ cidr.quote)
  else pure len

def parseFwCidr (cidr : String) : Except String FwCidr :=
  -- Nothing stands for any address; a rule whose other side is IPv6 takes it in that family.
  if cidr = "" then .ok (.v4 (Vector.replicate 4 0) (Vector.replicate 4 0))
  else
    let (addr, lenStr) := splitOnce '/' cidr.toList
    match ipv4Addr addr with
    | some v4 => do
      let len <- cidrLen "v4" 32 cidr lenStr
      pure (.v4 v4 (prefixMask 4 len))
    | none =>
      match ipv6Addr addr with
      | none => .error ("bad ip address in " ++ cidr.quote)
      | some v6 => do
        let len <- cidrLen "v6" 128 cidr lenStr
        pure (.v6 v6 (prefixMask 16 len))

def invalid {α : Type} (read : Except String α) : Except ServiceError α := read.mapError .invalid

def icmpOctet (what : String) (v : UInt32) : Except ServiceError UInt16 :=
  if v.toNat <= 255 then .ok v.toUInt16
  else .error (.invalid ("ICMP " ++ what ++ " " ++ toString v.toNat ++ " > 255"))

def parseIcmpSelectors (spec : FwRuleSpec) : Except ServiceError (UInt16 × UInt16) :=
  if spec.icmpType = none /\ spec.icmpCode = none then .ok (0xffff, 0xffff)
  else if spec.proto ≠ 1 /\ spec.proto ≠ 58 then
    .error (.invalid ("ICMP type/code on a proto " ++ toString spec.proto.toNat ++ " rule (needs 1 or 58)"))
  else
    match spec.icmpType with
    | none => .error (.invalid "ICMP code without an ICMP type")
    | some t => do
      let icmpType <- icmpOctet "type" t
      let icmpCode <- match spec.icmpCode with
        | some c => icmpOctet "code" c
        | none => pure 0xffff
      pure (icmpType, icmpCode)

inductive ParsedFwRule where
  | v4 (rule : FwRule)
  | v6 (rule : FwRule6)
  deriving DecidableEq, Repr

def fwRuleOf {n : Nat} (src dst : Vector UInt8 n × Vector UInt8 n) (ports : UInt16 × UInt16)
  (icmp : UInt16 × UInt16) (proto : UInt8) (allow egress : Bool) : Rule n where
  srcIp := src.1
  srcMask := src.2
  dstIp := dst.1
  dstMask := dst.2
  srcPortMin := 0
  srcPortMax := 65535
  dstPortMin := ports.1
  dstPortMax := ports.2
  icmpType := icmp.1
  icmpCode := icmp.2
  proto := proto
  action := if allow then fwActionAccept else fwActionDrop
  direction := if egress then fwDirEgress else fwDirIngress
  enabled := 1

def FwCidr.asV6 : FwCidr -> Vector UInt8 16 × Vector UInt8 16
  | .v6 ip mask => (ip, mask)
  | .v4 .. => (Vector.replicate 16 0, Vector.replicate 16 0)

def protoU8 (proto : UInt32) : Except ServiceError UInt8 :=
  if proto.toNat <= 255 then .ok proto.toUInt8 else .error (.invalid "proto > 255")

def dstPorts (spec : FwRuleSpec) : Except ServiceError (UInt16 × UInt16) := do
  let dstPortMin <- portU16 spec.dstPortMin
  let dstPortMax <- portU16 (if spec.dstPortMax = 0 then 65535 else spec.dstPortMax)
  if dstPortMax < dstPortMin then
    .error (.invalid ("dst port range " ++ toString dstPortMin.toNat ++ "-" ++ toString dstPortMax.toNat ++ " is inverted"))
  else pure (dstPortMin, dstPortMax)

def ParsedFwRule.of (src dst : FwCidr) (ports icmp : UInt16 × UInt16) (proto : UInt8) (allow egress : Bool) : ParsedFwRule :=
  match src, dst with
  | .v4 srcIp srcMask, .v4 dstIp dstMask =>
    .v4 (fwRuleOf (srcIp, srcMask) (dstIp, dstMask) ports icmp proto allow egress)
  | _, _ => .v6 (fwRuleOf src.asV6 dst.asV6 ports icmp proto allow egress)

def parseFwRule (spec : FwRuleSpec) : Except ServiceError ParsedFwRule := do
  let src <- invalid (parseFwCidr spec.srcCidr)
  let dst <- invalid (parseFwCidr spec.dstCidr)
  let proto <- protoU8 spec.proto
  let ports <- dstPorts spec
  let icmp <- parseIcmpSelectors spec
  -- Only two blocks that are both written out can disagree.
  if spec.srcCidr ≠ "" /\ spec.dstCidr ≠ "" /\ src.isV6 ≠ dst.isV6 then
    .error (.invalid "firewall rule src and dst must be the same address family")
  else pure (.of src dst ports icmp proto spec.allow spec.egress)

def splitFamilies : List FwRuleSpec -> Except ServiceError (List (List UInt8 × FwRule) × List (List UInt8 × FwRule6))
  | [] => .ok ([], [])
  | spec :: rest => do
    let id := spec.ruleId.toUTF8.toList
    let parsed <- parseFwRule spec
    let (v4, v6) <- splitFamilies rest
    match parsed with
    | .v4 rule => pure ((id, rule) :: v4, v6)
    | .v6 rule => pure (v4, (id, rule) :: v6)

end Ectobase.Flowplane
