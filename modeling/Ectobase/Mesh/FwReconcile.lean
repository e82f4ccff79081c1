import Ectobase.Flowplane.FwHandlers
import Ectobase.Mesh.FirewallCompile

namespace Ectobase.Mesh

open Shared List

structure FwRule where
  srcCIDR : String
  dstCIDR : String
  proto : UInt32
  dstPortMin : UInt32
  dstPortMax : UInt32
  icmpType : Option UInt32
  icmpCode : Option UInt32
  allow : Bool
  egress : Bool
  deriving DecidableEq, Repr

structure FwRuleWithID where
  id : String
  rule : FwRule
  deriving DecidableEq, Repr

def FwRuleWithID.spec (r : FwRuleWithID) : Flowplane.FwRuleSpec where
  ruleId := r.id
  srcCidr := r.rule.srcCIDR
  dstCidr := r.rule.dstCIDR
  proto := r.rule.proto
  dstPortMin := r.rule.dstPortMin
  dstPortMax := r.rule.dstPortMax
  allow := r.rule.allow
  egress := r.rule.egress
  icmpType := r.rule.icmpType
  icmpCode := r.rule.icmpCode

def protoNum (s : String) (v6 : Bool) : UInt32 := if s = "TCP" \/ s = "tcp" then 6
  else if s = "UDP" \/ s = "udp" then 17
  else if s = "ICMP" \/ s = "icmp" then if v6 then 58 else 1
  else 0

def compiledToFw (cr : CompiledFwRule) (egress : Bool) : FwRule where
  srcCIDR := if egress then "" else cr.cidr
  dstCIDR := if egress then cr.cidr else ""
  proto := protoNum cr.proto (decide (':' ∈ cr.cidr.toList))
  dstPortMin := UInt32.ofInt cr.port
  dstPortMax := UInt32.ofInt (if cr.endPort > cr.port then cr.endPort else cr.port)
  icmpType := cr.icmpType.map UInt32.ofInt
  icmpCode := cr.icmpCode.map UInt32.ofInt
  allow := cr.action == "Allow"
  egress := egress

def firewallRules (fw : CompiledFirewall) : List FwRuleWithID := (fw.ingress.zipIdx.map fun (cr, idx) =>
    { id := "fw-in-" ++ toString idx, rule := compiledToFw cr false }) ++
  fw.egress.zipIdx.map fun (cr, idx) =>
    { id := "fw-eg-" ++ toString idx, rule := compiledToFw cr true }

end Ectobase.Mesh
