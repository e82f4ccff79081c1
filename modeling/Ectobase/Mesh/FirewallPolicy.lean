import Ectobase.Shared.NetPrefix

namespace Ectobase.Mesh

open Shared

structure FirewallPolicyRule where
  cidr : String
  proto : String
  port : Int
  endPort : Option Int
  icmpType : Option Int
  icmpCode : Option Int
  action : String
  priority : Option Int
  deriving DecidableEq, Repr

structure FirewallPolicy (Selector : Type) where
  ns : String
  name : String
  interfaceSelector : Option Selector
  priority : Option Int
  ingress : List FirewallPolicyRule
  egress : List FirewallPolicyRule

inductive FieldError where
  | required (path detail : String)
  | invalid (path value detail : String)
  | notSupported (path value : String) (valid : List String)
  deriving DecidableEq, Repr

structure LabelSelectors (Selector Labels : Type) where
  validate : Selector -> String -> List FieldError
  asSelector : Selector -> Option (Labels -> Bool)

def firewallPriorityMin : Int := 0
def firewallPriorityMax : Int := 65535
def firewallPriorityDefault : Int := 32768

def validateFirewallPriority (p : Option Int) (path : String) : List FieldError := match p with
  | none => []
  | some v =>
    if v < firewallPriorityMin \/ v > firewallPriorityMax then
      [.invalid path (toString v) "must be between 0 and 65535 (lower wins)"]
    else []

section

variable (r : FirewallPolicyRule) (path : String)

def validateCIDR : List FieldError :=
  if r.cidr = "" then [.required (path ++ ".cidr") "use 0.0.0.0/0 or ::/0 to match any address"]
  else
    match NetPrefix.parse r.cidr with
    | none => [.invalid (path ++ ".cidr") r.cidr "not a CIDR (address/length)"]
    | some p =>
      -- A rule such as 10.0.0.5/24 may mean the whole block or be a slip for the one host.
      if p.masked ≠ p then
        [.invalid (path ++ ".cidr") r.cidr ("host bits are set; use " ++ p.masked.text ++ " or a longer prefix")]
      else []

def validateAction : List FieldError := if r.action = "Allow" \/ r.action = "Deny" then []
  else if r.action = "" then [.required (path ++ ".action") "Allow or Deny"]
  else [.notSupported (path ++ ".action") r.action ["Allow", "Deny"]]

def protoOK : Bool := decide (r.proto ∈ ["", "TCP", "UDP", "ICMP"])

def validateProto : List FieldError :=
  if protoOK r then [] else [.notSupported (path ++ ".proto") r.proto ["TCP", "UDP", "ICMP"]]

def validatePort : List FieldError := if r.port < 0 \/ r.port > 65535 then
  [.invalid (path ++ ".port") (toString r.port) "must be between 0 (any) and 65535"]
  else if r.port ≠ 0 /\ protoOK r /\ r.proto ≠ "TCP" /\ r.proto ≠ "UDP" then
    [.invalid (path ++ ".port") (toString r.port) "a port requires proto TCP or UDP"]
  else []

def validateEndPort : List FieldError := match r.endPort with
  | none => []
  | some endPort =>
    let bad (detail : String) : List FieldError :=
      [.invalid (path ++ ".endPort") (toString endPort) detail]
    if endPort < 1 \/ endPort > 65535 then bad "must be between 1 and 65535"
    else if r.port = 0 then bad "a range needs its start in port"
    else if endPort < r.port then bad "must not be below port"
    else []

def validateICMPType : List FieldError := match r.icmpType with
  | none => []
  | some t =>
    let bad (detail : String) : List FieldError := [.invalid (path ++ ".icmpType") (toString t) detail]
    if t < 0 \/ t > 255 then bad "must be between 0 and 255"
    else if protoOK r /\ r.proto ≠ "ICMP" then bad "an ICMP type requires proto ICMP"
    else []

def validateICMPCode : List FieldError := match r.icmpCode with
  | none => []
  | some c =>
    let bad (detail : String) : List FieldError := [.invalid (path ++ ".icmpCode") (toString c) detail]
    if c < 0 \/ c > 255 then bad "must be between 0 and 255"
    else if r.icmpType = none then bad "an ICMP code requires icmpType"
    else []

def validateFirewallRule : List FieldError :=
  validateCIDR r path ++ validateAction r path ++ validateProto r path ++ validatePort r path ++
    validateEndPort r path ++ validateICMPType r path ++ validateICMPCode r path ++
    validateFirewallPriority r.priority (path ++ ".priority")

end

def FirewallPolicy.validate {Selector Labels : Type} (selectors : LabelSelectors Selector Labels)
  (o : FirewallPolicy Selector) : List FieldError :=
  let selector := match o.interfaceSelector with
    | none =>
      [.required "spec.interfaceSelector"
        "select the interfaces this policy applies to (\x7b\x7d selects all in the namespace)"]
    | some sel => selectors.validate sel "spec.interfaceSelector"
  let rules (field : String) (rules : List FirewallPolicyRule) : List FieldError :=
    rules.zipIdx.flatMap fun (r, i) =>
      validateFirewallRule r ("spec." ++ field ++ "[" ++ toString i ++ "]")
  selector ++ validateFirewallPriority o.priority "spec.priority" ++ rules "ingress" o.ingress ++ rules "egress" o.egress

structure FirewallPolicyRule.Admitted (r : FirewallPolicyRule) : Prop where
  cidr : ∃ p, NetPrefix.parse r.cidr = some p
  action : r.action = "Allow" \/ r.action = "Deny"
  proto : r.proto ∈ ["", "TCP", "UDP", "ICMP"]
  port : 0 <= r.port /\ r.port <= 65535
  endPort : ∀ e ∈ r.endPort, r.port ≠ 0 /\ r.port <= e /\ e <= 65535
  icmpCode : ∀ c ∈ r.icmpCode, r.icmpType ≠ none
  priority : ∀ v ∈ r.priority, v <= firewallPriorityMax

lemma admitted_of_validate {r : FirewallPolicyRule} {path : String}
  (valid : validateFirewallRule r path = []) : r.Admitted := by
  simp only [validateFirewallRule, List.append_eq_nil_iff] at valid
  obtain ⟨⟨⟨⟨⟨⟨⟨cidr, action⟩, proto⟩, port⟩, endPort⟩, -⟩, icmpCode⟩, priority⟩ := valid
  constructor
  case cidr =>
    cases read : NetPrefix.parse r.cidr with
    | none =>
      simp only [validateCIDR, read] at cidr
      split_ifs at cidr
    | some p => exact ⟨p, rfl⟩
  case action =>
    unfold validateAction at action
    split at action
    next named => exact named
    · split at action <;> cases action
  case proto =>
    unfold validateProto at proto
    split at proto
    next ok => simpa [protoOK] using ok
    · cases proto
  case port =>
    unfold validatePort at port
    split at port
    · cases port
    next within => omega
  case endPort =>
    intro e set
    simp only [validateEndPort, Option.mem_def.mp set] at endPort
    split_ifs at endPort with range any below
    exact ⟨any, by omega, by omega⟩
  case icmpCode =>
    intro c set
    simp only [validateICMPCode, Option.mem_def.mp set] at icmpCode
    split_ifs at icmpCode with range untyped
    exact untyped
  case priority =>
    intro v set
    simp only [validateFirewallPriority, Option.mem_def.mp set] at priority
    split_ifs at priority with range
    omega

inductive Payload where
  | tcp (port : UInt16)
  | udp (port : UInt16)
  | icmp (type code : UInt8)
  | other
  deriving DecidableEq, Repr

structure Packet where
  peer : Addr
  payload : Payload
  deriving DecidableEq, Repr

def inCIDR (cidr : String) (a : Addr) : Bool :=
  ((NetPrefix.parse cidr).map fun p => p.contains a).getD false

def optMatches (sel : Option Int) (v : UInt8) : Bool := match sel with
  | none => true
  | some x => decide (x = v.toNat)

def selected (proto : String) (ports : UInt16 -> Bool) (icmpType icmpCode : Option Int) (payload : Payload) : Bool :=
  if proto = "" then true
  else
    match payload with
    | .tcp port => decide (proto = "TCP") && ports port
    | .udp port => decide (proto = "UDP") && ports port
    | .icmp type code =>
      decide (proto = "ICMP") && optMatches icmpType type && optMatches icmpCode code
    | .other => false

def FirewallPolicyRule.hits (r : FirewallPolicyRule) (p : Packet) : Bool :=
  let ports (port : UInt16) : Bool :=
    decide (r.port = 0) || decide (r.port <= port.toNat /\ port.toNat <= r.endPort.getD r.port)
  inCIDR r.cidr p.peer && selected r.proto ports r.icmpType r.icmpCode p.payload

end Ectobase.Mesh
