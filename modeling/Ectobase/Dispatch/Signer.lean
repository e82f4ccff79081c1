import Ectobase.Dispatch.ClusterPool
import Ectobase.Shared.CidrRange
import Ectobase.Shared.Store
import Mathlib.Data.Finset.Dedup

namespace Ectobase.Dispatch

open Shared NetPrefix

structure Certificate (Key : Type) where
  issuer : String
  permittedDNSDomains : List String
  permittedIPRanges : List IPNet
  notAfter : Int
  publicKey : Key
  deriving DecidableEq

structure RouteBusIdentity (Key : Type) where
  name : String
  poolName : String
  request : String
  permittedUnderlayCIDRs : List String
  certificate : Option (Certificate Key)
  caBundle : String
  conditions : List Condition
  deriving DecidableEq

structure X509 (Key : Type) where
  pemDecode : String -> Option (String × String)
  parseRequest : String -> Except String Key
  checkSignature : String -> Option String
  createError : Certificate Key -> Option String

structure RootCA where
  pem : String
  deriving DecidableEq, Repr

structure Signer (Key : Type) where
  x509 : X509 Key
  root : Option RootCA
  serverIPs : List Addr
  fleetIdentities : List String

def dnsSuffix : String := "routebus.ectobase.dev"

def poolDNSDomain (pool : String) : String := pool ++ "." ++ dnsSuffix

def intermediateTTL : Int := 90 * 24 * 3600 * 1000000000

def deniedRecheck : Int := 10 * 60 * 1000000000

def canonical (p : NetPrefix) : NetPrefix :=
  if p.addr.is4In6 then masked { addr := p.addr.unmap, bits := p.bits - 96 } else p.masked

def canonicalCIDRs (cidrs : List String) : List String := cidrs.map fun c =>
  match parse c with
  | some p => (canonical p).text
  | none => c

def prefixWithin (inner outer : NetPrefix) : Bool :=
  inner.addr.isV4 == outer.addr.isV4 && decide (outer.bits <= inner.bits) && outer.contains inner.addr

def listText (l : List String) : String := "[" ++ " ".intercalate l ++ "]"

def readRanges : List String -> Except String (List IPNet)
  | [] => .ok []
  | c :: rest =>
    match parseCIDR c with
    | none => .error ("bad underlay CIDR " ++ c.quote ++ ": invalid CIDR address: " ++ c)
    | some net => (readRanges rest).map fun nets => net :: nets

section

variable {Key : Type}

def signIntermediate (x509 : X509 Key) (root : RootCA) (csr poolName : String)
  (permittedCIDRs : List String) (notAfter : Int) : Except String (Certificate Key) :=
  if permittedCIDRs = [] then
    .error "no permitted underlay CIDRs: an intermediate is only signed with an IP constraint"
  else
    match x509.pemDecode csr with
    | none => .error "spec.request is not a PEM CERTIFICATE REQUEST"
    | some (type, bytes) =>
      if type ≠ "CERTIFICATE REQUEST" then .error "spec.request is not a PEM CERTIFICATE REQUEST"
      else
        match x509.parseRequest bytes with
        | .error e => .error ("parse CSR: " ++ e)
        | .ok publicKey =>
          match x509.checkSignature bytes with
          | some e => .error ("CSR self-signature invalid: " ++ e)
          | none =>
            match readRanges permittedCIDRs with
            | .error e => .error e
            | .ok permittedIPRanges =>
              let cert : Certificate Key :=
                { issuer := root.pem, permittedDNSDomains := [poolDNSDomain poolName],
                  permittedIPRanges, notAfter, publicKey }
              match x509.createError cert with
              | some e => .error ("sign intermediate: " ++ e)
              | none => .ok cert

def rangeTexts (prefixes : List (Option NetPrefix)) : Option (Finset String) :=
  (prefixes.mapM id).map fun ps => (ps.map fun p => (canonical p).text).toFinset

def sameRanges (got : List IPNet) (want : List String) : Bool :=
  match rangeTexts (got.map IPNet.asPrefix), rangeTexts (want.map parse) with
  | some g, some w => g == w
  | _, _ => false

variable [DecidableEq Key]

def alreadySigned (x509 : X509 Key) (root : RootCA) (now : Int) (id : RouteBusIdentity Key)
  (permitted : List String) : Bool :=
  match id.certificate with
  | none => false
  | some cert =>
    if cert.notAfter - now < intermediateTTL / 2 then false
    else if cert.issuer ≠ root.pem then false
    else if cert.permittedDNSDomains ≠ [poolDNSDomain id.poolName] then false
    else if sameRanges cert.permittedIPRanges permitted = false then false
    else
      match x509.pemDecode id.request with
      | none => false
      | some (_, bytes) =>
        match x509.parseRequest bytes with
        | .error _ => false
        | .ok publicKey => decide (cert.publicKey = publicKey)

end

structure Registry (Key : Type) where
  now : Int
  pools : Store ClusterPool.name
  identities : Store (@RouteBusIdentity.name Key)

section

variable {Key : Type} (s : Signer Key) (w : Registry Key)

def Certificate.live (root : RootCA) (now : Int) (cert : Certificate Key) : Bool :=
  decide (cert.issuer = root.pem) && !decide (now > cert.notAfter)

def Certificate.reaches (cert : Certificate Key) (pfx : NetPrefix) : Bool :=
  cert.permittedIPRanges.any fun r =>
    match r.asPrefix with
    | none => false
    | some q => (canonical q).overlaps pfx

def holdsOverlap (root : RootCA) (name : String) (pfx : NetPrefix) : Bool :=
  match w.identities.find name with
  | none => false
  | some id =>
    match id.certificate with
    | none => false
    | some cert => cert.live root w.now && cert.reaches pfx

def enrolledBefore (a b : ClusterPool) : Bool := if a.creationTimestamp ≠ b.creationTimestamp then
  decide (a.creationTimestamp < b.creationTimestamp)
  else decide (a.name < b.name)

def overlapsPool (root : RootCA) (pool : ClusterPool) (pfx : NetPrefix) (other : ClusterPool) : Option String :=
  match parse other.underlayPrefix with
  | none => none
  | some op =>
    if other.name = pool.name \/ (canonical op).overlaps pfx = false then none
    else
      let theirs := holdsOverlap w root other.name pfx
      let ours := holdsOverlap w root pool.name (canonical op)
      let head := "ClusterPool " ++ pool.name ++ " spec.underlayPrefix " ++ pfx.text ++
        " overlaps ClusterPool " ++ other.name ++ "'s " ++ other.underlayPrefix
      if theirs && !ours then some (head ++ ", which already holds a certificate for it")
      else if ours && !theirs then none
      else if enrolledBefore other pool then some (head ++ ", enrolled earlier")
      else none

def overlapsFleet (pool : ClusterPool) (pfx : NetPrefix) (name : String) : Option String :=
  match w.identities.find name with
  | none => none
  | some fleet => fleet.permittedUnderlayCIDRs.findSome? fun c =>
    match parse c with
    | none => none
    | some p =>
      if (canonical p).overlaps pfx then
        some ("ClusterPool " ++ pool.name ++ " spec.underlayPrefix " ++ pfx.text ++
          " overlaps fleet identity " ++ name ++ "'s " ++ c)
      else none

def overlap (root : RootCA) (pool : ClusterPool) (pfx : NetPrefix) : Option String :=
  match w.pools.items.findSome? (overlapsPool w root pool pfx) with
  | some denial => some denial
  | none => s.fleetIdentities.findSome? (overlapsFleet w pool pfx)

def ranges (root : RootCA) (id : RouteBusIdentity Key) : Except String (List String × String) :=
  match w.pools.find id.poolName with
  | some pool =>
    if id.name ∈ s.fleetIdentities then
      .error ("RouteBusIdentity " ++ id.name ++ " is both a fleet identity and a ClusterPool " ++
        "(--routebus-fleet-identities names it); rename one of them")
    else if pool.underlayPrefix = "" then
      .error ("ClusterPool " ++ pool.name ++ " has no spec.underlayPrefix; a pool intermediate is " ++
        "only signed with an operator-declared IP constraint")
    else
      let errs := validateUnderlayPrefix "spec.underlayPrefix" pool.underlayPrefix
      if errs ≠ [] then .error ("ClusterPool " ++ pool.name ++ ": " ++ aggregateText errs)
      else
        match parse pool.underlayPrefix with
        | none =>
          .error ("ClusterPool " ++ pool.name ++ " spec.underlayPrefix " ++ pool.underlayPrefix.quote ++ " is not a CIDR")
        | some parsed =>
          let pfx := canonical parsed
          match overlap s w root pool pfx with
          | some denial => .error denial
          | none =>
            let outside := id.permittedUnderlayCIDRs.filter fun c =>
              match parse c with
              | none => true
              | some p => !prefixWithin p pfx
            .ok ([pfx.text], if outside = [] then ""
              else "ignored spec.permittedUnderlayCIDRs " ++ listText outside ++
                " outside ClusterPool " ++ pool.name ++ " spec.underlayPrefix " ++ pfx.text)
  | none =>
    if id.name ∈ s.fleetIdentities then
      if id.permittedUnderlayCIDRs = [] then
        .error ("fleet identity " ++ id.name ++ " has no spec.permittedUnderlayCIDRs; " ++
          "an intermediate is only signed with an IP constraint")
      else .ok (canonicalCIDRs id.permittedUnderlayCIDRs, "")
    else
      .error ("no ClusterPool " ++ id.poolName ++ " and not a fleet identity " ++
        "(--routebus-fleet-identities); a pool intermediate is only signed for an enrolled " ++
        "ClusterPool")

def coversServer (name : String) (permitted : List String) : Option String :=
  permitted.findSome? fun c =>
    match parse c with
    | none => none
    | some p => (s.serverIPs.find? fun ip => p.contains ip.unmap).map fun ip =>
      "RouteBusIdentity " ++ name ++ " would be permitted " ++ c ++
        ", which covers the dispatch server address " ++ ip.text ++ " (--routebus-server-ips)"

def constraint (root : RootCA) (id : RouteBusIdentity Key) : Except String (List String × String) :=
  match ranges s w root id with
  | .error denial => .error denial
  | .ok (permitted, note) =>
    match coversServer s id.name permitted with
    | some denial => .error denial
    | none => .ok (permitted, note)

def signedCondition (status : ConditionStatus) (reason message : String) : Condition where
  type := "Signed"
  status := status
  reason := reason
  message := message
  observedGeneration := 0

def setDenied (id : RouteBusIdentity Key) (message : String) : RouteBusIdentity Key := { id with
  certificate := none
  conditions := (setStatusCondition id.conditions (signedCondition .isFalse "Denied" message)).1 }

structure SignerResult (Key : Type) where
  identity : RouteBusIdentity Key
  requeueAfter : Int
  poolMark : Option String

variable [DecidableEq Key]

def reconcileIntermediate (id : RouteBusIdentity Key) : SignerResult Key := match s.root with
  | none => { identity := id, requeueAfter := 0, poolMark := none }
  | some root =>
    if id.poolName = "" \/ id.request = "" then
      { identity := setDenied id "spec.poolName and spec.request are required",
        requeueAfter := 0, poolMark := none }
    else if id.poolName ≠ id.name then
      let denial := "spec.poolName " ++ id.poolName.quote ++
        " must equal the RouteBusIdentity name " ++ id.name.quote
      { identity := setDenied id denial, requeueAfter := 0, poolMark := some denial }
    else
      match constraint s w root id with
      | .error denial =>
        { identity := setDenied id denial, requeueAfter := deniedRecheck, poolMark := some denial }
      | .ok (permitted, note) =>
        if alreadySigned s.x509 root w.now id permitted then
          { identity := id, requeueAfter := intermediateTTL / 3, poolMark := some "" }
        else
          match signIntermediate s.x509 root id.request id.poolName permitted
            (w.now + intermediateTTL) with
          | .error e => { identity := setDenied id e, requeueAfter := 0, poolMark := some e }
          | .ok cert =>
            let message := "intermediate CA signed for pool " ++ id.poolName ++
              ", IP-constrained to " ++ ",".intercalate permitted ++
              (if note = "" then "" else "; " ++ note)
            { identity := { id with
                certificate := some cert
                caBundle := root.pem
                conditions := (setStatusCondition id.conditions
                  (signedCondition .isTrue "Issued" message)).1 }
              requeueAfter := intermediateTTL / 3
              poolMark := some "" }

def conditionRouteBusIdentityDenied : String := "RouteBusIdentityDenied"

def markPool (pool : ClusterPool) (message : String) : ClusterPool :=
  let record (status : ConditionStatus) (reason message : String) : ClusterPool := { pool with
      status := { pool.status with
        conditions := (setStatusCondition pool.status.conditions
          { type := conditionRouteBusIdentityDenied, status, reason, message,
            observedGeneration := pool.generation }).1 } }
  if message ≠ "" then record .isTrue "Denied" message
  else if pool.status.conditions.any fun c => c.type == conditionRouteBusIdentityDenied then
    record .isFalse "Signed" "the pool's intermediate is signed"
  else pool

end

end Ectobase.Dispatch
