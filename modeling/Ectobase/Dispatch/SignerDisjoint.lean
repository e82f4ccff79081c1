import Ectobase.Dispatch.Signer
import Ectobase.Shared.Runs
import Mathlib

namespace Ectobase.Dispatch

open Shared List Store NetPrefix

-- A reconcile may fail to store the identity's status, and then to mark its pool.
inductive Filing where
  | tick (elapsed : Nat)
  | putPool (pool : ClusterPool)
  | deletePool (name : String)
  | putIdentity (name poolName request : String) (permittedUnderlayCIDRs : List String)
  | deleteIdentity (name : String)
  | reconcile (name : String) (stored marked : Bool)

section

variable {Key : Type} [DecidableEq Key] (s : Signer Key)

def withSpec (old : Option (RouteBusIdentity Key)) (name poolName request : String)
  (permittedUnderlayCIDRs : List String) : RouteBusIdentity Key :=
  match old with
  | some id => { id with name, poolName, request, permittedUnderlayCIDRs }
  | none =>
    { name, poolName, request, permittedUnderlayCIDRs, certificate := none, caBundle := "",
      conditions := [] }

def markedPools (pools : Store ClusterPool.name) (name : String) (mark : Option String) : Store ClusterPool.name :=
  match mark, pools.find name with
  | some message, some pool => pools.put (markPool pool message)
  | _, _ => pools

def Registry.step (w : Registry Key) : Filing -> Registry Key
  | .tick elapsed => { w with now := w.now + elapsed }
  | .putPool pool => { w with pools := w.pools.put pool }
  | .deletePool name => { w with pools := w.pools.remove name }
  | .putIdentity name poolName request cidrs =>
    { w with
      identities := w.identities.put
        (withSpec (w.identities.find name) name poolName request cidrs) }
  | .deleteIdentity name => { w with identities := w.identities.remove name }
  | .reconcile name stored marked =>
    match w.identities.find name with
    | none => w
    | some id =>
      let out := reconcileIntermediate s w id
      if stored then
        { w with
          identities := w.identities.put out.identity
          pools := if marked then markedPools w.pools name out.poolMark else w.pools }
      else w

def Certificate.Overlaps (a b : Certificate Key) : Prop :=
  ∃ r ∈ a.permittedIPRanges, ∃ r' ∈ b.permittedIPRanges, ∃ p q, r.asPrefix = some p /\ r'.asPrefix = some q /\
    ∃ addr, (canonical p).contains addr = true /\ (canonical q).contains addr = true

def DisjointSigning (root : RootCA) (w : Registry Key) : Prop :=
  ∀ a ∈ w.identities.items, ∀ b ∈ w.identities.items, a.name ≠ b.name ->
    ∀ ca ∈ a.certificate, ∀ cb ∈ b.certificate, ca.live root w.now = true -> cb.live root w.now = true -> ¬ ca.Overlaps cb

-- The look at other pools and fleet identities finds the holder, and lets it win.
def Seen (root : RootCA) (w : Registry Key) (pool : ClusterPool) (pfx : NetPrefix) (holder : RouteBusIdentity Key) : Prop :=
  (∃ other ∈ w.pools.find holder.name, ∃ op ∈ parse other.underlayPrefix, (canonical op).overlaps pfx = true /\
      (holdsOverlap w root pool.name (canonical op) = true -> enrolledBefore other pool = true)) \/
    (holder.name ∈ s.fleetIdentities /\ ∃ c ∈ holder.permittedUnderlayCIDRs, ∃ p ∈ parse c, (canonical p).overlaps pfx = true)

-- A fleet identity is checked against nothing: for it there must be no holder.
def HoldersSeen (root : RootCA) (w : Registry Key) (id : RouteBusIdentity Key) : Prop :=
  ∀ holder ∈ w.identities.items, holder.name ≠ id.name -> ∀ cert ∈ holder.certificate,
    cert.live root w.now = true -> if id.name ∈ s.fleetIdentities then
        ∀ nets ∈ (readRanges (canonicalCIDRs id.permittedUnderlayCIDRs)).toOption,
          ∀ r ∈ nets, ∀ p ∈ r.asPrefix, cert.reaches (canonical p) = false
      else
        ∀ pool ∈ w.pools.find id.name, ∀ p ∈ parse pool.underlayPrefix,
          cert.reaches (canonical p) = true -> Seen s root w pool (canonical p) holder

instance (root : RootCA) (w : Registry Key) (id : RouteBusIdentity Key) :
  Decidable (HoldersSeen s root w id) := by
  unfold HoldersSeen Seen
  infer_instance

def SignsInSight (root : RootCA) (w : Registry Key) : Filing -> Prop
  | .reconcile name _ _ => ∀ id ∈ w.identities.find name, HoldersSeen s root w id
  | _ => True

end

variable {pfx : NetPrefix} {pool : ClusterPool} {permitted : List String}

section

variable {Key : Type} {s : Signer Key} {root : RootCA} {w : Registry Key}

variable {a b : Certificate Key} {holder : RouteBusIdentity Key} {cert : Certificate Key} {id : RouteBusIdentity Key}

lemma reaches_iff : cert.reaches pfx = true ↔ ∃ r ∈ cert.permittedIPRanges, ∃ q, r.asPrefix = some q /\
    ∃ addr, (canonical q).contains addr = true /\ pfx.contains addr = true := by
  unfold Certificate.reaches
  rw [any_eq_true]
  refine exists_congr fun r => and_congr_right fun _ => ?_
  cases read : r.asPrefix with
  | none => simp
  | some q => simp [overlaps_iff]

lemma overlapsPool_denies {other : ClusterPool} {op : NetPrefix}
  (parsed : parse other.underlayPrefix = some op) (apart : other.name ≠ pool.name)
  (overlaps : (canonical op).overlaps pfx = true)
  (theirs : holdsOverlap w root other.name pfx = true)
  (first : holdsOverlap w root pool.name (canonical op) = true -> enrolledBefore other pool = true) :
  (overlapsPool w root pool pfx other).isSome := by
  simp only [overlapsPool, parsed, apart, overlaps, theirs]
  cases ours : holdsOverlap w root pool.name (canonical op) with
  | false => simp
  | true => simp [first ours]

lemma overlapsFleet_denies {p : NetPrefix} {c : String} {holder : RouteBusIdentity Key}
  (found : w.identities.find holder.name = some holder)
  (listed : c ∈ holder.permittedUnderlayCIDRs) (parsed : parse c = some p)
  (overlaps : (canonical p).overlaps pfx = true) :
  (overlapsFleet w pool pfx holder.name).isSome := by
  simp only [overlapsFleet, found, isSome_findSome?, any_eq_true]
  exact ⟨c, listed, by simp [parsed, overlaps]⟩

lemma overlap_of_seen (member : holder ∈ w.identities.items) (apart : holder.name ≠ pool.name)
  (holds : holder.certificate = some cert) (live : cert.live root w.now = true)
  (reaches : cert.reaches pfx = true) (seen : Seen s root w pool pfx holder)
  : (overlap s w root pool pfx).isSome := by
  have found := find_of_mem member
  unfold overlap
  split
  · rfl
  next unlisted =>
    rcases seen with ⟨other, there, op, parsed, overlaps, first⟩ | ⟨fleet, c, listed, p, parsed, overlaps⟩
    · have named : other.name = holder.name := find_key there
      have theirs : holdsOverlap w root other.name pfx = true := by
        simp [holdsOverlap, named, found, holds, live, reaches]
      have denied := overlapsPool_denies parsed (named ▸ apart) overlaps theirs first
      rw [findSome?_eq_none_iff.mp unlisted other (mem_of_find there)] at denied
      cases denied
    · rw [isSome_findSome?, any_eq_true]
      exact ⟨holder.name, fleet, overlapsFleet_denies found listed parsed overlaps⟩

lemma readRanges_declared {text : String} {p : NetPrefix} (written : text ≠ "")
  (valid : validateUnderlayPrefix "spec.underlayPrefix" text = [])
  (parsed : parse text = some p) :
  canonical p = p /\ ∃ net, readRanges [(canonical p).text] = .ok [net] /\ net.asPrefix = some p := by
  simp only [validateUnderlayPrefix, parsed, if_neg written] at valid
  split at valid
  · cases valid
  next unmapped =>
    split at valid
    · cases valid
    next whole =>
      split at valid
      · cases valid
      next plain =>
        have masked : p.masked = p := not_not.mp whole
        have text_ : p.text = text := not_not.mp plain
        have own : canonical p = p := by
          rw [canonical, if_neg (by simpa using unmapped), masked]
        obtain ⟨net, read, back⟩ := Option.bind_eq_some_iff.mp (asPrefix_parseCIDR parsed masked)
        refine ⟨own, net, ?_, back⟩
        rw [own, text_]
        simp [readRanges, read, Except.map]

lemma ranges_cases {note : String} (granted : ranges s w root id = .ok (permitted, note)) :
  (id.name ∈ s.fleetIdentities /\ permitted = canonicalCIDRs id.permittedUnderlayCIDRs) \/
  (id.name ∉ s.fleetIdentities /\ ∃ pool parsed, w.pools.find id.poolName = some pool /\
    parse pool.underlayPrefix = some parsed /\
    overlap s w root pool (canonical parsed) = none /\ canonical parsed = parsed /\
    ∃ net, readRanges permitted = .ok [net] /\ net.asPrefix = some parsed) := by
  simp only [ranges] at granted
  split at granted
  next pool found =>
    split at granted
    · cases granted
    next ordinary =>
      split at granted
      · cases granted
      next written =>
        split at granted
        · cases granted
        next valid =>
          split at granted
          · cases granted
          next parsed read =>
            split at granted
            · cases granted
            next free =>
              cases granted
              obtain ⟨own, net, nets, back⟩ := readRanges_declared written (not_not.mp valid) read
              exact .inr ⟨ordinary, pool, parsed, found, read, free, own, net, nets, back⟩
  · split at granted
    next fleet =>
      split at granted
      · cases granted
      · cases granted
        exact .inl ⟨fleet, rfl⟩
    · cases granted

lemma signIntermediate_ranges {x509 : X509 Key} {csr poolName : String} {notAfter : Int} {cert : Certificate Key}
  (signed : signIntermediate x509 root csr poolName permitted notAfter = .ok cert) :
  readRanges permitted = .ok cert.permittedIPRanges := by
  simp only [signIntermediate] at signed
  repeat' split at signed
  all_goals cases signed
  assumption

lemma overlaps_iff_reaches : a.Overlaps b ↔ ∃ r ∈ a.permittedIPRanges, ∃ p ∈ r.asPrefix, b.reaches (canonical p) = true := by
  simp only [reaches_iff]
  constructor
  · rintro ⟨r, listed, r', listed', p, q, read, read', addr, covered, covered'⟩
    exact ⟨r, listed, p, read, r', listed', q, read', addr, covered', covered⟩
  · rintro ⟨r, listed, p, read, r', listed', q, read', addr, covered', covered⟩
    exact ⟨r, listed, r', listed', p, q, read, read', addr, covered, covered'⟩

instance (a b : Certificate Key) : Decidable (a.Overlaps b) :=
  decidable_of_iff _ overlaps_iff_reaches.symm

instance (w : Registry Key) : Decidable (DisjointSigning root w) := by
  unfold DisjointSigning
  infer_instance

lemma Certificate.Overlaps.symm (overlaps : a.Overlaps b) : b.Overlaps a := by
  obtain ⟨r, listed, r', listed', p, q, read, read', addr, covered, covered'⟩ := overlaps
  exact ⟨r', listed', r, listed, q, p, read', read, addr, covered', covered⟩

lemma signed_apart {id holder : RouteBusIdentity Key} {cert held : Certificate Key}
  {note : String} (seen : HoldersSeen s root w id) (named : id.poolName = id.name)
  (granted : constraint s w root id = .ok (permitted, note))
  (signed : readRanges permitted = .ok cert.permittedIPRanges)
  (member : holder ∈ w.identities.items) (apart : holder.name ≠ id.name)
  (holds : holder.certificate = some held) (live : held.live root w.now = true) :
  ¬ cert.Overlaps held := by
  have seen := seen holder member apart held holds live
  unfold constraint at granted
  split at granted
  · cases granted
  next granted' =>
    split at granted
    · cases granted
    · cases granted
      rw [overlaps_iff_reaches]
      rintro ⟨r, listed, p, read, reaches⟩
      rcases ranges_cases granted' with ⟨fleet, rfl⟩ | ⟨ordinary, pool, parsed, found, declared, free, own, net, nets, back⟩
      · rw [if_pos fleet] at seen
        rw [seen _ (by rw [signed]; rfl) r listed p read] at reaches
        cases reaches
      · rw [if_neg ordinary] at seen
        rw [named] at found
        -- The certificate's only range is the pool's own prefix.
        have only : cert.permittedIPRanges = [net] := Except.ok.inj (signed.symm.trans nets)
        rw [only, mem_singleton] at listed
        subst listed
        have same : parsed = p := Option.mem_unique back read
        subst same
        have denied := overlap_of_seen member (find_key found ▸ apart) holds live reaches
          (seen pool found parsed declared reaches)
        rw [free] at denied
        cases denied

lemma DisjointSigning.put {new : RouteBusIdentity Key} (disjoint : DisjointSigning root w) (pools : Store ClusterPool.name)
  (fresh : ∀ cert ∈ new.certificate, ∀ holder ∈ w.identities.items, holder.name ≠ new.name ->
    ∀ held ∈ holder.certificate, cert.live root w.now = true -> held.live root w.now = true -> ¬ cert.Overlaps held) :
  DisjointSigning root { w with pools, identities := w.identities.put new } := by
  intro a memberA b memberB apart ca holdsA cb holdsB liveA liveB overlaps
  rcases mem_put.mp memberA with rfl | ⟨listedA, otherA⟩ <;> rcases mem_put.mp memberB with rfl | ⟨listedB, otherB⟩
  · exact apart rfl
  · exact fresh ca holdsA b listedB otherB cb holdsB liveA liveB overlaps
  · exact fresh cb holdsB a listedA otherA ca holdsA liveB liveA overlaps.symm
  · exact disjoint a listedA b listedB apart ca holdsA cb holdsB liveA liveB overlaps

lemma DisjointSigning.kept {name : String} {cert : Certificate Key}
  (disjoint : DisjointSigning root w) (found : w.identities.find name = some id)
  (holds : id.certificate = some cert) :
  ∀ holder ∈ w.identities.items, holder.name ≠ name -> ∀ held ∈ holder.certificate,
    cert.live root w.now = true -> held.live root w.now = true -> ¬ cert.Overlaps held := by
  intro holder member apart held holds' live live'
  have named : id.name = name := find_key found
  exact disjoint id (mem_of_find found) holder member (named ▸ apart.symm) cert holds held holds' live live'

lemma withSpec_certificate {old : Option (RouteBusIdentity Key)} {name poolName request : String}
  {cidrs : List String} {cert : Certificate Key}
  (holds : (withSpec old name poolName request cidrs).certificate = some cert) :
  ∃ id, old = some id /\ id.certificate = some cert := by
  unfold withSpec at holds
  split at holds
  next id => exact ⟨id, rfl, holds⟩
  · cases holds

lemma withSpec_name (old : Option (RouteBusIdentity Key)) (name poolName request : String)
  (cidrs : List String) : (withSpec old name poolName request cidrs).name = name := by
  unfold withSpec
  split <;> rfl

lemma live_earlier {now : Int} {elapsed : Nat}
  (live : cert.live root (now + elapsed) = true) : cert.live root now = true := by
  simp only [Certificate.live, Bool.and_eq_true, decide_eq_true_eq, Bool.not_eq_true', decide_eq_false_iff_not] at live ⊢
  exact ⟨live.1, by omega⟩

end

section

variable {Key : Type} [DecidableEq Key] {s : Signer Key} {root : RootCA} {w : Registry Key}

lemma reconcileIntermediate_name (id : RouteBusIdentity Key) : (reconcileIntermediate s w id).identity.name = id.name := by
  unfold reconcileIntermediate
  repeat' split
  all_goals rfl

lemma reconcileIntermediate_certificate {id : RouteBusIdentity Key} {cert : Certificate Key} (rooted : s.root = some root)
  (holds : (reconcileIntermediate s w id).identity.certificate = some cert) :
  id.certificate = some cert \/ (id.poolName = id.name /\ ∃ permitted note, constraint s w root id = .ok (permitted, note) /\
    readRanges permitted = .ok cert.permittedIPRanges) := by
  simp only [reconcileIntermediate, rooted] at holds
  split at holds
  · cases holds
  · split at holds
    · cases holds
    next named =>
      split at holds
      · cases holds
      next permitted note granted =>
        split at holds
        · exact .inl holds
        · split at holds
          · cases holds
          next fresh signed =>
            cases holds
            exact .inr ⟨not_not.mp named, permitted, note, granted, signIntermediate_ranges signed⟩

lemma step_disjoint (rooted : s.root = some root) (e : Filing) (disjoint : DisjointSigning root w)
  (sight : SignsInSight s root w e) : DisjointSigning root (w.step s e) := by
  cases e with
  | tick elapsed =>
    intro a memberA b memberB apart ca holdsA cb holdsB liveA liveB
    exact disjoint a memberA b memberB apart ca holdsA cb holdsB (live_earlier liveA) (live_earlier liveB)
  | putPool | deletePool => exact disjoint
  | putIdentity name poolName request cidrs =>
    refine disjoint.put w.pools fun cert holds holder member apart => ?_
    rw [withSpec_name] at apart
    obtain ⟨id, found, had⟩ := withSpec_certificate holds
    exact disjoint.kept found had holder member apart
  | deleteIdentity name =>
    intro a memberA b memberB
    exact disjoint a (mem_of_mem_filter memberA) b (mem_of_mem_filter memberB)
  | reconcile name stored marked =>
    simp only [Registry.step]
    split
    · exact disjoint
    next id found =>
      split
      · refine disjoint.put _ fun cert holds holder member apart held holds' live live' => ?_
        rw [reconcileIntermediate_name] at apart
        have named : id.name = name := find_key found
        rcases reconcileIntermediate_certificate rooted holds with had | ⟨poolName, permitted, note, granted, signed⟩
        · exact disjoint.kept found had holder member (named ▸ apart) held holds' live live'
        · exact signed_apart (sight id found) poolName granted signed member apart holds' live'
      · exact disjoint

theorem signing_disjoint_when_holders_seen (rooted : s.root = some root) (events : List Filing)
  (start : DisjointSigning root w) (sight : Along (Registry.step s) (SignsInSight s root) w events)
  (n : Nat) : DisjointSigning root ((events.take n).foldl (Registry.step s) w) :=
  (sight.take n).invariant (fun _ e disjoint seen => step_disjoint rooted e disjoint seen) start

end

def testSigner : Signer String where
  x509 :=
    { pemDecode := fun text => some ("CERTIFICATE REQUEST", text), parseRequest := .ok,
      checkSignature := fun _ => none, createError := fun _ => none }
  root := some { pem := "root" }
  serverIPs := []
  fleetIdentities := ["wan-edge"]

def noEnrolment : Registry String where
  now := 0
  pools := .empty
  identities := .empty

def declaring (name underlayPrefix : String) (creationTimestamp : Int) : ClusterPool where
  name := name
  resourceVersion := 0
  generation := 1
  creationTimestamp := creationTimestamp
  labels := []
  underlayPrefix := underlayPrefix
  status :=
    { phase := .ready, conditions := [], allocatable := .empty, lease := none, nodePrefixes := [],
      fencedPrefixes := [], nodeDrain := [] }

def contendedPrefix : List Filing :=
  [.putPool (declaring "a" "10.1.0.0/16" 1), .putIdentity "a" "a" "key-a" [], .reconcile "a" true true,
    .putPool (declaring "b" "10.1.0.0/16" 2), .putIdentity "b" "b" "key-b" []]

-- a's prefix is edited before b's reconcile runs.
def prefixEditedAway : List Filing :=
  contendedPrefix ++ [.putPool (declaring "a" "10.2.0.0/16" 1), .reconcile "b" true true]

theorem edited_prefix_signed_twice : DisjointSigning ⟨"root"⟩ noEnrolment /\
    ¬ DisjointSigning ⟨"root"⟩ (prefixEditedAway.foldl (Registry.step testSigner) noEnrolment) := by
  decide +kernel

def prefixKept : List Filing := contendedPrefix ++ [.reconcile "b" true true,
  .putIdentity "wan-edge" "wan-edge" "key-w" ["2001:db8::/48"], .reconcile "wan-edge" true true]

theorem kept_prefix_disjoint : let w := (prefixKept.take 8).foldl (Registry.step testSigner) noEnrolment
  w.identities.items.map (fun id => (id.name, id.certificate.isSome)) = [("a", true), ("b", false), ("wan-edge", true)] /\
    DisjointSigning ⟨"root"⟩ w := by
  refine ⟨by decide +kernel, signing_disjoint_when_holders_seen rfl prefixKept (by decide +kernel) ?_ 8⟩
  simp only [prefixKept, contendedPrefix, cons_append, nil_append, Along, SignsInSight]
  decide +kernel

end Ectobase.Dispatch
