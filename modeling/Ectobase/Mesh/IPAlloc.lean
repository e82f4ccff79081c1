import Ectobase.Mesh.NicIpam
import Ectobase.Shared.AddrNames
import Ectobase.Shared.Calls

namespace Ectobase.Mesh

open Shared Option ZonedAddr Except

inductive IPPoolType where
  | public_
  | internal
  deriving DecidableEq, Repr

structure IPPool where
  name : String
  poolType : IPPoolType
  v4Prefix : Option String
  v6Prefix : Option String
  reservedIPs : List String
  state : String
  deriving DecidableEq, Repr

structure Consumer where
  kind : String
  name : String
  uid : String
  deriving DecidableEq, Repr

structure IPAllocation where
  name : String
  poolLabel : String
  consumerLabel : Option String
  poolRef : String
  address : String
  controller : Option Consumer
  deriving DecidableEq, Repr

def allocationName (pool : String) (addr : ZonedAddr) : Option String :=
  let name := pool ++ "-" ++ addr.unmap.dashed
  if isDNS1123Subdomain name then some name else none

variable (name : String) {a : ZonedAddr} (pool : IPPool) (consumer : Consumer) (items : List IPAllocation)

def parsePoolPrefixes (p : IPPool) : Option (Option NetPrefix × Option NetPrefix) := do
  let v4 <- parseFamily true p.v4Prefix
  let v6 <- parseFamily false p.v6Prefix
  if v4 = none /\ v6 = none then none else some (v4, v6)

def poolPrefixFor (p : IPPool) (pinned : Option ZonedAddr) : Option NetPrefix :=
  (parsePoolPrefixes p).bind fun (v4, v6) =>
    match pinned with
    | some a => if a.unmap.addr.isV4 then v4 else v6
    | none => v4.or v6

def ownedBy (alloc : IPAllocation) (consumer : Consumer) : Bool := match alloc.controller with
  | none => false
  | some ref => decide (ref.kind = consumer.kind) && decide (ref.name = consumer.name) &&
      (decide (consumer.uid = "") || decide (ref.uid = consumer.uid))

def poolAllocations : List (IPAllocation × ZonedAddr) :=
  (items.filter fun o => o.poolRef = pool.name).filterMap fun o =>
    (parse o.address).map fun a => (o, a.unmap)

def usedOf : List ZonedAddr := (poolAllocations pool items).map Prod.snd

def mineOf : List ZonedAddr :=
  ((poolAllocations pool items).filter fun p => ownedBy p.1 consumer).map Prod.snd

def heldIn (mine : List ZonedAddr) (p : NetPrefix) (resv : List ZonedAddr) : Option ZonedAddr :=
  mine.foldl (fun best a =>
      if !inPrefix p a || decide (a ∈ resv) then best
      else if best.all (a.less ·) then some a else best)
    none

def stickyOrLowest (p : NetPrefix) (preferred : Option ZonedAddr) (used resv : List ZonedAddr) : Option ZonedAddr :=
  match preferred.filter fun a => inPrefix p a && decide (a ∉ used) && decide (a ∉ resv) with
  | some a => some a
  | none => (lowestFree p used resv).map fun addr => { addr, zone := [] }

inductive ClaimResult where
  | claimed (a : ZonedAddr)
  | exhausted
  | notAllocatable
  | failed
  deriving DecidableEq, Repr

structure ClaimRequest where
  pool : IPPool
  consumer : Consumer
  pinned : Option ZonedAddr
  preferred : Option ZonedAddr
  grow : Bool
  valid : ∀ a, a ∈ pinned \/ a ∈ preferred -> a.addr.Valid
  deriving DecidableEq

def ClaimRequest.want (q : ClaimRequest) (p : NetPrefix) (resv used mine : List ZonedAddr) : Except ClaimResult ZonedAddr :=
  match q.pinned with
  | some pin =>
    let a := pin.unmap
    if !inPrefix p a || decide (a ∈ resv) then .error .notAllocatable
    else if a ∈ used /\ a ∉ mine then .error .notAllocatable
    else .ok a
  | none =>
    match (heldIn mine p resv).filter fun _ => !q.grow with
    | some a => .ok a
    | none =>
      match stickyOrLowest p q.preferred used resv with
      | some a => .ok a
      | none => .error .exhausted

section

variable {p : NetPrefix} {resv : List ZonedAddr}

variable {pool : IPPool} {q : ClaimRequest} {used mine : List ZonedAddr}

lemma mem_mineOf {consumer : Consumer} {items : List IPAllocation} :
  a ∈ mineOf pool consumer items ↔ ∃ o ∈ items, o.poolRef = pool.name /\ ownedBy o consumer = true /\
    (parse o.address).map unmap = some a := by
  simp only [mineOf, poolAllocations, List.mem_map, List.mem_filter, List.mem_filterMap, map_eq_some_iff, decide_eq_true_eq]
  constructor
  · rintro ⟨⟨o, b⟩, ⟨⟨o', ⟨listed, pool⟩, read, parsed, same⟩, own⟩, rfl⟩
    obtain ⟨rfl, rfl⟩ := Prod.mk.inj same
    exact ⟨o', listed, pool, own, read, parsed, rfl⟩
  · rintro ⟨o, listed, pool, own, read, parsed, rfl⟩
    exact ⟨(o, read.unmap), ⟨⟨o, ⟨listed, pool⟩, read, parsed, rfl⟩, own⟩, rfl⟩

lemma heldIn_spec {mine : List ZonedAddr} (held : heldIn mine p resv = some a) :
  a ∈ mine /\ inPrefix p a = true /\ a ∉ resv := by
  have all (rest : List ZonedAddr) (sub : ∀ b ∈ rest, b ∈ mine) (best : Option ZonedAddr)
    (good : ∀ b ∈ best, b ∈ mine /\ inPrefix p b = true /\ b ∉ resv)
    (found : rest.foldl (fun best a => if !inPrefix p a || decide (a ∈ resv) then best
      else if best.all (a.less ·) then some a else best) best = some a) :
    a ∈ mine /\ inPrefix p a = true /\ a ∉ resv := by
    induction rest generalizing best with
    | nil => exact good a found
    | cons b rest ih =>
      refine ih (fun c later => sub c (List.mem_cons_of_mem _ later)) _ ?_ found
      intro c chosen
      dsimp only at chosen
      split_ifs at chosen with skipped lower
      · exact good c chosen
      · obtain rfl := some.inj chosen
        simp only [Bool.or_eq_true, Bool.not_eq_true', decide_eq_true_eq, not_or, Bool.not_eq_false] at skipped
        exact ⟨sub b List.mem_cons_self, skipped⟩
      · exact good c chosen
  exact all mine (fun _ => id) none nofun held

lemma ClaimRequest.want_spec (valid : p.addr.Valid) (mineValid : ∀ b ∈ mine, b.addr.Valid)
  (wanted : q.want p resv used mine = .ok a) :
  a.addr.Valid /\ inPrefix p a = true /\ a ∉ resv := by
  unfold ClaimRequest.want at wanted
  split at wanted
  next pin pinned =>
    dsimp only at wanted
    split_ifs at wanted with refused taken
    obtain rfl := ok.inj wanted
    simp only [Bool.or_eq_true, Bool.not_eq_true', decide_eq_true_eq, not_or, Bool.not_eq_false] at refused
    exact ⟨unmap_valid (q.valid pin (.inl pinned)), refused⟩
  · split at wanted
    next b held =>
      obtain rfl := ok.inj wanted
      obtain ⟨own, inside, free⟩ := heldIn_spec (filter_eq_some_iff.mp held).1
      exact ⟨mineValid b own, inside, free⟩
    · split at wanted
      next b found =>
        obtain rfl := ok.inj wanted
        unfold stickyOrLowest at found
        split at found
        next c sticky =>
          obtain rfl := some.inj found
          obtain ⟨preferred, ok⟩ := filter_eq_some_iff.mp sticky
          simp only [Bool.and_eq_true, decide_eq_true_eq] at ok
          exact ⟨q.valid c (.inr preferred), ok.1.1, ok.2⟩
        · obtain ⟨addr, lowest, rfl⟩ := map_eq_some_iff.mp found
          obtain ⟨ok, inside, -, unreserved⟩ := lowestFree_spec valid lowest
          exact ⟨ok, by simp [inPrefix, inside], unreserved⟩
      · cases wanted

lemma ClaimRequest.want_error {result : ClaimResult} (stopped : q.want p resv used mine = .error result) (a : ZonedAddr) :
  result ≠ .claimed a := by
  unfold ClaimRequest.want at stopped
  split at stopped
  · dsimp only at stopped
    split_ifs at stopped
    · exact error.inj stopped ▸ nofun
    · exact error.inj stopped ▸ nofun
  · split at stopped
    · cases stopped
    · split at stopped
      · cases stopped
      · exact error.inj stopped ▸ nofun

lemma poolPrefixFor_valid {pinned : Option ZonedAddr} (found : poolPrefixFor pool pinned = some p) : p.addr.Valid := by
  obtain ⟨⟨v4, v6⟩, read, found⟩ := bind_eq_some_iff.mp found
  unfold parsePoolPrefixes at read
  simp only [bind_eq_bind, bind_eq_some_iff] at read
  obtain ⟨first, read4, second, read6, blocks⟩ := read
  split at blocks
  · cases blocks
  · obtain ⟨rfl, rfl⟩ := Prod.mk.inj (some.inj blocks)
    have either : first = some p \/ second = some p := by
      dsimp only at found
      split at found
      · split at found
        · exact .inl found
        · exact .inr found
      · exact (or_eq_some_iff.mp found).imp_right And.right
    rcases either with rfl | rfl
    · exact (parseFamily_spec read4).1
    · exact (parseFamily_spec read6).1

end

inductive AllocSelector where
  | pool (name : String)
  | consumer (uid : String)
  deriving DecidableEq, Repr

def AllocSelector.selects : AllocSelector -> IPAllocation -> Bool
  | .pool name, o => decide (o.poolLabel = name)
  | .consumer uid, o => decide (o.consumerLabel = some uid)

inductive AllocCall where
  | list (selector : AllocSelector)
  | create (alloc : IPAllocation)
  | get (name : String)
  | delete (name : String)

inductive CreateReply where
  | created
  | alreadyExists
  | failed
  deriving DecidableEq, Repr

inductive GetReply where
  | found (alloc : IPAllocation)
  | notFound
  | failed
  deriving DecidableEq, Repr

inductive DeleteReply where
  | deleted
  | notFound
  | failed
  deriving DecidableEq, Repr

abbrev AllocReply : AllocCall -> Type
  | .list _ => Option (List IPAllocation)
  | .create _ => CreateReply
  | .get _ => GetReply
  | .delete _ => DeleteReply

abbrev Allocating := Prog AllocCall AllocReply

namespace AllocAsk

def list (selector : AllocSelector) : Allocating (Option (List IPAllocation)) :=
  Prog.ask (AllocCall.list selector)

def create (alloc : IPAllocation) : Allocating CreateReply := Prog.ask (AllocCall.create alloc)

def get : Allocating GetReply := Prog.ask (AllocCall.get name)

def delete : Allocating DeleteReply := Prog.ask (AllocCall.delete name)

end AllocAsk

def allocationLabels : Option String := if consumer.uid ≠ "" then some consumer.uid else none

def newAllocation (q : ClaimRequest) (a : ZonedAddr) : IPAllocation where
  name := name
  poolLabel := q.pool.name
  consumerLabel := allocationLabels q.consumer
  poolRef := q.pool.name
  address := a.text
  controller := some q.consumer

def claimRetries : Nat := 5

def claimLoop (q : ClaimRequest) (p : NetPrefix) (resv : List ZonedAddr) : Nat -> Allocating ClaimResult
  | 0 => pure .exhausted
  | rounds + 1 => do
    match <- AllocAsk.list (.pool q.pool.name) with
    | none => pure .failed
    | some items =>
      let mine := mineOf q.pool q.consumer items
      match q.want p resv (usedOf q.pool items) mine with
      | .error result => pure result
      | .ok a =>
        if a ∈ mine /\ q.grow = false then pure (.claimed a)
        else
          match allocationName q.pool.name a with
          | none => pure .notAllocatable
          | some name =>
            match <- AllocAsk.create (newAllocation name q a) with
            | .created => pure (.claimed a)
            | .failed => pure .failed
            | .alreadyExists =>
              match <- AllocAsk.get name with
              | .notFound => claimLoop q p resv rounds
              | .failed => pure .failed
              | .found existing =>
                if ownedBy existing q.consumer then
                  -- Ours, but it appeared after the list: no new address for a growing claim.
                  if q.grow then claimLoop q p resv rounds else pure (.claimed a)
                else if q.pinned.isSome then pure .notAllocatable
                else claimLoop q p resv rounds

def claim (q : ClaimRequest) : Allocating ClaimResult := match poolPrefixFor q.pool q.pinned with
  | none => pure .notAllocatable
  | some p => claimLoop q p (reservedFor p ++ parseAddrs q.pool.reservedIPs) claimRetries

def releaseItem (keep : ZonedAddr) (ok : Bool) (o : IPAllocation) : Allocating Bool :=
  if ¬ ok \/ ¬ ownedBy o consumer then pure ok
  else if o.poolRef = pool.name /\ (parse o.address).map unmap = some keep then
    pure ok
  else do
    match <- AllocAsk.delete o.name with
    | .deleted | .notFound => pure true
    | .failed => pure false

def releaseClaimsExcept (keep : ZonedAddr) : Allocating Bool := do
  let selector := if consumer.uid = "" then .pool pool.name else .consumer consumer.uid
  match <- AllocAsk.list selector with
  | none => pure false
  | some items => items.foldlM (releaseItem pool consumer keep) true

def consumerAddresses : List ZonedAddr :=
  (mineOf pool consumer items).dedup.insertionSort fun a b => b.less a = false

end Ectobase.Mesh
