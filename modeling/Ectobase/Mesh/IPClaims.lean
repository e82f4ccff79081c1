import Ectobase.Mesh.IPAlloc
import Ectobase.Shared.Threads

namespace Ectobase.Mesh

open Shared Option Prog Store ZonedAddr

variable {pool name : String} {w : Store IPAllocation.name} {a : ZonedAddr} {q : ClaimRequest} {alloc : IPAllocation}

lemma allocationName_some (named : allocationName pool a = some name) :
  name = pool ++ "-" ++ a.unmap.dashed /\ isDNS1123Subdomain name = true := by
  unfold allocationName at named
  dsimp only at named
  split at named
  next legal =>
    obtain rfl := some.inj named
    exact ⟨rfl, legal⟩
  · cases named

lemma allocationName_injective {pool' : String} {a' : ZonedAddr} (valid : a.addr.Valid)
  (valid' : a'.addr.Valid) (named : allocationName pool a = some name)
  (named' : allocationName pool' a' = some name) : pool = pool' /\ a.unmap = a'.unmap := by
  obtain ⟨same, legal⟩ := allocationName_some named
  obtain ⟨same', -⟩ := allocationName_some named'
  exact dashed_injective (unmap_valid valid) (unmap_valid valid') (same ▸ legal) (same.symm.trans same')

abbrev Allocations := Store IPAllocation.name

inductive ApiOutcome where
  | normal
  | refused
  | lost
  deriving DecidableEq, Repr

def createAllocation (w : Allocations) (alloc : IPAllocation) : Allocations :=
  if (w.find alloc.name).isSome then w else w.put alloc

def serveAlloc : Serve Allocations ApiOutcome AllocReply
  | w, .list selector, o =>
    (if o = .normal then some (w.items.filter selector.selects) else none, w)
  | w, .create alloc, o =>
    match o with
    | .normal => (if (w.find alloc.name).isSome then .alreadyExists else .created, createAllocation w alloc)
    | .refused => (.failed, w)
    | .lost => (.failed, createAllocation w alloc)
  | w, .get name, o =>
    (if o = .normal then (w.find name).elim .notFound .found else .failed, w)
  | w, .delete name, o =>
    match o with
    | .normal => (if (w.find name).isSome then .deleted else .notFound, w.remove name)
    | .refused => (.failed, w)
    | .lost => (.failed, w.remove name)

inductive AllocEvent where
  | collect (name : String)

def allocEnvironment (w : Allocations) : AllocEvent -> Allocations
  | .collect name => w.remove name

inductive ClaimTask where
  | claim (q : ClaimRequest)
  | release (pool : IPPool) (consumer : Consumer) (keep : ZonedAddr)
  deriving DecidableEq

inductive ClaimAnswer where
  | claim (result : ClaimResult)
  | release (ok : Bool)
  deriving DecidableEq, Repr

def ClaimTask.program : ClaimTask -> Allocating ClaimAnswer
  | .claim q => do
    let result <- Mesh.claim q
    pure (.claim result)
  | .release pool consumer keep => do
    let ok <- releaseClaimsExcept pool consumer keep
    pure (.release ok)

def IPAllocation.At (o : IPAllocation) (pool : String) (a : ZonedAddr) : Prop :=
  o.poolRef = pool /\ (parse o.address).map unmap = some a.unmap

instance (o : IPAllocation) (pool : String) (a : ZonedAddr) : Decidable (o.At pool a) :=
  inferInstanceAs (Decidable (_ /\ _))

def Owns (w : Allocations) (consumer : Consumer) (pool : String) (a : ZonedAddr) : Prop :=
  ∃ o ∈ w.items, o.At pool a /\ ownedBy o consumer = true

instance (w : Allocations) (consumer : Consumer) (pool : String) (a : ZonedAddr) :
  Decidable (Owns w consumer pool a) :=
  inferInstanceAs (Decidable (∃ o ∈ w.items, _))

def IsNew (q : ClaimRequest) (a : ZonedAddr) (alloc : IPAllocation) : Prop :=
  a.addr.Valid /\ a.zone = [] /\ allocationName q.pool.name a = some alloc.name /\ alloc = newAllocation alloc.name q a

def AllocGuard (task : ClaimTask) (_ : Trace AllocReply) : AllocCall -> Prop
  | .create alloc => ∃ q a, task = .claim q /\ IsNew q a alloc
  | _ => True

def Decides (q : ClaimRequest) (a : ZonedAddr) : (Σ c, AllocReply c) -> Prop
  | ⟨.list selector, reply⟩ => q.grow = false /\ selector = .pool q.pool.name /\
      ∃ items, reply = some items /\ a ∈ mineOf q.pool q.consumer items
  | ⟨.create alloc, reply⟩ => reply = .created /\ IsNew q a alloc
  | ⟨.get name, reply⟩ => q.grow = false /\ allocationName q.pool.name a = some name /\
      ∃ o, reply = .found o /\ ownedBy o q.consumer = true
  | ⟨.delete _, _⟩ => False

def Allocatable (q : ClaimRequest) (a : ZonedAddr) : Prop :=
  a.addr.Valid /\ ∃ p, poolPrefixFor q.pool q.pinned = some p /\ inPrefix p a = true /\
    a ∉ reservedFor p /\ a ∉ parseAddrs q.pool.reservedIPs

def ClaimPost (task : ClaimTask) (answer : ClaimAnswer) (told : Trace AllocReply) : Prop :=
  ∀ q a, task = .claim q -> answer = .claim (.claimed a) ->
    Allocatable q a /\ ∃ last, told.head? = some last /\ Decides q a last

def AnyAllocReply (c : AllocCall) (_ : AllocReply c) : Prop := True

def ClaimedPost (q : ClaimRequest) (result : ClaimResult) (told : Trace AllocReply) : Prop :=
  ∀ a, result = .claimed a -> Allocatable q a /\ ∃ last, told.head? = some last /\ Decides q a last

lemma ClaimedPost.of_other {result : ClaimResult} {told : Trace AllocReply}
  (other : ∀ a, result ≠ .claimed a) : ClaimedPost q result told :=
  fun a claimed => absurd claimed (other a)

lemma claimLoop_obeys {p : NetPrefix} (found : poolPrefixFor q.pool q.pinned = some p)
  (rounds : Nat) (told : Trace AllocReply) :
  (claimLoop q p (reservedFor p ++ parseAddrs q.pool.reservedIPs) rounds).Obeys AnyAllocReply
    (AllocGuard (.claim q)) (ClaimedPost q) told := by
  induction rounds generalizing told with
  | zero => exact ClaimedPost.of_other (by simp)
  | succ rounds ih =>
    refine obeys_call trivial fun reply _ => ?_
    cases reply with
    | none => exact ClaimedPost.of_other (by simp)
    | some items =>
      dsimp only
      split
      next result stopped => exact ClaimedPost.of_other (ClaimRequest.want_error stopped)
      next a wanted =>
        have mineValid : ∀ b ∈ mineOf q.pool q.consumer items, b.addr.Valid := by
          intro b member
          obtain ⟨o, -, -, -, read⟩ := mem_mineOf.mp member
          obtain ⟨c, parsed, rfl⟩ := map_eq_some_iff.mp read
          exact unmap_valid (parse_valid parsed)
        obtain ⟨valid, inside, free⟩ :=
          ClaimRequest.want_spec (poolPrefixFor_valid found) mineValid wanted
        rw [List.mem_append, not_or] at free
        have allocatable : Allocatable q a := ⟨valid, p, found, inside, free⟩
        have unzoned : a.zone = [] := by
          simp only [inPrefix, Bool.and_eq_true, decide_eq_true_eq] at inside
          exact inside.1
        split
        next mine =>
          rintro b ⟨⟩
          exact ⟨allocatable, _, rfl, mine.2, rfl, items, rfl, mine.1⟩
        · split
          · exact ClaimedPost.of_other (by simp)
          next name named =>
            have new : IsNew q a (newAllocation name q a) := ⟨valid, unzoned, named, rfl⟩
            refine obeys_call ⟨q, a, rfl, new⟩ fun reply _ => ?_
            cases reply with
            | created =>
              rintro b ⟨⟩
              exact ⟨allocatable, _, rfl, rfl, new⟩
            | failed => exact ClaimedPost.of_other (by simp)
            | alreadyExists =>
              refine obeys_call trivial fun reply _ => ?_
              cases reply with
              | notFound => exact ih _
              | failed => exact ClaimedPost.of_other (by simp)
              | found existing =>
                dsimp only
                split_ifs with own grow pinned
                · exact ih _
                · rintro b ⟨⟩
                  exact ⟨allocatable, _, rfl, by simpa using grow, named, existing, rfl, own⟩
                · exact ClaimedPost.of_other (by simp)
                · exact ih _

lemma release_guarded (pool : IPPool) (consumer : Consumer) (keep : ZonedAddr) (told : Trace AllocReply) :
  (releaseClaimsExcept pool consumer keep).Obeys AnyAllocReply
    (AllocGuard (.release pool consumer keep)) (fun _ _ => True) told := by
  refine obeys_call trivial fun reply _ => ?_
  cases reply with
  | none => trivial
  | some items =>
    refine obeys_foldlM (fun _ _ _ => True) (fun o rest ok told _ => ?_) trivial
    unfold releaseItem
    split_ifs
    · trivial
    · trivial
    · refine obeys_call trivial fun reply _ => ?_
      cases reply <;> trivial

lemma ClaimTask.program_obeys (task : ClaimTask) :
  task.program.Obeys AnyAllocReply (AllocGuard task) (ClaimPost task) [] := by
  cases task with
  | claim q =>
    refine obeys_bind.mpr ?_
    have obeys : (Mesh.claim q).Obeys AnyAllocReply (AllocGuard (.claim q)) (ClaimedPost q) [] := by
      unfold Mesh.claim
      split
      · exact ClaimedPost.of_other nofun
      next p found => exact claimLoop_obeys found claimRetries []
    refine obeys.weaken fun result told _ held => ?_
    rintro q' a ⟨⟩ ⟨⟩
    exact held a rfl
  | release pool consumer keep =>
    refine (release_guarded pool consumer keep []).andThen ?_
    rintro ok told - - q a ⟨⟩

def AllNamed (w : Allocations) : Prop :=
  ∀ o ∈ w.items, ∃ a, parse o.address = some a /\ allocationName o.poolRef a = some o.name

lemma IsNew.parse_address (new : IsNew q a alloc) : parse alloc.address = some a := by
  obtain ⟨valid, unzoned, -, made⟩ := new
  obtain ⟨addr, zone⟩ := a
  obtain rfl : zone = [] := unzoned
  rw [made]
  exact parse_text valid

lemma IsNew.at (new : IsNew q a alloc) : alloc.At q.pool.name a := by
  refine ⟨?_, by rw [new.parse_address, map_some]⟩
  rw [new.2.2.2]
  rfl

lemma IsNew.ownedBy (new : IsNew q a alloc) : ownedBy alloc q.consumer = true := by
  rw [new.2.2.2]
  simp [newAllocation, Mesh.ownedBy]

lemma AllNamed.name_eq (all : AllNamed w) {o : IPAllocation} (listed : o ∈ w.items)
  (at_ : o.At pool a) (named : allocationName pool a = some name) : o.name = name := by
  obtain ⟨b, read, named'⟩ := all o listed
  obtain ⟨rfl, same⟩ := at_
  rw [read, map_some] at same
  have unmapped : b.unmap = a.unmap := some.inj same
  unfold allocationName at named named'
  rw [unmapped, named] at named'
  exact (some.inj named').symm

lemma AllNamed.create (all : AllNamed w) (new : IsNew q a alloc) : AllNamed (createAllocation w alloc) := by
  unfold createAllocation
  split
  · exact all
  · intro o member
    rcases mem_put.mp member with rfl | ⟨kept, -⟩
    · refine ⟨a, new.parse_address, ?_⟩
      rw [new.at.1]
      exact new.2.2.1
    · exact all o kept

lemma AllNamed.remove (all : AllNamed w) (name : String) : AllNamed (w.remove name) :=
  fun o member => all o (mem_remove.mp member).1

lemma AllNamed.serve (all : AllNamed w) {task : ClaimTask} {told : Trace AllocReply}
  {c : AllocCall} (allowed : AllocGuard task told c) (o : ApiOutcome) :
  AllNamed (serveAlloc w c o).2 := by
  cases c with
  | list | get => exact all
  | create alloc =>
    obtain ⟨q, a, -, new⟩ := allowed
    cases o with
    | normal | lost => exact all.create new
    | refused => exact all
  | delete name =>
    cases o with
    | normal | lost => exact all.remove name
    | refused => exact all

lemma claim_discipline : Discipline (κ := Nat) serveAlloc allocEnvironment ClaimTask.program
  AnyAllocReply AllocGuard ClaimPost (fun _ _ => True) AllNamed (fun _ _ _ _ => True) where
  obeys _ task _ := task.program_obeys
  served _ _ _ := trivial
  nothing _ _ _ _ := trivial
  call _ _ _ _ _ o _ all _ allowed := ⟨all.serve allowed o, trivial⟩
  stable _ _ _ _ _ _ _ _ _ _ _ _ _ _ _ _ := trivial
  env w e all := by
    cases e with
    | collect name => exact all.remove name
  envStable _ _ _ _ _ _ _ _ := trivial

lemma Decides.owns (all : AllNamed w) (valid : a.addr.Valid) {c : AllocCall} {o : ApiOutcome}
  (decides : Decides q a ⟨c, (serveAlloc w c o).1⟩) :
  Owns (serveAlloc w c o).2 q.consumer q.pool.name a /\ (q.grow = true -> ∀ x ∈ w.items, ¬ x.At q.pool.name a) := by
  cases c with
  | list selector =>
    obtain ⟨grow, rfl, items, listed, mine⟩ := decides
    refine ⟨?_, fun grows => by rw [grow] at grows; cases grows⟩
    simp only [serveAlloc, ite_none_right_eq_some, some.injEq] at listed
    obtain ⟨x, member, pool, own, read⟩ := mem_mineOf.mp mine
    rw [<- listed.2] at member
    obtain ⟨b, parsed, rfl⟩ := map_eq_some_iff.mp read
    refine ⟨x, (List.mem_filter.mp member).1, ⟨pool, ?_⟩, own⟩
    rw [parsed, map_some, unmap_unmap]
  | create alloc =>
    obtain ⟨created, new⟩ := decides
    cases o with
    | refused | lost => cases created
    | normal =>
      have free : (w.find alloc.name).isSome = false := by
        by_contra taken
        simp only [serveAlloc, Bool.not_eq_false] at created taken
        rw [if_pos taken] at created
        cases created
      constructor
      · have stored : alloc ∈ (createAllocation w alloc).items := by
          rw [createAllocation, free]
          exact mem_put.mpr (.inl rfl)
        exact ⟨alloc, stored, new.at, new.ownedBy⟩
      · intro _ x listed at_
        have name := all.name_eq listed at_ new.2.2.1
        have found := find_of_mem listed
        rw [show x.name = alloc.name from name] at found
        rw [found] at free
        cases free
  | get name =>
    obtain ⟨grow, named, x, found, own⟩ := decides
    refine ⟨?_, fun grows => by rw [grow] at grows; cases grows⟩
    cases o with
    | refused | lost => cases found
    | normal =>
      cases stored : w.find name with
      | none =>
        simp only [serveAlloc, stored] at found
        cases found
      | some y =>
        simp only [serveAlloc, stored] at found
        obtain rfl : y = x := GetReply.found.inj found
        have listed := mem_of_find stored
        obtain ⟨b, read, named'⟩ := all y listed
        rw [show y.name = name from find_key stored] at named'
        obtain ⟨pool, unmapped⟩ := allocationName_injective (parse_valid read) valid named' named
        exact ⟨y, listed, ⟨pool, by rw [read, map_some, unmapped]⟩, own⟩
  | delete name => exact decides.elim

lemma AllNamed.single (all : AllNamed w) {x y : IPAllocation} (listedX : x ∈ w.items)
  (listedY : y ∈ w.items) (atX : x.At pool a) (atY : y.At pool a) : x = y := by
  obtain ⟨b, read, named⟩ := all y listedY
  have atX' : x.At y.poolRef b := by
    obtain ⟨rfl, same⟩ := atY
    rw [read, map_some] at same
    exact ⟨atX.1, atX.2.trans same.symm⟩
  have names : x.name = y.name := all.name_eq listedX atX' named
  have foundX := find_of_mem listedX
  rw [names, find_of_mem listedY] at foundX
  exact (some.inj foundX).symm

lemma ownedBy_iff {o : IPAllocation} {c : Consumer} (identified : c.uid ≠ "") :
  ownedBy o c = true ↔ o.controller = some c := by
  unfold ownedBy
  cases o.controller with
  | none => simp
  | some ref =>
    obtain ⟨kind, name, uid⟩ := ref
    obtain ⟨kind', name', uid'⟩ := c
    simp_all [and_assoc]

abbrev ClaimMove := Move Nat ClaimTask ApiOutcome AllocEvent

abbrev Claiming := Threads Nat Allocations AllocReply ClaimTask ClaimAnswer

def claimStep (s : Claiming) (move : ClaimMove) : Claiming :=
  s.step serveAlloc allocEnvironment ClaimTask.program move

def claimRun (moves : List ClaimMove) : Claiming := moves.foldl claimStep (Threads.idle empty)

lemma claimRun_sound (moves : List ClaimMove) :
  (claimRun moves).Sound serveAlloc AnyAllocReply AllocGuard ClaimPost (fun _ _ => True) AllNamed (fun _ _ _ _ => True) := by
  have empty : AllNamed empty := fun _ member => absurd member List.not_mem_nil
  refine claim_discipline.run (Threads.idle_sound empty) moves fun move _ => ?_
  cases move <;> trivial

lemma Owns.unique {moves : List ClaimMove} {c c' : Consumer} (identified : c.uid ≠ "")
  (identified' : c'.uid ≠ "") (owns : Owns (claimRun moves).world c pool a)
  (owns' : Owns (claimRun moves).world c' pool a) :
  c = c' := by
  obtain ⟨o, listed, at_, own⟩ := owns
  obtain ⟨o', listed', at', own'⟩ := owns'
  obtain rfl := (claimRun_sound moves).world.single listed listed' at_ at'
  have owner := (ownedBy_iff identified).mp own
  rw [(ownedBy_iff identified').mp own'] at owner
  exact (some.inj owner).symm

theorem claims_exclusive (moves : List ClaimMove) :
  (∀ pool pool' name a a', a.addr.Valid -> a'.addr.Valid -> allocationName pool a = some name ->
    allocationName pool' a' = some name -> pool = pool' /\ a.unmap = a'.unmap) /\
  (∀ c c' pool a, c.uid ≠ "" -> c'.uid ≠ "" -> Owns (claimRun moves).world c pool a ->
    Owns (claimRun moves).world c' pool a -> c = c') /\
  ∀ worker outcome t t' q a, (claimRun moves).running worker = some t -> t.rest.result = none ->
    (claimStep (claimRun moves) (.call worker outcome)).running worker = some t' ->
    t'.tag = .claim q -> t'.rest = .done (.claim (.claimed a)) ->
    Owns (claimStep (claimRun moves) (.call worker outcome)).world q.consumer q.pool.name a /\ Allocatable q a /\
      (q.grow = true -> ∀ o ∈ (claimRun moves).world.items, ¬ o.At q.pool.name a) := by
  have sound := claimRun_sound moves
  refine ⟨fun _ _ _ _ _ => allocationName_injective, fun _ _ _ _ => Owns.unique, ?_⟩
  · intro worker outcome t t' q a running unfinished next tag done_
    have admitted : (Move.call worker outcome : ClaimMove).Admitted fun _ _ => True := trivial
    have after := claim_discipline.step sound admitted
    have thread := after.threads worker t' next
    obtain ⟨tag', log, rest⟩ := t
    cases rest with
    | done value => cases unfinished
    | call c continue_ =>
      simp only [claimStep, Threads.step, running, Thread.next, Function.update_self, some.injEq] at next ⊢
      have post := thread.obeys
      rw [done_] at post
      obtain ⟨allocatable, last, head, decides⟩ := post q a tag rfl
      rw [<- next] at head
      obtain rfl := some.inj head
      obtain ⟨owns, grows⟩ := Decides.owns sound.world allocatable.1 decides
      exact ⟨owns, allocatable, grows⟩

def smallPool : IPPool where
  name := "pool"
  poolType := .public_
  v4Prefix := some "198.51.100.0/29"
  v6Prefix := none
  reservedIPs := []
  state := "Ready"

def gateway : Consumer where
  kind := "NATGateway"
  name := "gw"
  uid := "uid-gw"

def growRequest : ClaimRequest where
  pool := smallPool
  consumer := gateway
  pinned := none
  preferred := none
  grow := true
  valid := by simp

def firstAddr : ZonedAddr where
  addr := { isV4 := true, as16 := mappedHead ++ [198, 51, 100, 1] }
  zone := []

def firstClaim : List ClaimMove := [.start 0 (.claim growRequest), .call 0 .normal, .call 0 .normal]

-- The allocation is collected before the growing claim lists.
theorem grown_into_own_address : Owns (claimRun firstClaim).world gateway "pool" firstAddr /\
    ((claimRun (firstClaim ++ [.start 1 (.claim growRequest),
      .env (.collect "pool-198-51-100-1"), .call 1 .normal, .call 1 .normal])).running 1).map
        (fun t => t.rest.result) = some (some (.claim (.claimed firstAddr))) := by
  decide +kernel

theorem first_claim_owned : Owns (claimStep (claimRun (firstClaim.take 2)) (.call 0 .normal)).world gateway "pool"
    firstAddr := by
  have running : ((claimRun (firstClaim.take 2)).running 0).map (fun t => t.rest.result) = some none := by decide +kernel
  have after : ((claimStep (claimRun (firstClaim.take 2)) (.call 0 .normal)).running 0).map
    (fun t => (t.tag, t.rest.result)) = some (.claim growRequest, some (.claim (.claimed firstAddr))) := by decide +kernel
  obtain ⟨t, found, unfinished⟩ := map_eq_some_iff.mp running
  obtain ⟨t', found', facts⟩ := map_eq_some_iff.mp after
  obtain ⟨tag, result⟩ := Prod.mk.inj facts
  exact ((claims_exclusive (firstClaim.take 2)).2.2 0 .normal t t' growRequest firstAddr found
    unfinished found' tag (result_eq_some.mp result)).1

end Ectobase.Mesh
