import Ectobase.Dispatch.PoolHistory
import Ectobase.Shared.Runs

namespace Ectobase.Dispatch

open Shared List
open Mesh (RouteKey RIB nexthopWithin)

section

variable {F S : Type}

def AskedAt (earlier : Log (Watched S) Reply) (c : Call) (w : Watched S) : Prop :=
  ∃ reply, (⟨w, c, reply⟩ : Answered (Watched S) Reply) ∈ earlier

variable (r : Reconciler F) (backend : StorageBackend S) (P : String)

-- Each as of when the pass read it.
structure ReleaseJustified (earlier : Log (Watched S) Reply) (p : String) : Prop where
  pool : ∃ read clock pool renewed, AskedAt earlier (.getPool P) read /\
    AskedAt earlier .now clock /\ read.world.pools.find P = some pool /\
    p ∈ pool.status.fencedPrefixes /\ p ∈ read.reported /\ pool.status.phase = .ready /\
    pool.status.lease.bind ClusterPoolLease.renewTime = some renewed /\
    clock.world.now - renewed <= if r.healthStale = 0 then defaultHealthStale else r.healthStale
  recorded : ∃ read, AskedAt earlier (.fencedFor p) read /\
    backend.fencedFor read.world.storage p = some P
  routes : ∃ listed, AskedAt earlier .listNICs listed /\ ∀ nic ∈ listed.world.nics,
    nic.namespace_ ≠ poolNamespace P -> nic.vni ≠ 0 -> ∀ k ∈ hostKeys nic,
      ∃ asked keys net, AskedAt earlier (.announcedFrom p keys) asked /\
        parseCIDR p = some net /\ ∀ origin nhs,
          (asked.world.rib.entry k).origins.lookup origin = some nhs ->
            ∀ nh ∈ nhs, nexthopWithin nh net = false

variable [LinearOrder F] [Sub F] [Div F] [Zero F] [One F]

def GateHolds (w : Watched S) : Step S P -> Prop
  | .event _ => True
  | .pass weather => ∀ later e earlier, (passOver r backend P weather w).1 = later ++ e :: earlier ->
      (∀ p, e.call = .networkRelease p -> ReleaseJustified r backend P earlier p) /\
      ∀ pool p, e.call = .storageRelease pool p -> pool = P /\ ReleaseJustified r backend P earlier p /\
        Replied (Log.trace earlier) (.networkRelease p) (.ok ())

-- No drain report lands in a pass that fences or rebinds; no NIC elsewhere has a negative VNI.
def Orderly (w : Watched S) : Step S P -> Prop
  | .event _ => True
  | .pass weather =>
    let out := passOver r backend P weather w
    (Disturbing out.1 = true -> out.2.landing = []) /\
      ∀ e ∈ out.1, ∀ nic ∈ e.world.world.nics, nic.namespace_ ≠ poolNamespace P -> 0 <= nic.vni

end

section

variable {F S : Type} {r : Reconciler F} {backend : StorageBackend S} {P : String}

variable {who : String} {owner : List (RouteKey × String)}

lemma mem_claimKey {k k' : RouteKey} : k ∈ (claimKey who owner k').map Prod.fst ↔ k ∈ owner.map Prod.fst \/ k = k' := by
  unfold claimKey
  split
  next known =>
    constructor
    · exact .inl
    · rintro (listed | rfl)
      · exact listed
      · exact known
  · simp

lemma mem_claimKeys {keys : List RouteKey} {k : RouteKey} :
  k ∈ (keys.foldl (claimKey who) owner).map Prod.fst ↔ k ∈ owner.map Prod.fst \/ k ∈ keys := by
  induction keys generalizing owner with
  | nil => simp
  | cons k' keys ih => rw [foldl_cons, ih, mem_claimKey, mem_cons, or_assoc]

lemma mem_ownersElsewhere {nics : List CompiledNIC} {k : RouteKey} : k ∈ (ownersElsewhere P nics).map Prod.fst ↔
    ∃ nic ∈ nics, nic.namespace_ ≠ poolNamespace P /\ 0 < nic.vni /\ k ∈ hostKeys nic := by
  suffices general : ∀ owner : List (RouteKey × String), k ∈ (nics.foldl (fun owner t =>
        if t.namespace_ = poolNamespace P \/ t.vni <= 0 then owner
        else (hostKeys t).foldl (claimKey (describeTwin t)) owner) owner).map Prod.fst ↔
      k ∈ owner.map Prod.fst \/ ∃ nic ∈ nics, nic.namespace_ ≠ poolNamespace P /\ 0 < nic.vni /\ k ∈ hostKeys nic by
    rw [ownersElsewhere, general]
    simp
  induction nics with
  | nil => simp
  | cons t nics ih =>
    intro owner
    rw [foldl_cons, ih, exists_mem_cons_iff, <- or_assoc]
    apply or_congr_left
    split
    next skipped =>
      have skipped' : ¬ (t.namespace_ ≠ poolNamespace P /\ 0 < t.vni) := by
        rw [not_and_or, not_not, Int.not_lt]
        exact skipped
      constructor
      · exact .inl
      · rintro (listed | ⟨elsewhere, positive, -⟩)
        · exact listed
        · exact absurd ⟨elsewhere, positive⟩ skipped'
    next taken =>
      rw [not_or, Int.not_le] at taken
      rw [mem_claimKeys]
      simp [taken.1, taken.2]

lemma ReleaseGate.justified {log later earlier : Log (Watched S) Reply} {e : Answered (Watched S) Reply} {p : String}
  {moves : Watched S -> Watched S -> Prop} {start w : Watched S}
  (leads : Leads (watch backend) moves (Guarded r P) start log w) (inv : PassInv P log w)
  (split : log = later ++ e :: earlier)
  (vnis : ∀ e ∈ log, ∀ nic ∈ e.world.world.nics, nic.namespace_ ≠ poolNamespace P -> 0 <= nic.vni)
  (gate : ReleaseGate r P (Log.trace earlier) p) :
  ReleaseJustified r backend P earlier p := by
  have inside : earlier ⊆ log := by
    rw [split]
    exact List.Subset.trans (subset_cons_self _ _) (subset_append_right _ _)
  have answered : ∀ w c reply, (⟨w, c, reply⟩ : Answered (Watched S) Reply) ∈ earlier ->
    ∃ o, reply = (serve backend w.world c o).1 := by
    intro w c reply member
    obtain ⟨newer, older, parts⟩ := append_of_mem (inside member)
    exact (parts ▸ leads).at_call.2
  obtain ⟨⟨pool, now, read, clock, back, listed, owner, drained⟩, nics, nicsRead, asked⟩ := gate
  obtain ⟨readW, read⟩ := Log.mem_of_trace read
  obtain ⟨clockW, clock⟩ := Log.mem_of_trace clock
  obtain ⟨ownerW, owner⟩ := Log.mem_of_trace owner
  obtain ⟨nicsW, nicsRead⟩ := Log.mem_of_trace nicsRead
  constructor
  · obtain ⟨o, reply⟩ := answered _ _ _ read
    have found := getPool_ok reply.symm
    obtain ⟨o', tick⟩ := answered _ _ _ clock
    have time : clockW.world.now = now := tick.symm
    obtain ⟨ready, renewed, lease, timely⟩ := reachable_iff.mp back
    refine ⟨readW, clockW, pool, renewed, ⟨_, read⟩, ⟨_, clock⟩, found, listed, ?_, ready, lease, ?_⟩
    · apply inv.met _ (inside read)
      rw [World.drained_of_find found]
      exact drained
    · rw [time]
      exact timely
  · obtain ⟨o, reply⟩ := answered _ _ _ owner
    exact ⟨ownerW, ⟨_, owner⟩, (Outcome.answer_ok reply.symm).symm⟩
  · refine ⟨nicsW, ⟨_, nicsRead⟩, ?_⟩
    obtain ⟨o, reply⟩ := answered _ _ _ nicsRead
    have same : nics = nicsW.world.nics := Outcome.answer_ok reply.symm
    intro nic member elsewhere nonzero k key
    have positive : 0 < nic.vni :=
      lt_of_le_of_ne (vnis _ (inside nicsRead) nic member elsewhere) (Ne.symm nonzero)
    obtain ⟨batch, inBatch, replied⟩ := asked k (mem_ownersElsewhere.mpr ⟨nic, same ▸ member, elsewhere, positive, key⟩)
    obtain ⟨askedW, replied⟩ := Log.mem_of_trace replied
    obtain ⟨o, reply⟩ := answered _ _ _ replied
    have silent := announcedFrom_ok reply.symm
    cases parsed : parseCIDR p with
    | none =>
      rw [RIB.announcedFrom, parsed] at silent
      cases silent
    | some net =>
      refine ⟨askedW, batch, net, ⟨_, replied⟩, rfl, fun origin nhs stored nh member => ?_⟩
      exact RIB.not_within_of_announcedFrom silent parsed inBatch (Mesh.mem_spellings_self k) stored member

end

section

variable {F S : Type} [LinearOrder F] [Sub F] [Div F] [Zero F] [One F]
variable {r : Reconciler F} {backend : StorageBackend S} {P : String}

lemma Orderly.step {w : Watched S} {step : Step S P}
  (orderly : Orderly r backend P w step) (settled : w.world.drained P ⊆ w.reported) :
  (step.apply r backend P w).world.drained P ⊆ (step.apply r backend P w).reported /\ GateHolds r backend P w step := by
  cases step with
  | event e =>
    refine ⟨?_, trivial⟩
    obtain ⟨more, lands⟩ := e.apply_lands w
    rw [Step.apply, Watched.settle_reported]
    exact lands.settled settled
  | pass weather =>
    obtain ⟨leads, inv⟩ := passOver_inv r backend weather settled
    obtain ⟨clear, vnis⟩ := orderly
    refine ⟨?_, fun later e earlier split => ?_⟩
    · rw [Step.apply]
      split
      next disturbing =>
        obtain ⟨pool, latest, none_drained⟩ := inv.disturbed (clear disturbing) disturbing
        have left := inv.still (clear disturbing) pool latest
        rw [none_drained] at left
        exact left
      · rw [Watched.settle_reported]
        exact inv.stored
    · have permitted := (split ▸ leads).at_call.1
      refine ⟨fun p releases => ?_, fun pool p releases => ?_⟩
      · rw [releases] at permitted
        exact ReleaseGate.justified leads inv split vnis permitted
      · rw [releases] at permitted
        obtain ⟨own, gate, network⟩ := permitted
        exact ⟨own, ReleaseGate.justified leads inv split vnis gate, network⟩

theorem release_gate_holds (start : World S) (history : List (Step S P))
  (orderly : Along (Step.apply r backend P) (Orderly r backend P) (.start start P) history) :
  Along (Step.apply r backend P) (GateHolds r backend P) (.start start P) history := by
  have settled : start.drained P ⊆ (Watched.start start P).reported := subset_append_left _ _
  have keep : ∀ (w : Watched S) (step : Step S P), w.world.drained P ⊆ w.reported ->
    Orderly r backend P w step -> _ := fun _ _ settled orderly => orderly.step settled
  exact orderly.imp keep settled

end

def health {S : Type} (P : String) (phase : Phase) (lease : Option ClusterPoolLease) : Bystander S P where
  change w := patchPoolStatus w P fun status => { status with phase, lease }
  keeps w := by
    rw [drained_patchPoolStatus]
    exact List.Subset.refl _

-- A backend that keeps, per fenced prefix, the pool it is fenced for and never fails.
def ledger : StorageBackend (List (String × String)) where
  fence fences pool pfx _ := (.ok (), (pfx, pool) :: fences)
  release fences _ pfx _ := (.ok (), fences.filter fun f => f.1 ≠ pfx)
  fencedFor fences pfx := fences.lookup pfx

def exactScores : Reconciler Int where
  libs := { asSelector := fun _ => .ok fun _ => true, approximate := id }
  routes := true
  failoverThreshold := 100
  healthStale := 30

def idlePool (name pfx : String) (phase : Phase) : ClusterPool where
  name := name
  resourceVersion := 1
  generation := 1
  creationTimestamp := 0
  labels := []
  underlayPrefix := pfx
  status :=
    { phase, conditions := [], allocatable := .empty, lease := some ⟨some 0⟩,
      nodePrefixes := [], fencedPrefixes := [], nodeDrain := [] }

def boundVM (pool : String) : VirtualMachine where
  namespace_ := "tenant"
  name := "vm"
  resourceVersion := 1
  generation := 1
  clusterName := pool
  requests := .empty
  poolSelector := none
  antiAffinity := none
  conditions := []

def lostWorld {S : Type} (storage : S) : World S where
  now := 1000
  revision := 1
  pools := (Store.empty.put (idlePool "a" "10.1.0.0/16" .unknown)).put (idlePool "b" "10.2.0.0/16" .ready)
  vms := Store.empty.put (boundVM "a")
  twins := Store.empty
  nics := []
  storage := storage
  rib := Mesh.newRIB

-- The failover pass over `a` asks twice for the time and once for the pool, fences and records the
-- fence in its calls 3 to 5, and rebinds the VM in call 9.
def quietly (P : String) : Weather (List (String × String)) P where
  events _ := []
  outcome _ := .normal

def drainReport : Event (List (String × String)) "a" := .report [] (some [⟨"10.1.0.0/16", true⟩])

def reportDuringPass : Weather (List (String × String)) "a" where
  events n := if n = 6 then [drainReport] else []
  outcome _ := .normal

def backAgain : Step (List (String × String)) "a" :=
  .event (.other (health "a" .ready (some ⟨some 990⟩)))

def networkReleases : Call -> Option String
  | .networkRelease p => some p
  | _ => none

lemma networkReleases_eq_some {c : Call} {p : String} (releases : networkReleases c = some p) : c = .networkRelease p := by
  cases c with
  | networkRelease q => exact congrArg Call.networkRelease (Option.some.inj releases)
  | _ => cases releases

def LetsGo (log : Log (Watched (List (String × String))) Reply) (p : String) : Prop :=
  ∃ e ∈ log, networkReleases e.call = some p

instance (log : Log (Watched (List (String × String))) Reply) (p : String) :
  Decidable (LetsGo log p) :=
  inferInstanceAs (Decidable (∃ e ∈ log, networkReleases e.call = some p))

theorem release_on_report_before_rebind : ¬ Along (Step.apply exactScores ledger "a") (GateHolds exactScores ledger "a")
    (.start (lostWorld []) "a") [.pass reportDuringPass, backAgain, .pass (quietly "a")] := by
  intro gate
  have third := gate.2.2.1
  generalize met : Step.apply exactScores ledger "a" _ backAgain = w at third
  have unreported : ∀ e ∈ (passOver exactScores ledger "a" (quietly "a") w).1, e.world.reported = [] := by
    rw [<- met]
    decide +kernel
  have lets_go : LetsGo (passOver exactScores ledger "a" (quietly "a") w).1 "10.1.0.0/16" := by
    rw [<- met]
    decide +kernel
  obtain ⟨e, listed, releases⟩ := lets_go
  obtain ⟨later, earlier, split⟩ := append_of_mem listed
  have justified := (third later e earlier split).1 _ (networkReleases_eq_some releases)
  obtain ⟨read, -, -, -, ⟨_, asked⟩, -, -, -, reported, -⟩ := justified.pool
  have inside : (⟨read, _, _⟩ : Answered _ Reply) ∈ later ++ e :: earlier :=
    mem_append_right _ (mem_cons_of_mem _ asked)
  have silent : read.reported = [] := unreported _ (split ▸ inside)
  rw [silent] at reported
  cases reported

theorem release_on_report_after_rebind :
  let history := [.pass (quietly "a"), .event drainReport, backAgain, .pass (quietly "a")]
  LetsGo (passOver exactScores ledger "a" (quietly "a")
      ((history.take 3).foldl (Step.apply exactScores ledger "a") (.start (lostWorld []) "a"))).1
      "10.1.0.0/16" /\
    Along (Step.apply exactScores ledger "a") (GateHolds exactScores ledger "a") (.start (lostWorld []) "a") history := by
  refine ⟨by decide +kernel, release_gate_holds _ _ ⟨?_, trivial, trivial, ?_, trivial⟩⟩
  · unfold Orderly
    decide +kernel
  · unfold Orderly
    decide +kernel

end Ectobase.Dispatch
