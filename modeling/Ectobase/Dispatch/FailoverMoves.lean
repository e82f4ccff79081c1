import Ectobase.Dispatch.FailoverObeys

namespace Ectobase.Dispatch

open Shared List Store

variable {α : Type} {pool : ClusterPool}

section

variable {F S : Type} {backend : StorageBackend S}

lemma serve_credible (w : World S) (c : Call) (o : Outcome) : Credible c (serve backend w c o).1 := by
  cases c with
  | getPool name =>
    intro pool told
    exact find_key (getPool_ok told)
  | updatePoolStatus sent =>
    intro stored told
    obtain ⟨cur, found, rfl, -⟩ := checked_ok told
    have named : cur.name = sent.name := find_key found
    exact ⟨named, rfl⟩
  | updateVM sent =>
    intro stored told
    obtain ⟨cur, found, rfl, -⟩ := checked_ok told
    rfl
  | listTwins ns =>
    intro twins told twin member
    rw [Outcome.answer_ok told] at member
    simpa using (mem_filter.mp member).2
  | _ => trivial

structure SameHealth (before after : ClusterPool) : Prop where
  name : after.name = before.name
  underlayPrefix : after.underlayPrefix = before.underlayPrefix
  phase : after.status.phase = before.status.phase
  lease : after.status.lease = before.status.lease
  nodePrefixes : after.status.nodePrefixes = before.status.nodePrefixes

lemma SameHealth.refl (pool : ClusterPool) : SameHealth pool pool := ⟨rfl, rfl, rfl, rfl, rfl⟩

def Ticks (w w' : World S) : Prop := w' = { w with now := w'.now }

variable (r : Reconciler F) (P : String) (start : World S)

def FencedOff (told : Trace Reply) : Prop :=
  ∃ pool, start.pools.find P = some pool /\ pool.status.phase = .unknown /\
    (∃ renewed now, pool.status.lease.bind ClusterPoolLease.renewTime = some renewed /\
      Replied told .now now /\ now - renewed > r.failoverThreshold) /\
    pool.DeclaresPrefix /\ Replied told (.storageFence P pool.underlayPrefix) (.ok ()) /\
    Replied told (.networkFence pool.underlayPrefix) (.ok ()) /\
    (∃ sent stored, Replied told (.updatePoolStatus sent) (.ok stored) /\ sent.name = P /\
      pool.underlayPrefix ∈ sent.status.fencedPrefixes) /\
    ∀ np ∈ pool.status.nodePrefixes, np ≠ "" -> Inside np pool.underlayPrefix

def GoodTarget (name : String) : Prop :=
  ∃ target ∈ start.pools.items, target.name = name /\ target.status.phase = .ready /\ target.name ≠ P

structure VMKept (told : Trace Reply) (before after : VirtualMachine) : Prop where
  others : before.clusterName ≠ P -> after = before
  moved : after.clusterName ≠ before.clusterName ->
    FencedOff r P start told /\ GoodTarget P start after.clusterName

structure TwinKept (told : Trace Reply) (before after : CompiledVM) : Prop where
  others : before.namespace_ ≠ poolNamespace P -> after = before
  terminating : after.terminating = before.terminating
  released : after.released ≠ before.released ->
    FencedOff r P start told /\ before.terminating = true

def News : (Σ c, Reply c) -> Prop
  | ⟨.getPool _, .ok pool⟩ | ⟨.updatePoolStatus _, .ok pool⟩ =>
    ∃ found, start.pools.find P = some found /\ SameHealth found pool
  | ⟨.listPools, .ok pools⟩ => ∀ p ∈ pools, ∃ found ∈ start.pools.items, SameHealth found p
  | ⟨.listVMs, .ok vms⟩ => ∀ vm ∈ vms, vm.clusterName = P ->
      ∃ found, start.vms.find vm.key = some found /\ found.clusterName = P
  | ⟨.listTwins ns, .ok twins⟩ => ∀ twin ∈ twins, twin.namespace_ = ns /\
      ∃ found, start.twins.find twin.key = some found /\ found.terminating = twin.terminating
  | _ => True

structure Tracks (told : Trace Reply) (w : World S) : Prop where
  pools : ∀ q, Option.Rel SameHealth (start.pools.find q) (w.pools.find q)
  vms : ∀ k, Option.Rel (VMKept r P start told) (start.vms.find k) (w.vms.find k)
  twins : ∀ k, Option.Rel (TwinKept r P start told) (start.twins.find k) (w.twins.find k)
  news : ∀ e ∈ told, News P start e

variable {r P start}

lemma FencedOff.later {told later : Trace Reply} (fenced : FencedOff r P start told)
  (longer : told <:+ later) : FencedOff r P start later := by
  obtain ⟨pool, found, unknown, ⟨renewed, now, lease, clock, stale⟩, declared, storage, network,
    ⟨sent, stored, replied, recorded⟩, covered⟩ := fenced
  exact ⟨pool, found, unknown, ⟨renewed, now, lease, clock.later longer, stale⟩, declared,
    storage.later longer, network.later longer, ⟨sent, stored, replied.later longer, recorded⟩,
    covered⟩

lemma VMKept.later {told later : Trace Reply} {before after : VirtualMachine}
  (kept : VMKept r P start told before after) (longer : told <:+ later) :
  VMKept r P start later before after where
  others := kept.others
  moved changed := (kept.moved changed).imp_left (·.later longer)

lemma TwinKept.later {told later : Trace Reply} {before after : CompiledVM}
  (kept : TwinKept r P start told before after) (longer : told <:+ later) :
  TwinKept r P start later before after where
  others := kept.others
  terminating := kept.terminating
  released changed := (kept.released changed).imp_left (·.later longer)

lemma rel_mono {R R' : α -> α -> Prop} (weaker : ∀ a b, R a b -> R' a b) {a b : Option α}
  (rel : Option.Rel R a b) : Option.Rel R' a b := by
  cases rel with
  | some held => exact .some (weaker _ _ held)
  | none => exact .none

lemma rel_found {R : α -> α -> Prop} {a : Option α} {y : α} (rel : Option.Rel R a (some y)) : ∃ x, a = some x /\ R x y := by
  cases rel with
  | some held => exact ⟨_, rfl, held⟩

lemma News.latest {told : Trace Reply} (news : ∀ e ∈ told, News P start e) (latest : latestPool told = some pool) :
  ∃ found, start.pools.find P = some found /\ SameHealth found pool := by
  fun_induction latestPool told with
  | case1 => cases latest
  | case2 _ _ earlier | case3 _ _ earlier =>
    obtain rfl := Option.some.inj latest
    exact news _ mem_cons_self
  | case4 _ _ _ _ ih => exact ih (fun e member => news e (mem_cons_of_mem _ member)) latest

lemma News.handed {told : Trace Reply} (news : ∀ e ∈ told, News P start e) (handed : Told P told pool) :
  ∃ found, start.pools.find P = some found /\ SameHealth found pool := by
  rcases handed with read | ⟨sent, stored⟩
  · exact news _ read
  · exact news _ stored

lemma News.bound {told : Trace Reply} (news : ∀ e ∈ told, News P start e) {k : String × String} (listed : ListedOn P told k) :
  ∃ vm, start.vms.find k = some vm /\ vm.clusterName = P := by
  obtain ⟨vms, replied, vm, member, rfl, bound⟩ := listed
  exact news _ replied vm member bound

lemma FullyFenced.off {told : Trace Reply} (news : ∀ e ∈ told, News P start e)
  (fenced : FullyFenced r P told pool) : FencedOff r P start told := by
  obtain ⟨found, here, health⟩ := News.handed news fenced.handed
  obtain ⟨now, clock, lost⟩ := fenced.lost
  have unknown : found.status.phase = .unknown := by
    by_contra other
    simp [poolLost, health.phase, other] at lost
  have stale : ∃ renewed, found.status.lease.bind ClusterPoolLease.renewTime = some renewed /\
    now - renewed > r.failoverThreshold := by
    rw [poolLost, health.phase, health.lease, if_pos unknown] at lost
    split at lost
    · cases lost
    next renewed lease => exact ⟨renewed, lease, of_decide_eq_true lost⟩
  obtain ⟨renewed, lease, late⟩ := stale
  have prefix_ := health.underlayPrefix
  refine ⟨found, here, unknown, ⟨renewed, now, lease, clock, late⟩, ?_, ?_, ?_, ?_, ?_⟩
  · simpa [ClusterPool.DeclaresPrefix, prefix_] using fenced.declared
  · exact prefix_ ▸ fenced.storage
  · exact prefix_ ▸ fenced.network
  · exact prefix_ ▸ fenced.recorded
  · rw [<- health.nodePrefixes, <- prefix_]
    exact fenced.covered

lemma Tracks.later {told : Trace Reply} {w : World S} (tracks : Tracks r P start told w)
  {e : Σ c, Reply c} (news : News P start e) : Tracks r P start (e :: told) w where
  pools := tracks.pools
  vms k := rel_mono (fun _ _ kept => kept.later (suffix_cons e told)) (tracks.vms k)
  twins k := rel_mono (fun _ _ kept => kept.later (suffix_cons e told)) (tracks.twins k)
  news := forall_mem_cons.mpr ⟨news, tracks.news⟩

lemma Tracks.elsewhere {told : Trace Reply} {w w' : World S} (tracks : Tracks r P start told w)
  (pools : w'.pools = w.pools) (vms : w'.vms = w.vms) (twins : w'.twins = w.twins) :
  Tracks r P start told w' where
  pools q := by rw [pools]; exact tracks.pools q
  vms k := by rw [vms]; exact tracks.vms k
  twins k := by rw [twins]; exact tracks.twins k
  news := tracks.news

lemma Tracks.found {told : Trace Reply} {w : World S} (tracks : Tracks r P start told w)
  {name : String} (stored : w.pools.find name = some pool) :
  ∃ found, start.pools.find name = some found /\ SameHealth found pool :=
  rel_found (stored ▸ tracks.pools name)

lemma Tracks.storePoolStatus {told : Trace Reply} {w : World S} (tracks : Tracks r P start told w) {sent cur : ClusterPool}
  (built : ∃ pool, latestPool told = some pool /\ BuiltFrom pool sent)
  (current : w.pools.find sent.name = some cur) :
  Tracks r P start told (storePoolStatus w sent cur).2 /\ ∃ found, start.pools.find P = some found /\
      SameHealth found (Dispatch.storePoolStatus w sent cur).1 := by
  obtain ⟨pool, latest, from_⟩ := built
  obtain ⟨found, here, health⟩ := News.latest tracks.news latest
  have named : found.name = P := find_key here
  have sentTo : sent.name = P := from_.name.trans (health.name.trans named)
  obtain ⟨before, there, known⟩ := tracks.found current
  rw [sentTo, here] at there
  obtain rfl := Option.some.inj there
  have stored : SameHealth found (Dispatch.storePoolStatus w sent cur).1 :=
    { name := known.name
      underlayPrefix := known.underlayPrefix
      phase := from_.phase.trans health.phase
      lease := from_.lease.trans health.lease
      nodePrefixes := from_.nodePrefixes.trans health.nodePrefixes }
  refine ⟨⟨fun q => ?_, tracks.vms, tracks.twins, tracks.news⟩, found, here, stored⟩
  have at_ : (Dispatch.storePoolStatus w sent cur).1.name = P := known.name.trans named
  show Option.Rel SameHealth (start.pools.find q) ((w.pools.put _).find q)
  rw [find_put]
  split
  next same =>
    have key : q = P := same.trans at_
    rw [key, here]
    exact .some stored
  · exact tracks.pools q

lemma Tracks.storeVM {told : Trace Reply} {w : World S} (tracks : Tracks r P start told w)
  {sent cur : VirtualMachine} (fenced : ∃ pool, FullyFenced r P told pool)
  (listed : ListedOn P told sent.key)
  (target : ∃ pools, Replied told .listPools (.ok pools) /\ ∃ target ∈ pools,
    target.name = sent.clusterName /\ target.status.phase = .ready /\ target.name ≠ P) :
  Tracks r P start told (storeVM w sent cur).2 := by
  obtain ⟨found, here, bound⟩ := News.bound tracks.news listed
  obtain ⟨pool, full⟩ := fenced
  obtain ⟨pools, offered, p, member, named, ready, apart⟩ := target
  obtain ⟨other, there, health⟩ := tracks.news _ offered p member
  refine ⟨tracks.pools, fun k => ?_, tracks.twins, tracks.news⟩
  show Option.Rel _ (start.vms.find k) ((w.vms.put _).find k)
  rw [find_put]
  split
  next same =>
    have key : k = sent.key := same
    rw [key, here]
    refine .some ⟨fun elsewhere => absurd bound elsewhere, fun _ => ⟨full.off tracks.news, ?_⟩⟩
    exact ⟨other, there, health.name.symm.trans named, health.phase.symm.trans ready, health.name ▸ apart⟩
  · exact tracks.vms k

lemma Tracks.storeVMStatus {told : Trace Reply} {w : World S} (tracks : Tracks r P start told w)
  {sent cur : VirtualMachine} (listed : ListedOn P told sent.key)
  (current : w.vms.find sent.key = some cur) :
  Tracks r P start told (storeVMStatus w sent cur).2 := by
  obtain ⟨found, here, bound⟩ := News.bound tracks.news listed
  have rel := tracks.vms sent.key
  rw [here, current] at rel
  cases rel with
  | some kept =>
    refine ⟨tracks.pools, fun k => ?_, tracks.twins, tracks.news⟩
    show Option.Rel _ (start.vms.find k) ((w.vms.put _).find k)
    rw [find_put]
    split
    next same =>
      have unmoved : cur.key = sent.key := find_key current
      have key : k = sent.key := same.trans unmoved
      rw [key, here]
      exact .some ⟨fun elsewhere => absurd bound elsewhere, kept.moved⟩
    · exact tracks.vms k

lemma Tracks.storeReleased {told : Trace Reply} {w : World S} (tracks : Tracks r P start told w)
  {twin cur : CompiledVM} (fenced : ∃ pool, FullyFenced r P told pool)
  (retired : twin.terminating = true)
  (listed : ∃ twins, Replied told (.listTwins (poolNamespace P)) (.ok twins) /\ twin ∈ twins)
  (current : w.twins.find twin.key = some cur) :
  Tracks r P start told (storeReleased w cur).2 := by
  obtain ⟨pool, full⟩ := fenced
  obtain ⟨twins, replied, member⟩ := listed
  obtain ⟨inside, found, here, same⟩ := tracks.news _ replied twin member
  have rel := tracks.twins twin.key
  rw [here, current] at rel
  cases rel with
  | some kept =>
    refine ⟨tracks.pools, tracks.vms, fun k => ?_, tracks.news⟩
    show Option.Rel _ (start.twins.find k) ((w.twins.put _).find k)
    rw [find_put]
    split
    next at_ =>
      have unmoved : cur.key = twin.key := find_key current
      have key : k = twin.key := at_.trans unmoved
      rw [key, here]
      have place : found.namespace_ = poolNamespace P :=
        (congrArg Prod.fst (find_key here)).trans inside
      refine .some ⟨fun elsewhere => absurd place elsewhere, kept.terminating, fun _ => ?_⟩
      exact ⟨full.off tracks.news, same.trans retired⟩
    · exact tracks.twins k

lemma Tracks.told {told : Trace Reply} {w : World S} (tracks : Tracks r P start told w)
  {c : Call} (permitted : Guarded r P told c) (o : Outcome) :
  News P start ⟨c, (serve backend w c o).1⟩ := by
  cases c with
  | getPool name =>
    have here : name = P := permitted
    cases reply : (serve backend w (.getPool name) o).1 with
    | error => trivial
    | ok pool =>
      rw [here] at reply
      exact tracks.found (getPool_ok reply)
  | updatePoolStatus sent =>
    cases reply : (serve backend w (.updatePoolStatus sent) o).1 with
    | error => trivial
    | ok pool =>
      obtain ⟨cur, found, rfl, -⟩ := checked_ok reply
      exact (tracks.storePoolStatus permitted found).2
  | listPools =>
    cases reply : (serve backend w .listPools o).1 with
    | error => trivial
    | ok pools =>
      rw [Outcome.answer_ok reply]
      intro p member
      obtain ⟨found, stored, health⟩ := tracks.found (find_of_mem member)
      exact ⟨found, mem_of_find stored, health⟩
  | listVMs =>
    cases reply : (serve backend w .listVMs o).1 with
    | error => trivial
    | ok vms =>
      rw [Outcome.answer_ok reply]
      intro vm member bound
      obtain ⟨found, before, kept⟩ := rel_found (find_of_mem member ▸ tracks.vms vm.key)
      refine ⟨found, before, ?_⟩
      by_contra elsewhere
      have moved : vm.clusterName ≠ found.clusterName := fun same => elsewhere (same ▸ bound)
      obtain ⟨-, target, -, named, -, apart⟩ := kept.moved moved
      exact apart (named.trans bound)
  | listTwins ns =>
    cases reply : (serve backend w (.listTwins ns) o).1 with
    | error => trivial
    | ok twins =>
      rw [Outcome.answer_ok reply]
      intro twin member
      obtain ⟨member, inside⟩ := mem_filter.mp member
      refine ⟨by simpa using inside, ?_⟩
      obtain ⟨found, before, kept⟩ := rel_found (find_of_mem member ▸ tracks.twins twin.key)
      exact ⟨found, before, kept.terminating.symm⟩
  | _ => trivial

lemma Tracks.call {told : Trace Reply} {w : World S} (tracks : Tracks r P start told w)
  {c : Call} (permitted : Guarded r P told c) (o : Outcome) :
  Tracks r P start (⟨c, (serve backend w c o).1⟩ :: told) (serve backend w c o).2 := by
  refine Tracks.later ?_ (tracks.told permitted o)
  cases c with
  | updatePoolStatus sent =>
    exact checked_keeps (Tracks r P start told) tracks fun _ found _ => (tracks.storePoolStatus permitted found).1
  | updateVM vm =>
    exact checked_keeps (Tracks r P start told) tracks fun _ _ _ => tracks.storeVM permitted.1 permitted.2.2.1 permitted.2.2.2
  | updateVMStatus vm =>
    exact checked_keeps (Tracks r P start told) tracks fun _ found _ => tracks.storeVMStatus permitted found
  | patchReleased twin =>
    exact checked_keeps (Tracks r P start told) tracks
      fun _ found _ => tracks.storeReleased permitted.1 permitted.2.2.1 permitted.2.2.2 found
  | storageFence | storageRelease => exact tracks.elsewhere rfl rfl rfl
  | now => exact tracks
  | getPool | announcedFrom =>
    simp only [serve]
    split
    · exact tracks
    · rwa [Outcome.answer_same]
  | _ =>
    simp only [serve]
    rwa [Outcome.answer_same]

lemma rel_self {R : α -> α -> Prop} (refl : ∀ x, R x x) (a : Option α) : Option.Rel R a a := by
  cases a with
  | none => exact .none
  | some x => exact .some (refl x)

lemma Tracks.first : Tracks r P start [] start where
  pools _ := rel_self SameHealth.refl _
  vms _ := rel_self (fun _ => ⟨fun _ => rfl, fun changed => absurd rfl changed⟩) _
  twins _ := rel_self (fun _ => ⟨fun _ => rfl, rfl, fun changed => absurd rfl changed⟩) _
  news := forall_mem_nil _

lemma Ticks.tracks {told : Trace Reply} {w w' : World S} (ticks : Ticks w w')
  (tracks : Tracks r P start told w) : Tracks r P start told w' := by
  rw [ticks]
  exact tracks.elsewhere rfl rfl rfl

end

theorem failover_moves_behind_fence {F S : Type} [LinearOrder F] [Sub F] [Div F] [Zero F] [One F]
  (r : Reconciler F) (backend : StorageBackend S) (P : String) (start : World S)
  (clock : Nat -> Int) (outcome : Nat -> Outcome) :
  let pass := (reconcile r P).run (serve backend) (fun n w => { w with now := clock n }) outcome [] start
  let told := Log.trace pass.2.1
  let left := pass.2.2
  (∀ key, Option.Rel (fun before after : VirtualMachine =>
    (before.clusterName ≠ P -> after = before) /\
    (after.clusterName ≠ before.clusterName -> FencedOff r P start told /\ GoodTarget P start after.clusterName))
    (start.vms.find key) (left.vms.find key)) /\
  ∀ key, Option.Rel (fun before after : CompiledVM =>
    (before.namespace_ ≠ poolNamespace P -> after = before) /\
    (after.released ≠ before.released -> FencedOff r P start told /\ before.terminating = true))
    (start.twins.find key) (left.twins.find key) := by
  intro pass told left
  have ticking : ∀ (n : Nat) (w : World S), Ticks w { w with now := clock n } := fun _ _ => rfl
  have tracks : Tracks r P start told left :=
    (reconcile_obeys r P).run_invariant (fun log w => Tracks r P start log.trace w)
      serve_credible ticking outcome Tracks.first
      (fun _ _ _ tracks ticks => ticks.tracks tracks)
      (fun _ _ _ o tracks permitted => tracks.call permitted o)
  refine ⟨fun key => ?_, fun key => ?_⟩
  · exact rel_mono (fun _ _ kept => ⟨kept.others, kept.moved⟩) (tracks.vms key)
  · exact rel_mono (fun _ _ kept => ⟨kept.others, kept.released⟩) (tracks.twins key)

end Ectobase.Dispatch
