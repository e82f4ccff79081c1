import Ectobase.Dispatch.Failover

namespace Ectobase.Dispatch

open Shared
open Mesh (RouteKey RouteHolding)

-- What a failover pass has been told when it makes each of its calls. The guard speaks of the
-- replies alone, so it holds however others move the world between two calls.

variable {told : Trace Reply} {pool : ClusterPool} {α : Type} {p : String} {placed : Except String (List (RouteKey × String))}

def Told (P : String) (told : Trace Reply) (pool : ClusterPool) : Prop :=
  Replied told (.getPool P) (.ok pool) \/ ∃ sent, Replied told (.updatePoolStatus sent) (.ok pool)

lemma Told.later {P : String} {later : Trace Reply} (handed : Told P told pool)
  (longer : told <:+ later) : Told P later pool :=
  handed.imp (·.later longer) fun ⟨sent, replied⟩ => ⟨sent, replied.later longer⟩

def latestPool : Trace Reply -> Option ClusterPool
  | [] => none
  | ⟨.getPool _, .ok pool⟩ :: _ => some pool
  | ⟨.updatePoolStatus _, .ok pool⟩ :: _ => some pool
  | _ :: earlier => latestPool earlier

def Inside (nodePrefix declared : String) : Prop :=
  ∃ np d, NetPrefix.parse nodePrefix = some np /\ NetPrefix.parse declared = some d /\ np.within d = true

section

variable {F : Type} (r : Reconciler F) (P : String)

structure FullyFenced (told : Trace Reply) (pool : ClusterPool) : Prop where
  handed : Told P told pool
  lost : ∃ now, Replied told .now now /\ poolLost pool now r.failoverThreshold = true
  declared : pool.DeclaresPrefix
  storage : Replied told (.storageFence P pool.underlayPrefix) (.ok ())
  network : Replied told (.networkFence pool.underlayPrefix) (.ok ())
  recorded : ∃ sent stored, Replied told (.updatePoolStatus sent) (.ok stored) /\ sent.name = P /\
    pool.underlayPrefix ∈ sent.status.fencedPrefixes
  covered : ∀ np ∈ pool.status.nodePrefixes, np ≠ "" -> Inside np pool.underlayPrefix

def ListedOn (told : Trace Reply) (key : String × String) : Prop :=
  ∃ vms, Replied told .listVMs (.ok vms) /\ ∃ vm ∈ vms, vm.key = key /\ vm.clusterName = P

def NoDrain (told : Trace Reply) : Prop :=
  ∃ pool, latestPool told = some pool /\ pool.drainedPrefixes = []

def Recovered (told : Trace Reply) (p : String) : Prop :=
  ∃ pool now, Replied told (.getPool P) (.ok pool) /\ Replied told .now now /\
    reachable pool now (if r.healthStale = 0 then defaultHealthStale else r.healthStale) = true /\
    p ∈ pool.status.fencedPrefixes /\ Replied told (.fencedFor p) (.ok (some P)) /\
    p ∈ pool.drainedPrefixes

-- All that lets a fence go.
def ReleaseGate (told : Trace Reply) (p : String) : Prop :=
  Recovered r P told p /\ ∃ nics, Replied told .listNICs (.ok nics) /\ ∀ k ∈ (ownersElsewhere P nics).map Prod.fst,
      ∃ batch, k ∈ batch /\ Replied told (.announcedFrom p batch) (.ok [])

structure BuiltFrom (pool sent : ClusterPool) : Prop where
  name : sent.name = pool.name
  version : sent.resourceVersion = pool.resourceVersion
  phase : sent.status.phase = pool.status.phase
  lease : sent.status.lease = pool.status.lease
  nodePrefixes : sent.status.nodePrefixes = pool.status.nodePrefixes
  allocatable : sent.status.allocatable = pool.status.allocatable
  drained : sent.drainedPrefixes ⊆ pool.drainedPrefixes

def Guarded (told : Trace Reply) : Call -> Prop
  | .getPool name => name = P
  | .updatePoolStatus sent => ∃ pool, latestPool told = some pool /\ BuiltFrom pool sent
  | .storageFence pool _ => pool = P /\ NoDrain told
  | .networkFence _ => NoDrain told
  | .updateVM vm =>
    (∃ pool, FullyFenced r P told pool) /\ NoDrain told /\ ListedOn P told vm.key /\
      ∃ pools, Replied told .listPools (.ok pools) /\ ∃ target ∈ pools,
        target.name = vm.clusterName /\ target.status.phase = .ready /\ target.name ≠ P
  | .updateVMStatus vm => ListedOn P told vm.key
  | .patchReleased twin =>
    (∃ pool, FullyFenced r P told pool) /\ NoDrain told /\ twin.terminating = true /\
      ∃ twins, Replied told (.listTwins (poolNamespace P)) (.ok twins) /\ twin ∈ twins
  | .networkRelease p => ReleaseGate r P told p
  | .storageRelease pool p =>
    pool = P /\ ReleaseGate r P told p /\ Replied told (.networkRelease p) (.ok ())
  | _ => True

end

def Credible : (c : Call) -> Reply c -> Prop
  | .getPool name, r => ∀ pool, r = .ok pool -> pool.name = name
  | .updatePoolStatus sent, r =>
    ∀ stored, r = .ok stored -> stored.name = sent.name /\ stored.status = sent.status
  | .updateVM sent, r => ∀ stored, r = .ok stored -> stored.key = sent.key
  | .listTwins ns, r => ∀ twins, r = .ok twins -> ∀ twin ∈ twins, twin.namespace_ = ns
  | _, _ => True

def Quiet : Call -> Prop
  | .getPool _ | .updatePoolStatus _ => False
  | _ => True

lemma latestPool_quiet {c : Call} (quiet : Quiet c) (reply : Reply c) (told : Trace Reply) :
  latestPool (⟨c, reply⟩ :: told) = latestPool told := by
  cases c <;> first | exact absurd quiet id | rfl

section

variable {F : Type} {r : Reconciler F} {P : String}

def Quietly (r : Reconciler F) (P : String) (told : Trace Reply) (c : Call) : Prop :=
  Guarded r P told c /\ Quiet c

-- An own fence is listed and, if its record could be read, said to be the pool's.
def Verified (pool : ClusterPool) (out : List String × List String) (told : Trace Reply) : Prop :=
  ∀ p ∈ out.1, p ∉ out.2 -> p ∈ pool.status.fencedPrefixes /\ Replied told (.fencedFor p) (.ok (some pool.name))

lemma ownFences_obeys (pool : ClusterPool) (told : Trace Reply) :
  (ownFences pool).Obeys Credible (Quietly r P) (Verified pool) told := by
  refine (Prog.obeys_foldlM (fun items out later => items ⊆ pool.status.fencedPrefixes /\ Verified pool out later)
    ?_ ⟨List.Subset.refl _, by simp [Verified]⟩).weaken fun _ _ _ held => held.2
  rintro p items ⟨own, unverified⟩ earlier ⟨listed, known⟩
  rw [List.cons_subset] at listed
  rw [Prog.obeys_bind]
  refine Prog.obeys_ask.mpr ⟨⟨trivial, trivial⟩, fun reply _ => ?_⟩
  have keep : Verified pool (own, unverified) (⟨.fencedFor p, reply⟩ :: earlier) :=
    fun q owned clear => (known q owned clear).imp_right (·.later (List.suffix_cons _ _))
  match reply with
  | .error _ =>
    refine ⟨listed.2, fun q owned clear => ?_⟩
    simp only [List.mem_append, List.mem_singleton, not_or] at owned clear
    exact keep q (owned.resolve_right clear.2) clear.1
  | .ok none => exact ⟨listed.2, keep⟩
  | .ok (some holder) =>
    by_cases mine : holder = pool.name
    · subst mine
      simp only [if_true, Prog.obeys_pure]
      refine ⟨listed.2, fun q owned clear => ?_⟩
      rcases List.mem_append.mp owned with before | here
      · exact keep q before clear
      · rw [List.mem_singleton.mp here]
        exact ⟨listed.1, replied_head _ _ _⟩
    · simp only [mine, if_false, Prog.obeys_pure]
      exact ⟨listed.2, keep⟩

lemma placedElsewhere_obeys (lostPool : String) (told : Trace Reply) :
  (placedElsewhere lostPool).Obeys Credible (Quietly r P) (fun out later => ∀ owner, out = .ok owner ->
      ∃ nics, Replied later .listNICs (.ok nics) /\ owner = ownersElsewhere lostPool nics) told := by
  refine Prog.obeys_call ⟨trivial, trivial⟩ fun reply _ => ?_
  match reply with
  | .error _ => exact fun owner same => nomatch same
  | .ok nics =>
    intro owner same
    exact ⟨nics, replied_head _ _ _, (Except.ok.inj same).symm⟩

lemma heldWithin_obeys (pfx : String) (batches : List (List RouteKey)) (held : List RouteHolding) (told : Trace Reply) :
  (heldWithin pfx batches held).Obeys Credible (Quietly r P) (fun out later => out = .ok [] -> held = [] /\
      ∀ batch ∈ batches, Replied later (.announcedFrom pfx batch) (.ok [])) told := by
  induction batches generalizing held told with
  | nil =>
    intro empty
    exact ⟨Except.ok.inj empty, by simp⟩
  | cons batch rest ih =>
    refine Prog.obeys_call ⟨trivial, trivial⟩ fun reply _ => ?_
    match reply with
    | .error _ => exact fun empty => nomatch empty
    | .ok more =>
      refine (ih (held ++ more) _).weaken fun out later longer known empty => ?_
      obtain ⟨none_held, others⟩ := known empty
      obtain ⟨rfl, rfl⟩ := List.append_eq_nil_iff.mp none_held
      refine ⟨rfl, List.forall_mem_cons.mpr ⟨?_, others⟩⟩
      exact (replied_head _ _ _).later longer

lemma mem_batches {n : Nat} (positive : 0 < n) {keys : List α} {k : α} (member : k ∈ keys)
  : ∃ batch ∈ batches n keys, k ∈ batch := by
  obtain ⟨i, bound, rfl⟩ := List.mem_iff_getElem.mp member
  refine ⟨(keys.drop (i / n * n)).take n, ?_, ?_⟩
  · refine List.mem_map.mpr ⟨i / n, List.mem_range.mpr ?_, rfl⟩
    rw [Nat.div_lt_iff_lt_mul positive]
    have whole := Nat.div_add_mod (keys.length + n - 1) n
    have part := Nat.mod_lt (keys.length + n - 1) positive
    rw [Nat.mul_comm] at whole
    omega
  · have offset : i = i / n * n + i % n := by
      rw [Nat.mul_comm]
      exact (Nat.div_add_mod i n).symm
    refine List.mem_iff_getElem.mpr ⟨i % n, ?_, ?_⟩
    · have small := Nat.mod_lt i positive
      simp only [List.length_take, List.length_drop]
      omega
    · simp only [List.getElem_take, List.getElem_drop]
      congr 1
      exact offset.symm

lemma routesGone_obeys (pfx : String) (owner : List (RouteKey × String)) (told : Trace Reply) :
  (routesGone r pfx owner).Obeys Credible (Quietly r P) (fun out later => out = none -> ∀ k ∈ owner.map Prod.fst,
      ∃ batch, k ∈ batch /\ Replied later (.announcedFrom pfx batch) (.ok [])) told := by
  unfold routesGone
  split
  next empty => exact fun _ k absent => absurd absent (by simp [empty])
  · split
    · exact fun blocked => nomatch blocked
    · rw [Prog.obeys_bind]
      refine (heldWithin_obeys pfx _ [] told).weaken fun out later longer known => ?_
      match out with
      | .error _ | .ok (_ :: _) => exact fun blocked => nomatch blocked
      | .ok [] =>
        intro _ k member
        obtain ⟨batch, listed, inside⟩ := mem_batches (by decide : 0 < routeBatch) member
        exact ⟨batch, inside, (known rfl).2 batch listed⟩

lemma Recovered.later {later : Trace Reply} (recovered : Recovered r P told p)
  (longer : told <:+ later) : Recovered r P later p := by
  obtain ⟨pool, now, read, clock, back, listed, recorded, drained⟩ := recovered
  exact ⟨pool, now, read.later longer, clock.later longer, back, listed, recorded.later longer, drained⟩

lemma ReleaseGate.later {later : Trace Reply} (gate : ReleaseGate r P told p)
  (longer : told <:+ later) : ReleaseGate r P later p := by
  obtain ⟨recovered, nics, known, asked⟩ := gate
  refine ⟨recovered.later longer, nics, known.later longer, fun k member => ?_⟩
  obtain ⟨batch, inside, silent⟩ := asked k member
  exact ⟨batch, inside, silent.later longer⟩

def KeysListed (P : String) (placed : Except String (List (RouteKey × String))) (told : Trace Reply) : Prop :=
  ∀ owner, placed = .ok owner -> ∃ nics, Replied told .listNICs (.ok nics) /\ owner = ownersElsewhere P nics

lemma KeysListed.later {later : Trace Reply} (listed : KeysListed P placed told) (longer : told <:+ later) :
  KeysListed P placed later := by
  intro owner same
  obtain ⟨nics, replied, equal⟩ := listed owner same
  exact ⟨nics, replied.later longer, equal⟩

lemma releaseOne_obeys (named : pool.name = P) {drained unverified : List String} (s : ReleaseState)
  (ready : p ∈ drained -> p ∉ unverified -> Recovered r P told p /\ KeysListed P placed told) :
  (releaseOne r pool drained unverified placed s p).Obeys Credible (Quietly r P) (fun _ _ => True) told := by
  unfold releaseOne
  split
  · trivial
  next due =>
    simp only [not_or, not_not] at due
    obtain ⟨recovered, listed⟩ := ready due.1 due.2
    cases placed with
    | error e => trivial
    | ok owner =>
      refine (routesGone_obeys p owner told).andThen ?_
      intro out later longer gone
      cases out with
      | some why => trivial
      | none =>
        obtain ⟨nics, known, rfl⟩ := listed.later longer owner rfl
        have gate : ReleaseGate r P later p := ⟨recovered.later longer, nics, known, gone rfl⟩
        refine Prog.obeys_call ⟨gate, trivial⟩ fun reply _ => ?_
        match reply with
        | .error _ => trivial
        | .ok () =>
          have gate' := gate.later (List.suffix_cons (⟨.networkRelease p, .ok ()⟩ : Σ c, Reply c) later)
          refine Prog.obeys_call ⟨⟨named, gate', replied_head _ _ _⟩, trivial⟩ fun reply _ => ?_
          match reply with
          | .error _ | .ok () => trivial

structure CarriedOn (P : String) (before after : ClusterPool) (told : Trace Reply) : Prop where
  latest : latestPool told = some after
  handed : Told P told after
  name : after.name = before.name
  phase : after.status.phase = before.status.phase
  lease : after.status.lease = before.status.lease

lemma setReleaseBlocked_fst (pool : ClusterPool) (reason : String) (blocked : List String) :
  ∃ conditions, (setReleaseBlocked pool reason blocked).1 = { pool with status := { pool.status with conditions } } := by
  unfold setReleaseBlocked
  split
  · exact ⟨_, rfl⟩
  · split
    · exact ⟨_, rfl⟩
    · exact ⟨pool.status.conditions, rfl⟩

lemma setStatusCondition_unchanged {conditions : List Condition} {new : Condition}
  (same : (setStatusCondition conditions new).2 = false) :
  (setStatusCondition conditions new).1 = conditions := by
  unfold setStatusCondition at same ⊢
  split at same
  · cases same
  · split at same <;> simp_all

lemma setReleaseBlocked_unchanged {reason : String} {blocked : List String}
  (same : (setReleaseBlocked pool reason blocked).2 = false) :
  (setReleaseBlocked pool reason blocked).1 = pool := by
  unfold setReleaseBlocked at same ⊢
  dsimp only at same ⊢
  split at same
  next held => rw [if_pos held, setStatusCondition_unchanged same]
  next free =>
    rw [if_neg free]
    split at same
    next was => rw [if_pos was, setStatusCondition_unchanged same]
    · rw [if_neg ‹_›]

lemma obeys_quietly {post : α -> Trace Reply -> Prop} {p : Pass α}
  (obeys : p.Obeys Credible (Quietly r P) post told) (latest : latestPool told = some pool) :
  p.Obeys Credible (Guarded r P) (fun value later => post value later /\ latestPool later = some pool) told := by
  refine (obeys.keep latest fun told c reply quiet held => ?_).allow fun _ _ quiet => quiet.1
  rw [latestPool_quiet quiet.2, held]

lemma obeys_of_quietly {post : α -> Trace Reply -> Prop} {p : Pass α} (obeys : p.Obeys Credible (Quietly r P) post told) :
  p.Obeys Credible (Guarded r P) post told :=
  obeys.allow fun _ _ quiet => quiet.1

lemma releaseLoop_obeys (named : pool.name = P) {own drained unverified : List String}
  (s : ReleaseState) (ready : ∀ p ∈ own, p ∈ drained -> p ∉ unverified -> Recovered r P told p /\ KeysListed P placed told) :
  (own.foldlM (releaseOne r pool drained unverified placed) s).Obeys Credible (Quietly r P) (fun _ _ => True) told := by
  refine (Prog.obeys_foldlM (fun items _ later => ∀ p ∈ items, p ∈ drained -> p ∉ unverified ->
      Recovered r P later p /\ KeysListed P placed later) ?_ ready).weaken fun _ _ _ _ => trivial
  intro p items s earlier due
  rw [List.forall_mem_cons] at due
  refine (releaseOne_obeys named s due.1).weaken fun _ later longer _ q member reported clear => ?_
  exact (due.2 q member reported clear).imp (·.later longer) (·.later longer)

lemma storeRelease_obeys {out : ReleaseState} (handed : Told P told pool) (latest : latestPool told = some pool) :
  (storeRelease pool out).Obeys Credible (Guarded r P)
    (fun out later => out.2.2 = none -> CarriedOn P pool out.1 later) told := by
  unfold storeRelease
  dsimp only
  generalize trim : (if decide (pool.status.fencedPrefixes ≠ out.remain) = true then
      { pool with status := { pool.status with fencedPrefixes := out.remain } }
    else pool) = trimmed
  obtain ⟨conditions, stored⟩ := setReleaseBlocked_fst trimmed out.reason out.blocked
  split
  · have built : BuiltFrom pool (setReleaseBlocked trimmed out.reason out.blocked).1 := by
      rw [stored, <- trim]
      split <;> exact ⟨rfl, rfl, rfl, rfl, rfl, rfl, List.Subset.refl _⟩
    refine Prog.obeys_call ⟨pool, latest, built⟩ fun reply fits => ?_
    match reply with
    | .error _ => exact fun failed => nomatch failed
    | .ok kept =>
      intro _
      obtain ⟨name, status⟩ := fits kept rfl
      exact
        { latest := rfl
          handed := .inr ⟨_, replied_head _ _ _⟩
          name := name.trans built.name
          phase := status ▸ built.phase
          lease := status ▸ built.lease }
  next quiet =>
    simp only [Bool.or_eq_true, not_or, Bool.not_eq_true] at quiet
    rw [quiet.1] at trim
    intro _
    have unchanged : (setReleaseBlocked trimmed out.reason out.blocked).1 = pool :=
      (setReleaseBlocked_unchanged quiet.2).trans trim.symm
    rw [unchanged]
    exact ⟨latest, handed, rfl, rfl, rfl⟩

lemma releaseDrained_obeys {now : Int} (read : Replied told (.getPool P) (.ok pool))
  (named : pool.name = P) (latest : latestPool told = some pool) (clock : Replied told .now now) :
  (releaseDrained r pool (reachable pool now
    (if r.healthStale = 0 then defaultHealthStale else r.healthStale))).Obeys Credible
    (Guarded r P) (fun out later => out.2.2 = none -> CarriedOn P pool out.1 later) told := by
  refine (obeys_quietly (ownFences_obeys pool told) latest).andThen ?_
  rintro ⟨own, unverified⟩ told1 longer1 ⟨verified, latest1⟩
  generalize back : reachable pool now (if r.healthStale = 0 then defaultHealthStale else r.healthStale) = up
  generalize report : (if up = true then pool.drainedPrefixes else []) = drained
  -- A drained, verified fence is due only on a pool that is back.
  have recovered : ∀ p ∈ own, p ∈ drained -> p ∉ unverified -> Recovered r P told1 p := by
    intro p owned reported clear
    obtain ⟨listed, recorded⟩ := verified p owned clear
    rw [<- report] at reported
    cases up with
    | false => simp at reported
    | true =>
      exact ⟨pool, now, read.later longer1, clock.later longer1, back, listed, named ▸ recorded, reported⟩
  have looked : (lookupPlaced pool.name (own.any fun p => p ∈ drained /\ p ∉ unverified)).Obeys
    Credible (Quietly r P) (fun placed later => ∀ p ∈ own, p ∈ drained -> p ∉ unverified ->
      KeysListed P placed later) told1 := by
    unfold lookupPlaced
    split
    · rw [named]
      exact (placedElsewhere_obeys P told1).weaken fun _ _ _ listed _ _ _ _ => listed
    next idle =>
      intro p owned reported clear
      exact absurd (List.any_eq_true.mpr ⟨p, owned, by simp [reported, clear]⟩) idle
  refine (obeys_quietly looked latest1).andThen ?_
  rintro placed told2 longer2 ⟨listed, latest2⟩
  have ready : ∀ p ∈ own, p ∈ drained -> p ∉ unverified ->
    Recovered r P told2 p /\ KeysListed P placed told2 := fun p owned reported clear =>
    ⟨(recovered p owned reported clear).later longer2, listed p owned reported clear⟩
  refine (obeys_quietly (releaseLoop_obeys named _ ready) latest2).andThen ?_
  rintro out told3 longer3 ⟨-, latest3⟩
  exact storeRelease_obeys (.inl (read.later (longer1.trans (longer2.trans longer3)))) latest3

end

end Ectobase.Dispatch
