import Ectobase.Dispatch.FailoverGuard

namespace Ectobase.Dispatch

open Shared List Prog

variable {pool : ClusterPool} {told : Trace Reply}

section

variable {F : Type} {r : Reconciler F} {P : String}

lemma forgetDrain_obeys (handed : Told P told pool) (latest : latestPool told = some pool) :
  (forgetDrain pool).Obeys Credible (Guarded r P) (fun out later => ∀ after, out = .ok after ->
      CarriedOn P pool after later /\ after.drainedPrefixes = []) told := by
  have cleared : ∀ drain : List NodeDrainStatus,
    ((drain.map fun d => { d with drained := false }).filter (·.drained)).map (·.pfx) = [] := by
    intro drain
    simp [filter_map, Function.comp_def]
  unfold forgetDrain
  split
  · refine obeys_call ⟨pool, latest, ?_⟩ fun reply fits => ?_
    · exact
        { name := rfl, version := rfl, phase := rfl, lease := rfl, nodePrefixes := rfl
          allocatable := rfl
          drained := by rw [ClusterPool.drainedPrefixes, cleared]; exact nil_subset _ }
    · match reply with
      | .error _ => exact fun after failed => nomatch failed
      | .ok kept =>
        intro after same
        obtain rfl := Except.ok.inj same
        obtain ⟨name, status⟩ := fits kept rfl
        refine ⟨⟨rfl, .inr ⟨_, replied_head _ _ _⟩, name, ?_, ?_⟩, ?_⟩
        · rw [status]
        · rw [status]
        · rw [ClusterPool.drainedPrefixes, status, cleared]
  next none_drained =>
    intro after same
    obtain rfl := Except.ok.inj same
    exact ⟨⟨latest, handed, rfl, rfl, rfl⟩, not_not.mp none_drained⟩

lemma mem_recordFenced (recorded fenced : List String) (p : String) :
  p ∈ recordFenced recorded fenced ↔ p ∈ recorded \/ p ∈ fenced := by
  unfold recordFenced
  induction fenced generalizing recorded with
  | nil => simp
  | cons first rest ih =>
    rw [foldl_cons, ih, mem_cons]
    split
    next known =>
      constructor
      · rintro (before | later)
        · exact .inl before
        · exact .inr (.inr later)
      · rintro (before | rfl | later)
        · exact .inl before
        · exact .inl known
        · exact .inr later
    · simp [or_assoc]

lemma setFencedPrefixes_obeys (fenced : List String) (latest : latestPool told = some pool) :
  (setFencedPrefixes pool fenced).Obeys Credible (Guarded r P)
    (fun out later => ∀ stored, out = .ok stored -> latestPool later = some stored /\
      stored.drainedPrefixes = pool.drainedPrefixes /\
      ∃ sent, Replied later (.updatePoolStatus sent) (.ok stored) /\ sent.name = pool.name /\
        ∀ p ∈ fenced, p ∈ sent.status.fencedPrefixes) told := by
  refine obeys_ask.mpr ⟨⟨pool, latest, ?_⟩, fun reply fits stored same => ?_⟩
  · exact ⟨rfl, rfl, rfl, rfl, rfl, rfl, List.Subset.refl _⟩
  · subst same
    obtain ⟨-, status⟩ := fits stored rfl
    refine ⟨rfl, ?_, _, replied_head _ _ _, rfl, fun p member => ?_⟩
    · rw [ClusterPool.drainedPrefixes, status]
      rfl
    · exact (mem_recordFenced _ _ _).mpr (.inr member)

lemma fenceTargets_obeys (named : pool.name = P) (forgotten : pool.drainedPrefixes = [])
  (targets fenced : List String) (latest : latestPool told = some pool) :
  (fenceTargets pool targets fenced).Obeys Credible (Guarded r P)
    (fun out later => ∀ all, out = .ok all -> latestPool later = some pool /\ all = fenced ++ targets /\ ∀ p ∈ targets,
        Replied later (.storageFence P p) (.ok ()) /\ Replied later (.networkFence p) (.ok ()))
    told := by
  induction targets generalizing fenced told with
  | nil =>
    intro all same
    obtain rfl := Except.ok.inj same
    exact ⟨latest, by simp, by simp⟩
  | cons p rest ih =>
    refine obeys_call ⟨named, pool, latest, forgotten⟩ fun reply _ => ?_
    match reply with
    | .error _ =>
      refine (setFencedPrefixes_obeys fenced ?_).andThen ?_
      · exact latest
      · exact fun _ _ _ _ all failed => nomatch failed
    | .ok () =>
      refine obeys_call ⟨pool, latest, forgotten⟩ fun reply _ => ?_
      match reply with
      | .error _ =>
        refine (setFencedPrefixes_obeys _ ?_).andThen ?_
        · exact latest
        · exact fun _ _ _ _ all failed => nomatch failed
      | .ok () =>
        refine (ih (fenced ++ [p]) ?_).weaken fun out later longer known all same => ?_
        · rw [named]
          exact latest
        · obtain ⟨still, listed, confirmed⟩ := known all same
          refine ⟨still, by simp [listed], forall_mem_cons.mpr ⟨?_, confirmed⟩⟩
          rw [named] at longer
          exact ⟨Replied.later (by simp [Replied]) longer, Replied.later (by simp [Replied]) longer⟩

lemma ListedOn.later {later : Trace Reply} {key : String × String} (listed : ListedOn P told key)
  (longer : told <:+ later) : ListedOn P later key := by
  obtain ⟨vms, replied, here⟩ := listed
  exact ⟨vms, replied.later longer, here⟩

lemma block_obeys {vm : VirtualMachine} {message : String} (listed : ListedOn P told vm.key) :
  (block vm message).Obeys Credible (Quietly r P) (fun _ _ => True) told :=
  obeys_ask.mpr ⟨⟨listed, trivial⟩, fun _ _ => trivial⟩

lemma blockAll_obeys {vms : List VirtualMachine} {message : String} (listed : ∀ vm ∈ vms, ListedOn P told vm.key) :
  (blockAll message vms).Obeys Credible (Quietly r P) (fun _ _ => True) told := by
  induction vms generalizing told with
  | nil => trivial
  | cons vm rest ih =>
    rw [forall_mem_cons] at listed
    refine (block_obeys listed.1).andThen fun out later longer _ => ?_
    cases out with
    | error _ => trivial
    | ok _ => exact ih fun other member => (listed.2 other member).later longer

lemma blockPoolVMs_obeys (message : String) (told : Trace Reply) :
  (blockPoolVMs P message).Obeys Credible (Quietly r P) (fun _ _ => True) told := by
  refine obeys_call ⟨trivial, trivial⟩ fun reply _ => ?_
  match reply with
  | .error _ => trivial
  | .ok vms =>
    refine blockAll_obeys fun vm member => ?_
    obtain ⟨listed, bound⟩ := mem_filter.mp member
    exact ⟨vms, replied_head _ _ _, vm, listed, rfl, by simpa using bound⟩

lemma FullyFenced.later {later : Trace Reply} (fenced : FullyFenced r P told pool) (longer : told <:+ later) :
  FullyFenced r P later pool where
  handed := fenced.handed.later longer
  lost := fenced.lost.imp fun _ found => found.imp_left (·.later longer)
  declared := fenced.declared
  storage := fenced.storage.later longer
  network := fenced.network.later longer
  recorded := by
    obtain ⟨sent, stored, replied, rest⟩ := fenced.recorded
    exact ⟨sent, stored, replied.later longer, rest⟩
  covered := fenced.covered

def BehindFence (r : Reconciler F) (P : String) (told : Trace Reply) : Prop :=
  (∃ pool, FullyFenced r P told pool) /\ NoDrain told

lemma BehindFence.quiet (behind : BehindFence r P told) {c : Call} (quiet : Quiet c)
  (reply : Reply c) : BehindFence r P (⟨c, reply⟩ :: told) := by
  obtain ⟨⟨pool, fenced⟩, last, latest, none_drained⟩ := behind
  refine ⟨⟨pool, fenced.later (suffix_cons _ _)⟩, last, ?_, none_drained⟩
  rw [latestPool_quiet quiet, latest]

lemma BehindFence.kept {α : Type} {post : α -> Trace Reply -> Prop} {p : Pass α}
  (behind : BehindFence r P told) (obeys : p.Obeys Credible (Quietly r P) post told) :
  p.Obeys Credible (Quietly r P) (fun value later => post value later /\ BehindFence r P later) told :=
  obeys.keep behind fun _ _ reply quiet held => held.quiet quiet.2 reply

lemma releaseFencedTwins_obeys (behind : BehindFence r P told) :
  (releaseFencedTwins P).Obeys Credible (Quietly r P) (fun _ later => BehindFence r P later) told := by
  refine obeys_call ⟨trivial, trivial⟩ fun reply _ => ?_
  have behind' := behind.quiet (c := .listTwins (poolNamespace P)) trivial reply
  match reply with
  | .error _ => exact behind'
  | .ok twins =>
    refine (obeys_foldlM (fun items _ later => BehindFence r P later /\ items ⊆ twins /\
      Replied later (.listTwins (poolNamespace P)) (.ok twins)) ?_
      ⟨behind', List.Subset.refl _, replied_head _ _ _⟩).weaken fun _ _ _ held => held.1
    rintro twin items errs earlier ⟨fenced, listed, replied⟩
    rw [cons_subset] at listed
    unfold releaseTwin
    split
    · exact ⟨fenced, listed.2, replied⟩
    next retired =>
      simp only [not_or, Bool.not_eq_false] at retired
      refine obeys_call ⟨⟨fenced.1, fenced.2, retired.1, twins, replied, listed.1⟩, trivial⟩ fun reply _ => ?_
      have after : BehindFence r P (⟨.patchReleased twin, reply⟩ :: earlier) /\ items ⊆ twins /\
        Replied (⟨.patchReleased twin, reply⟩ :: earlier) (.listTwins (poolNamespace P)) (.ok twins) :=
        ⟨fenced.quiet (c := .patchReleased twin) trivial reply, listed.2, replied.later (suffix_cons _ _)⟩
      match reply with
      | .ok () | .error .notFound | .error .conflict | .error (.failed _) => exact after

lemma rebindOne_obeys {errs : List String} {vm : VirtualMachine} {placement : Placement}
  {pools : List ClusterPool} (behind : BehindFence r P told) (listed : ListedOn P told vm.key)
  (offered : Replied told .listPools (.ok pools)) (target : placement.ok = true -> ∃ p ∈ pools,
    p.name = placement.pool /\ p.status.phase = .ready /\ p.name ≠ P) :
  (rebindOne errs (vm, placement)).Obeys Credible (Quietly r P) (fun _ later => BehindFence r P later) told := by
  unfold rebindOne
  dsimp only
  split
  · refine (behind.kept (block_obeys listed)).andThen ?_
    rintro out later longer ⟨-, after⟩
    cases out <;> exact after
  next accepted =>
    obtain ⟨p, member, named, ready, apart⟩ := target (by simpa using accepted)
    refine obeys_call ⟨⟨behind.1, behind.2, listed, pools, offered, p, member, named, ready, apart⟩, trivial⟩
        fun reply fits => ?_
    have after := behind.quiet (c := .updateVM { vm with clusterName := placement.pool }) trivial reply
    match reply with
    | .error _ => exact after
    | .ok moved =>
      have same : moved.key = vm.key := fits moved rfl
      refine obeys_call ⟨?_, trivial⟩ fun reply _ => ?_
      · have key : (failedOver moved placement).key = vm.key := same
        rw [Guarded, key]
        exact listed.later (suffix_cons _ _)
      · have finally_ := after.quiet (c := .updateVMStatus (failedOver moved placement)) trivial reply
        match reply with
        | .error _ | .ok _ => exact finally_

section

variable [LinearOrder F] [Sub F] [Div F] [Zero F] [One F]

lemma rebindPoolVMs_obeys (behind : BehindFence r P told) :
  (rebindPoolVMs r P).Obeys Credible (Quietly r P) (fun _ _ => True) told := by
  refine obeys_call ⟨trivial, trivial⟩ fun reply _ => ?_
  have behind1 := behind.quiet (c := .listVMs) trivial reply
  match reply with
  | .error _ => trivial
  | .ok vms =>
    refine obeys_call ⟨trivial, trivial⟩ fun reply _ => ?_
    have behind2 := behind1.quiet (c := .listPools) trivial reply
    match reply with
    | .error _ => trivial
    | .ok pools =>
      dsimp only
      generalize chosen : (vms.filter fun vm => vm.clusterName = P).zip
        (scheduleBatch r.libs (vms.filter fun vm => vm.clusterName = P) (pools.filter fun p => p.name ≠ P)) = moves
      refine (obeys_foldlM (fun items _ later => BehindFence r P later /\ items ⊆ moves /\
        Replied later .listVMs (.ok vms) /\ Replied later .listPools (.ok pools)) ?_
        ⟨behind2, List.Subset.refl _, ?_, replied_head _ _ _⟩).weaken fun _ _ _ _ => trivial
      · rintro ⟨vm, placement⟩ items errs earlier ⟨fenced, sub, listed, offered⟩
        rw [cons_subset] at sub
        have pair := sub.1
        rw [<- chosen] at pair
        obtain ⟨bound, placed⟩ := of_mem_zip pair
        obtain ⟨member, on⟩ := mem_filter.mp bound
        refine (rebindOne_obeys fenced ⟨vms, listed, vm, member, rfl, by simpa using on⟩ offered
          fun accepted => ?_).weaken fun _ later longer still =>
            ⟨still, sub.2, listed.later longer, offered.later longer⟩
        obtain ⟨other, allocated, occupancy, rfl⟩ := scheduleBatch_decided placed
        obtain ⟨p, among, named, ready, -⟩ := scheduleAntiAffine_ok accepted
        obtain ⟨offeredHere, apart⟩ := mem_filter.mp among
        exact ⟨p, offeredHere, named, ready, by simpa using apart⟩
      · exact (replied_head _ _ _).later (suffix_cons _ _)

end

lemma within_of_outsidePrefixes {aggregate : NetPrefix} {nodePrefixes : List String}
  (none_outside : outsidePrefixes aggregate nodePrefixes = []) {np : String}
  (reported : np ∈ nodePrefixes) (nonempty : np ≠ "") :
  ∃ p, NetPrefix.parse np = some p /\ p.within aggregate = true := by
  by_contra outside
  have listed : np ∈ outsidePrefixes aggregate nodePrefixes := by
    refine mem_eraseDups.mpr (mem_filter.mpr ⟨reported, ?_⟩)
    cases parsed : NetPrefix.parse np with
    | none => simp [nonempty, parsed]
    | some p => simpa [nonempty, parsed] using fun inside => outside ⟨p, parsed, inside⟩
  rw [none_outside] at listed
  cases listed

lemma masked_of_declared (declared : pool.DeclaresPrefix) {p : NetPrefix}
  (parsed : NetPrefix.parse pool.underlayPrefix = some p) : p.masked = p := by
  obtain ⟨nonempty, valid⟩ := declared
  by_contra host
  simp only [validateUnderlayPrefix, nonempty, if_false, parsed] at valid
  split at valid
  · cases valid
  · simp at valid

lemma fenceCoverage_spec (pool : ClusterPool) : (fenceCoverage pool).1 = [] \/
    pool.DeclaresPrefix /\ (fenceCoverage pool).1 = [pool.underlayPrefix] /\ ((fenceCoverage pool).2.1 = true ->
        ∀ np ∈ pool.status.nodePrefixes, np ≠ "" -> Inside np pool.underlayPrefix) := by
  unfold fenceCoverage
  split
  · exact .inl rfl
  next nonempty =>
    dsimp only
    split
    · exact .inl rfl
    next valid =>
      have declared : pool.DeclaresPrefix := ⟨nonempty, not_not.mp valid⟩
      unfold aggregateCoverage
      split
      · exact .inl rfl
      next aggregate parsed =>
        rw [masked_of_declared declared parsed]
        refine .inr ⟨declared, ?_, ?_⟩
        · dsimp only
          split <;> rfl
        · intro complete np reported nonempty
          dsimp only at complete
          split at complete
          next inside =>
            obtain ⟨p, known, within⟩ := within_of_outsidePrefixes inside reported nonempty
            exact ⟨p, aggregate, known, parsed, within⟩
          · cases complete

section

variable [LinearOrder F] [Sub F] [Div F] [Zero F] [One F]

lemma failOver_obeys {now : Int} (handed : Told P told pool)
  (latest : latestPool told = some pool) (named : pool.name = P) (clock : Replied told .now now)
  (lost : poolLost pool now r.failoverThreshold = true) :
  (failOver r pool).Obeys Credible (Guarded r P) (fun _ _ => True) told := by
  refine (forgetDrain_obeys handed latest).andThen ?_
  intro out told1 longer1 forgot
  cases out with
  | error e => trivial
  | ok after =>
    obtain ⟨carried, forgotten⟩ := forgot after rfl
    have name1 : after.name = P := carried.name.trans named
    have lost1 : poolLost after now r.failoverThreshold = true := by
      rwa [poolLost, carried.phase, carried.lease]
    have blocked : ∀ (message : String) (later : Trace Reply), Prog.Obeys Credible (Guarded r P) (fun _ _ => True) (do
        let errs <- blockPoolVMs after.name message
        pure { requeueAfter := r.failoverThreshold, errs } : Pass Verdict) later := by
      intro message later
      rw [name1]
      exact (obeys_of_quietly (blockPoolVMs_obeys message later)).andThen fun _ _ _ _ => trivial
    dsimp only
    split
    · exact blocked _ _
    next some_target =>
      obtain ⟨declared, targets, covered⟩ := (fenceCoverage_spec after).resolve_left some_target
      rw [targets]
      refine (fenceTargets_obeys name1 forgotten [after.underlayPrefix] [] carried.latest).andThen ?_
      intro out told2 longer2 fenced
      cases out with
      | error message => exact blocked _ _
      | ok all =>
        obtain ⟨latest2, rfl, confirmed⟩ := fenced all rfl
        obtain ⟨storage, network⟩ := confirmed _ mem_cons_self
        refine (setFencedPrefixes_obeys _ latest2).andThen ?_
        intro out told3 longer3 stored
        cases out with
        | error e => trivial
        | ok kept =>
          obtain ⟨latest3, drain3, sent, replied, sentName, recorded⟩ := stored kept rfl
          dsimp only
          split
          · exact blocked _ _
          next complete =>
            have longer := longer1.trans (longer2.trans longer3)
            have behind : BehindFence r P told3 := by
              refine ⟨⟨after, ?_⟩, kept, latest3, drain3.trans forgotten⟩
              exact
                { handed := carried.handed.later (longer2.trans longer3)
                  lost := ⟨now, clock.later longer, lost1⟩
                  declared := declared
                  storage := storage.later longer3
                  network := network.later longer3
                  recorded := ⟨sent, kept, replied, sentName.trans name1,
                    recorded _ (mem_append_right _ mem_cons_self)⟩
                  covered := covered (by simpa using complete) }
            rw [name1]
            refine (obeys_of_quietly (releaseFencedTwins_obeys behind)).andThen ?_
            intro _ told4 _ still
            exact (obeys_of_quietly (rebindPoolVMs_obeys still)).andThen fun _ _ _ _ => trivial

lemma reconcile_obeys (r : Reconciler F) (P : String) :
  (reconcile r P).Obeys Credible (Guarded r P) (fun _ _ => True) [] := by
  refine obeys_call rfl fun reply fits => ?_
  match reply with
  | .error .notFound | .error .conflict | .error (.failed _) => trivial
  | .ok pool =>
    have named : pool.name = P := fits pool rfl
    refine obeys_call trivial fun now _ => ?_
    refine (releaseDrained_obeys ?_ named rfl (replied_head _ Call.now now)).andThen ?_
    · exact (replied_head _ _ _).later (suffix_cons _ _)
    · rintro ⟨after, waiting, failed⟩ told1 longer1 carried
      cases failed with
      | some e => trivial
      | none =>
        have carried := carried rfl
        refine obeys_call trivial fun later _ => ?_
        split
        · trivial
        next lost =>
          exact failOver_obeys (carried.handed.later (suffix_cons _ _)) carried.latest
            (carried.name.trans named) (replied_head _ _ _) (by simpa using lost)

end

end

end Ectobase.Dispatch
