import Ectobase.Dispatch.FailoverMoves

namespace Ectobase.Dispatch

open Shared List Store

-- The history of one pool: its broker's reports, everything else that happens, and failover
-- passes, with reports and everything else also landing between two calls of a pass.

section

variable {F S : Type}

def World.drained (w : World S) (P : String) : List String :=
  ((w.pools.find P).map ClusterPool.drainedPrefixes).getD []

-- A merge patch: no version to check, and nothing is stored when nothing changes.
def patchPoolStatus (w : World S) (P : String) (f : ClusterPoolStatus -> ClusterPoolStatus) : World S :=
  match w.pools.find P with
  | none => w
  | some cur =>
    if f cur.status = cur.status then w
    else
      { w with
        revision := w.revision + 1
        pools := w.pools.put { cur with resourceVersion := w.revision + 1, status := f cur.status } }

-- Without knowing where VMs run it leaves the drain report as stored.
def reportStatus (w : World S) (P : String) (nodePrefixes : List String)
  (nodeDrain : Option (List NodeDrainStatus)) : World S :=
  patchPoolStatus w P fun status =>
    { status with nodePrefixes, nodeDrain := nodeDrain.getD status.nodeDrain }

structure Bystander (S : Type) (P : String) where
  change : World S -> World S
  keeps : ∀ w, (change w).drained P ⊆ w.drained P

inductive Event (S : Type) (P : String) where
  | report (nodePrefixes : List String) (nodeDrain : Option (List NodeDrainStatus))
  | other (bystander : Bystander S P)

-- With the prefixes reported drained since a pass last fenced: before the running pass, and in it.
structure Watched (S : Type) where
  world : World S
  fresh : List String
  landing : List String

namespace Watched

def reported (w : Watched S) : List String := w.fresh ++ w.landing

def start (w : World S) (P : String) : Watched S where
  world := w
  fresh := w.drained P
  landing := []

def settle (w : Watched S) : Watched S := { w with fresh := w.reported, landing := [] }

@[simp] lemma settle_reported (w : Watched S) : w.settle.reported = w.reported := append_nil _

end Watched

def Event.apply {P : String} (w : Watched S) : Event S P -> Watched S
  | .report nodePrefixes nodeDrain =>
    { w with
      world := reportStatus w.world P nodePrefixes nodeDrain
      landing := w.landing ++ match w.world.pools.find P with
        | none => []
        | some _ => ((nodeDrain.getD []).filter (·.drained)).map (·.pfx) }
  | .other bystander => { w with world := bystander.change w.world }

def watch (backend : StorageBackend S) : Serve (Watched S) Outcome Reply := fun w c o =>
  let out := serve backend w.world c o
  (out.1, { w with world := out.2 })

def disturbs : Call -> Bool
  | .storageFence _ _ | .networkFence _ | .updateVM _ | .patchReleased _ => true
  | _ => false

structure Weather (S : Type) (P : String) where
  events : Nat -> List (Event S P)
  outcome : Nat -> Outcome

inductive Step (S : Type) (P : String) where
  | event (e : Event S P)
  | pass (weather : Weather S P)

variable [LinearOrder F] [Sub F] [Div F] [Zero F] [One F]
variable (r : Reconciler F) (backend : StorageBackend S) (P : String)

def passOver (weather : Weather S P) (w : Watched S) : Log (Watched S) Reply × Watched S :=
  ((reconcile r P).run (watch backend) (fun n w => (weather.events n).foldl Event.apply w) weather.outcome [] w).2

def Disturbing (log : Log (Watched S) Reply) : Bool := log.any fun e => disturbs e.call

def Step.apply (w : Watched S) : Step S P -> Watched S
  | .event e => (e.apply w).settle
  | .pass weather =>
    let out := passOver r backend P weather w
    if Disturbing out.1 then { out.2 with fresh := [], landing := [] } else out.2.settle

end

section

variable {S : Type} {backend : StorageBackend S} {P : String}

lemma World.drained_of_find {w : World S} {pool : ClusterPool}
  (found : w.pools.find P = some pool) : w.drained P = pool.drainedPrefixes := by
  rw [drained, found]
  rfl

lemma World.drained_put (w : World S) (revision : Nat) (pool : ClusterPool) :
  World.drained { w with revision, pools := w.pools.put pool } P =
    if P = pool.name then pool.drainedPrefixes else w.drained P := by
  rw [drained, find_put]
  split
  · rfl
  · rfl

lemma drained_patchPoolStatus (w : World S) (f : ClusterPoolStatus -> ClusterPoolStatus) :
  (patchPoolStatus w P f).drained P = ((w.pools.find P).map fun cur =>
      ClusterPool.drainedPrefixes { cur with status := f cur.status }).getD [] := by
  cases found : w.pools.find P with
  | none => simp [patchPoolStatus, World.drained, found]
  | some cur =>
    have named : cur.name = P := find_key found
    rw [patchPoolStatus]
    simp only [found]
    split
    next same => simp [World.drained, found, same]
    · rw [World.drained_put, if_pos named.symm]
      rfl

structure Lands (P : String) (w w' : Watched S) (more : List String) : Prop where
  fresh : w'.fresh = w.fresh
  landing : w'.landing = w.landing ++ more
  drained : w'.world.drained P ⊆ w.world.drained P ++ more

variable {w w' : Watched S} {more : List String}

lemma Lands.reported (lands : Lands P w w' more) : w'.reported = w.reported ++ more := by
  rw [Watched.reported, lands.fresh, lands.landing, Watched.reported, append_assoc]

lemma Lands.settled (lands : Lands P w w' more)
  (settled : w.world.drained P ⊆ w.reported) : w'.world.drained P ⊆ w'.reported := by
  rw [lands.reported]
  refine List.Subset.trans lands.drained (append_subset.mpr ⟨?_, ?_⟩)
  · exact List.Subset.trans settled (subset_append_left _ _)
  · exact subset_append_right _ _

lemma Event.apply_lands (w : Watched S) (e : Event S P) : ∃ more, Lands P w (e.apply w) more := by
  cases e with
  | other bystander =>
    refine ⟨[], rfl, (append_nil _).symm, ?_⟩
    rw [append_nil]
    exact bystander.keeps w.world
  | report nodePrefixes nodeDrain =>
    refine ⟨_, rfl, rfl, ?_⟩
    show (patchPoolStatus w.world P _).drained P ⊆ _
    rw [drained_patchPoolStatus]
    cases found : w.world.pools.find P with
    | none => simp
    | some cur =>
      rw [World.drained_of_find found]
      cases nodeDrain with
      | none => exact subset_append_left _ _
      | some entries => exact subset_append_right _ _

lemma events_land (w : Watched S) (events : List (Event S P)) : ∃ more, Lands P w (events.foldl Event.apply w) more := by
  induction events generalizing w with
  | nil => exact ⟨[], rfl, (append_nil _).symm, subset_append_left _ _⟩
  | cons e events ih =>
    obtain ⟨more, first⟩ := e.apply_lands w
    obtain ⟨more', rest⟩ := ih (e.apply w)
    refine ⟨more ++ more', rest.fresh.trans first.fresh, ?_, ?_⟩
    · rw [foldl_cons, rest.landing, first.landing, append_assoc]
    · rw [<- append_assoc]
      refine List.Subset.trans rest.drained (append_subset.mpr ⟨?_, ?_⟩)
      · exact List.Subset.trans first.drained (subset_append_left _ _)
      · exact subset_append_right _ _

lemma serve_pools {w : World S} {c : Call} (quiet : Quiet c) (o : Outcome) : (serve backend w c o).2.pools = w.pools := by
  cases c with
  | getPool | updatePoolStatus => exact absurd quiet id
  | updateVM | updateVMStatus | patchReleased =>
    exact checked_keeps (fun left : World S => left.pools = w.pools) rfl fun _ _ _ => rfl
  | now | storageFence | storageRelease => rfl
  | announcedFrom pfx keys =>
    simp only [serve]
    split
    · rfl
    · rw [Outcome.answer_same]
  | _ =>
    simp only [serve]
    rw [Outcome.answer_same]

end

section

variable {F S : Type} {r : Reconciler F} {backend : StorageBackend S} {P : String}

lemma noDrain_of_disturbs {told : Trace Reply} {c : Call} (permitted : Guarded r P told c)
  (disturbing : disturbs c = true) : NoDrain told := by
  cases c with
  | storageFence => exact permitted.2
  | networkFence => exact permitted
  | updateVM | patchReleased => exact permitted.2.1
  | _ => cases disturbing

-- While no report lands, the world is never more drained than what the pass was last told.
structure PassInv (P : String) (log : Log (Watched S) Reply) (w : Watched S) : Prop where
  stored : w.world.drained P ⊆ w.reported
  handed : ∀ pool, latestPool log.trace = some pool -> pool.drainedPrefixes ⊆ w.reported
  named : ∀ pool, latestPool log.trace = some pool -> pool.name = P
  met : ∀ e ∈ log, e.world.world.drained P ⊆ e.world.reported
  still : w.landing = [] -> ∀ pool, latestPool log.trace = some pool ->
    w.world.drained P ⊆ pool.drainedPrefixes
  disturbed : w.landing = [] -> Disturbing log = true ->
    ∃ pool, latestPool log.trace = some pool /\ pool.drainedPrefixes = []

variable {log : Log (Watched S) Reply} {w : Watched S} {drained : List String}

lemma PassInv.move {w w' : Watched S} (inv : PassInv P log w)
  (moved : ∃ events : List (Event S P), w' = events.foldl Event.apply w) : PassInv P log w' := by
  obtain ⟨events, rfl⟩ := moved
  obtain ⟨more, lands⟩ := events_land w events
  have quiet : (events.foldl Event.apply w).landing = [] -> w.landing = [] /\ more = [] := by
    rw [lands.landing]
    exact append_eq_nil_iff.mp
  constructor
  · exact lands.settled inv.stored
  · intro pool latest
    rw [lands.reported]
    exact List.Subset.trans (inv.handed pool latest) (subset_append_left _ _)
  · exact inv.named
  · exact inv.met
  · intro none_landed pool latest
    obtain ⟨before, rfl⟩ := quiet none_landed
    have kept := lands.drained
    rw [append_nil] at kept
    exact List.Subset.trans kept (inv.still before pool latest)
  · intro none_landed
    exact inv.disturbed (quiet none_landed).1

lemma PassInv.quiet_call (inv : PassInv P log w)
  {c : Call} (quiet : Quiet c) (permitted : Guarded r P log.trace c) (o : Outcome) :
  PassInv P (⟨w, c, (watch backend w c o).1⟩ :: log) (watch backend w c o).2 := by
  have latest : ∀ reply, latestPool (Log.trace (⟨w, c, reply⟩ :: log)) = latestPool log.trace :=
    fun reply => latestPool_quiet quiet reply _
  have drained : (watch backend w c o).2.world.drained P = w.world.drained P := by
    show World.drained (serve backend w.world c o).2 P = _
    rw [World.drained, serve_pools quiet o, World.drained]
  constructor
  · rw [drained]
    exact inv.stored
  · rw [latest]
    exact inv.handed
  · rw [latest]
    exact inv.named
  · exact forall_mem_cons.mpr ⟨inv.stored, inv.met⟩
  · rw [latest, drained]
    exact inv.still
  · intro none_landed disturbing
    rw [latest]
    rw [Disturbing, any_cons, Bool.or_eq_true] at disturbing
    rcases disturbing with now | before
    · exact noDrain_of_disturbs permitted now
    · exact inv.disturbed none_landed before

def Carried (P : String) (log : Log (Watched S) Reply) (w : Watched S) (drained : List String) :
  Prop :=
  drained ⊆ w.world.drained P \/ ∃ pool, latestPool log.trace = some pool /\ drained ⊆ pool.drainedPrefixes

lemma Carried.reported (carried : Carried P log w drained) (inv : PassInv P log w) : drained ⊆ w.reported := by
  rcases carried with world | ⟨pool, latest, told⟩
  · exact List.Subset.trans world inv.stored
  · exact List.Subset.trans told (inv.handed pool latest)

lemma Carried.still (carried : Carried P log w drained) (inv : PassInv P log w) (none_landed : w.landing = [])
  {pool : ClusterPool} (latest : latestPool log.trace = some pool) :
  drained ⊆ pool.drainedPrefixes := by
  rcases carried with world | ⟨other, same, told⟩
  · exact List.Subset.trans world (inv.still none_landed pool latest)
  · rw [latest] at same
    rwa [Option.some.inj same]

lemma PassInv.pool_call {w w' : Watched S} (inv : PassInv P log w)
  {c : Call} {reply : Reply c} (fresh : w'.fresh = w.fresh) (landing : w'.landing = w.landing)
  (harmless : disturbs c = false) (stored : Carried P log w (w'.world.drained P))
  (told : (∃ pool, latestPool (⟨c, reply⟩ :: log.trace) = some pool /\ pool.name = P /\
      w'.world.drained P ⊆ pool.drainedPrefixes /\ Carried P log w pool.drainedPrefixes) \/
    latestPool (⟨c, reply⟩ :: log.trace) = latestPool log.trace) :
  PassInv P (⟨w, c, reply⟩ :: log) w' := by
  have reported : w'.reported = w.reported := by
    rw [Watched.reported, fresh, landing, Watched.reported]
  have disturbing : Disturbing (⟨w, c, reply⟩ :: log) = Disturbing log := by
    rw [Disturbing, any_cons, harmless, Bool.false_or, Disturbing]
  have trace : Log.trace (⟨w, c, reply⟩ :: log) = ⟨c, reply⟩ :: log.trace := rfl
  constructor
  · rw [reported]
    exact stored.reported inv
  · intro pool latest
    rw [reported]
    rcases told with ⟨pool', latest', -, -, carried⟩ | same
    · obtain rfl := Option.mem_unique latest latest'
      exact carried.reported inv
    · exact inv.handed pool (same ▸ latest)
  · intro pool latest
    rcases told with ⟨pool', latest', named, -⟩ | same
    · obtain rfl := Option.mem_unique latest latest'
      exact named
    · exact inv.named pool (same ▸ latest)
  · exact forall_mem_cons.mpr ⟨inv.stored, inv.met⟩
  · intro none_landed pool latest
    rw [landing] at none_landed
    rcases told with ⟨pool', latest', -, within, -⟩ | same
    · obtain rfl := Option.mem_unique latest latest'
      exact within
    · exact stored.still inv none_landed (same ▸ latest)
  · intro none_landed before
    rw [landing] at none_landed
    rw [disturbing] at before
    obtain ⟨old, latest, none_drained⟩ := inv.disturbed none_landed before
    rcases told with ⟨pool, latest', -, -, carried⟩ | same
    · refine ⟨pool, latest', ?_⟩
      exact eq_nil_of_subset_nil (none_drained ▸ carried.still inv none_landed latest)
    · exact ⟨old, same.trans latest, none_drained⟩

lemma PassInv.call (inv : PassInv P log w) {c : Call} (permitted : Guarded r P log.trace c) (o : Outcome) :
  PassInv P (⟨w, c, (watch backend w c o).1⟩ :: log) (watch backend w c o).2 := by
  cases c with
  | getPool name =>
    have here : name = P := permitted
    have unchanged : (watch backend w (.getPool name) o).2 = w := by
      simp only [watch, serve]
      split
      · rfl
      · rw [Outcome.answer_same]
    rw [unchanged]
    refine inv.pool_call rfl rfl rfl (.inl (List.Subset.refl _)) ?_
    cases reply : (watch backend w (.getPool name) o).1 with
    | error => exact .inr rfl
    | ok pool =>
      have found : w.world.pools.find P = some pool := here ▸ getPool_ok reply
      refine .inl ⟨pool, rfl, find_key found, ?_, .inl ?_⟩
      · rw [World.drained_of_find found]
        exact List.Subset.refl _
      · rw [World.drained_of_find found]
        exact List.Subset.refl _
  | updatePoolStatus sent =>
    obtain ⟨old, latest, built⟩ := permitted
    have named : sent.name = P := built.name.trans (inv.named old latest)
    have carried : Carried P log w sent.drainedPrefixes := .inr ⟨old, latest, built.drained⟩
    have drained : ∀ cur, w.world.pools.find sent.name = some cur ->
      (storePoolStatus w.world sent cur).2.drained P = sent.drainedPrefixes := by
      intro cur found
      have known : cur.name = sent.name := find_key found
      rw [storePoolStatus, World.drained_put, if_pos (named.symm.trans known.symm)]
      rfl
    refine inv.pool_call rfl rfl rfl ?_ ?_
    · refine checked_keeps (fun left : World S => Carried P log w (left.drained P)) ?_ ?_
      · exact .inl (List.Subset.refl _)
      · intro cur found _
        rw [drained cur found]
        exact carried
    · cases reply : (watch backend w (.updatePoolStatus sent) o).1 with
      | error => exact .inr rfl
      | ok pool =>
        have accepted : (updatePoolStatus w.world sent o).1 = .ok pool := reply
        obtain ⟨cur, found, rfl, left⟩ := checked_ok accepted
        refine .inl ⟨_, rfl, (find_key found).trans named, ?_, carried⟩
        have after : (watch backend w (.updatePoolStatus sent) o).2.world = (storePoolStatus w.world sent cur).2 := left
        rw [after, drained cur found]
        exact List.Subset.refl _
  | _ =>
    refine inv.quiet_call ?_ permitted o
    trivial

lemma watch_credible (w : Watched S) (c : Call) (o : Outcome) : Credible c (watch backend w c o).1 :=
  serve_credible w.world c o

lemma PassInv.first (settled : w.world.drained P ⊆ w.reported) : PassInv P [] w where
  stored := settled
  handed := fun _ latest => nomatch latest
  named := fun _ latest => nomatch latest
  met := forall_mem_nil _
  still := fun _ _ latest => nomatch latest
  disturbed := fun _ disturbing => nomatch disturbing

variable [LinearOrder F] [Sub F] [Div F] [Zero F] [One F]

variable (r backend) in
lemma passOver_inv (weather : Weather S P) {w : Watched S} (settled : w.world.drained P ⊆ w.reported) :
  Leads (watch backend) (fun w w' => ∃ events : List (Event S P), w' = events.foldl Event.apply w)
      (Guarded r P) w (passOver r backend P weather w).1 (passOver r backend P weather w).2 /\
    PassInv P (passOver r backend P weather w).1 (passOver r backend P weather w).2 := by
  have moved : ∀ n (w : Watched S), ∃ events : List (Event S P),
    (weather.events n).foldl Event.apply w = events.foldl Event.apply w :=
    fun n w => ⟨_, rfl⟩
  have first : Leads (watch backend)
    (fun w w' => ∃ events : List (Event S P), w' = events.foldl Event.apply w) (Guarded r P) w
    [] w := rfl
  have leads := ((reconcile_obeys r P).run watch_credible moved weather.outcome first).1
  exact ⟨leads, leads.invariant (PassInv.first settled) (fun _ _ _ inv moved => inv.move moved)
    fun _ _ _ o inv permitted => inv.call permitted o⟩

end

end Ectobase.Dispatch
