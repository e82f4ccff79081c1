import Ectobase.Handover.Guard

namespace Ectobase.Handover

open Shared List Store
open Mesh (NamespacedName)
open Dispatch (ApiError Outcome checked poolNamespace)

variable {σ : Type}

section

structure Sources (S : NamespacedName -> Prop) : Prop where
  named : ∀ src, S src -> src.ns ≠ "" /\ src.name ≠ ""
  distinct : ∀ src src', S src -> S src' -> compiledTwinName src = compiledTwinName src' -> src = src'

structure Twin.Becomes (t t' : Twin σ) : Prop where
  key : t'.key = t.key
  sourceNamespace : t'.sourceNamespace = t.sourceNamespace
  sourceName : t'.sourceName = t.sourceName
  terminating : t.terminating = true -> t'.terminating = true

instance : Std.Refl (Twin.Becomes : Twin σ -> Twin σ -> Prop) where
  refl _ := ⟨rfl, rfl, rfl, id⟩

instance : IsTrans (Twin σ) Twin.Becomes where
  trans _ _ _ first second :=
    { key := second.key.trans first.key
      sourceNamespace := second.sourceNamespace.trans first.sourceNamespace
      sourceName := second.sourceName.trans first.sourceName
      terminating := second.terminating ∘ first.terminating }

structure Twin.Of (t : Twin σ) (src : NamespacedName) : Prop where
  sourceNamespace : t.sourceNamespace = src.ns
  sourceName : t.sourceName = src.name
  name : t.key.name = compiledTwinName src
  workload : t.workload = src.name

structure Twin.Shaped (S : NamespacedName -> Prop) (t : Twin σ) : Prop where
  source : ∃ src, S src /\ t.Of src
  held : t.finalizer = true
  retired : t.released = true -> t.terminating = true

variable {S : NamespacedName -> Prop} {t : Twin σ} {src : NamespacedName}

lemma Twin.Of.sourceOf (sources : Sources S) (known : S src) (of_ : t.Of src) : sourceOf t = some src := by
  obtain ⟨ns, name⟩ := sources.named src known
  unfold Handover.sourceOf
  rw [of_.sourceNamespace, of_.sourceName, if_pos ⟨ns, name⟩]

lemma Twin.Of.downstreamKey (sources : Sources S) (known : S src) (of_ : t.Of src) :
  downstreamKey t = ⟨src.ns, t.key.name⟩ := by
  have ns := (sources.named src known).1
  unfold Handover.downstreamKey downstreamNamespace
  rw [of_.sourceNamespace, if_pos ns]

lemma Twin.Shaped.of_sourceOf (sources : Sources S) (shaped : t.Shaped S)
  (same : sourceOf t = some src) : S src /\ t.Of src := by
  obtain ⟨src', known, of_⟩ := shaped.source
  obtain rfl := Option.mem_unique same (of_.sourceOf sources known)
  exact ⟨known, of_⟩

lemma Twin.Shaped.of_name (sources : Sources S) (shaped : t.Shaped S) (known : S src)
  (named : t.key.name = compiledTwinName src) : t.Of src := by
  obtain ⟨src', known', of_⟩ := shaped.source
  obtain rfl := sources.distinct src' src known' known (of_.name.symm.trans named)
  exact of_

lemma poolNamespace_injective {pool pool' : String} (same : poolNamespace pool = poolNamespace pool') : pool = pool' := by
  have lists := congrArg String.toList same
  simp only [poolNamespace, String.toList_append] at lists
  exact String.toList_inj.mp (append_cancel_left lists)

end

def World.Holds (w : World σ) (pool : String) (k : NamespacedName) : Prop :=
  ∃ t ∈ w.twins.now.items, t.key = ⟨poolNamespace pool, k.name⟩ /\ t.sourceNamespace = k.ns /\ t.released = false

def World.Lagging (w : World σ) (pool : String) : Prop :=
  ∀ s ∈ w.twins.states.take (w.lag pool + 1), ∀ t ∈ s.items, t.key.ns = poolNamespace pool ->
    t.terminating = false -> ∃ t' ∈ w.twins.now.items, t'.uid = t.uid /\ t'.released = false

structure Inv (S : NamespacedName -> Prop) (w : World σ) : Prop where
  history : w.twins.Sound Twin.uid Twin.resourceVersion Twin.Becomes
  shaped : ∀ s ∈ w.twins.states, ∀ t ∈ s.items, t.Shaped S
  single : ∀ t ∈ w.twins.now.items, ∀ t' ∈ w.twins.now.items, sourceOf t = sourceOf t' ->
    t.key.ns = t'.key.ns
  backed : ∀ pool kind k, (w.pools pool).Has kind k -> w.Holds pool k
  lagging : ∀ pool, w.Lagging pool

lemma empty_inv (S : NamespacedName -> Prop) : Inv S (World.empty : World σ) where
  history := History.empty_sound
  shaped s state t listed := by
    obtain rfl := mem_singleton.mp state
    exact absurd listed not_mem_nil
  single t listed := absurd listed not_mem_nil
  backed pool kind k has := by
    cases kind with
    | compiledVM =>
      obtain ⟨v, listed, -⟩ := has
      exact absurd listed not_mem_nil
    | virtualMachine | virtualMachineInstance => exact absurd has not_mem_nil
    | launcher =>
      obtain ⟨pod, listed, -⟩ := has
      exact absurd listed not_mem_nil
  lagging pool s state t listed := by
    obtain rfl := mem_singleton.mp (mem_of_mem_take state)
    exact absurd listed not_mem_nil

section

inductive Worker where
  | compile (src : NamespacedName)
  | release (n : Nat)
  | broker (pool : String)
  deriving DecidableEq, Repr

structure Over (w : World σ) (pool : String) (t : Twin σ) : Prop where
  place : t.key.ns = poolNamespace pool
  gone : ∀ kind, ¬ (w.pools pool).Has kind (downstreamKey t)
  late : ∀ s ∈ w.twins.states.take (w.lag pool + 1), ∀ u ∈ s.items, u.uid = t.uid ->
    u.terminating = true

def LivesOn (s : Store (Twin.key : Twin σ -> NamespacedName)) (t : Twin σ) : Prop :=
  ∃ t' ∈ s.items, t.Becomes t' /\ t'.uid = t.uid /\ t'.released = false

inductive Effect (S : NamespacedName -> Prop) (worker : Option Worker) (w : World σ) :
  World σ -> Prop
  | nothing : Effect S worker w w
  | caughtUp (pool : String) (lag : Nat) (less : lag <= w.lag pool) :
      Effect S worker w { w with lag := Function.update w.lag pool lag }
  | twins (s : Store (Twin.key : Twin σ -> NamespacedName))
      (history : (w.twins.commit s).Sound Twin.uid Twin.resourceVersion Twin.Becomes)
      (shaped : ∀ t ∈ s.items, t.Shaped S)
      (single : ∀ t ∈ s.items, ∀ t' ∈ s.items, sourceOf t = sourceOf t' -> t.key.ns = t'.key.ns)
      (descend : ∀ t ∈ s.items, (∃ t0 ∈ w.twins.now.items, t0.Becomes t) \/
        ∃ src, worker = some (.compile src) /\ sourceOf t = some src)
      (survive : ∀ t ∈ w.twins.now.items, t.released = false -> LivesOn s t \/
        ∃ pool, worker = some (.broker pool) /\ Over w pool t) :
      Effect S worker w (w.setTwins s)
  | pool (pool : String) (p : Pool σ)
      (grows : ∀ kind k, p.Has kind k -> (w.pools pool).Has kind k \/
        (∃ earlier, kind.before = some earlier /\ (w.pools pool).Has earlier k) \/
        worker = some (.broker pool) /\ w.Holds pool k) :
      Effect S worker w (w.setPool pool p)

variable {S : NamespacedName -> Prop} {worker : Option Worker} {w w' : World σ}

lemma Effect.inv (sources : Sources S) (inv : Inv S w) (effect : Effect S worker w w') : Inv S w' := by
  cases effect with
  | nothing => exact inv
  | caughtUp pool lag less =>
    refine { inv with lagging := fun pool' s state => inv.lagging pool' s ?_ }
    dsimp only at state
    rw [Function.update_apply] at state
    split at state
    next here =>
      subst here
      exact take_subset_take_left _ (Nat.add_le_add_right less 1) state
    · exact state
  | pool pool p grows =>
    refine { inv with backed := fun pool' kind k has => ?_ }
    dsimp only [World.setPool] at has
    rw [Function.update_apply] at has
    split at has
    next here =>
      subst here
      rcases grows kind k has with before | ⟨earlier, -, before⟩ | ⟨-, holds⟩
      · exact inv.backed _ kind k before
      · exact inv.backed _ earlier k before
      · exact holds
    · exact inv.backed pool' kind k has
  | twins s history shaped single descend survive =>
    constructor
    · exact history
    · intro s' state
      rcases mem_cons.mp state with rfl | state
      · exact shaped
      · exact inv.shaped s' state
    · exact single
    · intro pool kind k has
      obtain ⟨t, listed, key, ns, unreleased⟩ := inv.backed pool kind k has
      rcases survive t listed unreleased with ⟨t', listed', becomes, -, unreleased'⟩ | ⟨pool', -, over_⟩
      · exact ⟨t', listed', becomes.key.trans key, becomes.sourceNamespace.trans ns, unreleased'⟩
      · obtain rfl : pool = pool' := poolNamespace_injective (by rw [<- over_.place, key])
        obtain ⟨src, known, of_⟩ := (inv.shaped _ w.twins.now_mem_states t listed).source
        have here : downstreamKey t = k := by
          rw [of_.downstreamKey sources known, <- of_.sourceNamespace, ns, key]
        exact absurd has (here ▸ over_.gone kind)
    · intro pool s' state t listed place live
      rcases mem_cons.mp state with rfl | state
      · refine ⟨t, listed, rfl, ?_⟩
        by_contra released
        have retired := (shaped t listed).retired (by simpa using released)
        rw [live] at retired
        cases retired
      · obtain ⟨t', listed', uid, unreleased⟩ := inv.lagging pool s' state t listed place live
        rcases survive t' listed' unreleased with ⟨t'', listed'', -, uid', unreleased'⟩ | ⟨pool', -, over_⟩
        · exact ⟨t'', listed'', uid'.trans uid, unreleased'⟩
        · have becomes := inv.history.become_now (mem_of_mem_take state) listed listed' uid.symm
          obtain rfl : pool = pool' :=
            poolNamespace_injective (by rw [<- place, <- over_.place, becomes.key])
          have retired := over_.late s' state t listed uid.symm
          rw [live] at retired
          cases retired

end

section

variable {S : NamespacedName -> Prop} {worker : Option Worker} {w : World σ}

lemma Twin.Becomes.sourceOf {t t' : Twin σ} (becomes : t.Becomes t') : sourceOf t' = sourceOf t := by
  unfold Handover.sourceOf
  rw [becomes.sourceNamespace, becomes.sourceName]

lemma Inv.single_of_descend (inv : Inv S w) {s : Store (Twin.key : Twin σ -> NamespacedName)}
  (descend : ∀ t ∈ s.items, ∃ t0 ∈ w.twins.now.items, t0.Becomes t) :
  ∀ t ∈ s.items, ∀ t' ∈ s.items, sourceOf t = sourceOf t' -> t.key.ns = t'.key.ns := by
  intro t listed t' listed' same
  obtain ⟨t0, before, becomes⟩ := descend t listed
  obtain ⟨t1, before', becomes'⟩ := descend t' listed'
  rw [becomes.key, becomes'.key]
  rw [becomes.sourceOf, becomes'.sourceOf] at same
  exact inv.single t0 before t1 before' same

lemma Inv.modify_effect (inv : Inv S w) {old new : Twin σ}
  (found : w.twins.now.find new.key = some old) (version : new.resourceVersion = w.twins.next)
  (uid : new.uid = old.uid) (becomes : old.Becomes new) (shaped : new.Shaped S)
  (released : new.released = old.released \/ ∃ pool, worker = some (.broker pool) /\ Over w pool old) :
  Effect S worker w (w.setTwins (w.twins.now.put new)) := by
  have descend (t : Twin σ) (listed : t ∈ (w.twins.now.put new).items) : ∃ t0 ∈ w.twins.now.items, t0.Becomes t := by
    rcases mem_put.mp listed with rfl | ⟨kept, -⟩
    · exact ⟨old, mem_of_find found, becomes⟩
    · exact ⟨t, kept, refl_of Twin.Becomes t⟩
  refine .twins _ (inv.history.put version (.inr ⟨old, found, uid.symm, becomes⟩)) ?_
    (inv.single_of_descend descend) (fun t listed => .inl (descend t listed)) ?_
  · intro t listed
    rcases mem_put.mp listed with rfl | ⟨kept, -⟩
    · exact shaped
    · exact inv.shaped _ w.twins.now_mem_states t kept
  · intro t listed unreleased
    by_cases here : t.key = new.key
    · have same := find_of_mem listed
      rw [here, found] at same
      obtain rfl := Option.some.inj same
      exact released.imp (fun same => ⟨new, mem_put.mpr (.inl rfl), becomes, uid, same.trans unreleased⟩) id
    · exact .inl ⟨t, mem_put.mpr (.inr ⟨listed, here⟩), refl_of Twin.Becomes t, rfl, unreleased⟩

lemma Inv.drop_effect (inv : Inv S w) {old : Twin σ} (listed : old ∈ w.twins.now.items) (released : old.released = true) :
  Effect S worker w (w.setTwins (w.twins.now.remove old.key)) := by
  have kept {t : Twin σ} (left : t ∈ (w.twins.now.remove old.key).items) : t ∈ w.twins.now.items :=
    (mem_remove.mp left).1
  have descend (t : Twin σ) (left : t ∈ (w.twins.now.remove old.key).items) :
    ∃ t0 ∈ w.twins.now.items, t0.Becomes t := ⟨t, kept left, refl_of Twin.Becomes t⟩
  refine .twins _ (inv.history.remove old.key) (fun t left => ?_) (inv.single_of_descend descend)
    (fun t left => .inl (descend t left)) fun t before unreleased => .inl ?_
  · exact inv.shaped _ w.twins.now_mem_states t (kept left)
  · have apart : t.key ≠ old.key := by
      intro here
      have same := find_of_mem before
      rw [show Twin.key t = old.key from here, find_of_mem listed] at same
      obtain rfl := Option.some.inj same
      rw [released] at unreleased
      cases unreleased
    exact ⟨t, mem_remove.mpr ⟨before, apart⟩, refl_of Twin.Becomes t, rfl, unreleased⟩

lemma Inv.create_effect (inv : Inv S w) {src : NamespacedName} {new : Twin σ}
  (free : w.twins.now.find new.key = none) (version : new.resourceVersion = w.twins.next)
  (uid : new.uid = w.twins.next) (shaped : new.Shaped S) (source : sourceOf new = some src)
  (clear : ∀ t ∈ w.twins.now.items, sourceOf t = some src -> t.key.ns = new.key.ns) :
  Effect S (some (.compile src)) w (w.setTwins (w.twins.now.put new)) := by
  have apart {t : Twin σ} (listed : t ∈ w.twins.now.items) : t.key ≠ new.key :=
    find_eq_none_iff.mp free t listed
  refine .twins _ (inv.history.put version (.inl uid)) ?_ ?_ ?_ ?_
  · intro t listed
    rcases mem_put.mp listed with rfl | ⟨kept, -⟩
    · exact shaped
    · exact inv.shaped _ w.twins.now_mem_states t kept
  · intro t listed t' listed' same
    rcases mem_put.mp listed with rfl | ⟨kept, -⟩ <;> rcases mem_put.mp listed' with rfl | ⟨kept', -⟩
    · rfl
    · exact (clear t' kept' (same.symm.trans source)).symm
    · exact clear t kept (same.trans source)
    · exact inv.single t kept t' kept' same
  · intro t listed
    rcases mem_put.mp listed with rfl | ⟨kept, -⟩
    · exact .inr ⟨src, rfl, source⟩
    · exact .inl ⟨t, kept, refl_of Twin.Becomes t⟩
  · intro t listed unreleased
    exact .inl ⟨t, mem_put.mpr (.inr ⟨listed, apart listed⟩), refl_of Twin.Becomes t, rfl, unreleased⟩

lemma Inv.markDeleted_effect (inv : Inv S w) {cur : Twin σ} {key : NamespacedName}
  (found : w.twins.now.find key = some cur) : Effect S worker w (markDeleted w cur) := by
  have listed := mem_of_find found
  have shaped := inv.shaped _ w.twins.now_mem_states cur listed
  unfold markDeleted
  rw [if_neg (by simp [shaped.held])]
  split
  · exact .nothing
  · have stored : w.twins.now.find cur.key = some cur := find_of_mem listed
    refine inv.modify_effect stored rfl rfl ⟨rfl, rfl, rfl, fun _ => rfl⟩ ?_ (.inl rfl)
    exact ⟨shaped.source.imp fun src of_ => ⟨of_.1, of_.2.1, of_.2.2, of_.2.3, of_.2.4⟩, shaped.held, fun _ => rfl⟩

end

end Ectobase.Handover
