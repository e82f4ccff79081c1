import Ectobase.Handover.Invariant

namespace Ectobase.Handover

open Shared
open Mesh (NamespacedName)
open Dispatch (ApiError Outcome checked poolNamespace)

variable {σ : Type}

inductive Task where
  | reconcile (src : NamespacedName)
  | completeRelease (key : NamespacedName)
  | sync (pool : String) (order : List NamespacedName)
  | report (pool : String)
  deriving DecidableEq, Repr

def Admitted (S : NamespacedName -> Prop) : Worker -> Task -> Prop
  | .compile src, .reconcile src' => src' = src /\ S src
  | .release _, .completeRelease _ => True
  | .broker pool, .sync pool' _ => pool' = pool
  | .broker pool, .report pool' => pool' = pool
  | _, _ => False

section

variable (told : Told σ) (w : World σ)

def Remembers : Prop := ∀ t, Seen told t -> ∃ s ∈ w.twins.states, t ∈ s.items

def GateKnows (src : NamespacedName) : Prop := Uncreated told -> ∀ items,
  Replied told (.workloadTwins src.name) (.ok items) ->
  ∀ t ∈ w.twins.now.items, sourceOf t = some src -> ∃ t0 ∈ items, t0.Becomes t

def SyncKnows (pool : String) : Prop :=
  ∀ items, Replied told (.poolTwins pool) (.ok items) ->
    ∀ t ∈ items, t.terminating = false -> t.key.ns = poolNamespace pool /\ LivesOn w.twins.now t

structure ReportKnows (pool : String) : Prop where
  listed : ∀ items, Replied told (.poolTwins pool) (.ok items) ->
    ∀ t ∈ items, t.key.ns = poolNamespace pool /\ ∃ s ∈ w.twins.states.drop (w.lag pool), t ∈ s.items
  gone : ∀ k kind, Gone pool k told kind -> ¬ (w.pools pool).Has kind k

def Knows (_ : Worker) (task : Task) (told : Told σ) (w : World σ) : Prop :=
  Remembers told w /\ match task with
    | .reconcile src => GateKnows told w src
    | .completeRelease _ => True
    | .sync pool _ => SyncKnows told w pool
    | .report pool => ReportKnows told w pool

end

section

variable {S : NamespacedName -> Prop} {worker : Option Worker} {w w' : World σ} {told : Told σ}

variable {pool : String}

lemma Gone.earlier {k : NamespacedName} {kind before : Kind}
  (gone : Gone pool k told kind) (link : kind.before = some before) :
  Gone pool k told before := by
  induction told with
  | nil => exact gone
  | cons e told ih =>
    rcases gone with sooner | ⟨-, chain⟩
    · exact .inl (ih sooner)
    · exact .inl (chain before link)

lemma Effect.states_subset (effect : Effect S worker w w') : w.twins.states ⊆ w'.twins.states := by
  cases effect with
  | twins s => exact List.subset_cons_self _ _
  | nothing | caughtUp | pool => exact List.Subset.refl _

lemma Remembers.stable (knows : Remembers told w) (effect : Effect S worker w w') : Remembers told w' := by
  intro t seen
  obtain ⟨s, state, listed⟩ := knows t seen
  exact ⟨s, effect.states_subset state, listed⟩

lemma GateKnows.stable {src : NamespacedName} (knows : GateKnows told w src)
  (effect : Effect S worker w w') (other : worker ≠ some (.compile src)) :
  GateKnows told w' src := by
  cases effect with
  | nothing | caughtUp | pool => exact knows
  | twins s history shaped single descend survive =>
    intro uncreated items gate t listed source
    rcases descend t listed with ⟨t0, before, becomes⟩ | ⟨src', created, source'⟩
    · have same : sourceOf t0 = some src := becomes.sourceOf.symm.trans source
      obtain ⟨t1, seen, becomes'⟩ := knows uncreated items gate t0 before same
      exact ⟨t1, seen, trans_of Twin.Becomes becomes' becomes⟩
    · obtain rfl := Option.mem_unique source' source
      exact absurd created other

lemma SyncKnows.stable (knows : SyncKnows told w pool)
  (effect : Effect S worker w w') (other : worker ≠ some (.broker pool)) :
  SyncKnows told w' pool := by
  cases effect with
  | nothing | caughtUp | pool => exact knows
  | twins s history shaped single descend survive =>
    intro items listed t member live
    obtain ⟨place, t', now, becomes, uid, unreleased⟩ := knows items listed t member live
    refine ⟨place, ?_⟩
    rcases survive t' now unreleased with ⟨t'', now', becomes', uid', unreleased'⟩ | ⟨pool', broker, over_⟩
    · exact ⟨t'', now', trans_of Twin.Becomes becomes becomes', uid'.trans uid, unreleased'⟩
    · obtain rfl : pool' = pool := poolNamespace_injective (by rw [<- over_.place, becomes.key, place])
      exact absurd broker other

lemma ReportKnows.stable (knows : ReportKnows told w pool)
  (effect : Effect S worker w w') (other : worker ≠ some (.broker pool)) :
  ReportKnows told w' pool := by
  cases effect with
  | nothing => exact knows
  | twins s history shaped single descend survive => exact ⟨knows.listed, knows.gone⟩
  | caughtUp pool' lag less =>
    refine ⟨fun items listed t member => ?_, knows.gone⟩
    obtain ⟨place, s, state, there⟩ := knows.listed items listed t member
    refine ⟨place, s, ?_, there⟩
    dsimp only
    rw [Function.update_apply]
    split
    next here =>
      subst here
      exact List.drop_subset_drop_left _ less state
    · exact state
  | pool pool' p grows =>
    refine ⟨knows.listed, fun k kind gone has => ?_⟩
    dsimp only [World.setPool] at has
    rw [Function.update_apply] at has
    split at has
    next here =>
      subst here
      rcases grows kind k has with before | ⟨earlier, link, before⟩ | ⟨broker, -⟩
      · exact knows.gone k kind gone before
      · exact knows.gone k earlier (gone.earlier link) before
      · exact other broker
    · exact knows.gone k kind gone has

lemma Knows.stable {me : Worker} {task : Task} (admitted : Admitted S me task)
  (knows : Knows me task told w) (effect : Effect S worker w w') (other : worker ≠ some me) :
  Knows me task told w' := by
  refine ⟨knows.1.stable effect, ?_⟩
  have known := knows.2
  match me, task, admitted with
  | .compile src, .reconcile _, ⟨rfl, _⟩ | .broker pool, .sync _ _, rfl | .broker pool, .report _, rfl =>
    exact known.stable effect other
  | .release _, .completeRelease _, _ => trivial

end

end Ectobase.Handover
