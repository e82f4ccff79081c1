import Ectobase.Handover.Effects
import Ectobase.Shared.Threads

namespace Ectobase.Handover

open Shared List
open Mesh (NamespacedName)
open Dispatch (ApiError Outcome checked poolNamespace)

variable {σ : Type}

variable {src : NamespacedName} {pool : String}

section

variable {S : NamespacedName -> Prop} {w : World σ} {told : Told σ} {o : Chance σ} {c : Call σ}

lemma Remembers.learn {worker : Option Worker} (knows : Remembers told w) (effect : Effect S worker w (serve w c o).2) :
  Remembers (⟨c, (serve w c o).1⟩ :: told) (serve w c o).2 := by
  rintro t ⟨e, member, shows_⟩
  rcases mem_cons.mp member with rfl | before
  · obtain ⟨s, state, listed⟩ := shows_served shows_
    exact ⟨s, effect.states_subset state, listed⟩
  · exact knows.stable effect t ⟨e, before, shows_⟩

lemma GateKnows.learn (sources : Sources S) (inv : Inv S w) (known : S src)
  (remembers : Remembers told w) (knows : GateKnows told w src)
  (allowed : ReconcileGuard src told c) :
  GateKnows (⟨c, (serve w c o).1⟩ :: told) (serve w c o).2 src := by
  intro uncreated items gate t listed source
  rw [Uncreated, forall_mem_cons] at uncreated
  rcases mem_cons.mp gate with asked | before
  · -- The list was just read, and reading changed nothing.
    obtain rfl := congrArg Sigma.fst asked
    have reply : (serve w (.workloadTwins src.name) o).1 = .ok items :=
      (eq_of_heq (Sigma.mk.inj asked).2).symm
    rw [quiet_served w o rfl] at listed
    obtain rfl := answer_ok reply
    have of_ := ((inv.shaped _ w.twins.now_mem_states t listed).of_sourceOf sources source).2
    exact ⟨t, mem_filter.mpr ⟨listed, decide_eq_true of_.workload⟩, refl_of Twin.Becomes t⟩
  · have effect : Effect S none w (serve w c o).2 :=
      reconcile_effect sources inv known remembers allowed uncreated.1
    exact knows.stable effect nofun uncreated.2 items before t listed source

lemma sync_twins (allowed : SyncGuard pool told c) : (serve w c o).2.twins = w.twins := by
  cases c with
  | createCompiled | updateCompiled | deleteCompiled =>
    simp only [serve]
    split
    · rfl
    · cases o.outcome <;> rfl
  | createTwin | updateTwin | deleteTwin | patchReleased => cases allowed
  | _ => rw [quiet_served w o allowed]

lemma SyncKnows.learn (inv : Inv S w) (knows : SyncKnows told w pool) (allowed : SyncGuard pool told c) :
  SyncKnows (⟨c, (serve w c o).1⟩ :: told) (serve w c o).2 pool := by
  intro items view t listed live
  rw [sync_twins allowed]
  rcases mem_cons.mp view with asked | before
  · obtain rfl := congrArg Sigma.fst asked
    have reply : (serve w (.poolTwins pool) o).1 = .ok items := (eq_of_heq (Sigma.mk.inj asked).2).symm
    obtain rfl := answer_ok reply
    obtain ⟨cached, place⟩ := mem_filter.mp listed
    have place : t.key.ns = poolNamespace pool := of_decide_eq_true place
    have recent := History.mem_behind cached
    obtain ⟨t', now, uid, unreleased⟩ := inv.lagging pool _ recent.2 t cached place live
    have becomes := inv.history.become_now (mem_of_mem_drop recent.1) cached now uid.symm
    exact ⟨place, t', now, becomes, uid, unreleased⟩
  · exact knows items before t listed live

lemma ReportKnows.learn (knows : ReportKnows told w pool) (allowed : ReportGuard pool told c) :
  ReportKnows (⟨c, (serve w c o).1⟩ :: told) (serve w c o).2 pool := by
  -- A report leaves the cache where it was among the states, one write further back.
  have kept : ReportKnows told (serve w c o).2 pool /\ (serve w c o).2.pools = w.pools := by
    by_cases quiet : c.quiet = true
    · rw [quiet_served w o quiet]
      exact ⟨knows, rfl⟩
    · cases c with
      | patchReleased t =>
        rcases checked_world (w.twins.now.find t.key) Twin.resourceVersion t.resourceVersion o.outcome
          w (storeReleased w) with same | ⟨cur, -, -, stored⟩
        · rw [show (serve w (.patchReleased t) o).2 = w from same]
          exact ⟨knows, rfl⟩
        · rw [show (serve w (.patchReleased t) o).2 = (storeReleased w cur).2 from stored]
          exact ⟨⟨knows.listed, knows.gone⟩, rfl⟩
      | _ => exact absurd allowed quiet
  refine ⟨fun items view t listed => ?_, fun k kind gone => ?_⟩
  · rcases mem_cons.mp view with asked | before
    · obtain rfl := congrArg Sigma.fst asked
      have reply : (serve w (.poolTwins pool) o).1 = .ok items :=
        (eq_of_heq (Sigma.mk.inj asked).2).symm
      rw [quiet_served w o rfl]
      obtain rfl := answer_ok reply
      obtain ⟨cached, place⟩ := mem_filter.mp listed
      exact ⟨of_decide_eq_true place, _, (History.mem_behind cached).1, cached⟩
    · exact kept.1.listed items before t listed
  · rcases gone with before | ⟨now, -⟩
    · exact kept.1.gone k kind before
    · rw [kept.2]
      exact gone_served now

end

section

variable [DecidableEq σ]

def Task.program : Task -> Handing σ Unit
  | .reconcile src => do
    let _ <- Handover.reconcile src
  | .completeRelease key => do
    let _ <- Handover.completeRelease key
  | .sync pool order => do
    let _ <- syncCompiledVMs pool order
  | .report pool => do
    let _ <- reportReleases pool

def anyEnd (_ : Task) (_ : Unit) (_ : Told σ) : Prop := True

lemma Task.program_obeys (task : Task) : (task.program : Handing σ Unit).Obeys Credible (Guard task) (anyEnd task) [] := by
  cases task with
  | reconcile src => exact reconcile_obeys.andThen fun _ _ _ _ => trivial
  | completeRelease key =>
    exact (completeRelease_obeys key).andThen fun _ _ _ _ => trivial
  | sync pool order =>
    exact (syncCompiledVMs_obeys order).andThen fun _ _ _ _ => trivial
  | report pool => exact reportReleases_obeys.andThen fun _ _ _ _ => trivial

variable {S : NamespacedName -> Prop} {w : World σ} {told : Told σ}
  {o : Chance σ} {c : Call σ} {me : Worker} {task : Task}

omit [DecidableEq σ] in
lemma call_effect (sources : Sources S) (admitted : Admitted S me task) (inv : Inv S w)
  (knows : Knows me task told w) (allowed : Guard task told c) :
  Effect S (some me) w (serve w c o).2 := by
  obtain ⟨remembers, known⟩ := knows
  match me, task, admitted with
  | .compile src, .reconcile _, ⟨rfl, exists_⟩ =>
    by_cases creates : ∃ t, c = .createTwin t
    · obtain ⟨t, rfl⟩ := creates
      exact create_effect sources inv exists_ known allowed
    · exact (reconcile_effect sources inv exists_ remembers allowed (not_exists.mp creates)).by_anyone _
  | .release _, .completeRelease _, _ => exact (release_effect inv remembers allowed).by_anyone _
  | .broker pool, .sync _ _, rfl => exact sync_effect sources inv remembers known allowed
  | .broker pool, .report _, rfl => exact report_effect inv remembers known allowed

omit [DecidableEq σ] in
lemma Knows.learn (sources : Sources S) (admitted : Admitted S me task) (inv : Inv S w)
  (knows : Knows me task told w) (allowed : Guard task told c) :
  Knows me task (⟨c, (serve w c o).1⟩ :: told) (serve w c o).2 := by
  refine ⟨knows.1.learn (call_effect sources admitted inv knows allowed), ?_⟩
  obtain ⟨remembers, known⟩ := knows
  match me, task, admitted with
  | .compile src, .reconcile _, ⟨rfl, exists_⟩ =>
    exact known.learn sources inv exists_ remembers allowed
  | .release _, .completeRelease _, _ => trivial
  | .broker pool, .sync _ _, rfl => exact known.learn inv allowed
  | .broker pool, .report _, rfl => exact known.learn allowed

omit [DecidableEq σ] in
lemma Knows.nothing (me : Worker) (task : Task) (w : World σ) : Knows me task [] w := by
  have nothing {e : Σ c : Call σ, Reply c} (member : e ∈ ([] : Told σ)) :
    False := not_mem_nil member
  refine ⟨fun t ⟨e, member, _⟩ => (nothing member).elim, ?_⟩
  cases task with
  | reconcile src => exact fun _ _ member => (nothing member).elim
  | completeRelease key => trivial
  | sync pool order => exact fun _ member => (nothing member).elim
  | report pool => exact ⟨fun _ member => (nothing member).elim, fun _ _ gone => gone.elim⟩

lemma handover_discipline (sources : Sources S) :
  Discipline (κ := Worker) serve environment (Task.program : Task -> Handing σ Unit) Credible Guard
    anyEnd (Admitted S) (Inv S) Knows where
  obeys _ task _ := task.program_obeys
  served _ c _ := credible_served c
  nothing me task w _ := Knows.nothing me task w
  call _ _ _ _ _ _ admitted inv knows allowed :=
    ⟨(call_effect sources admitted inv knows allowed).inv sources inv, knows.learn sources admitted inv allowed⟩
  stable _ _ _ _ _ _ admitted inv knows allowed _ _ _ other admitted' knows' :=
    knows'.stable admitted' (call_effect sources admitted inv knows allowed) fun same => other (Option.some.inj same).symm
  env _ e inv := (environment_effect inv e).inv sources inv
  envStable _ e inv _ _ _ admitted knows := knows.stable admitted (environment_effect inv e) nofun

end

section

def Occupied (w : World σ) (src : NamespacedName) (pool : String) : Prop :=
  (∃ t ∈ w.twins.now.items, t.key.ns = poolNamespace pool /\ sourceOf t = some src) \/
    ∃ kind, (w.pools pool).Has kind ⟨src.ns, compiledTwinName src⟩

variable {S : NamespacedName -> Prop} {w : World σ}

lemma Inv.twin_of_occupied (sources : Sources S) (inv : Inv S w) (known : S src) (occupied : Occupied w src pool) :
  ∃ t ∈ w.twins.now.items, t.key.ns = poolNamespace pool /\ sourceOf t = some src := by
  rcases occupied with twin | ⟨kind, has⟩
  · exact twin
  · obtain ⟨t, listed, key, -, -⟩ := inv.backed pool kind _ has
    have shaped := inv.shaped _ w.twins.now_mem_states t listed
    have of_ := shaped.of_name sources known (by rw [key])
    exact ⟨t, listed, by rw [key], of_.sourceOf sources known⟩

lemma Inv.one_pool (sources : Sources S) (inv : Inv S w) (known : S src) {pool' : String}
  (here : Occupied w src pool) (there : Occupied w src pool') :
  pool = pool' := by
  obtain ⟨t, listed, place, source⟩ := inv.twin_of_occupied sources known here
  obtain ⟨t', listed', place', source'⟩ := inv.twin_of_occupied sources known there
  have same := inv.single t listed t' listed' (source.trans source'.symm)
  exact poolNamespace_injective (by rw [<- place, <- place', same])

variable [DecidableEq σ]

def worldAfter (moves : List (Move Worker Task (Chance σ) Event)) : World σ :=
  (moves.foldl (Threads.step serve environment Task.program) (Threads.idle World.empty)).world

theorem at_most_one_pool (sources : Sources S) (moves : List (Move Worker Task (Chance σ) Event))
  (admitted : ∀ move ∈ moves, move.Admitted (Admitted S)) {src : NamespacedName} (known : S src)
  {pool pool' : String} (here : Occupied (worldAfter moves) src pool)
  (there : Occupied (worldAfter moves) src pool') : pool = pool' := by
  have sound := (handover_discipline sources).run (Threads.idle_sound (empty_inv S)) moves admitted
  exact sound.world.one_pool sources known here there

end

def movedVM : NamespacedName := ⟨"team", "vm"⟩

def placed (worker : Worker) (pool : String) (calls : Nat) : List (Move Worker Task (Chance Unit) Event) :=
  replicate calls (.call worker
    { outcome := .normal
      vm := .ok { terminating := false, finalizer := true, clusterName := pool, generation := 1,
                  conditions := [] }
      inputs := .ok ()
      claims := []
      lag := 0
      bare := true })

def startsOnA : List (Move Worker Task (Chance Unit) Event) :=
  let key : NamespacedName := ⟨"team", "team-vm"⟩
  [.start (.compile movedVM) (.reconcile movedVM)] ++ placed (.compile movedVM) "a" 5 ++
    [.env (.catchUp "a"), .start (.broker "a") (.sync "a" [key])] ++ placed (.broker "a") "a" 3 ++
    [.env (.startVM "a" key), .env (.startVMI "a" key), .env (.startLauncher "a" key "virt-launcher")]

def movesToB : List (Move Worker Task (Chance Unit) Event) :=
  let key : NamespacedName := ⟨"team", "team-vm"⟩
  let pod : Launcher := ⟨"team", "virt-launcher", [⟨"VirtualMachineInstance", "team-vm"⟩]⟩
  [.start (.compile movedVM) (.reconcile movedVM)] ++ placed (.compile movedVM) "b" 4 ++
    [.env (.catchUp "a"), .start (.broker "a") (.sync "a" [])] ++ placed (.broker "a") "b" 3 ++
    [.env (.stopVM "a" key), .env (.stopVMI "a" key), .env (.stopLauncher "a" pod)] ++
    [.start (.broker "a") (.report "a")] ++ placed (.broker "a") "b" 7 ++
    [.start (.release 0) (.completeRelease ⟨poolNamespace "a", "team-vm"⟩)] ++
    placed (.release 0) "b" 2 ++
    [.start (.compile movedVM) (.reconcile movedVM)] ++ placed (.compile movedVM) "b" 5 ++
    replicate 5 (.env (.catchUp "b")) ++
    [.start (.broker "b") (.sync "b" [key])] ++ placed (.broker "b") "b" 3

lemma moved_sources : Sources (· = movedVM) where
  named := by
    rintro src rfl
    decide
  distinct := by
    rintro src src' rfl rfl _
    rfl

lemma placed_admitted {worker : Worker} {calls : Nat} {admitted : Worker -> Task -> Prop} :
  (∀ move ∈ placed worker pool calls, move.Admitted admitted) ↔ True := by
  refine iff_true_intro fun move member => ?_
  rw [eq_of_mem_replicate member]
  trivial

lemma moves_admitted : ∀ move ∈ startsOnA ++ movesToB, move.Admitted (Admitted (· = movedVM)) := by
  simp only [startsOnA, movesToB, forall_mem_append, forall_mem_cons, placed_admitted]
  simp [Move.Admitted, Admitted]

theorem vm_moves_from_a_to_b : Occupied (worldAfter startsOnA) movedVM "a" /\
    Occupied (worldAfter (startsOnA ++ movesToB)) movedVM "b" /\
    ∀ pool, Occupied (worldAfter (startsOnA ++ movesToB)) movedVM pool -> pool = "b" := by
  have runs : ((worldAfter startsOnA).pools "a").Has .launcher ⟨"team", "team-vm"⟩ /\
    ((worldAfter (startsOnA ++ movesToB)).pools "b").Has .compiledVM ⟨"team", "team-vm"⟩ := by
    decide +kernel
  have there : Occupied (worldAfter (startsOnA ++ movesToB)) movedVM "b" := .inr ⟨_, runs.2⟩
  refine ⟨.inr ⟨_, runs.1⟩, there, fun pool here => ?_⟩
  exact at_most_one_pool moved_sources (startsOnA ++ movesToB) moves_admitted rfl here there

end Ectobase.Handover
