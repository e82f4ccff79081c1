import Ectobase.Handover.Knowledge

namespace Ectobase.Handover

open Shared List Store
open Mesh (NamespacedName)
open Dispatch (ApiError Outcome checked poolNamespace)

variable {σ : Type}

variable {W : Type} {pool : String}

variable {α : Type} {src : NamespacedName} {worker : Option Worker}

section

lemma answer_ok {o : Outcome} {reply x : α} {before after : W}
  (ok : (o.answer reply before after).1 = .ok x) : x = reply := by
  cases o with
  | normal => exact (Except.ok.inj ok).symm
  | refused | unanswered => cases ok

lemma answer_world (o : Outcome) (reply : α) (before after : W) :
  (o.answer reply before after).2 = before \/ (o.answer reply before after).2 = after := by
  cases o with
  | normal | unanswered => exact .inr rfl
  | refused message => exact .inl rfl

@[simp] lemma answer_same {α W : Type} (o : Outcome) (reply : α) (w : W) : (o.answer reply w w).2 = w := by
  cases o <;> rfl

lemma checked_world {A : Type} (stored : Option A) (version : A -> Nat) (sent : Nat) (o : Outcome)
  (before : W) (write : A -> A × W) :
  (checked stored version sent o before write).2 = before \/ ∃ cur, stored = some cur /\
    version cur = sent /\ (checked stored version sent o before write).2 = (write cur).2 := by
  unfold checked
  cases stored with
  | none => exact .inl rfl
  | some cur =>
    dsimp only
    split
    next same => exact (answer_world o _ _ _).imp id fun after => ⟨cur, rfl, same, after⟩
    · exact .inl rfl

variable (w : World σ) (o : Chance σ)

lemma quiet_served {c : Call σ} (quiet : c.quiet = true) : (serve w c o).2 = w := by
  cases c with
  | cachedTwin key =>
    simp only [serve]
    split <;> simp
  | look pool kind key =>
    simp only [serve]
    split
    · rfl
    · rfl
    · split_ifs <;> rfl
  | createTwin | updateTwin | deleteTwin | patchReleased | createCompiled | updateCompiled
  | deleteCompiled => cases quiet
  | getVM | compileInputs => rfl
  | updateVM | patchVMStatus | cachedTwins | workloadTwins | poolTwins | listCompiled | listLaunchers
  | listClaims => exact answer_same _ _ _

variable {w o}

lemma behind_state {lag : Nat} {t : Twin σ} (listed : t ∈ (w.twins.behind lag).items) : ∃ s ∈ w.twins.states, t ∈ s.items :=
  ⟨_, mem_of_mem_drop (History.mem_behind listed).1, listed⟩

lemma shows_served {c : Call σ} {t : Twin σ} (shows_ : Shows ⟨c, (serve w c o).1⟩ t) : ∃ s ∈ w.twins.states, t ∈ s.items := by
  cases c with
  | cachedTwins =>
    cases reply : (serve w .cachedTwins o).1 with
    | error e => rw [reply] at shows_; exact shows_.elim
    | ok items =>
      rw [reply] at shows_
      obtain rfl := answer_ok reply
      exact behind_state shows_
  | cachedTwin key =>
    cases reply : (serve w (.cachedTwin key) o).1 with
    | error e => rw [reply] at shows_; exact shows_.elim
    | ok twin =>
      rw [reply] at shows_
      simp only [serve] at reply
      split at reply
      · cases reply
      next found' found =>
        obtain rfl := answer_ok reply
        obtain rfl : t = _ := shows_
        exact behind_state (mem_of_find found)
  | workloadTwins workload =>
    cases reply : (serve w (.workloadTwins workload) o).1 with
    | error e => rw [reply] at shows_; exact shows_.elim
    | ok items =>
      rw [reply] at shows_
      obtain rfl := answer_ok reply
      exact ⟨_, w.twins.now_mem_states, (mem_filter.mp shows_).1⟩
  | poolTwins pool =>
    cases reply : (serve w (.poolTwins pool) o).1 with
    | error e => rw [reply] at shows_; exact shows_.elim
    | ok items =>
      rw [reply] at shows_
      obtain rfl := answer_ok reply
      exact behind_state (mem_filter.mp shows_).1
  | _ => exact shows_.elim

lemma credible_served (c : Call σ) : Credible c (serve w c o).1 := by
  cases c with
  | cachedTwin key =>
    cases reply : (serve w (.cachedTwin key) o).1 with
    | error e => trivial
    | ok twin =>
      simp only [serve] at reply
      split at reply
      · cases reply
      next found' found =>
        obtain rfl := answer_ok reply
        exact find_key found
  | _ => trivial

lemma gone_served {c : Call σ} {k : NamespacedName} {kind : Kind}
  (gone : SaysGone pool k kind ⟨c, (serve w c o).1⟩) : ¬ (w.pools pool).Has kind k := by
  cases c with
  | look pool' kind' key =>
    cases reply : (serve w (.look pool' kind' key) o).1 with
    | ok _ =>
      rw [reply] at gone
      cases kind <;> exact gone.elim
    | error e =>
      rw [reply] at gone
      obtain ⟨absent, rfl, rfl, rfl⟩ : (e = .api .notFound \/ e = .noMatch) /\ pool' = pool /\ kind' = kind /\ key = k := by
        cases kind <;> exact gone
      intro here
      simp only [serve, here, if_true] at reply
      split at reply
      · cases reply
        simp at absent
      · cases reply
        simp at absent
      · cases reply
  | listLaunchers pool' ns =>
    cases reply : (serve w (.listLaunchers pool' ns) o).1 with
    | error e =>
      rw [reply] at gone
      cases kind <;> exact gone.elim
    | ok pods =>
      rw [reply] at gone
      cases kind with
      | launcher =>
        obtain ⟨rfl, rfl, idle⟩ := gone
        obtain rfl := answer_ok reply
        rintro ⟨pod, listed, ns, runs⟩
        have there : pod ∈ (w.pools pool').launchers.filter fun pod => pod.ns = k.ns :=
          mem_filter.mpr ⟨listed, decide_eq_true ns⟩
        have busy := any_eq_false.mp idle pod there
        exact busy runs
      | _ => exact gone.elim
  | _ => cases kind <;> exact gone.elim

end

section

def Guard : Task -> Told σ -> Call σ -> Prop
  | .reconcile src => ReconcileGuard src
  | .completeRelease _ => ReleaseGuard
  | .sync pool _ => SyncGuard pool
  | .report pool => ReportGuard pool

variable {S : NamespacedName -> Prop} {w w' : World σ} {told : Told σ} {o : Chance σ}

lemma Effect.by_anyone (effect : Effect S none w w') (worker : Option Worker) : Effect S worker w w' := by
  cases effect with
  | nothing => exact .nothing
  | caughtUp pool lag less => exact .caughtUp pool lag less
  | twins s history shaped single descend survive =>
    refine .twins s history shaped single (fun t listed => .inl ?_) fun t listed unreleased =>
      .inl ?_
    · exact (descend t listed).resolve_right nofun
    · exact (survive t listed unreleased).resolve_right nofun
  | pool pool p grows =>
    refine .pool pool p fun kind k has => ?_
    rcases grows kind k has with before | before | ⟨nobody, -⟩
    · exact .inl before
    · exact .inr (.inl before)
    · cases nobody

lemma Remembers.current (remembers : Remembers told w) (inv : Inv S w) {old cur : Twin σ}
  {key : NamespacedName} (seen : Seen told old) (found : w.twins.now.find key = some cur)
  (version : cur.resourceVersion = old.resourceVersion) : cur = old := by
  obtain ⟨s, state, listed⟩ := remembers old seen
  exact inv.history.versions _ w.twins.now_mem_states s state cur (mem_of_find found) old listed version

lemma Inv.storeTwin_effect (inv : Inv S w) {sent cur : Twin σ}
  (found : w.twins.now.find sent.key = some cur) (known : S src) (of_ : sent.Of src)
  (ns : sent.sourceNamespace = cur.sourceNamespace) (name : sent.sourceName = cur.sourceName)
  (held : sent.finalizer = true) : Effect S none w (storeTwin w sent cur).2 := by
  have shaped := inv.shaped _ w.twins.now_mem_states cur (mem_of_find found)
  unfold storeTwin
  dsimp only
  rw [if_neg (by simp [held])]
  have key : sent.key = cur.key := (find_key found).symm
  refine inv.modify_effect found rfl rfl ⟨key, ns, name, id⟩ ?_ (.inl rfl)
  exact ⟨⟨src, known, of_.1, of_.2, of_.3, of_.4⟩, held, shaped.retired⟩

lemma Effect.answered {α : Type} {reply : α} {after : World σ} (effect : Effect S worker w after) :
  Effect S worker w (o.outcome.answer reply w after).2 := by
  rcases answer_world o.outcome reply w after with same | same
  · rw [same]
    exact .nothing
  · rw [same]
    exact effect

lemma Effect.checked {A : Type} {stored : Option A} {version : A -> Nat} {sent : Nat} {write : A -> A × World σ}
  (each : ∀ cur, stored = some cur -> version cur = sent -> Effect S worker w (write cur).2) :
  Effect S worker w (checked stored version sent o.outcome w write).2 := by
  rcases checked_world stored version sent o.outcome w write with same | ⟨cur, found, same, written⟩
  · rw [same]
    exact .nothing
  · rw [written]
    exact each cur found same

lemma Effect.quiet {c : Call σ} (quiet : c.quiet = true) : Effect S worker w (serve w c o).2 := by
  rw [quiet_served w o quiet]
  exact .nothing

lemma reconcile_effect (sources : Sources S) (inv : Inv S w) (known : S src)
  (remembers : Remembers told w) {c : Call σ} (allowed : ReconcileGuard src told c)
  (other : ∀ t, c ≠ .createTwin t) : Effect S none w (serve w c o).2 := by
  cases c with
  | createTwin t => exact absurd rfl (other t)
  | updateTwin t =>
    obtain ⟨old, seen, sent⟩ := allowed
    have version : t.resourceVersion = old.resourceVersion := by
      rcases sent with rfl | ⟨spec, -, rfl⟩ <;> rfl
    rw [serve]
    refine Effect.checked fun cur found same => ?_
    obtain rfl := remembers.current inv seen found (same.trans version)
    have shaped := inv.shaped _ w.twins.now_mem_states cur (mem_of_find found)
    rcases sent with rfl | ⟨spec, named, rfl⟩
    · obtain ⟨src', known', of_⟩ := shaped.source
      exact inv.storeTwin_effect found known' ⟨of_.1, of_.2, of_.3, of_.4⟩ rfl rfl rfl
    · have of_ := shaped.of_name sources known named
      exact inv.storeTwin_effect found known ⟨of_.1, of_.2, of_.3, rfl⟩ rfl rfl rfl
  | deleteTwin key =>
    simp only [serve]
    split
    · exact .nothing
    next cur found => exact (inv.markDeleted_effect found).answered
  | _ => exact .quiet allowed

lemma create_effect (sources : Sources S) (inv : Inv S w) (known : S src) (knows : GateKnows told w src) {t : Twin σ}
  (allowed : ReconcileGuard src told (.createTwin t)) :
  Effect S (some (.compile src)) w (serve w (.createTwin t) o).2 := by
  obtain ⟨uncreated, vm, rest, items, rfl, gate, clear⟩ := allowed
  simp only [serve]
  split
  · exact .nothing
  next free =>
    refine Effect.answered ?_
    have of_ : Twin.Of { compileVM src vm rest with
        uid := w.twins.next, resourceVersion := w.twins.next } src := ⟨rfl, rfl, rfl, rfl⟩
    refine inv.create_effect free rfl rfl ⟨⟨src, known, of_⟩, rfl, by simp⟩
      (of_.sourceOf sources known) fun t listed source => ?_
    obtain ⟨t0, seen, becomes⟩ := knows uncreated items gate t listed source
    by_contra apart
    have member : t0 ∈ ofSource src items :=
      mem_filter.mpr ⟨seen, decide_eq_true (becomes.sourceOf.symm.trans source)⟩
    have outside : t0.key.ns ≠ poolNamespace vm.clusterName := becomes.key ▸ apart
    have held : t0 ∈ awaitingRelease (poolNamespace vm.clusterName) (ofSource src items) := by
      unfold awaitingRelease
      rw [mem_insertionSort, mem_filter]
      exact ⟨member, by simp [outside]⟩
    rw [clear] at held
    exact absurd held not_mem_nil

lemma release_effect (inv : Inv S w) (remembers : Remembers told w) {c : Call σ}
  (allowed : ReleaseGuard told c) : Effect S none w (serve w c o).2 := by
  by_cases quiet : c.quiet = true
  · exact .quiet quiet
  cases c with
  | updateTwin t =>
    obtain ⟨old, seen, terminating, released, rfl⟩ := allowed
    rw [serve]
    refine Effect.checked fun cur found version => ?_
    obtain rfl := remembers.current inv seen found version
    unfold storeTwin
    dsimp only
    rw [if_pos (by simp [terminating])]
    exact inv.drop_effect (mem_of_find found) released
  | _ => exact absurd allowed quiet

lemma compiled_effect {compiled : Store (CompiledVM.key : CompiledVM σ -> NamespacedName)}
  (each : ∀ v ∈ compiled.items, (w.pools pool).Has .compiledVM v.key \/ worker = some (.broker pool) /\ w.Holds pool v.key) :
  Effect S worker w (w.setPool pool { w.pools pool with compiled }) := by
  refine .pool pool _ fun kind k has => ?_
  cases kind with
  | compiledVM =>
    obtain ⟨v, listed, rfl⟩ := has
    exact (each v listed).imp id .inr
  | virtualMachine | virtualMachineInstance | launcher => exact .inl has

lemma compiled_removed (key : NamespacedName) : Effect S worker w
    (w.setPool pool { w.pools pool with compiled := (w.pools pool).compiled.remove key }) :=
  compiled_effect fun v listed => .inl ⟨v, (mem_remove.mp listed).1, rfl⟩

lemma compiled_put {vm : CompiledVM σ} (here : (w.pools pool).Has .compiledVM vm.key \/ worker =
    some (.broker pool) /\ w.Holds pool vm.key) :
  Effect S worker w (w.setPool pool { w.pools pool with compiled := (w.pools pool).compiled.put vm }) := by
  refine compiled_effect fun v listed => ?_
  rcases mem_put.mp listed with rfl | ⟨kept, -⟩
  · exact here
  · exact .inl ⟨v, kept, rfl⟩

lemma SyncKnows.holds (sources : Sources S) (inv : Inv S w) (remembers : Remembers told w)
  (knows : SyncKnows told w pool) {items : List (Twin σ)} {t : Twin σ}
  (view : Replied told (.poolTwins pool) (.ok items)) (listed : t ∈ items)
  (live : t.terminating = false) : w.Holds pool (downstreamKey t) := by
  obtain ⟨place, t', now, becomes, -, unreleased⟩ := knows items view t listed live
  obtain ⟨s, state, there⟩ := remembers t ⟨_, view, listed⟩
  obtain ⟨src, known, of_⟩ := (inv.shaped s state t there).source
  rw [of_.downstreamKey sources known]
  refine ⟨t', now, ?_, becomes.sourceNamespace.trans of_.sourceNamespace, unreleased⟩
  rw [becomes.key, <- place]

lemma sync_effect (sources : Sources S) (inv : Inv S w) (remembers : Remembers told w)
  (knows : SyncKnows told w pool) {c : Call σ} (allowed : SyncGuard pool told c) :
  Effect S (some (.broker pool)) w (serve w c o).2 := by
  by_cases quiet : c.quiet = true
  · exact .quiet quiet
  cases c with
  | createCompiled pool' vm =>
    obtain ⟨rfl, items, t, view, listed, live, key⟩ := allowed
    simp only [serve]
    split
    · exact .nothing
    · refine (compiled_put (.inr ⟨rfl, ?_⟩)).answered
      rw [key]
      exact knows.holds sources inv remembers view listed live
  | updateCompiled pool' vm =>
    simp only [serve]
    split
    · exact .nothing
    next cur found =>
      exact (compiled_put (.inl ⟨cur, mem_of_find found, find_key found⟩)).answered
  | deleteCompiled pool' key =>
    simp only [serve]
    split
    · exact .nothing
    · exact (compiled_removed key).answered
  | _ => exact absurd allowed quiet

lemma ReportKnows.finished (inv : Inv S w) (knows : ReportKnows told w pool) {items : List (Twin σ)}
  {t : Twin σ} (view : Replied told (.poolTwins pool) (.ok items))
  (listed : t ∈ items) (terminating : t.terminating = true)
  (gone : Gone pool (downstreamKey t) told .launcher) :
  Over w pool t := by
  obtain ⟨place, s, older, there⟩ := knows.listed items view t listed
  refine ⟨place, fun kind => knows.gone _ kind ?_, fun s' newer u listed' same => ?_⟩
  · have instance_ : Gone pool (downstreamKey t) told .virtualMachineInstance := gone.earlier rfl
    have machine : Gone pool (downstreamKey t) told .virtualMachine := instance_.earlier rfl
    cases kind with
    | launcher => exact gone
    | virtualMachineInstance => exact instance_
    | virtualMachine => exact machine
    | compiledVM => exact machine.earlier rfl
  · have becomes := inv.history.become_of (w.lag pool) older newer there listed' same.symm
    exact becomes.terminating terminating

lemma report_effect (inv : Inv S w) (remembers : Remembers told w)
  (knows : ReportKnows told w pool) {c : Call σ} (allowed : ReportGuard pool told c) :
  Effect S (some (.broker pool)) w (serve w c o).2 := by
  by_cases quiet : c.quiet = true
  · exact .quiet quiet
  cases c with
  | patchReleased t =>
    obtain ⟨items, old, view, listed, terminating, rfl, gone⟩ := allowed
    rw [serve]
    refine Effect.checked fun cur found version => ?_
    obtain rfl := remembers.current inv ⟨_, view, listed⟩ found version
    have shaped := inv.shaped _ w.twins.now_mem_states cur (mem_of_find found)
    obtain ⟨src, known, of_⟩ := shaped.source
    refine inv.modify_effect found rfl rfl ⟨rfl, rfl, rfl, id⟩ ?_
      (.inr ⟨pool, rfl, knows.finished inv view listed terminating gone⟩)
    exact ⟨⟨src, known, of_.1, of_.2, of_.3, of_.4⟩, shaped.held, fun _ => terminating⟩
  | _ => exact absurd allowed quiet

lemma environment_effect (inv : Inv S w) (e : Event) : Effect S none w (environment w e) := by
  cases e with
  | catchUp pool => exact .caughtUp pool _ (Nat.sub_le _ 1)
  | deleteTwin key =>
    simp only [environment]
    split
    · exact .nothing
    next cur found => exact inv.markDeleted_effect found
  | startVM pool key | startVMI pool key =>
    simp only [environment]
    split
    next has =>
      refine .pool pool _ fun kind k there => ?_
      cases kind
      all_goals first
      | exact .inl there
      | rcases mem_cons.mp there with rfl | before
        · exact .inr (.inl ⟨_, rfl, has⟩)
        · exact .inl before
    · exact .nothing
  | startLauncher pool key name =>
    simp only [environment]
    split
    next has =>
      refine .pool pool _ fun kind k there => ?_
      cases kind with
      | launcher =>
        obtain ⟨pod, listed, ns, runs⟩ := there
        rcases mem_cons.mp listed with rfl | before
        · have here : key = k := by
            have name : key.name = k.name := by simpa [Launcher.runs] using runs
            cases key
            cases k
            simp_all
          exact .inr (.inl ⟨.virtualMachineInstance, rfl, here ▸ has⟩)
        · exact .inl ⟨pod, before, ns, runs⟩
      | _ => exact .inl there
    · exact .nothing
  | stopCompiled pool key => exact compiled_removed key
  | stopVM pool key | stopVMI pool key =>
    refine .pool pool _ fun kind k there => .inl ?_
    cases kind <;> first | exact there | exact (mem_filter.mp there).1
  | stopLauncher pool pod =>
    refine .pool pool _ fun kind k there => .inl ?_
    cases kind with
    | launcher =>
      obtain ⟨pod', listed, rest⟩ := there
      exact ⟨pod', (mem_filter.mp listed).1, rest⟩
    | _ => exact there

end

end Ectobase.Handover
