import Ectobase.Handover.Broker

namespace Ectobase.Handover

open Shared List Prog
open Mesh (NamespacedName keyed)
open Dispatch (ApiError Condition ConditionStatus poolNamespace)

variable {σ : Type}

def Call.quiet : Call σ -> Bool
  | .createTwin _ => false
  | .updateTwin _ => false
  | .deleteTwin _ => false
  | .patchReleased _ => false
  | .createCompiled _ _ => false
  | .updateCompiled _ _ => false
  | .deleteCompiled _ _ => false
  | _ => true

def Shows : (Σ c : Call σ, Reply c) -> Twin σ -> Prop
  | ⟨.cachedTwins, .ok items⟩, t => t ∈ items
  | ⟨.cachedTwin _, .ok found⟩, t => t = found
  | ⟨.workloadTwins _, .ok items⟩, t => t ∈ items
  | ⟨.poolTwins _, .ok items⟩, t => t ∈ items
  | _, _ => False

def Seen (told : Told σ) (t : Twin σ) : Prop := ∃ e ∈ told, Shows e t

def SaysGone (pool : String) (k : NamespacedName) : Kind -> (Σ c : Call σ, Reply c) -> Prop
  | .launcher, ⟨.listLaunchers pool' ns, .ok pods⟩ =>
    pool' = pool /\ ns = k.ns /\ pods.any (·.runs k.name) = false
  | kind, ⟨.look pool' kind' k', .error e⟩ =>
    (e = .api .notFound \/ e = .noMatch) /\ pool' = pool /\ kind' = kind /\ k' = k
  | _, _ => False

def Gone (pool : String) (k : NamespacedName) : Told σ -> Kind -> Prop
  | [], _ => False
  | e :: told, kind =>
    Gone pool k told kind \/ SaysGone pool k kind e /\ ∀ earlier, kind.before = some earlier -> Gone pool k told earlier

def Credible : (c : Call σ) -> Reply c -> Prop
  | .cachedTwin key, .ok twin => twin.key = key
  | _, _ => True

def Uncreated (told : Told σ) : Prop := ∀ e ∈ told, ∀ t, e.1 ≠ .createTwin t

def ReconcileGuard (src : NamespacedName) (told : Told σ) : Call σ -> Prop
  | .createTwin t => Uncreated told /\ ∃ vm rest items, t = compileVM src vm rest /\
      Replied told (.workloadTwins src.name) (.ok items) /\
      awaitingRelease (poolNamespace vm.clusterName) (ofSource src items) = []
  | .updateTwin t => ∃ old, Seen told old /\ (t = { old with finalizer := true } \/
      ∃ spec, old.key.name = compiledTwinName src /\ t = { old with finalizer := true, spec, workload := src.name })
  | .deleteTwin _ => True
  | c => c.quiet = true

def ReleaseGuard (told : Told σ) : Call σ -> Prop
  | .updateTwin t => ∃ old, Seen told old /\ old.terminating = true /\ old.released = true /\
      t = { old with finalizer := false }
  | c => c.quiet = true

def SyncGuard (pool : String) (told : Told σ) : Call σ -> Prop
  | .createCompiled pool' vm => pool' = pool /\ ∃ items t,
      Replied told (.poolTwins pool) (.ok items) /\ t ∈ items /\
      t.terminating = false /\ vm.key = downstreamKey t
  | .updateCompiled pool' _ => pool' = pool
  | .deleteCompiled pool' _ => pool' = pool
  | c => c.quiet = true

def ReportGuard (pool : String) (told : Told σ) : Call σ -> Prop
  | .patchReleased t => ∃ items old, Replied told (.poolTwins pool) (.ok items) /\ old ∈ items /\
      old.terminating = true /\ t = { old with released := true } /\
      Gone pool (downstreamKey old) told .launcher
  | c => c.quiet = true

variable (vm : VirtualMachine)

section

variable {src : NamespacedName} {told : Told σ}

lemma Uncreated.later (uncreated : Uncreated told) {e : Σ c : Call σ, Reply c}
  (quiet : e.1.quiet = true) : Uncreated (e :: told) := by
  refine forall_mem_cons.mpr ⟨fun t creates => ?_, uncreated⟩
  rw [creates] at quiet
  cases quiet

def anyResult {α : Type} (_ : α) (_ : Told σ) : Prop := True

lemma setMoving_obeys (status : ConditionStatus) (reason message : String) :
  (setMoving src vm status reason message).Obeys Credible (ReconcileGuard src) anyResult told := by
  unfold setMoving
  dsimp only
  split
  · trivial
  · split
    · trivial
    · exact ⟨rfl, fun _ _ => trivial⟩

lemma retireTwin_obeys {twin : Twin σ} (seen : Seen told twin) :
  (retireTwin twin).Obeys Credible (ReconcileGuard src) anyResult told := by
  have deletes (told : Told σ) :
    (deleteIfExists twin).Obeys Credible (ReconcileGuard src) anyResult told := by
    refine obeys_call trivial fun reply _ => ?_
    split <;> trivial
  unfold retireTwin ensureFinalizer
  split
  · trivial
  · split
    · exact deletes told
    · have updates : ReconcileGuard src told (.updateTwin { twin with finalizer := true }) :=
        ⟨twin, seen, .inl rfl⟩
      refine obeys_call updates fun reply _ => ?_
      cases reply with
      | error e => trivial
      | ok _ => exact deletes _

lemma retireEach_obeys (what : String) {twins : List (Twin σ)} (seen : ∀ t ∈ twins, Seen told t) :
  (retireEach what twins).Obeys Credible (ReconcileGuard src) anyResult told := by
  induction twins generalizing told with
  | nil => trivial
  | cons twin rest ih =>
    rw [forall_mem_cons] at seen
    refine (retireTwin_obeys seen.1).andThen fun result later longer _ => ?_
    cases result with
    | error e => trivial
    | ok _ =>
      refine ih fun t member => ?_
      obtain ⟨e, listed, shows⟩ := seen.2 t member
      exact ⟨e, longer.subset listed, shows⟩

variable [DecidableEq σ]

lemma upsert_obeys {vm : VirtualMachine} {items : List (Twin σ)} (uncreated : Uncreated told)
  (gate : Replied told (.workloadTwins src.name) (.ok items))
  (clear : awaitingRelease (poolNamespace vm.clusterName) (ofSource src items) = []) :
  (upsert src vm : Handing σ _).Obeys Credible (ReconcileGuard src) anyResult told := by
  refine obeys_call rfl fun reply _ => ?_
  cases reply with
  | error e => trivial
  | ok rest =>
    refine obeys_call rfl fun reply credible => ?_
    match reply with
    | .error .notFound =>
      have creates : ReconcileGuard src (⟨.cachedTwin (compileVM src vm rest).key, .error .notFound⟩ ::
          ⟨.compileInputs src, .ok rest⟩ :: told) (.createTwin (compileVM src vm rest)) :=
        ⟨(uncreated.later rfl).later rfl, vm, rest, items, rfl, mem_cons_of_mem _ (mem_cons_of_mem _ gate), clear⟩
      refine obeys_call creates fun reply _ => ?_
      cases reply with
      | error e => trivial
      | ok _ => exact setMoving_obeys vm _ _ _
    | .error .conflict | .error (.failed message) => trivial
    | .ok existing =>
      dsimp only
      split
      · exact setMoving_obeys vm _ _ _
      · have named : existing.key.name = compiledTwinName src := congrArg NamespacedName.name credible
        refine obeys_call ⟨existing, ⟨_, mem_cons_self, rfl⟩, .inr ⟨_, named, rfl⟩⟩ fun reply _ => ?_
        cases reply with
        | error e => trivial
        | ok _ => exact setMoving_obeys vm _ _ _

omit [DecidableEq σ] in
lemma teardown_obeys : (teardown src vm : Handing σ _).Obeys Credible (ReconcileGuard src) anyResult told := by
  refine obeys_call rfl fun reply _ => ?_
  cases reply with
  | error e => trivial
  | ok items =>
    refine (retireEach_obeys _ fun t member =>
      ⟨_, mem_cons_self, (mem_filter.mp member).1⟩).andThen fun result later _ _ => ?_
    cases result with
    | error text => trivial
    | ok _ =>
      dsimp only
      split
      · trivial
      · exact ⟨rfl, fun _ _ => trivial⟩

omit [DecidableEq σ] in
lemma hold_obeys {held : List (Twin σ)} (seen : ∀ t ∈ held, Seen told t) :
  (hold src vm held).Obeys Credible (ReconcileGuard src) anyResult told := by
  refine (retireEach_obeys _ fun t member =>
    seen t (mem_filter.mp member).1).andThen fun result later _ _ => ?_
  cases result with
  | error text => trivial
  | ok _ => exact setMoving_obeys vm _ _ _

lemma passGate_obeys (uncreated : Uncreated told) :
  (passGate src vm : Handing σ _).Obeys Credible (ReconcileGuard src) anyResult told := by
  refine obeys_bind.mpr (obeys_call rfl fun reply _ => ?_)
  cases reply with
  | error e => trivial
  | ok items =>
    refine obeys_pure.mpr ?_
    dsimp only
    split
    next clear => exact upsert_obeys (uncreated.later rfl) mem_cons_self clear
    next held =>
      refine hold_obeys vm fun t member => ⟨_, mem_cons_self, ?_⟩
      have listed := (mem_insertionSort _).mp member
      exact (mem_filter.mp (mem_filter.mp listed).1).1

omit [DecidableEq σ] in
lemma ensureVMFinalizer_obeys (uncreated : Uncreated told) :
  (ensureVMFinalizer src vm : Handing σ _).Obeys Credible (ReconcileGuard src) (fun _ later => Uncreated later) told := by
  unfold ensureVMFinalizer
  split
  · exact uncreated
  · exact obeys_ask.mpr ⟨rfl, fun reply _ => uncreated.later rfl⟩

lemma reconcile_obeys : (reconcile src : Handing σ _).Obeys Credible (ReconcileGuard src) anyResult [] := by
  refine obeys_call rfl fun reply _ => ?_
  match reply with
  | .error .notFound | .error .conflict | .error (.failed message) => trivial
  | .ok vm =>
    dsimp only
    split
    · exact teardown_obeys vm
    · have first : Uncreated ([⟨.getVM src, .ok vm⟩] : Told σ) :=
        Uncreated.later (forall_mem_nil _) rfl
      refine (ensureVMFinalizer_obeys vm first).andThen fun result later _ uncreated => ?_
      cases result with
      | error e => trivial
      | ok _ =>
        dsimp only
        split
        · trivial
        · exact passGate_obeys vm uncreated

omit [DecidableEq σ] in
lemma completeRelease_obeys (key : NamespacedName) :
  (completeRelease key : Handing σ _).Obeys Credible ReleaseGuard anyResult [] := by
  refine obeys_call rfl fun reply _ => ?_
  match reply with
  | .error .notFound | .error .conflict | .error (.failed message) => trivial
  | .ok twin =>
    dsimp only
    split
    · trivial
    next retired =>
      split
      · trivial
      · simp only [Bool.or_eq_true, Bool.not_eq_true', not_or, Bool.not_eq_false] at retired
        exact ⟨⟨twin, ⟨_, mem_cons_self, rfl⟩, retired.1, retired.2, rfl⟩, fun _ _ => trivial⟩

end

section

variable {pool : String} {k : NamespacedName} {told : Told σ}

lemma Gone.mono {kind : Kind} (gone : Gone pool k told kind)
  {later : Told σ} (longer : told <:+ later) : Gone pool k later kind := by
  obtain ⟨added, rfl⟩ := longer
  induction added with
  | nil => exact gone
  | cons e added ih => exact .inl ih

lemma allGone_obeys (kinds : List Kind) (chain : kinds.IsChain fun a b => b.before = some a)
  (first : ∀ kind ∈ kinds.head?, ∀ earlier, kind.before = some earlier -> Gone pool k told earlier)
  (looked : Kind.launcher ∉ kinds) :
  (allGone pool k kinds : Handing σ _).Obeys Credible (ReportGuard pool)
    (fun result later => result = .ok true -> ∀ kind ∈ kinds, Gone pool k later kind) told := by
  induction kinds generalizing told with
  | nil => exact fun _ => forall_mem_nil _
  | cons kind rest ih =>
    refine obeys_call rfl fun reply _ => ?_
    have onward (e : LookError) (absent : e = .api .notFound \/ e = .noMatch) :
      (allGone pool k rest : Handing σ _).Obeys Credible (ReportGuard pool)
        (fun result later => result = .ok true -> ∀ kind' ∈ kind :: rest, Gone pool k later kind')
        (⟨.look pool kind k, .error e⟩ :: told) := by
      have answered : SaysGone pool k kind (⟨.look pool kind k, .error e⟩ : Σ c : Call σ, Reply c) := by
        cases kind with
        | launcher => exact absurd mem_cons_self looked
        | compiledVM | virtualMachine | virtualMachineInstance => exact ⟨absent, rfl, rfl, rfl⟩
      have here : Gone pool k (⟨.look pool kind k, .error e⟩ :: told) kind :=
        .inr ⟨answered, first kind rfl⟩
      refine (ih chain.tail ?_ fun later => looked (mem_cons_of_mem _ later)).weaken ?_
      · intro next head earlier before
        cases rest with
        | nil => cases head
        | cons next' rest =>
          obtain rfl := Option.some.inj head
          have linked := (isChain_cons_cons.mp chain).1
          obtain rfl := Option.mem_unique linked before
          exact here
      · intro result later longer gone done_
        refine forall_mem_cons.mpr ⟨?_, gone done_⟩
        exact here.mono longer
    match reply with
    | .ok _ | .error (.api .conflict) | .error (.api (.failed message)) => exact nofun
    | .error (.api .notFound) => exact onward _ (.inl rfl)
    | .error .noMatch => exact onward _ (.inr rfl)

lemma noClaims_obeys (twin : Twin σ) : (noClaims pool twin).Obeys Credible (ReportGuard pool) anyResult told := by
  unfold noClaims
  split
  · trivial
  · refine obeys_call rfl fun reply _ => ?_
    cases reply <;> trivial

lemma letGo_obeys (twin : Twin σ) : (letGo pool twin).Obeys Credible (ReportGuard pool)
    (fun result later => result = .ok true -> Gone pool (downstreamKey twin) later .launcher)
    told := by
  refine (allGone_obeys _ (by decide) (by rintro _ ⟨⟩ _ ⟨⟩) (by decide)).andThen fun result later _ gone => ?_
  match result with
  | .error e | .ok false => exact nofun
  | .ok true =>
    refine obeys_call rfl fun reply _ => ?_
    cases reply with
    | error e => exact nofun
    | ok pods =>
      dsimp only
      split
      · exact nofun
      next idle =>
        have here : Gone pool (downstreamKey twin)
          (⟨.listLaunchers pool (downstreamKey twin).ns, .ok pods⟩ :: later) .launcher := by
          refine .inr ⟨⟨rfl, rfl, by simpa using idle⟩, fun earlier before => ?_⟩
          obtain rfl := Option.some.inj before
          exact gone rfl _ (by decide)
        exact (noClaims_obeys twin).weaken fun _ _ longer _ _ => here.mono longer

lemma reportTwin_obeys (report : Report) {twin : Twin σ} {items : List (Twin σ)}
  (listed : Replied told (.poolTwins pool) (.ok items)) (member : twin ∈ items) :
  (reportTwin pool report twin).Obeys Credible (ReportGuard pool) anyResult told := by
  unfold reportTwin
  split
  · trivial
  next retired =>
    simp only [Bool.or_eq_true, Bool.not_eq_true', not_or, Bool.not_eq_false] at retired
    refine (letGo_obeys twin).andThen fun result later longer gone => ?_
    match result with
    | .error e | .ok false => trivial
    | .ok true =>
      have reports : ReportGuard pool later (.patchReleased { twin with released := true }) :=
        ⟨items, twin, longer.subset listed, member, retired.1, rfl, gone rfl⟩
      refine obeys_call reports fun reply _ => ?_
      match reply with
      | .ok _ | .error .notFound | .error .conflict | .error (.failed message) => trivial

lemma reportReleases_obeys : (reportReleases pool : Handing σ _).Obeys Credible (ReportGuard pool) anyResult [] := by
  refine obeys_call rfl fun reply _ => ?_
  cases reply with
  | error e => trivial
  | ok items =>
    refine (obeys_foldlM (fun rest _ told =>
      Replied told (.poolTwins pool) (.ok items) /\ ∀ t ∈ rest, t ∈ items) ?_
        ⟨mem_cons_self, fun _ => id⟩).weaken fun _ _ _ _ => trivial
    intro twin rest report told held
    obtain ⟨listed, left⟩ := held
    rw [forall_mem_cons] at left
    exact (reportTwin_obeys report listed left.1).weaken fun _ _ longer _ => ⟨longer.subset listed, left.2⟩

variable [DecidableEq σ]

lemma syncCurrent_obeys (want : Map NamespacedName (Twin σ)) (errs : List String) (cur : CompiledVM σ) :
  (syncCurrent pool want errs cur).Obeys Credible (SyncGuard pool) anyResult told := by
  unfold syncCurrent
  split
  · refine obeys_call rfl fun reply _ => ?_
    match reply with
    | .ok _ | .error .notFound | .error .conflict | .error (.failed message) => trivial
  · split
    · trivial
    · refine obeys_call rfl fun reply _ => ?_
      cases reply <;> trivial

lemma syncCompiledVMs_obeys (order : List NamespacedName) :
  (syncCompiledVMs pool order : Handing σ _).Obeys Credible (SyncGuard pool) anyResult [] := by
  refine obeys_call rfl fun reply _ => ?_
  cases reply with
  | error e => trivial
  | ok items =>
    refine obeys_call rfl fun reply _ => ?_
    cases reply with
    | error e => trivial
    | ok have_ =>
      let Listed (told : Told σ) : Prop :=
        Replied told (.poolTwins pool) (.ok items)
      have start : Listed [⟨.listCompiled pool, .ok have_⟩, ⟨.poolTwins pool, .ok items⟩] :=
        mem_cons_of_mem _ mem_cons_self
      refine (obeys_foldlM (fun _ _ told => Listed told) ?_ start).andThen ?_
      · intro cur rest errs told listed
        exact (syncCurrent_obeys _ errs cur).weaken fun _ _ longer _ => longer.subset listed
      · intro errs later _ listed
        -- Whatever the loop creates next is the mirror of a twin that was listed live.
        refine (obeys_foldlM (fun rest _ told => Listed told /\
          ∀ t ∈ rest, t ∈ items /\ t.terminating = false) ?_ ⟨listed, ?_⟩).weaken fun _ _ _ _ => trivial
        · intro twin rest errs told held
          obtain ⟨listed, live⟩ := held
          rw [forall_mem_cons] at live
          have creates : SyncGuard pool told (.createCompiled pool (mirror twin)) :=
            ⟨rfl, items, twin, listed, live.1.1, live.1.2, rfl⟩
          refine obeys_call creates fun reply _ => ?_
          cases reply <;> exact ⟨mem_cons_of_mem _ listed, live.2⟩
        · intro t member
          obtain ⟨k, -, found⟩ := mem_filterMap.mp member
          rcases Mesh.keyed_lookup_cases downstreamKey (items.filter fun t => !t.terminating) k with
            ⟨none, -⟩ | ⟨v, listed', -, found'⟩
          · rw [none] at found
            cases found
          · obtain rfl := Option.mem_unique found' found
            simpa using mem_filter.mp listed'

end

end Ectobase.Handover
