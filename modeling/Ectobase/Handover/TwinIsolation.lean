import Ectobase.Handover.Gate

namespace Ectobase.Handover

open Shared List Store
open Mesh (NamespacedName)

-- A compiled object of any kind; `content` is the spec, and for a CompiledVM also its finalizer.
structure CompiledTwin (σ : Type) where
  key : NamespacedName
  stamp : NamespacedName
  workload : String
  content : σ
  deriving DecidableEq, Repr

section

variable {σ : Type} [DecidableEq σ]

abbrev Twins (σ : Type) := Store (CompiledTwin.key : CompiledTwin σ -> NamespacedName)

def CompiledTwin.source (t : CompiledTwin σ) : Option NamespacedName :=
  if t.stamp.ns ≠ "" /\ t.stamp.name ≠ "" then some t.stamp else none

-- The stamp of what is there is not looked at.
def upsertTwin (src : NamespacedName) (twins : Twins σ) (c : CompiledTwin σ) : Twins σ :=
  match twins.find c.key with
  | none => twins.put { c with stamp := src }
  | some existing =>
    if existing.content = c.content /\ existing.workload = c.workload then twins
    else twins.put { existing with content := c.content, workload := c.workload }

def twinsOfSource (src : NamespacedName) (keep : List NamespacedName) (twins : Twins σ) : List (CompiledTwin σ) :=
  twins.items.filter fun t => t.source = some src /\ t.key ∉ keep

def deleteTwins (twins : Twins σ) (gone : List (CompiledTwin σ)) : Twins σ :=
  gone.foldl (fun twins t => twins.remove t.key) twins

-- The first `done` calls of a pass that compiles the twin of a NIC, a VM or a container and prunes the others.
def reconcileTwins (src : NamespacedName) (compiled : List (CompiledTwin σ)) (twins : Twins σ) (done : Nat) : Twins σ :=
  let after := (compiled.take done).foldl (upsertTwin src) twins
  deleteTwins after ((twinsOfSource src (compiled.map (·.key)) after).take (done - compiled.length))

-- The attachments of a VM: those it has are found by stamp, and a Create where another stands fails.

def attachmentTwinName (vm : NamespacedName) (volume : String) : String := compiledTwinName vm ++ "-" ++ volume

def syncAttachment (gateOpen : Bool) (want : List (CompiledTwin σ)) (twins : Twins σ) (cur : CompiledTwin σ) : Twins σ :=
  match want.find? (·.key = cur.key) with
  | none => twins.remove cur.key
  | some w =>
    if gateOpen /\ ¬ (cur.content = w.content /\ cur.workload = w.workload) then
      twins.put { cur with content := w.content, workload := w.workload }
    else twins

def createAttachments (src : NamespacedName) : Twins σ -> List (CompiledTwin σ) -> Twins σ
  | twins, [] => twins
  | twins, w :: rest =>
    match twins.find w.key with
    | some _ => twins
    | none => createAttachments src (twins.put { w with stamp := src }) rest

-- The first `done` of the attachments visited, and then of those created.
def reconcileAttachments (src : NamespacedName) (gateOpen : Bool) (want : List (CompiledTwin σ)) (twins : Twins σ)
  (done : Nat) : Twins σ :=
  let haveTwins := twinsOfSource src [] twins
  let after := (haveTwins.take done).foldl (syncAttachment gateOpen want) twins
  createAttachments src after (if gateOpen then
    (want.filter fun w => w.key ∉ haveTwins.map (·.key)).take (done - haveTwins.length) else [])

-- The first `done` deletions of a teardown, which keeps nothing, or of the gate of a move, which
-- keeps what is in the VM's own pool.
def retireTwins (src : NamespacedName) (keep : List NamespacedName) (twins : Twins σ) (done : Nat) : Twins σ :=
  deleteTwins twins ((twinsOfSource src keep twins).take done)

end

def NamesMeet (a b : NamespacedName) : Prop :=
  ∃ s, b.ns = a.ns ++ "-" ++ s /\ a.name = s ++ "-" ++ b.name

lemma namesMeet_of_lists {a b : NamespacedName} {s : List Char} (nonempty : s ≠ []) (first : b.ns.toList = a.ns.toList ++ s)
  (second : '-' :: a.name.toList = s ++ '-' :: b.name.toList) : NamesMeet a b := by
  cases s with
  | nil => exact absurd rfl nonempty
  | cons c rest =>
    obtain ⟨rfl, second⟩ := cons_eq_cons.mp second
    refine ⟨String.ofList rest, String.toList_injective ?_, String.toList_injective ?_⟩
    · simpa using first
    · simpa using second

lemma compiledTwinName_eq_iff {a b : NamespacedName} (differ : a ≠ b) :
  compiledTwinName a = compiledTwinName b ↔ NamesMeet a b \/ NamesMeet b a := by
  constructor
  · intro same
    have lists : a.ns.toList ++ '-' :: a.name.toList = b.ns.toList ++ '-' :: b.name.toList := by
      simpa [compiledTwinName] using congrArg String.toList same
    have apart {s : List Char} (ns : b.ns.toList = a.ns.toList ++ s \/ a.ns.toList = b.ns.toList ++ s) : s ≠ [] := by
      rintro rfl
      have ns : a.ns = b.ns := String.toList_injective (by simpa [eq_comm] using ns)
      rw [ns] at lists
      have name : a.name = b.name := String.toList_injective (by simpa using lists)
      exact differ (by cases a; cases b; simp_all)
    rcases append_eq_append_iff.mp lists with ⟨s, first, second⟩ | ⟨s, first, second⟩
    · exact .inl (namesMeet_of_lists (apart (.inl first)) first second)
    · exact .inr (namesMeet_of_lists (apart (.inr first)) first second)
  · rintro (⟨s, ns, name⟩ | ⟨s, ns, name⟩)
    · simp [compiledTwinName, ns, name, String.append_assoc]
    · simp [compiledTwinName, ns, name, String.append_assoc]

section

variable {σ : Type} [DecidableEq σ] {src other : NamespacedName} {twins mid after : Twins σ}

def Untouched (other : NamespacedName) (before after : Twins σ) : Prop :=
  ∀ t : CompiledTwin σ, t.source = some other -> (t ∈ after.items ↔ t ∈ before.items)

def Yields (other : NamespacedName) (twins : Twins σ) (c : CompiledTwin σ) : Prop :=
  ∀ t, twins.find c.key = some t -> t.source = some other -> t.content = c.content /\ t.workload = c.workload

omit [DecidableEq σ] in
lemma Yields.congr {c : CompiledTwin σ} (same : Untouched other twins after) :
  Yields other after c ↔ Yields other twins c := by
  refine forall_congr' fun t => ⟨fun h found stamped => ?_, fun h found stamped => ?_⟩
  · have listed := (same t stamped).mpr (mem_of_find found)
    exact h (find_key found ▸ find_of_mem listed) stamped
  · have listed := (same t stamped).mp (mem_of_find found)
    exact h (find_key found ▸ find_of_mem listed) stamped

omit [DecidableEq σ] in
lemma stamped_other (differ : src ≠ other) {c : CompiledTwin σ} : CompiledTwin.source { c with stamp := src } ≠ some other := by
  unfold CompiledTwin.source
  split
  · exact fun same => differ (Option.some.inj same)
  · exact fun none => by cases none

lemma untouched_upsertTwin_iff (differ : src ≠ other) (c : CompiledTwin σ) :
  Untouched other twins (upsertTwin src twins c) ↔ Yields other twins c := by
  unfold upsertTwin
  split
  next absent =>
    refine iff_of_true (fun t stamped => ?_) (fun t found => by rw [absent] at found; cases found)
    have foreign : t ≠ { c with stamp := src } := fun same => stamped_other differ (same ▸ stamped)
    rw [mem_put, or_iff_right foreign, and_iff_left_iff_imp]
    exact fun listed => find_eq_none_iff.mp absent t listed
  next existing found =>
    have standing : existing.key = c.key := find_key found
    split
    next unchanged =>
      refine iff_of_true (fun _ _ => Iff.rfl) (fun t found' _ => ?_)
      cases found.symm.trans found'
      exact unchanged
    next changed =>
      constructor
      · intro same t found' stamped
        cases found.symm.trans found'
        have kept := (same existing stamped).mpr (mem_of_find found)
        rcases mem_put.mp kept with written | ⟨_, elsewhere⟩
        · rw [written]
          exact ⟨rfl, rfl⟩
        · exact absurd rfl elsewhere
      · intro yields t stamped
        have foreign : existing.source ≠ some other := fun held => changed (yields existing found held)
        rw [mem_put]
        constructor
        · rintro (rfl | ⟨listed, _⟩)
          · exact absurd stamped foreign
          · exact listed
        · refine fun listed => .inr ⟨listed, fun same => foreign ?_⟩
          cases (find_of_mem listed).symm.trans ((congrArg _ (same.trans standing)).trans found)
          exact stamped

omit [DecidableEq σ] in
lemma mem_deleteTwins {gone : List (CompiledTwin σ)} {t : CompiledTwin σ} :
  t ∈ (deleteTwins twins gone).items ↔ t ∈ twins.items /\ ∀ g ∈ gone, t.key ≠ g.key := by
  induction gone generalizing twins with
  | nil => simp [deleteTwins]
  | cons g rest ih =>
    have step : deleteTwins twins (g :: rest) = deleteTwins (twins.remove g.key) rest := rfl
    rw [step, ih, mem_remove, forall_mem_cons, and_assoc]

omit [DecidableEq σ] in
lemma untouched_deleteTwins (differ : src ≠ other) (keep : List NamespacedName) (n : Nat) :
  Untouched other twins (deleteTwins twins ((twinsOfSource src keep twins).take n)) := by
  intro t stamped
  rw [mem_deleteTwins, and_iff_left_iff_imp]
  intro listed g pruned same
  obtain ⟨listed', chosen⟩ := mem_filter.mp (mem_of_mem_take pruned)
  cases inj_on_of_nodup_map twins.nodup listed listed' same
  rw [stamped] at chosen
  simp [differ.symm] at chosen

lemma untouched_upserts_iff (differ : src ≠ other) (compiled : List (CompiledTwin σ)) :
  (∀ n, Untouched other twins ((compiled.take n).foldl (upsertTwin src) twins)) ↔ ∀ c ∈ compiled, Yields other twins c := by
  induction compiled generalizing twins with
  | nil => simp [Untouched]
  | cons c rest ih =>
    have first : Untouched other twins (upsertTwin src twins c) ↔ Yields other twins c :=
      untouched_upsertTwin_iff differ c
    constructor
    · intro each
      have same : Untouched other twins (upsertTwin src twins c) := each 1
      have later : ∀ n, Untouched other (upsertTwin src twins c)
        ((rest.take n).foldl (upsertTwin src) (upsertTwin src twins c)) :=
        fun n t stamped => (each (n + 1) t stamped).trans (same t stamped).symm
      refine forall_mem_cons.mpr ⟨first.mp same, fun d listed => ?_⟩
      exact (Yields.congr same).mp (ih.mp later d listed)
    · intro yields n
      obtain ⟨head, tail⟩ := forall_mem_cons.mp yields
      have same := first.mpr head
      cases n with
      | zero => exact fun _ _ => Iff.rfl
      | succ n =>
        have later := ih.mpr (fun d listed => (Yields.congr same).mpr (tail d listed)) n
        exact fun t stamped => (later t stamped).trans (same t stamped)

omit [DecidableEq σ] in
lemma Untouched.trans (first : Untouched other twins mid) (second : Untouched other mid after) : Untouched other twins after :=
  fun t stamped => (second t stamped).trans (first t stamped)

lemma syncAttachment_elsewhere {gateOpen : Bool} {want : List (CompiledTwin σ)} {t cur : CompiledTwin σ}
  (apart : t.key ≠ cur.key) : t ∈ (syncAttachment gateOpen want twins cur).items ↔ t ∈ twins.items := by
  unfold syncAttachment
  split
  · rw [mem_remove, and_iff_left apart]
  · split
    · rw [mem_put, and_iff_left apart]
      exact or_iff_right fun same => apart (by rw [same])
    · rfl

lemma untouched_syncAttachment (differ : src ≠ other) {gateOpen : Bool} {want : List (CompiledTwin σ)} {cur : CompiledTwin σ}
  (listed : cur ∈ twins.items) (own : cur.source = some src) : Untouched other twins (syncAttachment gateOpen want twins cur) := by
  intro t stamped
  by_cases here : t.key = cur.key
  · -- What stands there is the source's own, before and after.
    have foreign (there : t ∈ twins.items) : False :=
      differ (Option.some.inj (own.symm.trans (inj_on_of_nodup_map twins.nodup there listed here ▸ stamped)))
    refine iff_of_false (fun after => ?_) foreign
    unfold syncAttachment at after
    split at after
    · exact (mem_remove.mp after).2 here
    · split at after
      · rcases mem_put.mp after with rfl | ⟨there, -⟩
        · exact differ (Option.some.inj (own.symm.trans stamped))
        · exact foreign there
      · exact foreign after
  · exact syncAttachment_elsewhere here

omit [DecidableEq σ] in
lemma untouched_createAttachments (differ : src ≠ other) (want : List (CompiledTwin σ)) :
  Untouched other twins (createAttachments src twins want) := by
  induction want generalizing twins with
  | nil => exact fun _ _ => Iff.rfl
  | cons w rest ih =>
    rw [createAttachments]
    split
    · exact fun _ _ => Iff.rfl
    next absent =>
      refine Untouched.trans (fun t stamped => ?_) ih
      have foreign : t ≠ { w with stamp := src } := fun same => stamped_other differ (same ▸ stamped)
      rw [mem_put, or_iff_right foreign, and_iff_left_iff_imp]
      exact fun listed => find_eq_none_iff.mp absent t listed

lemma untouched_reconcileAttachments (differ : src ≠ other) (gateOpen : Bool) (want : List (CompiledTwin σ)) (done : Nat) :
  Untouched other twins (reconcileAttachments src gateOpen want twins done) := by
  refine Untouched.trans ?_ (untouched_createAttachments differ _)
  -- What is left to visit is still there: a visit leaves the others as they are.
  have visits (mine : List (CompiledTwin σ)) (nodup : (mine.map (·.key)).Nodup) {twins : Twins σ}
    (all : ∀ cur ∈ mine, cur ∈ twins.items /\ cur.source = some src) :
    Untouched other twins (mine.foldl (syncAttachment gateOpen want) twins) := by
    induction mine generalizing twins with
    | nil => exact fun _ _ => Iff.rfl
    | cons cur rest ih =>
      obtain ⟨⟨listed, own⟩, later⟩ := forall_mem_cons.mp all
      rw [map_cons, nodup_cons] at nodup
      refine (untouched_syncAttachment differ listed own).trans (ih nodup.2 fun next member => ?_)
      have apart : next.key ≠ cur.key := fun same => nodup.1 (mem_map.mpr ⟨next, member, same⟩)
      exact ⟨(syncAttachment_elsewhere apart).mpr (later next member).1, (later next member).2⟩
  refine visits _ ?_ fun cur member => ?_
  · exact twins.nodup.sublist (((take_sublist _ _).trans filter_sublist).map _)
  · obtain ⟨listed, chosen⟩ := mem_filter.mp (mem_of_mem_take member)
    exact ⟨listed, (of_decide_eq_true chosen).1⟩

-- For two sources: their twins have different names, and no pass of one changes a twin of the
-- other, exactly where their names do not meet and no twin of the other stands where one goes.
theorem twin_isolation_iff (differ : src ≠ other) (compiled : List (CompiledTwin σ)) (twins : Twins σ) :
  (compiledTwinName src ≠ compiledTwinName other /\
    (∀ done, Untouched other twins (reconcileTwins src compiled twins done)) /\
    (∀ gateOpen want done, Untouched other twins (reconcileAttachments src gateOpen want twins done)) /\
    ∀ keep done, Untouched other twins (retireTwins src keep twins done)) ↔
  ¬ (NamesMeet src other \/ NamesMeet other src) /\ ∀ c ∈ compiled, Yields other twins c := by
  rw [ne_eq, compiledTwinName_eq_iff differ, and_congr_right_iff]
  intro _
  have retired : ∀ keep done, Untouched other twins (retireTwins src keep twins done) :=
    fun keep done => untouched_deleteTwins differ keep done
  rw [and_iff_left ⟨untouched_reconcileAttachments differ, retired⟩, <- untouched_upserts_iff differ]
  -- pruning changes nothing of the other source's, so only the upserts count
  refine forall_congr' fun done => forall_congr' fun t => forall_congr' fun stamped => ?_
  rw [show t ∈ (reconcileTwins src compiled twins done).items ↔ _ from
    untouched_deleteTwins differ _ _ t stamped]

end

section

-- The VM compiler of the gate writes what upsertTwin does.

variable {σ : Type} [DecidableEq σ]

def twinOf (t : Twin σ) : CompiledTwin (CompiledVMSpec σ × Bool) where
  key := t.key
  stamp := ⟨t.sourceNamespace, t.sourceName⟩
  workload := t.workload
  content := (t.spec, t.finalizer)

def Reflects (stored : Store (Twin.key : Twin σ -> NamespacedName)) (twins : Twins (CompiledVMSpec σ × Bool)) : Prop :=
  ∀ k, twins.find k = (stored.find k).map twinOf

variable {stored : Store (Twin.key : Twin σ -> NamespacedName)} {twins : Twins (CompiledVMSpec σ × Bool)}

omit [DecidableEq σ] in
lemma Reflects.put (reflects : Reflects stored twins) (t : Twin σ) : Reflects (stored.put t) (twins.put (twinOf t)) := by
  intro k
  rw [find_put, find_put, reflects k]
  split
  next here => rw [if_pos (show k = t.key from here), Option.map_some]
  next apart => rw [if_neg (show k ≠ t.key from apart)]

omit [DecidableEq σ] in
lemma setMoving_run (src : NamespacedName) (vm : VirtualMachine) (status : Dispatch.ConditionStatus) (reason message : String)
  (outcome : Nat -> Chance σ) (log : Log (World σ) Reply) (w : World σ) :
  ((setMoving src vm status reason message).run serve (fun _ w => w) outcome log w).2.2 = w := by
  unfold setMoving
  dsimp only
  split
  · rfl
  · split
    · rfl
    · exact Dispatch.Outcome.answer_same _ _ _

lemma upsert_reflects (src : NamespacedName) (vm : VirtualMachine) (rest : σ) (w : World σ) (reflects : Reflects w.twins.now twins)
  (outcome : Nat -> Chance σ) (log : Log (World σ) Reply)
  (calm : ∀ n, (outcome n).outcome = .normal /\ (outcome n).lag = 0 /\ (outcome n).inputs = .ok rest) :
  Reflects ((upsert src vm).run serve (fun _ w => w) outcome log w).2.2.twins.now
    (upsertTwin src twins (twinOf (compileVM src vm rest))) := by
  have found := reflects (compileVM src vm rest).key
  have behind : w.twins.behind 0 = w.twins.now := rfl
  rw [upsert, Prog.run_bind, compileInputs, Prog.run_ask]
  simp only [serve, calm]
  rw [Prog.run_bind, cachedTwin, Prog.run_ask]
  simp only [serve, calm, behind, upsertTwin, show (twinOf (compileVM src vm rest)).key = (compileVM src vm rest).key from rfl, found]
  cases stands : w.twins.now.find (compileVM src vm rest).key with
  | none => 
    simp only [Option.map_none]
    rw [Prog.run_bind, createTwin, Prog.run_ask]
    simp only [serve, calm, stands, Dispatch.Outcome.answer, setMoving_run]
    exact reflects.put _
  | some existing =>
    simp only [Option.map_some, Dispatch.Outcome.answer]
    split
    next same =>
      obtain ⟨spec, workload, finalizer⟩ := same
      rw [setMoving_run, if_pos ⟨Prod.ext spec finalizer, workload⟩]
      exact reflects
    next differs =>
      have apart : ¬ ((twinOf existing).content = (twinOf (compileVM src vm rest)).content /\
          (twinOf existing).workload = (twinOf (compileVM src vm rest)).workload) := by
        rintro ⟨content, workload⟩
        obtain ⟨spec, finalizer⟩ := Prod.mk.inj content
        exact differs ⟨spec, workload, finalizer⟩
      rw [if_neg apart]
      rw [Prog.run_bind, updateTwin, Prog.run_ask]
      have key := find_key stands
      simp only [serve, calm, key, stands, Dispatch.checked, Dispatch.Outcome.answer, storeTwin, if_true, Except.map,
        setMoving_run, Bool.not_true, Bool.and_false, Bool.false_eq_true, if_false, twinOf]
      exact reflects.put _

end

-- Both twins are named a-b-c in the pool's namespace.
def sharedName : CompiledTwin String := ⟨⟨"pool-p", "a-b-c"⟩, ⟨"a", "b-c"⟩, "", "of a/b-c"⟩

theorem attachment_names_collide_isolated :
  let src : NamespacedName := ⟨"n", "b"⟩
  let other : NamespacedName := ⟨"n", "b-c"⟩
  let disk : CompiledTwin String := ⟨⟨"pool-p", attachmentTwinName other "d"⟩, other, "b-c", "d of n/b-c"⟩
  let vm : CompiledTwin String := ⟨⟨"pool-p", compiledTwinName src⟩, src, "b", "n/b"⟩
  let twins : Twins String := (empty.put disk).put { vm with content := "old" }
  let want : List (CompiledTwin String) := [⟨disk.key, src, "b", "c-d of n/b"⟩]
  attachmentTwinName src "c-d" = attachmentTwinName other "d" /\ compiledTwinName src ≠ compiledTwinName other /\
    (∀ done, Untouched other twins (reconcileTwins src [vm] twins done)) /\
    ∀ done, Untouched other twins (reconcileAttachments src true want twins done) := by
  intro src other disk vm twins want
  have apart : ¬ (NamesMeet src other \/ NamesMeet other src) := fun met =>
    absurd ((compiledTwinName_eq_iff (by decide)).mpr met) (by decide)
  have yields : ∀ c ∈ [vm], Yields other twins c := by
    intro c listed t found stamped
    cases mem_singleton.mp listed
    obtain rfl := Option.some.inj (show some _ = some t from found)
    exact absurd stamped (by decide)
  obtain ⟨names, passes, attachments, -⟩ := (twin_isolation_iff (by decide) [vm] twins).mpr ⟨apart, yields⟩
  exact ⟨by decide, names, passes, attachments true want⟩

theorem dashed_names_collide : (⟨"a-b", "c"⟩ : NamespacedName) ≠ ⟨"a", "b-c"⟩ /\
    compiledTwinName ⟨"a-b", "c"⟩ = compiledTwinName ⟨"a", "b-c"⟩ /\
    (reconcileTwins ⟨"a-b", "c"⟩ [⟨sharedName.key, ⟨"", ""⟩, "", "of a-b/c"⟩]
      (empty.put sharedName) 1).items = [{ sharedName with content := "of a-b/c" }] := by
  decide

end Ectobase.Handover
