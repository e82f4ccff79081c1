import Ectobase.Dispatch.FenceInvariant
import Ectobase.Shared.Runs
import Ectobase.Shared.Threads

namespace Ectobase.Dispatch

open Shared List Option Prog Store

variable {told : Trace FenceReply} {w : FenceWorld} {name : String}

variable (task : FenceTask) (used : String -> Prop) (moves : List FencerMove)

section

open StorageFencer

inductive FenceTask where
  | fence (pool pfx : String)
  | release (pool pfx : String)
  deriving DecidableEq, Repr

namespace FenceTask

def pool : FenceTask -> String
  | .fence pool _ | .release pool _ => pool

def pfx : FenceTask -> String
  | .fence _ pfx | .release _ pfx => pfx

def program : FenceTask -> Fencing (Except String Unit)
  | .fence pool pfx => StorageFencer.fence pool pfx
  | .release pool pfx => StorageFencer.release pool pfx

end FenceTask

def Read (told : Trace FenceReply) (name : String) (reply : Except ApiError NetworkFence) : Prop :=
  Replied told (.get name) reply

def NetworkFence.Spent (f : NetworkFence) : Prop := f.fenceState = .unfenced /\ f.Confirmed

def FenceGuard (told : Trace FenceReply) : FenceCall -> Prop
  | .get name => name = fenceName task.pfx
  | .create f => (∃ pool pfx, task = .fence pool pfx) /\ f = obj task.pool task.pfx .fenced
  | .update f => ∃ cur, Read told (fenceName task.pfx) (.ok cur) /\ cur.owner = task.pool /\
      cur.fenceState = .fenced /\ f = { cur with fenceState := .unfenced }
  | .delete f => Read told (fenceName task.pfx) (.ok f) /\ f.owner = task.pool /\ f.Spent

def FencePost (value : Except String Unit) (told : Trace FenceReply) : Prop := value = .ok () -> match task with
  | .fence pool pfx => ∃ cur, Read told (fenceName pfx) (.ok cur) /\ cur.owner = pool /\
      cur.fenceState = .fenced /\ cur.Confirmed
  | .release _ pfx => Read told (fenceName pfx) (.error .notFound) \/ ∃ cur, Read told (fenceName pfx) (.ok cur) /\ cur.Spent

def AnyReply (c : FenceCall) (_ : FenceReply c) : Prop := True

lemma fence_obeys (pool pfx : String) : (StorageFencer.fence pool pfx).Obeys AnyReply (FenceGuard (.fence pool pfx))
    (FencePost (.fence pool pfx)) [] := by
  refine obeys_call rfl fun reply _ => ?_
  match reply with
  | .error .notFound =>
    refine obeys_call ⟨⟨pool, pfx, rfl⟩, rfl⟩ fun reply _ => ?_
    match reply with
    | .error _ | .ok () => exact fun failed => nomatch failed
  | .error .conflict | .error (.failed _) => exact fun failed => nomatch failed
  | .ok cur =>
    have read : Read [⟨.get (fenceName pfx), .ok cur⟩] (fenceName pfx) (.ok cur) := mem_singleton_self _
    dsimp only
    split_ifs with ending owner state unreported unconfirmed
    · exact fun failed => nomatch failed
    · exact fun failed => nomatch failed
    · exact fun failed => nomatch failed
    · have unfenced : cur.fenceState = .unfenced := by cases h : cur.fenceState <;> simp_all
      rw [not_or, not_not, not_not] at unreported
      have spent : cur.Spent := ⟨unfenced, unreported.1, by rw [unfenced]; exact unreported.2⟩
      refine obeys_call ⟨read, not_not.mp owner, spent⟩ fun reply _ => ?_
      match reply with
      | .ok () | .error .notFound | .error .conflict | .error (.failed _) =>
        exact fun failed => nomatch failed
    · exact fun failed => nomatch failed
    · rw [not_or, not_not, not_not] at unconfirmed
      have fenced : cur.fenceState = .fenced := not_not.mp state
      exact fun _ => ⟨cur, read, not_not.mp owner, fenced, unconfirmed.1, by rw [fenced]; exact unconfirmed.2⟩

lemma release_obeys (pool pfx : String) : (StorageFencer.release pool pfx).Obeys AnyReply (FenceGuard (.release pool pfx))
    (FencePost (.release pool pfx)) [] := by
  refine obeys_call rfl fun reply _ => ?_
  match reply with
  | .error .notFound => exact fun _ => .inl (mem_singleton_self _)
  | .error .conflict | .error (.failed _) => exact fun failed => nomatch failed
  | .ok cur =>
    have read : Read [⟨.get (fenceName pfx), .ok cur⟩] (fenceName pfx) (.ok cur) := mem_singleton_self _
    dsimp only
    split_ifs with owner state unreported
    · exact fun failed => nomatch failed
    · have fenced : cur.fenceState = .fenced := by cases h : cur.fenceState <;> simp_all
      refine obeys_call ⟨cur, read, not_not.mp owner, fenced, rfl⟩ fun reply _ => ?_
      match reply with
      | .ok () | .error _ => exact fun failed => nomatch failed
    · exact fun failed => nomatch failed
    · have unfenced : cur.fenceState = .unfenced := not_not.mp state
      rw [not_or, not_not, not_not] at unreported
      have spent : cur.Spent := ⟨unfenced, unreported.1, by rw [unfenced]; exact unreported.2⟩
      refine obeys_call ⟨read, not_not.mp owner, spent⟩ fun reply _ => ?_
      match reply with
      | .ok () | .error .notFound =>
        exact fun _ => .inr ⟨cur, mem_cons_of_mem _ read, spent⟩
      | .error .conflict | .error (.failed _) => exact fun failed => nomatch failed

lemma task_obeys : task.program.Obeys AnyReply (FenceGuard task) (FencePost task) [] := by
  cases task with
  | fence pool pfx => exact fence_obeys pool pfx
  | release pool pfx => exact release_obeys pool pfx

def FenceKnows (told : Trace FenceReply) (w : FenceWorld) : Prop :=
  ∀ name f, Read told name (.ok f) -> f.name = name /\ f.resourceVersion <= w.revision /\
    ∀ cur, w.fences.find name = some cur -> cur.resourceVersion = f.resourceVersion -> cur = f

structure Evolves (w w' : FenceWorld) : Prop where
  revision : w.revision <= w'.revision
  versions : ∀ name cur, w'.fences.find name = some cur ->
    w.fences.find name = some cur \/ w.revision < cur.resourceVersion

lemma FenceKnows.evolve {w' : FenceWorld} (knows : FenceKnows told w) (evolves : Evolves w w') : FenceKnows told w' := by
  intro name f read
  obtain ⟨named, old, unchanged⟩ := knows name f read
  refine ⟨named, Nat.le_trans old evolves.revision, fun cur found same => ?_⟩
  rcases evolves.versions name cur found with before | newer
  · exact unchanged cur before same
  · exact absurd (same ▸ old) (Nat.not_le_of_lt newer)

lemma Evolves.refl (w : FenceWorld) : Evolves w w := ⟨Nat.le_refl _, fun _ _ found => .inl found⟩

lemma Evolves.trans {w1 w2 w3 : FenceWorld} (first : Evolves w1 w2) (second : Evolves w2 w3) : Evolves w1 w3 := by
  refine ⟨Nat.le_trans first.revision second.revision, fun name cur found => ?_⟩
  rcases second.versions name cur found with before | newer
  · exact first.versions name cur before
  · exact .inr (Nat.lt_of_le_of_lt first.revision newer)

lemma Evolves.put {w' : FenceWorld} (f : NetworkFence) (revision : w'.revision = w.revision + 1)
  (fences : w'.fences = w.fences.put { f with resourceVersion := w.revision + 1 }) :
  Evolves w w' := by
  refine ⟨revision ▸ Nat.le_succ _, fun name cur found => ?_⟩
  rw [fences, find_put] at found
  split at found
  · obtain rfl := some.inj found
    exact .inr (Nat.lt_succ_self _)
  · exact .inl found

lemma Evolves.remove (name : String) : Evolves w { w with fences := w.fences.remove name } := by
  refine ⟨Nat.le_refl _, fun k cur found => .inl ?_⟩
  rw [find_remove] at found
  split at found
  · cases found
  · exact found

lemma evolves_storeFence (w : FenceWorld) (cur new : NetworkFence) : Evolves w (storeFence w cur new) := by
  unfold storeFence
  split
  · exact Evolves.refl w
  · exact Evolves.put new rfl rfl

lemma evolves_csiStep (w : FenceWorld) (step : CsiStep) : Evolves w (csiStep w step) := by
  cases step with
  | adopt name =>
    simp only [csiStep]
    split
    · exact Evolves.refl w
    · split
      · exact Evolves.refl w
      · exact evolves_storeFence w _ _
  | execute name how =>
    simp only [csiStep]
    split
    · exact Evolves.refl w
    · exact ⟨Nat.le_refl _, fun _ _ found => .inl found⟩
  | report name failure =>
    simp only [csiStep]
    split
    next cur op _ _ =>
      have forgotten : Evolves w { w with operations := Function.update w.operations cur.name none } :=
        ⟨Nat.le_refl _, fun _ _ found => .inl found⟩
      unfold reportFence
      split
      · exact forgotten.trans (evolves_storeFence _ _ _)
      · exact forgotten
    · exact Evolves.refl w
  | finalize name =>
    simp only [csiStep]
    split
    · exact Evolves.refl w
    · split
      · exact Evolves.remove name
      · exact Evolves.refl w

-- The server as it would be if a Delete, too, were checked against the version that was read.
def serveChecked : Serve FenceWorld Outcome FenceReply
  | w, .delete f, o =>
    if ∀ cur ∈ w.fences.find f.name, cur.resourceVersion = f.resourceVersion then serveFence w (.delete f) o
    else (.error .conflict, w)
  | w, c, o => serveFence w c o

lemma serveChecked_delete {o : Outcome} {f : NetworkFence} (kept : FenceWorld -> Prop) (here : kept w)
  (made : ∀ cur, w.fences.find f.name = some cur -> cur.resourceVersion = f.resourceVersion ->
    kept (deleteFence w cur).2) : kept (serveChecked w (.delete f) o).2 := by
  simp only [serveChecked]
  split
  next current =>
    simp only [serveFence]
    cases found : w.fences.find f.name with
    | none => cases o <;> exact here
    | some cur =>
      have made := made cur found (current cur found)
      cases o with
      | refused => exact here
      | normal | unanswered => exact made
  · exact here

lemma get_world (w : FenceWorld) (name : String) (o : Outcome) : (serveChecked w (.get name) o).2 = w := by
  simp only [serveChecked, serveFence]
  split
  · cases o <;> rfl
  · rw [Outcome.answer_same]

lemma evolves_serveChecked (w : FenceWorld) (c : FenceCall) (o : Outcome) : Evolves w (serveChecked w c o).2 := by
  cases c with
  | get name =>
    rw [get_world]
    exact Evolves.refl w
  | create f =>
    simp only [serveChecked, serveFence]
    split
    · cases o with
      | refused => exact Evolves.refl w
      | normal | unanswered => exact Evolves.put f rfl rfl
    · exact Evolves.refl w
  | update f =>
    show Evolves w (checked _ _ _ o w (updateFence w f)).2
    exact checked_keeps (Evolves w) (Evolves.refl w) fun cur _ _ => evolves_storeFence w cur _
  | delete f =>
    refine serveChecked_delete (Evolves w) (Evolves.refl w) fun cur _ _ => ?_
    unfold deleteFence
    split
    · exact evolves_storeFence w cur _
    · exact Evolves.remove cur.name

lemma FenceInv.serve {used : String -> Prop} (inv : FenceInv used w) {task : FenceTask}
  (admitted : ∀ pool pfx, task = .fence pool pfx -> used pfx) (knows : FenceKnows told w)
  {c : FenceCall} (permitted : FenceGuard task told c) (o : Outcome) :
  FenceInv used (serveChecked w c o).2 := by
  cases c with
  | get name => rwa [get_world]
  | create f =>
    obtain ⟨⟨pool, pfx, rfl⟩, rfl⟩ := permitted
    simp only [serveChecked, serveFence]
    split
    next absent =>
      have blank : "" ≠ "Succeeded" := by decide
      have made := inv.create absent rfl (admitted pool pfx rfl) blank rfl
      cases o with
      | refused => exact inv
      | normal | unanswered => exact made
    · exact inv
  | update f =>
    obtain ⟨old, read, owner, fenced, rfl⟩ := permitted
    obtain ⟨named, -, unchanged⟩ := knows _ old read
    show FenceInv used (checked _ _ _ o w (updateFence w _)).2
    refine checked_keeps (FenceInv used) inv fun cur found current => ?_
    obtain rfl : cur = old := unchanged cur (named ▸ found) current
    -- The status is still that of the fence operation, so nothing is confirmed by the flip.
    refine inv.replace found rfl rfl ?_ (fun flipped => by cases flipped) ?_
    · intro confirmed
      have old_message := inv.unspent _ cur found fenced confirmed.1
      have new_message : cur.message = unfenceSucceededMsg := confirmed.2
      rw [old_message] at new_message
      exact absurd new_message (by decide)
    · intro ending
      have unfenced := (inv.terminating _ cur found ending).1
      rw [fenced] at unfenced
      cases unfenced
  | delete f =>
    obtain ⟨read, owner, state, confirmed⟩ := permitted
    obtain ⟨named, -, unchanged⟩ := knows _ f read
    refine serveChecked_delete (FenceInv used) inv fun cur found current => ?_
    obtain rfl : cur = f := unchanged cur (named ▸ found) current
    have done := inv.confirmed _ cur found confirmed
    unfold deleteFence
    split
    · exact inv.replace found rfl rfl (fun _ => done) (inv.unspent _ cur found) fun _ => ⟨state, done⟩
    · exact inv.remove (inv.clear found state done)

lemma get_ok {o : Outcome} {f : NetworkFence} (told : (serveFence w (.get name) o).1 = .ok f) :
  w.fences.find name = some f := by
  cases found : w.fences.find name with
  | none =>
    simp only [serveFence, found] at told
    cases o <;> cases told
  | some stored =>
    simp only [serveFence, found] at told
    rw [Outcome.answer_ok told]

lemma get_notFound {o : Outcome} (told : (serveFence w (.get name) o).1 = .error .notFound) : w.fences.find name = none := by
  cases found : w.fences.find name with
  | none => rfl
  | some stored =>
    simp only [serveFence, found] at told
    cases o <;> cases told

lemma FenceKnows.learn {used : String -> Prop} (inv : FenceInv used w) (knows : FenceKnows told w)
  (c : FenceCall) (o : Outcome) :
  FenceKnows (⟨c, (serveChecked w c o).1⟩ :: told) (serveChecked w c o).2 := by
  have before := knows.evolve (evolves_serveChecked w c o)
  intro name f read
  rcases mem_cons.mp read with new | old
  · obtain ⟨rfl, same⟩ := Sigma.mk.inj_iff.mp new
    have found := get_ok (eq_of_heq same).symm
    rw [get_world]
    refine ⟨find_key found, inv.version name f found, fun cur stored _ => ?_⟩
    exact mem_unique stored found
  · exact before name f old

lemma storeFence_others {cur new : NetworkFence} (same : new.name = cur.name) (apart : name ≠ cur.name) :
  (storeFence w cur new).fences.find name = w.fences.find name := by
  unfold storeFence
  split
  · rfl
  · rw [find_put, if_neg (by rw [same]; exact apart)]

lemma serve_others {task : FenceTask} (knows : FenceKnows told w) {c : FenceCall}
  (permitted : FenceGuard task told c) (o : Outcome) {f : NetworkFence}
  (found : w.fences.find name = some f) (foreign : f.owner ≠ task.pool) :
  (serveChecked w c o).2.fences.find name = some f := by
  have apart : ∀ cur : NetworkFence, w.fences.find cur.name = some cur -> cur.owner = task.pool -> name ≠ cur.name := by
    rintro cur stored own rfl
    exact foreign (mem_unique found stored ▸ own)
  cases c with
  | get => rwa [get_world]
  | create new =>
    simp only [serveChecked, serveFence]
    split
    next absent =>
      have other : name ≠ new.name := fun same => by rw [same, absent] at found; cases found
      have made : (createFence w new).fences.find name = some f := by
        rw [createFence, find_put, if_neg other, found]
      cases o with
      | refused => exact found
      | normal | unanswered => exact made
    · exact found
  | update new =>
    obtain ⟨old, read, owner, -, rfl⟩ := permitted
    obtain ⟨named, -, unchanged⟩ := knows _ old read
    show (checked _ _ _ o w (updateFence w _)).2.fences.find name = some f
    refine checked_keeps (fun left : FenceWorld => left.fences.find name = some f) found fun cur stored current => ?_
    obtain rfl : cur = old := unchanged cur (named ▸ stored) current
    refine Eq.trans (storeFence_others ?_ (apart cur stored owner)) found
    rfl
  | delete old =>
    obtain ⟨read, owner, -⟩ := permitted
    obtain ⟨named, -, unchanged⟩ := knows _ old read
    refine serveChecked_delete (fun left : FenceWorld => left.fences.find name = some f) found fun cur stored current => ?_
    obtain rfl : cur = old := unchanged cur (named ▸ stored) current
    unfold deleteFence
    split
    · refine Eq.trans (storeFence_others ?_ (apart cur stored owner)) found
      rfl
    · rw [find_remove, if_neg (apart cur stored owner), found]

def FenceTask.Uses : FenceTask -> Prop
  | .fence _ pfx => used pfx
  | .release _ _ => True

lemma fencer_discipline : Discipline (κ := Nat) serveChecked csiStep FenceTask.program AnyReply FenceGuard FencePost
    (fun _ task => task.Uses used) (FenceInv used) (fun _ _ => FenceKnows) where
  obeys := fun _ task _ => task_obeys task
  served := fun _ _ _ => trivial
  nothing := fun _ _ _ _ => fun _ _ read => nomatch read
  call := by
    intro _ task told w c o admitted inv knows permitted
    refine ⟨inv.serve (fun pool pfx same => ?_) knows permitted o, knows.learn inv c o⟩
    rw [same] at admitted
    exact admitted
  stable := fun _ _ _ w c o _ _ _ _ _ _ _ _ _ knows => knows.evolve (evolves_serveChecked w c o)
  env := fun _ step inv => inv.csi step
  envStable := fun w step _ _ _ _ _ knows => knows.evolve (evolves_csiStep w step)

lemma FenceInv.empty : FenceInv used .empty where
  version := fun _ _ found => nomatch found
  named := fun _ _ found => nomatch found
  held := fun _ listed => nomatch listed
  confirmed := fun _ _ found => nomatch found
  unspent := fun _ _ found => nomatch found
  terminating := fun _ _ found => nomatch found
  executed := fun _ _ known => nomatch known

end

abbrev FencerMove := Move Nat FenceTask Outcome CsiStep

abbrev FencerState := Threads Nat FenceWorld FenceReply FenceTask (Except String Unit)

def fencerStep : FencerState -> FencerMove -> FencerState :=
  Threads.step serveFence csiStep FenceTask.program

def fencerRun : FencerState := moves.foldl fencerStep (Threads.idle .empty)

def fencePrefixes : List String := moves.filterMap fun
  | .start _ (.fence _ pfx) => some pfx
  | _ => none

def deletes : StorageFencer.Fencing (Except String Unit) -> Option NetworkFence
  | .call (.delete f) _ => some f
  | _ => none

-- A Delete that is made meets the object as it was read, or none.
def DeletesAsRead (s : FencerState) : FencerMove -> Prop
  | .call worker _ => ∀ t ∈ s.running worker, ∀ f ∈ deletes t.rest,
      ∀ cur ∈ s.world.fences.find f.name, cur.resourceVersion = f.resourceVersion
  | _ => True

instance DeletesAsRead.decidable (s : FencerState) : ∀ move, Decidable (DeletesAsRead s move)
  | .call worker _ => inferInstanceAs (Decidable (∀ t ∈ s.running worker, _))
  | .start _ _ | .env _ => isTrue trivial

def checkedStep : FencerState -> FencerMove -> FencerState :=
  Threads.step serveChecked csiStep FenceTask.program

lemma fencerStep_checked (s : FencerState) (move : FencerMove) (asRead : DeletesAsRead s move) :
  fencerStep s move = checkedStep s move := by
  cases move with
  | start | env => rfl
  | call worker o =>
    simp only [fencerStep, checkedStep, Threads.step]
    cases running : s.running worker with
    | none => rfl
    | some t =>
      obtain ⟨tag, log, rest⟩ := t
      cases rest with
      | done => rfl
      | call c next =>
        have same : serveFence s.world c o = serveChecked s.world c o := by
          cases c with
          | get | create | update => rfl
          | delete f => rw [serveChecked, if_pos (asRead _ running f rfl)]
        simp only [Thread.next, same]

variable {moves} in
lemma fencerRun_sound (asRead : Along fencerStep DeletesAsRead (Threads.idle .empty) moves) : (fencerRun moves).Sound serveChecked AnyReply FenceGuard FencePost
    (fun _ task => task.Uses (· ∈ fencePrefixes moves)) (FenceInv (· ∈ fencePrefixes moves))
    (fun _ _ => FenceKnows) := by
  rw [fencerRun, asRead.foldl_congr fencerStep_checked]
  refine (fencer_discipline _).run (Threads.idle_sound (FenceInv.empty _)) moves ?_
  intro move member
  cases move with
  | start worker task =>
    cases task with
    | fence pool pfx => exact mem_filterMap.mpr ⟨_, member, rfl⟩
    | release => trivial
  | call | env => trivial

theorem storage_fencer_protocol {moves : List FencerMove}
  (asRead : Along fencerStep DeletesAsRead (Threads.idle .empty) moves) (worker : Nat)
  (t : Thread FenceWorld FenceReply FenceTask (Except String Unit))
  (running : (fencerRun moves).running worker = some t) :
  (∀ pool pfx, t.tag = .fence pool pfx -> t.rest = .done (.ok ()) ->
    (∀ other ∈ fencePrefixes moves, fenceName other = fenceName pfx -> other = pfx) ->
    ∃ e ∈ t.log, e.call = .get (fenceName pfx) /\ pfx ∈ e.world.blocklist /\
      ∃ f, e.world.fences.find (fenceName pfx) = some f /\ f.cidr = pfx /\ f.owner = pool) /\
  (∀ pool pfx, t.tag = .release pool pfx -> t.rest = .done (.ok ()) ->
    ∃ e ∈ t.log, e.call = .get (fenceName pfx) /\ ∀ c ∈ e.world.blocklist, fenceName c ≠ fenceName pfx) /\
  ∀ outcome, DeletesAsRead (fencerRun moves) (.call worker outcome) ->
    ∀ name f, (fencerRun moves).world.fences.find name = some f -> f.owner ≠ t.tag.pool ->
      (fencerStep (fencerRun moves) (.call worker outcome)).world.fences.find name = some f := by
  have sound := fencerRun_sound asRead
  have thread := sound.threads worker t running
  obtain ⟨tag, log, rest⟩ := t
  refine ⟨?_, ?_, ?_⟩
  · rintro pool pfx rfl rfl distinct
    obtain ⟨f, read, owner, fenced, confirmed⟩ := thread.obeys rfl
    obtain ⟨w, listed⟩ := Log.mem_of_trace read
    obtain ⟨inv, o, told⟩ := thread.met _ listed
    have found := get_ok told.symm
    have named : fenceName f.cidr = fenceName pfx := (inv.named _ f found).1.symm.trans (find_key found)
    have same : f.cidr = pfx := distinct f.cidr (inv.named _ f found).2 named
    exact ⟨_, listed, rfl, same ▸ (inv.confirmed _ f found confirmed).mpr fenced, f, found, same, owner⟩
  · rintro pool pfx rfl rfl
    rcases thread.obeys rfl with missing | ⟨f, read, state, confirmed⟩
    · obtain ⟨w, listed⟩ := Log.mem_of_trace missing
      obtain ⟨inv, o, told⟩ := thread.met _ listed
      refine ⟨_, listed, rfl, fun c blocked through => ?_⟩
      obtain ⟨f, found, -⟩ := inv.held c blocked
      rw [through, get_notFound told.symm] at found
      cases found
    · obtain ⟨w, listed⟩ := Log.mem_of_trace read
      obtain ⟨inv, o, told⟩ := thread.met _ listed
      have found := get_ok told.symm
      have named : f.name = fenceName pfx := find_key found
      have done := inv.confirmed _ f found confirmed
      exact ⟨_, listed, rfl, named ▸ inv.clear (named ▸ found) state done⟩
  · intro outcome now name f found foreign
    rw [fencerStep_checked _ _ now]
    simp only [checkedStep, Threads.step, running]
    cases rest with
    | done => exact found
    | call c next => exact serve_others thread.knows thread.obeys.1 outcome found foreign

def wholeCycle : List FencerMove := let name := fenceName "10.1.0.0/16"
  [.start 0 (.fence "a" "10.1.0.0/16"), .call 0 .normal, .call 0 .normal, .env (.adopt name),
    .env (.execute name .succeeded), .env (.report name ""),
    .start 1 (.fence "a" "10.1.0.0/16"), .call 1 .normal,
    .start 2 (.release "a" "10.1.0.0/16"), .call 2 .normal, .call 2 .normal,
    .env (.execute name .succeeded), .env (.report name ""),
    .start 3 (.release "a" "10.1.0.0/16"), .call 3 .normal, .call 3 .normal]

theorem whole_cycle_confirms : (∃ t, (fencerRun wholeCycle).running 1 = some t /\
    ∃ e ∈ t.log, "10.1.0.0/16" ∈ e.world.blocklist) /\
  ∃ t, (fencerRun wholeCycle).running 3 = some t /\
    ∃ e ∈ t.log, ∀ c ∈ e.world.blocklist, fenceName c ≠ fenceName "10.1.0.0/16" := by
  have asRead : Along fencerStep DeletesAsRead (Threads.idle .empty) wholeCycle := by decide +kernel
  have fenced : ((fencerRun wholeCycle).running 1).map (fun t => (t.tag, t.rest.result)) =
    some (.fence "a" "10.1.0.0/16", some (.ok ())) := by decide +kernel
  have released : ((fencerRun wholeCycle).running 3).map (fun t => (t.tag, t.rest.result)) =
    some (.release "a" "10.1.0.0/16", some (.ok ())) := by decide +kernel
  constructor
  · obtain ⟨t, running, facts⟩ := map_eq_some_iff.mp fenced
    obtain ⟨tag, result⟩ := Prod.mk.inj facts
    obtain ⟨e, listed, -, blocked, -⟩ := (storage_fencer_protocol asRead 1 t running).1 _ _ tag
      (result_eq_some.mp result) (by decide +kernel)
    exact ⟨t, running, e, listed, blocked⟩
  · obtain ⟨t, running, facts⟩ := map_eq_some_iff.mp released
    obtain ⟨tag, result⟩ := Prod.mk.inj facts
    obtain ⟨e, listed, -, clear⟩ := (storage_fencer_protocol asRead 3 t running).2.1 _ _ tag (result_eq_some.mp result)
    exact ⟨t, running, e, listed, clear⟩

example : fenceName "::1:2:3:4/128" = fenceName "::1.2.3.4/128" := by decide +kernel

-- Two releases of a's unfenced object: the second one's Delete is late.
def lateDelete : List FencerMove := let name := fenceName "10.1.0.0/16"
  [.start 0 (.fence "a" "10.1.0.0/16"), .call 0 .normal, .call 0 .normal,
    .env (.execute name .succeeded), .env (.report name ""),
    .start 1 (.release "a" "10.1.0.0/16"), .call 1 .normal, .call 1 .normal,
    .env (.execute name .succeeded), .env (.report name ""),
    .start 2 (.release "a" "10.1.0.0/16"), .call 2 .normal,
    .start 3 (.release "a" "10.1.0.0/16"), .call 3 .normal, .call 3 .normal,
    .start 4 (.fence "b" "10.1.0.0/16"), .call 4 .normal, .call 4 .normal,
    .env (.execute name .succeeded), .env (.report name ""),
    .start 5 (.fence "b" "10.1.0.0/16"), .call 5 .normal]

-- It removes b's confirmed fence, and b's release then finds none while the prefix is blocklisted.
theorem late_delete_removes_foreign_fence :
  let lost := lateDelete ++ [.call 2 .normal]
  let after := lost ++ [.start 6 (.release "b" "10.1.0.0/16"), .call 6 .normal]
  let name := fenceName "10.1.0.0/16"
  ((fencerRun lateDelete).running 5).map (fun t => (t.tag, t.rest.result)) =
      some (.fence "b" "10.1.0.0/16", some (.ok ())) /\
    ((fencerRun lateDelete).world.fences.find name).map (·.owner) = some "b" /\
    ((fencerRun lateDelete).running 2).map (fun t => t.tag) = some (.release "a" "10.1.0.0/16") /\
    (fencerRun lost).world.fences.find name = none /\
    ((fencerRun after).running 6).map (fun t => (t.tag, t.rest.result, t.log.map (·.world.blocklist))) =
      some (.release "b" "10.1.0.0/16", some (.ok ()), [["10.1.0.0/16"]]) := by
  decide +kernel

end Ectobase.Dispatch
