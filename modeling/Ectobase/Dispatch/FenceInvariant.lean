import Ectobase.Dispatch.NetworkFence

namespace Ectobase.Dispatch

open Shared Option Store

section

def FenceWorld.Clear (w : FenceWorld) (name : String) : Prop := ∀ c ∈ w.blocklist, fenceName c ≠ name

def FenceWorld.Done (w : FenceWorld) (f : NetworkFence) : Prop :=
  f.cidr ∈ w.blocklist ↔ f.fenceState = .fenced

def NetworkFence.Confirmed (f : NetworkFence) : Prop :=
  f.result = "Succeeded" /\ f.message = f.fenceState.succeededMsg

def NetworkFence.Unspent (f : NetworkFence) : Prop :=
  f.fenceState = .fenced -> f.result = "Succeeded" -> f.message = fenceSucceededMsg

structure FenceInv (used : String -> Prop) (w : FenceWorld) : Prop where
  version : ∀ name f, w.fences.find name = some f -> f.resourceVersion <= w.revision
  named : ∀ name f, w.fences.find name = some f -> f.name = fenceName f.cidr /\ used f.cidr
  held : ∀ c ∈ w.blocklist, ∃ f, w.fences.find (fenceName c) = some f /\ f.cidr = c
  confirmed : ∀ name f, w.fences.find name = some f -> f.Confirmed -> w.Done f
  -- A Fenced object was never unfenced, so no unfence can have been reported on it.
  unspent : ∀ name f, w.fences.find name = some f -> f.Unspent
  terminating : ∀ name f, w.fences.find name = some f -> f.terminating = true ->
    f.fenceState = .unfenced /\ w.Done f
  -- An operation says something about the object only while the object has not changed.
  executed : ∀ name op, w.operations name = some op -> op.resourceVersion <= w.revision /\
    ∀ f, w.fences.find name = some f -> f.resourceVersion = op.resourceVersion ->
      op.succeeded = true -> op.state = f.fenceState /\ w.Done f

variable {used : String -> Prop} {w : FenceWorld}

-- A create and an update write alike: the new version goes under its name, and the rest stays.
lemma FenceInv.put (inv : FenceInv used w) {new : NetworkFence} (named : new.name = fenceName new.cidr)
  (admitted : used new.cidr) (cidr : ∀ old, w.fences.find new.name = some old -> new.cidr = old.cidr)
  (confirmed : new.Confirmed -> w.Done new) (unspent : new.Unspent)
  (terminating : new.terminating = true -> new.fenceState = .unfenced /\ w.Done new) :
  FenceInv used (createFence w new) := by
  have find : ∀ k f, (createFence w new).fences.find k = some f ->
    f = { new with resourceVersion := w.revision + 1 } \/ w.fences.find k = some f := by
    intro k f found
    rw [createFence, find_put] at found
    split at found
    · exact .inl (some.inj found).symm
    · exact .inr found
  constructor
  · intro k f found
    rcases find k f found with rfl | found
    · exact Nat.le_refl _
    · exact Nat.le_succ_of_le (inv.version k f found)
  · intro k f found
    rcases find k f found with rfl | found
    · exact ⟨named, admitted⟩
    · exact inv.named k f found
  · intro c listed
    obtain ⟨f, found, same⟩ := inv.held c listed
    rw [createFence, find_put]
    split
    next here => exact ⟨_, rfl, (cidr f (here ▸ found)).trans same⟩
    · exact ⟨f, found, same⟩
  · intro k f found reported
    rcases find k f found with rfl | found
    · exact confirmed reported
    · exact inv.confirmed k f found reported
  · intro k f found
    rcases find k f found with rfl | found
    · exact unspent
    · exact inv.unspent k f found
  · intro k f found ending
    rcases find k f found with rfl | found
    · exact terminating ending
    · exact inv.terminating k f found ending
  · intro k op known
    obtain ⟨old, about⟩ := inv.executed k op known
    refine ⟨Nat.le_succ_of_le old, fun f found same => ?_⟩
    rcases find k f found with rfl | found
    · exact absurd old (by rw [<- same]; exact Nat.not_succ_le_self _)
    · exact about f found same

lemma FenceInv.replace (inv : FenceInv used w) {cur new : NetworkFence}
  (stored : w.fences.find cur.name = some cur) (name : new.name = cur.name)
  (cidr : new.cidr = cur.cidr) (confirmed : new.Confirmed -> w.Done new) (unspent : new.Unspent)
  (terminating : new.terminating = true -> new.fenceState = .unfenced /\ w.Done new) :
  FenceInv used (storeFence w cur new) := by
  unfold storeFence
  split
  · exact inv
  · have known := inv.named cur.name cur stored
    refine inv.put (name.trans (known.1.trans (congrArg fenceName cidr.symm))) (cidr ▸ known.2) ?_
      confirmed unspent terminating
    intro old found
    rw [name, stored] at found
    exact some.inj found ▸ cidr

lemma FenceInv.create (inv : FenceInv used w) {new : NetworkFence}
  (absent : w.fences.find new.name = none) (named : new.name = fenceName new.cidr)
  (admitted : used new.cidr) (blank : new.result ≠ "Succeeded")
  (live : new.terminating = false) :
  FenceInv used (createFence w new) :=
  inv.put named admitted (by simp [absent]) (fun reported => absurd reported.1 blank)
    (fun _ reported => absurd reported blank) (by simp [live])

lemma FenceInv.clear (inv : FenceInv used w) {cur : NetworkFence}
  (stored : w.fences.find cur.name = some cur) (state : cur.fenceState = .unfenced)
  (done : w.Done cur) : w.Clear cur.name := by
  intro c listed through
  obtain ⟨f, found, same⟩ := inv.held c listed
  rw [through, stored] at found
  obtain rfl := some.inj found
  have fenced := done.mp (same ▸ listed)
  rw [state] at fenced
  cases fenced

lemma FenceInv.remove (inv : FenceInv used w) {name : String} (clear : w.Clear name) :
  FenceInv used { w with fences := w.fences.remove name } := by
  have find : ∀ k f, (w.fences.remove name).find k = some f -> w.fences.find k = some f := by
    intro k f found
    rw [find_remove] at found
    split at found
    · cases found
    · exact found
  constructor
  · exact fun k f found => inv.version k f (find k f found)
  · exact fun k f found => inv.named k f (find k f found)
  · intro c listed
    obtain ⟨f, found, same⟩ := inv.held c listed
    refine ⟨f, ?_, same⟩
    rw [find_remove, if_neg (clear c listed), found]
  · exact fun k f found => inv.confirmed k f (find k f found)
  · exact fun k f found => inv.unspent k f (find k f found)
  · exact fun k f found => inv.terminating k f (find k f found)
  · intro k op known
    exact ⟨(inv.executed k op known).1, fun f found => (inv.executed k op known).2 f (find k f found)⟩

lemma mem_blocklistAfter {blocklist : List String} {cidr c : String} {state : FenceState} :
  c ∈ blocklistAfter blocklist cidr state ↔ if c = cidr then state = .fenced else c ∈ blocklist := by
  cases state with
  | fenced | unfenced => by_cases same : c = cidr <;> simp [blocklistAfter, same]

lemma mem_execute {cur : NetworkFence} {how : Execution} {c : String} : c ∈ (executeFence w cur how).blocklist ↔
    if c = cur.cidr /\ how.effective = true then cur.fenceState = .fenced else c ∈ w.blocklist := by
  unfold executeFence
  cases how.effective with
  | false => simp
  | true => simp [mem_blocklistAfter]

lemma FenceInv.done_execute (inv : FenceInv used w) {cur : NetworkFence}
  (stored : w.fences.find cur.name = some cur) (how : Execution) {name : String}
  {f : NetworkFence} (found : w.fences.find name = some f)
  (done : w.Done f \/ (f = cur /\ how.effective = true)) : (executeFence w cur how).Done f := by
  rw [FenceWorld.Done, mem_execute]
  split
  next own =>
    have here : f = cur := by
      have named := (inv.named name f found).1
      rw [own.1, <- (inv.named _ _ stored).1] at named
      rw [<- find_key found, named, stored] at found
      exact (some.inj found).symm
    rw [here]
  next other =>
    rcases done with done | ⟨rfl, effective⟩
    · exact done
    · exact absurd ⟨rfl, effective⟩ other

lemma FenceInv.execute (inv : FenceInv used w) {cur : NetworkFence}
  (stored : w.fences.find cur.name = some cur) (how : Execution) :
  FenceInv used (executeFence w cur how) := by
  constructor
  · exact inv.version
  · exact inv.named
  · intro c listed
    rw [mem_execute] at listed
    split at listed
    next own => exact ⟨cur, by rw [own.1, <- (inv.named _ _ stored).1]; exact stored, own.1.symm⟩
    · exact inv.held c listed
  · intro k f found reported
    exact inv.done_execute stored how found (.inl (inv.confirmed k f found reported))
  · exact inv.unspent
  · intro k f found ending
    obtain ⟨state, done⟩ := inv.terminating k f found ending
    exact ⟨state, inv.done_execute stored how found (.inl done)⟩
  · intro k op known
    simp only [executeFence, Function.update_apply] at known
    split at known
    next here =>
      obtain rfl := some.inj known
      refine ⟨inv.version _ _ stored, fun f found _ succeeded => ?_⟩
      have same : f = cur := mem_unique found (here ▸ stored)
      subst same
      refine ⟨rfl, inv.done_execute stored how found (.inr ⟨rfl, ?_⟩)⟩
      rw [of_decide_eq_true succeeded]
      rfl
    · obtain ⟨old, about⟩ := inv.executed k op known
      refine ⟨old, fun f found same succeeded => ?_⟩
      obtain ⟨state, done⟩ := about f found same succeeded
      exact ⟨state, inv.done_execute stored how found (.inl done)⟩

lemma FenceInv.forget (inv : FenceInv used w) (name : String) :
  FenceInv used { w with operations := Function.update w.operations name none } := by
  refine ⟨inv.version, inv.named, inv.held, inv.confirmed, inv.unspent, inv.terminating, ?_⟩
  intro k op known
  simp only [Function.update_apply] at known
  split at known
  · cases known
  · exact inv.executed k op known

lemma FenceInv.csi (inv : FenceInv used w) (step : CsiStep) : FenceInv used (csiStep w step) := by
  cases step with
  | adopt name =>
    rw [csiStep]
    cases found : w.fences.find name with
    | none => exact inv
    | some cur =>
      dsimp only
      split
      · exact inv
      next live =>
        have stored : w.fences.find cur.name = some cur := find_key found ▸ found
        exact inv.replace stored rfl rfl (inv.confirmed _ cur stored) (inv.unspent _ cur stored)
          fun ending => absurd ending live
  | execute name how =>
    rw [csiStep]
    cases found : w.fences.find name with
    | none => exact inv
    | some cur => exact inv.execute (find_key found ▸ found) how
  | report name failure =>
    rw [csiStep]
    cases found : w.fences.find name with
    | none => exact inv
    | some cur =>
      cases known : w.operations name with
      | none => exact inv
      | some op =>
        have named : cur.name = name := find_key found
        have stored : w.fences.find cur.name = some cur := named ▸ found
        unfold reportFence
        dsimp only
        split
        next same =>
          have after := inv.forget cur.name
          cases succeeded : op.succeeded with
          | true =>
            obtain ⟨state, done⟩ := (inv.executed name op known).2 cur found same succeeded
            refine after.replace stored rfl rfl (fun _ => done) ?_ (inv.terminating name cur found)
            intro fenced _
            rw [if_pos rfl] at fenced
            rw [if_pos rfl, state, show cur.fenceState = .fenced from fenced]
            rfl
          | false =>
            have failed : "Failed" ≠ "Succeeded" := by decide
            refine after.replace stored rfl rfl ?_ ?_ (inv.terminating name cur found)
            · exact fun reported => absurd reported.1 failed
            · exact fun _ reported => absurd reported failed
        · exact inv.forget cur.name
  | finalize name =>
    rw [csiStep]
    cases found : w.fences.find name with
    | none => exact inv
    | some cur =>
      dsimp only
      split
      next ending =>
        have named : cur.name = name := find_key found
        obtain ⟨state, done⟩ := inv.terminating name cur found ending
        exact inv.remove (named ▸ inv.clear (named ▸ found) state done)
      · exact inv

end

end Ectobase.Dispatch
