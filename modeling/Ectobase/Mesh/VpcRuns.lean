import Ectobase.Mesh.Vpc
import Ectobase.Shared.Objects
import Ectobase.Shared.Runs

namespace Ectobase.Mesh

open Shared List Option Store

structure VPCs where
  store : Store VPC.key
  distinct : ∀ a ∈ store.items, ∀ b ∈ store.items, a.uid = b.uid -> a.key = b.key

namespace VPCs

def empty : VPCs where
  store := .empty
  distinct := nofun

def find (w : VPCs) (key : NamespacedName) : Option VPC := w.store.find key

def modify (w : VPCs) (key : NamespacedName) (change : VPC -> VPC)
  (same : ∀ vpc, (change vpc).key = vpc.key /\ (change vpc).uid = vpc.uid) : VPCs :=
  match found : w.store.find key with
  | none => w
  | some vpc =>
    { store := w.store.put (change vpc)
      distinct := distinct_put w.distinct (mem_of_find found) (same vpc).1 (same vpc).2 }

def create (w : VPCs) (vpc : VPC) : VPCs :=
  if fresh : ∀ a ∈ w.store.items, a.key ≠ vpc.key /\ a.uid ≠ vpc.uid then
    let filed : VPC := { vpc with terminating := false, vni := 0, state := .unset, conditions := [] }
    { store := w.store.put filed
      distinct := distinct_file w.distinct fun a listed => (fresh a listed).2 }
  else w

def remove (w : VPCs) (key : NamespacedName) : VPCs where
  store := w.store.remove key
  distinct a memberA b memberB := w.distinct a (mem_remove.mp memberA).1 b (mem_remove.mp memberB).1

end VPCs

lemma setState_identity (vpc : VPC) (vni : Int) (state : VPCState) :
  (vpc.setState vni state).key = vpc.key /\ (vpc.setState vni state).uid = vpc.uid :=
  ⟨rfl, rfl⟩

lemma reconcileVPC_identity (items : List VPC) (vpc : VPC) :
  (reconcileVPC items vpc).key = vpc.key /\ (reconcileVPC items vpc).uid = vpc.uid := by
  unfold reconcileVPC
  dsimp only
  split_ifs
  · exact ⟨rfl, rfl⟩
  · split
    · split_ifs <;> exact setState_identity vpc _ _
    · split <;> exact setState_identity vpc _ _

inductive VPCEvent where
  | create (vpc : VPC)
  | edit (key : NamespacedName) (specVNI : Option Int) (defaultPolicy : Option String)
  | terminate (key : NamespacedName)
  | remove (key : NamespacedName)
  | reconcile (key : NamespacedName) (stored : Bool)

def VPCs.step (w : VPCs) : VPCEvent -> VPCs
  | .create vpc => w.create vpc
  | .edit key specVNI defaultPolicy =>
    w.modify key (fun vpc => { vpc with specVNI, defaultPolicy, generation := vpc.generation + 1 }) fun _ => ⟨rfl, rfl⟩
  | .terminate key => w.modify key (fun vpc => { vpc with terminating := true }) fun _ => ⟨rfl, rfl⟩
  | .remove key => w.remove key
  | .reconcile key stored =>
    if stored then
      w.modify key (reconcileVPC w.store.items) (reconcileVPC_identity w.store.items)
    else w

lemma VPCs.mem_modify {w : VPCs} {key : NamespacedName} {change : VPC -> VPC}
  {same : ∀ vpc, (change vpc).key = vpc.key /\ (change vpc).uid = vpc.uid} {a : VPC}
  (member : a ∈ (w.modify key change same).store.items) :
  (a ∈ w.store.items /\ a.key ≠ key) \/ (∃ vpc, w.find key = some vpc /\ a = change vpc) := by
  unfold VPCs.modify at member
  split at member
  next absent => exact .inl ⟨member, find_eq_none_iff.mp absent a member⟩
  next vpc found =>
    have named : vpc.key = key := find_key found
    rcases mem_put.mp member with changed | ⟨kept, apart⟩
    · exact .inr ⟨vpc, found, changed⟩
    · exact .inl ⟨kept, by rwa [(same vpc).1, named] at apart⟩

lemma VPCs.find_modify (w : VPCs) (key k : NamespacedName) (change : VPC -> VPC)
  (same : ∀ vpc, (change vpc).key = vpc.key /\ (change vpc).uid = vpc.uid) :
  (w.modify key change same).find k = if k = key then (w.find key).map change else w.find k := by
  unfold VPCs.modify VPCs.find
  split
  next absent =>
    split
    next here => rw [here, absent, map_none]
    · rfl
  next vpc found =>
    have named : vpc.key = key := find_key found
    rw [find_put, (same vpc).1, named, found, map_some]

lemma VPCs.mem_others {w : VPCs} {self other : VPC} (own : self ∈ w.store.items) :
  other ∈ others w.store.items self ↔ other ∈ w.store.items /\ other.key ≠ self.key := by
  rw [others, mem_filter]
  refine and_congr_right fun listed => ?_
  simp only [VPC.isSelf, Bool.not_eq_true', Bool.or_eq_false_iff, decide_eq_false_iff_not]
  refine ⟨And.right, fun apart => ⟨fun uid => apart ?_, apart⟩⟩
  exact w.distinct other listed self own uid

section

variable {w : VPCs}

def UniqueVNIs (w : VPCs) : Prop :=
  ∀ a ∈ w.store.items, ∀ b ∈ w.store.items, a.key ≠ b.key -> a.vni ≠ 0 -> a.vni ≠ b.vni

def PinsNoIdleVNI (w : VPCs) : VPCEvent -> Prop
  | .reconcile key _ => ∀ vpc ∈ w.find key, ∀ pin ∈ vpc.pin, ∀ other ∈ w.store.items,
      other.key ≠ key -> other.vni = pin -> other.state = .ready
  | _ => True

lemma UniqueVNIs.modify (unique : UniqueVNIs w) {key : NamespacedName} {change : VPC -> VPC}
  (same : ∀ vpc, (change vpc).key = vpc.key /\ (change vpc).uid = vpc.uid)
  (fresh : ∀ vpc, w.find key = some vpc -> (change vpc).vni ≠ 0 ->
    ∀ other ∈ w.store.items, other.key ≠ key -> (change vpc).vni ≠ other.vni) :
  UniqueVNIs (w.modify key change same) := by
  intro a memberA b memberB apart nonzero equal
  rcases VPCs.mem_modify memberA with ⟨listedA, otherA⟩ | ⟨vpc, found, rfl⟩ <;>
    rcases VPCs.mem_modify memberB with ⟨listedB, otherB⟩ | ⟨vpc', found', rfl⟩
  · exact unique a listedA b listedB apart nonzero equal
  · exact fresh vpc' found' (equal ▸ nonzero) a listedA otherA equal.symm
  · exact fresh vpc found nonzero b listedB otherB equal
  · obtain rfl := mem_unique found found'
    exact apart rfl

lemma reconcileVPC_vni (items : List VPC) (vpc : VPC) : (reconcileVPC items vpc).vni = vpc.vni \/
  (reconcileVPC items vpc).vni ∉ usedVNIs items vpc \/
  (vpc.pin = some (reconcileVPC items vpc).vni /\ committedElsewhere items vpc (reconcileVPC items vpc).vni = false) := by
  unfold reconcileVPC
  dsimp only
  split_ifs
  · exact .inl rfl
  · split
    next desired pinned =>
      split_ifs with loses
      · exact .inl rfl
      next =>
        -- A VPC that keeps a pin it holds already changes nothing.
        simp only [Bool.and_eq_true, Bool.or_eq_true, not_and, not_or, Bool.not_eq_true', Bool.not_eq_true] at loses
        cases held : vpc.heldBySelf desired with
        | true =>
          simp only [VPC.heldBySelf, Bool.and_eq_true, decide_eq_true_eq] at held
          exact .inl held.1.symm
        | false => exact .inr (.inr ⟨pinned, (loses held).1⟩)
    · split
      · exact .inl rfl
      next free lowest => exact .inr (.inl (lowestFreeVNI_iff.mp lowest).1.2)

lemma step_unique (w : VPCs) (e : VPCEvent) (unique : UniqueVNIs w) (idle : PinsNoIdleVNI w e) : UniqueVNIs (w.step e) := by
  have unchanged {key : NamespacedName} {change : VPC -> VPC}
    {same : ∀ vpc, (change vpc).key = vpc.key /\ (change vpc).uid = vpc.uid}
    (vni : ∀ vpc, (change vpc).vni = vpc.vni) : UniqueVNIs (w.modify key change same) := by
    refine unique.modify same fun vpc found nonzero other listed apart => ?_
    rw [vni] at nonzero ⊢
    have named : vpc.key = key := find_key found
    exact unique vpc (mem_of_find found) other listed (named ▸ apart.symm) nonzero
  cases e with
  | create vpc =>
    simp only [VPCs.step, VPCs.create]
    split
    next fresh =>
      intro a memberA b memberB apart nonzero equal
      rcases mem_put.mp memberA with rfl | ⟨listedA, -⟩
      · exact nonzero rfl
      · rcases mem_put.mp memberB with rfl | ⟨listedB, -⟩
        · exact nonzero equal
        · exact unique a listedA b listedB apart nonzero equal
    · exact unique
  | edit | terminate =>
    simp only [VPCs.step]
    exact unchanged fun _ => rfl
  | remove key =>
    intro a memberA b memberB
    exact unique a (mem_remove.mp memberA).1 b (mem_remove.mp memberB).1
  | reconcile key stored =>
    simp only [VPCs.step]
    split
    · refine unique.modify _ fun vpc found nonzero other listed apart equal => ?_
      have named : vpc.key = key := find_key found
      have own := mem_of_find found
      have another : other ∈ others w.store.items vpc :=
        (VPCs.mem_others own).mpr ⟨listed, named.symm ▸ apart⟩
      rcases reconcileVPC_vni w.store.items vpc with kept | unused | ⟨pinned, uncommitted⟩
      · rw [kept] at nonzero equal
        exact unique vpc own other listed (named ▸ apart.symm) nonzero equal
      · refine unused (mem_flatMap.mpr ⟨other, another, mem_append_right _ ?_⟩)
        rw [equal] at nonzero ⊢
        rw [if_pos nonzero]
        exact mem_singleton_self _
      · have ready := idle vpc found _ pinned other listed apart equal.symm
        refine absurd uncommitted (Bool.not_eq_false _ ▸ ?_)
        exact any_eq_true.mpr ⟨other, another, by simp [equal, ready]⟩
    · exact unique

theorem vnis_unique_when_pins_idle {w : VPCs} (start : UniqueVNIs w) {events : List VPCEvent}
  (idle : Along VPCs.step PinsNoIdleVNI w events) (n : Nat) :
  UniqueVNIs ((events.take n).foldl VPCs.step w) :=
  (idle.take n).invariant step_unique start

instance (w : VPCs) : Decidable (UniqueVNIs w) :=
  inferInstanceAs (Decidable (∀ a ∈ w.store.items, ∀ b ∈ w.store.items, a.key ≠ b.key ->
    a.vni ≠ 0 -> a.vni ≠ b.vni))

end

def filedVPC (name uid : String) (specVNI : Option Int) : VPC where
  key := { ns := "default", name }
  uid := uid
  creationTimestamp := 0
  generation := 1
  terminating := false
  specVNI := specVNI
  defaultPolicy := none
  vni := 0
  state := .unset
  conditions := []

def vpcKey (name : String) : NamespacedName := { ns := "default", name }

def conflictKeepsVNI : List VPCEvent :=
  [.create (filedVPC "b" "1" (some 5000)), .reconcile (vpcKey "b") true,
    .create (filedVPC "a" "2" none), .reconcile (vpcKey "a") true,
    .edit (vpcKey "a") (some 5000) none, .reconcile (vpcKey "a") true]

def thirdVPC (specVNI : Option Int) : List VPCEvent :=
  conflictKeepsVNI ++ [.create (filedVPC "c" "3" specVNI), .reconcile (vpcKey "c") true]

theorem conflicting_vni_pinned_again :
  UniqueVNIs VPCs.empty /\ ¬ UniqueVNIs ((thirdVPC (some 1000)).foldl VPCs.step VPCs.empty) := by
  decide +kernel

theorem unpinned_after_conflict_unique : let w := ((thirdVPC none).take 8).foldl VPCs.step VPCs.empty
  w.store.items.map (fun vpc => (vpc.vni, vpc.state)) =
      [(5000, .ready), (1000, .conflict), (1001, .ready)] /\ UniqueVNIs w := by
  refine ⟨by decide +kernel, vnis_unique_when_pins_idle (by decide +kernel) ?_ 8⟩
  simp only [thirdVPC, conflictKeepsVNI, cons_append, nil_append, Along, PinsNoIdleVNI]
  decide +kernel

section

variable {w : VPCs} {k : NamespacedName} {vpc : VPC}

def VPCEvent.SparesSpec (k : NamespacedName) : VPCEvent -> Prop
  | .edit key _ _ | .terminate key | .remove key => key ≠ k
  | .create _ | .reconcile _ _ => True

def HoldsLowestFree (w : VPCs) (vpc : VPC) : Prop :=
  ∀ free, IsLeast (freeVNIs (usedVNIs w.store.items vpc)) free -> free = vpc.vni

instance (w : VPCs) (vpc : VPC) : Decidable (HoldsLowestFree w vpc) :=
  decidable_of_iff (∀ free ∈ lowestFreeVNI (usedVNIs w.store.items vpc), free = vpc.vni)
    (forall_congr' fun _ => imp_congr_left lowestFreeVNI_iff)

def ReconciledInPlace (k : NamespacedName) (w : VPCs) : VPCEvent -> Prop
  | .reconcile key true => key = k -> ∀ vpc ∈ w.find k, HoldsLowestFree w vpc
  | _ => True

def afterEvent (k : NamespacedName) (w : VPCs) (vpc : VPC) : VPCEvent -> VPC
  | .reconcile key true => if key = k then reconcileVPC w.store.items vpc else vpc
  | _ => vpc

lemma step_find (found : w.find k = some vpc) {e : VPCEvent} (spares : e.SparesSpec k) :
  (w.step e).find k = some (afterEvent k w vpc e) := by
  cases e with
  | create other =>
    simp only [VPCs.step, VPCs.create, afterEvent]
    split
    next fresh =>
      have apart : k ≠ other.key := by
        rw [<- find_key found]
        exact (fresh vpc (mem_of_find found)).1
      exact (find_put _ _ _).trans ((if_neg apart).trans found)
    · exact found
  | edit | terminate =>
    rw [VPCs.step, VPCs.find_modify, if_neg (Ne.symm spares)]
    exact found
  | remove key => exact (find_remove _ _ _).trans ((if_neg (Ne.symm spares)).trans found)
  | reconcile key stored =>
    cases stored with
    | false => exact found
    | true =>
      rw [VPCs.step, if_pos rfl, VPCs.find_modify]
      simp only [afterEvent]
      split
      next here =>
        rw [<- here, found, map_some, if_pos rfl]
      next apart => rw [found, if_neg (Ne.symm apart)]

def VPC.Automatic (vpc : VPC) : Prop := vpc.pin = none /\ vpc.terminating = false

lemma reconcileVPC_automatic (automatic : vpc.Automatic) (items : List VPC) :
  (reconcileVPC items vpc).Automatic /\ ((reconcileVPC items vpc).vni = vpc.vni ↔
      ∀ free, IsLeast (freeVNIs (usedVNIs items vpc)) free -> free = vpc.vni) := by
  simp only [<- lowestFreeVNI_iff]
  simp only [reconcileVPC, automatic.1, automatic.2]
  cases lowest : lowestFreeVNI (usedVNIs items vpc) with
  | none => exact ⟨automatic, ⟨fun _ _ => nofun, fun _ => rfl⟩⟩
  | some free =>
    refine ⟨automatic, fun same other here => ?_, fun settled => settled free rfl⟩
    exact (some.inj here).symm.trans same

lemma afterEvent_automatic (automatic : vpc.Automatic) (found : w.find k = some vpc) (e : VPCEvent) :
  (afterEvent k w vpc e).Automatic /\ ((afterEvent k w vpc e).vni = vpc.vni ↔ ReconciledInPlace k w e) := by
  unfold afterEvent ReconciledInPlace
  split
  next key =>
    split
    next here =>
      obtain ⟨still, same⟩ := reconcileVPC_automatic automatic w.store.items
      refine ⟨still, same.trans ⟨fun settled _ v there => ?_, fun settled => settled here vpc found⟩⟩
      obtain rfl := mem_unique found there
      exact settled
    next apart => exact ⟨automatic, ⟨fun _ here => absurd here apart, fun _ => rfl⟩⟩
  · exact ⟨automatic, ⟨fun _ => trivial, fun _ => rfl⟩⟩

theorem vni_kept_iff (found : w.find k = some vpc) (automatic : vpc.Automatic)
  {events : List VPCEvent} (spares : ∀ e ∈ events, e.SparesSpec k) :
  (∀ n, (((events.take n).foldl VPCs.step w).find k).map VPC.vni = some vpc.vni) ↔
    Along VPCs.step (ReconciledInPlace k) w events := by
  induction events generalizing w vpc with
  | nil => simp [Along, found]
  | cons e events ih =>
    rw [forall_mem_cons] at spares
    obtain ⟨still, same⟩ := afterEvent_automatic automatic found e
    have next := step_find found spares.1
    have rest := ih next still spares.2
    constructor
    · intro kept
      -- After one event the VNI is the old one, so the event met the condition.
      have first : (afterEvent k w vpc e).vni = vpc.vni := by
        have one := kept 1
        rw [take_succ_cons, take_zero, foldl_cons, foldl_nil, next] at one
        exact some.inj one
      refine ⟨same.mp first, rest.mp fun n => ?_⟩
      rw [first]
      exact kept (n + 1)
    · intro ⟨met, along⟩ n
      cases n with
      | zero => simp [found]
      | succ n =>
        have later := rest.mpr along n
        rw [same.mpr met] at later
        exact later

end

def lowerFreed : List VPCEvent := [.create (filedVPC "a" "1" none), .reconcile (vpcKey "a") true,
  .create (filedVPC "b" "2" none), .reconcile (vpcKey "b") true, .remove (vpcKey "a")]

theorem renumbered_after_delete : let w := lowerFreed.foldl VPCs.step VPCs.empty
  (w.find (vpcKey "b")).map (fun vpc => (vpc.vni, vpc.state, vpc.pin)) = some (1001, .ready, none) /\
    ((w.step (.reconcile (vpcKey "b") true)).find (vpcKey "b")).map VPC.vni = some 1000 := by
  decide +kernel

def nothingFreed : List VPCEvent :=
  [.reconcile (vpcKey "b") true, .create (filedVPC "c" "3" none), .reconcile (vpcKey "c") true, .reconcile (vpcKey "b") true]

theorem settled_vni_kept : let w := (lowerFreed.take 4).foldl VPCs.step VPCs.empty
  (w.find (vpcKey "b")).map VPC.vni = some 1001 /\
    ∀ n, (((nothingFreed.take n).foldl VPCs.step w).find (vpcKey "b")).map VPC.vni = some 1001 := by
  intro w
  have there : ∃ vpc ∈ w.find (vpcKey "b"), vpc.vni = 1001 /\ vpc.pin = none /\ vpc.terminating = false := by
    decide +kernel
  obtain ⟨vpc, found, vni, automatic⟩ := there
  refine ⟨by rw [found, map_some, vni], vni ▸ (vni_kept_iff found automatic ?_).mpr ?_⟩
  · simp [nothingFreed, VPCEvent.SparesSpec]
  · simp only [nothingFreed, Along, ReconciledInPlace]
    decide +kernel

end Ectobase.Mesh
