import Ectobase.Flowplane.FwStore

namespace Ectobase.Flowplane

open Shared List

def names (id k : UInt64) : Nat := if k ≠ fwScopeNone /\ id = k then 1 else 0

def FwBind.uses (b : FwBind) (k : UInt64) : Nat := names b.ingressScope k + names b.egressScope k

lemma names_none (k : UInt64) : names fwScopeNone k = 0 := by
  simp only [names, ite_eq_right_iff]
  rintro ⟨some, rfl⟩
  exact absurd rfl some

variable {id : UInt64} {binds : Map UInt32 FwBind} {ifindex : UInt32} {refs : Map UInt64 Nat}
  {uses : UInt64 -> Nat} {s : FwCore} {base scopes : Map UInt64 Scope} {source : Scope -> Prop}
  {created : List UInt64} {ingress egress : Option Scope}

lemma names_self (some : id ≠ fwScopeNone) : names id id = 1 := by
  simp [names, some]

lemma names_other {k : UInt64} (other : k ≠ id) : names id k = 0 := by
  simp [names, Ne.symm other]

def bindUses (binds : Map UInt32 FwBind) (id : UInt64) : Nat :=
  total (fun b => b.uses id) binds

lemma bindUses_insert_new (absent : binds.lookup ifindex = none) (b : FwBind) (id : UInt64) :
  bindUses (binds.insert ifindex b) id = bindUses binds id + b.uses id :=
  total_insert_new _ b absent

lemma bindUses_erase {old : FwBind} (held : binds.lookup ifindex = some old) (id : UInt64) :
  bindUses binds id = bindUses (binds.erase ifindex) id + old.uses id := by
  rw [bindUses, total_erase _ held, Nat.add_comm, bindUses]

lemma bindUses_insert_over {old : FwBind} (held : binds.lookup ifindex = some old) (b : FwBind) (id : UInt64) :
  bindUses (binds.insert ifindex b) id + old.uses id = bindUses binds id + b.uses id := by
  have replaced : binds.insert ifindex b = (binds.erase ifindex).insert ifindex b := by
    apply Finmap.ext_lookup
    intro k
    rw [lookup_insert_ite, lookup_insert_ite, lookup_erase_ite]
    split <;> rfl
  have gone : (binds.erase ifindex).lookup ifindex = none := Finmap.lookup_erase ifindex binds
  rw [replaced, bindUses_insert_new gone, bindUses_erase held id]
  omega

namespace FwCore

lemma counted_acquireScope (id : UInt64) (counted : Counted refs uses) :
  Counted (if id ≠ fwScopeNone then acquire refs id else refs) fun k => uses k + names id k := by
  by_cases none : id = fwScopeNone
  · simpa [none, names_none] using counted
  · have same : (fun k => uses k + names id k) = Function.update uses id (uses id + 1) := by
      funext k
      by_cases here : k = id
      · subst here; simp [names_self none]
      · simp [here, names_other here]
    rw [same, if_pos none]
    exact counted.acquire id

lemma counted_acquireScopes (counted : Counted refs uses) (b : FwBind) :
  Counted (acquireScopes refs b) fun id => uses id + b.uses id := by
  have both := counted_acquireScope b.egressScope (counted_acquireScope b.ingressScope counted)
  simp only [FwBind.uses, <- Nat.add_assoc]
  exact both

structure Releases (s s' : FwCore) : Prop where
  fwBind : s'.w.fwBind = s.w.fwBind
  fwEpoch : s'.w.fwEpoch = s.w.fwEpoch
  fwBinds : s'.fwBinds = s.fwBinds
  fwPartial : s'.fwPartial = s.fwPartial
  fwScopes : ∀ id scope, s'.w.fwScopes.lookup id = some scope -> s.w.fwScopes.lookup id = some scope

lemma Releases.refl (s : FwCore) : Releases s s :=
  ⟨rfl, rfl, rfl, rfl, fun _ _ held => held⟩

lemma Releases.trans {s' s'' : FwCore} (first : Releases s s') (second : Releases s' s'') : Releases s s'' where
  fwBind := second.fwBind.trans first.fwBind
  fwEpoch := second.fwEpoch.trans first.fwEpoch
  fwBinds := second.fwBinds.trans first.fwBinds
  fwPartial := second.fwPartial.trans first.fwPartial
  fwScopes id scope held := first.fwScopes id scope (second.fwScopes id scope held)

lemma releaseScope_releases (s : FwCore) (id : UInt64) : Releases s (s.releaseScope id) := by
  unfold releaseScope
  split
  · exact Releases.refl s
  · dsimp only
    split
    · refine ⟨rfl, rfl, rfl, rfl, fun k scope held => ?_⟩
      rw [scopeDelete, lookup_erase_ite] at held
      split at held
      · cases held
      · exact held
    · exact ⟨rfl, rfl, rfl, rfl, fun _ _ held => held⟩

lemma releaseScope_pooled (whole : s.fwPartial = false) (id : UInt64)
  (pooled : Pooled s.fwScopeRefs s.w.fwScopes fun k => uses k + names id k) :
  Pooled (s.releaseScope id).fwScopeRefs (s.releaseScope id).w.fwScopes uses := by
  unfold releaseScope
  split
  next none => simpa [none, names_none] using pooled
  next named =>
    have used : 0 < uses id + names id id := by simp [names_self named]
    have released := pooled.release used
    have same : Function.update (fun k => uses k + names id k) id (uses id + names id id - 1) =
      uses := by
      funext k
      by_cases here : k = id
      · subst here; simp [names_self named]
      · simp [here, names_other here]
    rw [same] at released
    cases last : (release s.fwScopeRefs id).1 with
    | false => simpa [last, whole] using released
    | true => simpa [last, whole, scopeDelete] using released

lemma fwReleaseScopes_releases (s : FwCore) (old : FwBind) : Releases s (s.fwReleaseScopes old) :=
  (releaseScope_releases s _).trans (releaseScope_releases _ _)

lemma fwReleaseScopes_pooled (whole : s.fwPartial = false) (old : FwBind)
  (pooled : Pooled s.fwScopeRefs s.w.fwScopes fun id => uses id + old.uses id) :
  Pooled (s.fwReleaseScopes old).fwScopeRefs (s.fwReleaseScopes old).w.fwScopes uses := by
  have same : (fun id => uses id + old.uses id) = fun k =>
      (uses k + names old.egressScope k) + names old.ingressScope k := by
    funext k
    simp only [FwBind.uses]
    omega
  rw [same] at pooled
  have first := releaseScope_pooled whole old.ingressScope pooled
  have still := (releaseScope_releases s old.ingressScope).fwPartial.trans whole
  exact releaseScope_pooled still old.egressScope first

structure Staged (base : Map UInt64 Scope) (source : Scope -> Prop) (scopes : Map UInt64 Scope)
  (created : List UInt64) : Prop where
  kept : ∀ id, id ∉ created -> scopes.lookup id = base.lookup id
  fresh : ∀ id, id ∈ created -> base.lookup id = none /\
    ∃ scope, scopes.lookup id = some scope /\ scope.id = id /\ source scope

lemma Staged.create (staged : Staged base source scopes created) {scope : Scope}
  (from_ : source scope) (absent : base.lookup scope.id = none) :
  Staged base source (scopes.insert scope.id scope) (created ++ [scope.id]) where
  kept id outside := by
    rw [mem_append, mem_singleton, not_or] at outside
    rw [lookup_insert_ite, if_neg outside.2, staged.kept id outside.1]
  fresh id inside := by
    by_cases here : id = scope.id
    · subst here
      exact ⟨absent, scope, Finmap.lookup_insert scopes, rfl, from_⟩
    · have before : id ∈ created := by simpa [here] using inside
      rw [lookup_insert_ite, if_neg here]
      exact staged.fresh id before

lemma Staged.eraseAll (staged : Staged base source scopes created) : eraseAll scopes created = base := by
  apply Finmap.ext_lookup
  intro id
  rw [lookup_eraseAll]
  split
  next inside => exact (staged.fresh id inside).1.symm
  next outside => exact staged.kept id outside

lemma createScopes_staged (free : ∀ id, refs.lookup id = none -> base.lookup id = none) (wanted : List (Option Scope × Bool))
  (sources : ∀ scope fails, (some scope, fails) ∈ wanted -> source scope)
  (staged : Staged base source scopes created) :
  ∃ made scopes' created', createScopes refs wanted scopes created = (made, scopes', created') /\
    Staged base source scopes' created' /\ (∀ id ∈ created, id ∈ created') /\
    (made = true -> ∀ scope fails, (some scope, fails) ∈ wanted -> (refs.lookup scope.id).isSome \/ scope.id ∈ created') := by
  induction wanted generalizing scopes created with
  | nil => exact ⟨true, scopes, created, rfl, staged, fun _ held => held, by simp⟩
  | cons first rest ih =>
    obtain ⟨wish, fails⟩ := first
    have later : ∀ scope fails, (some scope, fails) ∈ rest -> source scope :=
      fun scope fails held => sources scope fails (mem_cons_of_mem _ held)
    cases wish with
    | none =>
      obtain ⟨made, scopes', created', result, staged', grows, all⟩ := ih later staged
      refine ⟨made, scopes', created', result, staged', grows, fun done scope fails' held => ?_⟩
      rcases mem_cons.mp held with same | held
      · cases same
      · exact all done scope fails' held
    | some scope =>
      simp only [createScopes]
      split
      next present =>
        obtain ⟨made, scopes', created', result, staged', grows, all⟩ := ih later staged
        refine ⟨made, scopes', created', result, staged', grows, fun done scope' fails' held => ?_⟩
        rcases mem_cons.mp held with same | held
        · cases same
          exact present.imp_right (grows scope.id)
        · exact all done scope' fails' held
      next missing =>
        rw [not_or] at missing
        have absent := free scope.id (Option.not_isSome_iff_eq_none.mp missing.1)
        split
        · exact ⟨false, scopes, created, rfl, staged, fun _ held => held, by simp⟩
        · have next := staged.create (sources scope fails mem_cons_self) absent
          obtain ⟨made, scopes', created', result, staged', grows, all⟩ := ih later next
          refine ⟨made, scopes', created', result, staged', ?_, fun done scope' fails' held => ?_⟩
          · exact fun id held => grows id (mem_append_left _ held)
          rcases mem_cons.mp held with same | held
          · cases same
            exact .inr (grows scope.id (by simp))
          · exact all done scope' fails' held

lemma foldl_scopeDelete (s : FwCore) (ids : List UInt64) : ids.foldl scopeDelete s =
    { s with w := { s.w with fwScopes := eraseAll s.w.fwScopes ids } } := by
  induction ids generalizing s with
  | nil => rfl
  | cons id ids ih =>
    rw [foldl_cons, ih]
    rfl

structure Sound (s : FwCore) : Prop where
  whole : s.fwPartial = false
  mirrored : s.w.fwBind = s.fwBinds
  pooled : Pooled s.fwScopeRefs s.w.fwScopes (bindUses s.fwBinds)

lemma empty_sound : empty.Sound where
  whole := rfl
  mirrored := rfl
  pooled :=
    { counted := fun id => by simp [empty, bindUses, total_empty]
      stored := fun id => by simp [empty, bindUses, total_empty] }

lemma Sound.fwHeal (sound : s.Sound) (faults : FwFaults) : s.fwHeal faults = s := by
  simp [FwCore.fwHeal, sound.whole]

structure Rebound (s s' : FwCore) (ifindex : UInt32) (ingress egress : Option Scope) : Prop where
  sound : s'.Sound
  fwBinds : s'.fwBinds = s.fwBinds.insert ifindex ⟨scopeIdOf ingress, scopeIdOf egress⟩
  fwScopes : ∀ id scope, s'.w.fwScopes.lookup id = some scope ->
    s.w.fwScopes.lookup id = some scope \/ scope.id = id /\ (ingress = some scope \/ egress = some scope)

lemma uses_scopeIdOf {scope : Scope} (named : scope.id ≠ fwScopeNone) (wanted : ingress = some scope \/ egress = some scope) :
  0 < FwBind.uses ⟨scopeIdOf ingress, scopeIdOf egress⟩ scope.id := by
  simp only [FwBind.uses]
  rcases wanted with rfl | rfl
  · have self : names (scopeIdOf (some scope)) scope.id = 1 := names_self named
    omega
  · have self : names (scopeIdOf (some scope)) scope.id = 1 := names_self named
    omega

lemma wanted_of_names {wish : Option Scope} (named : 0 < names (scopeIdOf wish) id) :
  ∃ scope, wish = some scope /\ scope.id = id := by
  cases wish with
  | none =>
    have none : names (scopeIdOf none) id = 0 := names_none id
    omega
  | some scope =>
    refine ⟨scope, rfl, ?_⟩
    by_contra other
    have none : names (scopeIdOf (some scope)) id = 0 := names_other (Ne.symm other)
    omega

lemma wanted_of_uses (used : 0 < FwBind.uses ⟨scopeIdOf ingress, scopeIdOf egress⟩ id) :
  ∃ scope, (ingress = some scope \/ egress = some scope) /\ scope.id = id := by
  simp only [FwBind.uses] at used
  have either : 0 < names (scopeIdOf ingress) id \/ 0 < names (scopeIdOf egress) id := by omega
  rcases either with named | named
  · obtain ⟨scope, wish, same⟩ := wanted_of_names named
    exact ⟨scope, .inl wish, same⟩
  · obtain ⟨scope, wish, same⟩ := wanted_of_names named
    exact ⟨scope, .inr wish, same⟩

lemma Sound.pooled_acquire (sound : s.Sound)
  (named : ∀ scope, ingress = some scope \/ egress = some scope -> scope.id ≠ fwScopeNone)
  (staged : Staged s.w.fwScopes (fun scope => ingress = some scope \/ egress = some scope)
    scopes created) (present : ∀ scope, ingress = some scope \/ egress = some scope ->
    (s.fwScopeRefs.lookup scope.id).isSome \/ scope.id ∈ created) :
  Pooled (acquireScopes s.fwScopeRefs ⟨scopeIdOf ingress, scopeIdOf egress⟩) scopes
    fun id => bindUses s.fwBinds id + FwBind.uses ⟨scopeIdOf ingress, scopeIdOf egress⟩ id where
  counted := counted_acquireScopes sound.pooled.counted _
  stored id := by
    by_cases inside : id ∈ created
    · obtain ⟨-, scope, held, rfl, wish⟩ := staged.fresh id inside
      have used := uses_scopeIdOf (named scope wish) wish
      simp only [held, Option.isSome_some, true_iff]
      omega
    · rw [staged.kept id inside, sound.pooled.stored]
      constructor
      · omega
      · intro used
        by_contra idle
        -- what only the new binding names was created, or was there already
        obtain ⟨scope, wish, rfl⟩ := @wanted_of_uses id ingress egress (by omega)
        rcases present scope wish with referenced | new
        · exact idle ((sound.pooled.counted.isSome _).mp referenced)
        · exact inside new

lemma rebound_of_pooled {s1 : FwCore} (whole : s1.fwPartial = false) (mirrored : s1.w.fwBind = s1.fwBinds)
  (binds : s1.fwBinds = s.fwBinds.insert ifindex ⟨scopeIdOf ingress, scopeIdOf egress⟩)
  (pooled : Pooled s1.fwScopeRefs s1.w.fwScopes fun id => bindUses s.fwBinds id + FwBind.uses
    ⟨scopeIdOf ingress, scopeIdOf egress⟩ id) (scopes : ∀ id scope, s1.w.fwScopes.lookup id =
    some scope -> s.w.fwScopes.lookup id = some scope \/ scope.id = id /\ (ingress = some scope \/
    egress = some scope)) :
  Rebound s (match s.fwBinds.lookup ifindex with
      | some old => s1.fwReleaseScopes old
      | none => s1) ifindex ingress egress := by
  cases held : s.fwBinds.lookup ifindex with
  | none =>
    have uses : (fun id => bindUses s.fwBinds id +
      FwBind.uses ⟨scopeIdOf ingress, scopeIdOf egress⟩ id) = bindUses s1.fwBinds := by
      funext id
      rw [binds, bindUses_insert_new held]
    rw [uses] at pooled
    exact ⟨⟨whole, mirrored, pooled⟩, binds, scopes⟩
  | some old =>
    have uses : (fun id => bindUses s.fwBinds id + FwBind.uses ⟨scopeIdOf ingress, scopeIdOf egress⟩ id) = fun id =>
        bindUses s1.fwBinds id + old.uses id := by
      funext id
      rw [binds, bindUses_insert_over held]
    rw [uses] at pooled
    have gives := fwReleaseScopes_releases s1 old
    have left := fwReleaseScopes_pooled whole old pooled
    rw [<- gives.fwBinds] at left
    exact
      { sound := ⟨gives.fwPartial.trans whole, by rw [gives.fwBind, gives.fwBinds, mirrored], left⟩
        fwBinds := gives.fwBinds.trans binds
        fwScopes := fun id scope still => scopes id scope (gives.fwScopes id scope still) }

lemma fwBindScopes_cases (sound : s.Sound) (faults : FwFaults) (ifindex : UInt32) (ingress egress : Option Scope)
  (named : ∀ scope, ingress = some scope \/ egress = some scope -> scope.id ≠ fwScopeNone) :
  (s.fwBindScopes faults ifindex ingress egress = (.ok (), s) /\
      s.fwBinds.lookup ifindex = some ⟨scopeIdOf ingress, scopeIdOf egress⟩) \/
    (s.fwBindScopes faults ifindex ingress egress = (.error .map, s) /\
      s.fwBinds.lookup ifindex ≠ some ⟨scopeIdOf ingress, scopeIdOf egress⟩) \/
    ∃ s', s.fwBindScopes faults ifindex ingress egress = (if faults.epochBump then .error .map else .ok (), s') /\
      Rebound s s' ifindex ingress egress := by
  unfold fwBindScopes
  rw [sound.fwHeal]
  dsimp only
  split
  next same => exact .inl ⟨rfl, same⟩
  next changed =>
    have free : ∀ id, s.fwScopeRefs.lookup id = none -> s.w.fwScopes.lookup id = none := by
      intro id unreferenced
      rw [sound.pooled.absent_iff]
      have idle := mt (sound.pooled.counted.isSome id).mpr (by simp [unreferenced])
      omega
    have start : Staged s.w.fwScopes (fun scope => ingress = some scope \/ egress = some scope)
      s.w.fwScopes [] := ⟨fun _ _ => rfl, by simp⟩
    obtain ⟨made, scopes, created, result, staged, -, all⟩ :=
      createScopes_staged free [(ingress, faults.createIngress), (egress, faults.createEgress)] (by
          intro scope fails held
          rcases mem_cons.mp held with same | held
          · exact .inl (Prod.mk.inj same).1.symm
          · exact .inr (Prod.mk.inj (mem_singleton.mp held)).1.symm)
        start
    rw [result]
    split
    · have undone : ({ s with w := { s.w with fwScopes := scopes } } : FwCore).fwDiscardScopes created = s := by
        rw [fwDiscardScopes, if_neg (by simp [sound.whole]), foldl_scopeDelete]
        rw [staged.eraseAll]
      exact .inr (.inl ⟨by rw [undone], changed⟩)
    next bound =>
      have done : made = true := by
        cases made with
        | false => simp at bound
        | true => rfl
      have present : ∀ scope, ingress = some scope \/ egress = some scope ->
        (s.fwScopeRefs.lookup scope.id).isSome \/ scope.id ∈ created := by
        rintro scope (rfl | rfl)
        · exact all done scope faults.createIngress mem_cons_self
        · exact all done scope faults.createEgress (by simp)
      refine .inr (.inr ⟨_, rfl, ?_⟩)
      have pooled := sound.pooled_acquire named staged present
      have sources : ∀ id scope, scopes.lookup id = some scope -> s.w.fwScopes.lookup id = some scope \/
          scope.id = id /\ (ingress = some scope \/ egress = some scope) := by
        intro id scope held
        by_cases inside : id ∈ created
        · obtain ⟨-, new, stored, same, wish⟩ := staged.fresh id inside
          cases stored.symm.trans held
          exact .inr ⟨same, wish⟩
        · exact .inl ((staged.kept id inside).symm.trans held)
      cases faults.epochBump with
      | false | true =>
        exact rebound_of_pooled sound.whole (by simp [epochBump, sound.mirrored]) rfl pooled sources

lemma Sound.removeFwRules (sound : s.Sound) {faults : FwFaults} (removes : faults.bindRemove = false) (ifindex : UInt32) :
  (s.removeFwRules faults ifindex).Sound /\ (s.removeFwRules faults ifindex).fwBinds = s.fwBinds.erase ifindex /\
    ∀ id scope, (s.removeFwRules faults ifindex).w.fwScopes.lookup id = some scope ->
      s.w.fwScopes.lookup id = some scope := by
  unfold FwCore.removeFwRules
  rw [sound.fwHeal]
  dsimp only
  cases held : s.fwBinds.lookup ifindex with
  | none =>
    exact ⟨sound, (erase_of_lookup_none held).symm, fun _ _ stored => stored⟩
  | some old =>
    rw [removes]
    have uses : bindUses s.fwBinds = fun id => bindUses (s.fwBinds.erase ifindex) id + old.uses id :=
      funext (bindUses_erase held)
    have pooled := sound.pooled
    rw [uses] at pooled
    generalize bumped : FwCore.epochBump _ faults.epochBump = s1
    have frame : s1.fwPartial = false /\ s1.w.fwBind = s.w.fwBind.erase ifindex /\
      s1.fwBinds = s.fwBinds.erase ifindex /\ s1.fwScopeRefs = s.fwScopeRefs /\
      s1.w.fwScopes = s.w.fwScopes := by
      rw [<- bumped]
      cases faults.epochBump with
      | false | true => exact ⟨sound.whole, rfl, rfl, rfl, rfl⟩
    obtain ⟨whole, bind, binds, refs, scopes⟩ := frame
    rw [<- refs, <- scopes] at pooled
    have gives := fwReleaseScopes_releases s1 old
    have left := fwReleaseScopes_pooled whole old pooled
    rw [<- binds, <- gives.fwBinds] at left
    refine ⟨⟨gives.fwPartial.trans whole, ?_, left⟩, gives.fwBinds.trans binds, fun id scope still => ?_⟩
    · rw [gives.fwBind, bind, gives.fwBinds, binds, sound.mirrored]
    · rw [<- scopes]
      exact gives.fwScopes id scope still

end FwCore

end Ectobase.Flowplane
