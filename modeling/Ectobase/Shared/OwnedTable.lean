import Ectobase.Shared.Maps

namespace Ectobase.Shared

variable {K V O : Type} [DecidableEq O]

structure OwnedTable (K V O : Type) where
  items : Map K V
  owner : Map K O
  owned : Map O (Finset K)

def listed (owned : Map O (Finset K)) (o : O) : Finset K := (owned.lookup o).getD ∅

variable (owned : Map O (Finset K)) (o o' : O)

lemma listed_insert (keys : Finset K) : listed (owned.insert o keys) o' = if o' = o then keys else listed owned o' := by
  unfold listed
  rw [lookup_insert_ite]
  split <;> rfl

lemma listed_erase : listed (owned.erase o) o' = if o' = o then ∅ else listed owned o' := by
  unfold listed
  rw [lookup_erase_ite]
  split <;> rfl

variable [DecidableEq K]

def disown (owned : Map O (Finset K)) (o : O) (k : K) : Map O (Finset K) := match owned.lookup o with
  | none => owned
  | some keys => owned.insert o (keys.erase k)

def takeOver (owner : Map K O) (owned : Map O (Finset K)) (o : O) (k : K) : Map O (Finset K) :=
  let owned := match owner.lookup k with
    | some prev => if prev ≠ o then disown owned prev k else owned
    | none => owned
  owned.insert o (insert k ((owned.lookup o).getD ∅))

lemma mem_listed_disown (owned : Map O (Finset K)) (o o' : O) (k k' : K) :
  k' ∈ listed (disown owned o k) o' ↔ k' ∈ listed owned o' /\ ¬ (o' = o /\ k' = k) := by
  unfold disown
  cases found : owned.lookup o with
  | none =>
    constructor
    · intro member
      refine ⟨member, ?_⟩
      rintro ⟨rfl, -⟩
      simp [listed, found] at member
    · exact And.left
  | some keys =>
    rw [listed_insert]
    by_cases same : o' = o
    · subst same
      simp [listed, found, and_comm]
    · simp [same]

namespace OwnedTable

def announce (t : OwnedTable K V O) (o : O) (k : K) (v : V) : OwnedTable K V O where
  items := t.items.insert k v
  owner := t.owner.insert k o
  owned := takeOver t.owner t.owned o k

def remove (t : OwnedTable K V O) (o : O) (k : K) : OwnedTable K V O :=
  { items := t.items.erase k, owner := t.owner.erase k, owned := disown t.owned o k }

def withdraw (t : OwnedTable K V O) (o : O) (k : K) (may : V -> Bool) : OwnedTable K V O :=
  match t.owner.lookup k, t.items.lookup k with
  | some o', some v => if o' = o /\ may v = true then t.remove o k else t
  | _, _ => t

def dropKey (o : O) (t : OwnedTable K V O) (k : K) : OwnedTable K V O :=
  if t.owner.lookup k = some o /\ (t.items.lookup k).isSome then
    { t with items := t.items.erase k, owner := t.owner.erase k }
  else t

def dropOwner (t : OwnedTable K V O) (o : O) (order : List K) : OwnedTable K V O :=
  order.foldl (dropKey o) { t with owned := t.owned.erase o }

def slot (t : OwnedTable K V O) (k : K) : Option O × Option V := (t.owner.lookup k, t.items.lookup k)

def heldBy (t : OwnedTable K V O) (o : O) (k : K) : Option V :=
  if (t.slot k).1 = some o then (t.slot k).2 else none

structure Indexed (t : OwnedTable K V O) : Prop where
  owner_iff : ∀ k, (t.slot k).1.isSome ↔ (t.slot k).2.isSome
  listed_iff : ∀ o k, k ∈ listed t.owned o ↔ (t.slot k).1 = some o

omit [DecidableEq O] in
lemma slots_eq_iff (t u : OwnedTable K V O) : (∀ k, t.slot k = u.slot k) ↔ t.items = u.items /\ t.owner = u.owner := by
  constructor
  · intro slots
    exact ⟨Finmap.ext_lookup fun k => congrArg Prod.snd (slots k), Finmap.ext_lookup fun k => congrArg Prod.fst (slots k)⟩
  · rintro ⟨items, owner⟩ k
    rw [slot, slot, items, owner]

variable (o : O) (t : OwnedTable K V O) (order : List K)

lemma slot_announce (o : O) (k k' : K) (v : V) :
  (t.announce o k v).slot k' = if k' = k then (some o, some v) else t.slot k' := by
  unfold slot announce
  rw [lookup_insert_ite, lookup_insert_ite]
  split <;> rfl

lemma slot_remove (o : O) (k k' : K) : (t.remove o k).slot k' = if k' = k then (none, none) else t.slot k' := by
  unfold slot remove
  rw [lookup_erase_ite, lookup_erase_ite]
  split <;> rfl

lemma withdraw_cases (o : O) (k : K) (may : V -> Bool) :
  (t.withdraw o k may = t /\ ∀ v, t.heldBy o k = some v -> may v = false) \/
    ∃ v, t.slot k = (some o, some v) /\ may v = true /\ t.withdraw o k may = t.remove o k := by
  unfold withdraw heldBy slot
  split
  next o' v owner item =>
    by_cases mine : o' = o
    · subst mine
      cases allowed : may v with
      | false => exact .inl (by simp [item, allowed])
      | true => exact .inr ⟨v, by simp [owner, item, allowed]⟩
    · exact .inl (by simp [mine, owner])
  next other =>
    refine .inl ⟨rfl, fun v held => ?_⟩
    split at held
    next owner => exact absurd held (fun item => other o v owner item)
    · cases held

lemma slot_dropKey (k k' : K) : (dropKey o t k).slot k' =
    if k' = k /\ (t.slot k).1 = some o /\ (t.slot k).2.isSome then (none, none)
    else t.slot k' := by
  unfold dropKey slot
  by_cases held : t.owner.lookup k = some o /\ (t.items.lookup k).isSome
  · rw [if_pos held]
    simp only [lookup_erase_ite, held, and_true]
    split <;> rfl
  · rw [if_neg held, if_neg (fun both => held both.2)]

lemma slot_foldl_dropKey (k' : K) : (order.foldl (dropKey o) t).slot k' =
    if k' ∈ order /\ (t.slot k').1 = some o /\ (t.slot k').2.isSome then (none, none)
    else t.slot k' := by
  induction order generalizing t with
  | nil => simp
  | cons k order ih =>
    rw [List.foldl_cons, ih, slot_dropKey]
    by_cases same : k' = k
    · subst same
      by_cases held : (t.slot k').1 = some o /\ (t.slot k').2.isSome <;> simp [held]
    · simp [same]

lemma slot_withdraw (k k' : K) (may : V -> Bool) : (t.withdraw o k may).slot k' = t.slot k' \/
    (t.withdraw o k may).slot k' = (none, none) /\ ∀ v ∈ (t.slot k').2, may v = true := by
  rcases t.withdraw_cases o k may with ⟨idle, -⟩ | ⟨v, slot, allowed, removed⟩
  · exact .inl (by rw [idle])
  · rw [removed, slot_remove]
    split
    next same => exact .inr ⟨rfl, by simp [same, slot, allowed]⟩
    · exact .inl rfl

lemma slot_dropOwner (k : K) : (t.dropOwner o order).slot k = t.slot k \/
    (t.dropOwner o order).slot k = (none, none) /\ (t.slot k).1 = some o := by
  rw [dropOwner, slot_foldl_dropKey]
  split
  next dropped => exact .inr ⟨rfl, dropped.2.1⟩
  · exact .inl rfl

lemma Indexed.slot_dropOwner {t : OwnedTable K V O} (indexed : t.Indexed) (o : O)
  (order : List K) (visits : ∀ k, k ∈ order ↔ k ∈ listed t.owned o) (k : K) :
  (t.dropOwner o order).slot k = if (t.slot k).1 = some o then (none, none) else t.slot k := by
  have start : ({ t with owned := t.owned.erase o } : OwnedTable K V O).slot k = t.slot k := rfl
  unfold dropOwner
  rw [slot_foldl_dropKey, start]
  by_cases held : (t.slot k).1 = some o
  · have stored : (t.slot k).2.isSome := (indexed.owner_iff k).mp (by simp [held])
    have visited : k ∈ order := (visits k).mpr ((indexed.listed_iff o k).mpr held)
    rw [if_pos ⟨visited, held, stored⟩, if_pos held]
  · rw [if_neg (fun both => held both.2.1), if_neg held]

lemma heldBy_announce (o o' : O) (k k' : K) (v : V) : (t.announce o k v).heldBy o' k' =
    if k' = k then (if o = o' then some v else none) else t.heldBy o' k' := by
  unfold heldBy
  rw [slot_announce]
  by_cases same : k' = k <;> simp [same]

lemma heldBy_remove (o o' : O) (k k' : K) : (t.remove o k).heldBy o' k' = if k' = k then none else t.heldBy o' k' := by
  unfold heldBy
  rw [slot_remove]
  by_cases same : k' = k <;> simp [same]

lemma Indexed.heldBy_dropOwner {t : OwnedTable K V O} (indexed : t.Indexed) (o o' : O)
  (order : List K) (visits : ∀ k, k ∈ order ↔ k ∈ listed t.owned o) (k : K) :
  (t.dropOwner o order).heldBy o' k = if o' = o then none else t.heldBy o' k := by
  unfold heldBy
  rw [indexed.slot_dropOwner o order visits]
  by_cases held : (t.slot k).1 = some o
  · by_cases own : o' = o
    · simp [held, own]
    · simp [held, own, Ne.symm own]
  · by_cases own : o' = o <;> simp [held, own]

lemma announce_slots_iff (o : O) (k : K) (v : V) :
  (∀ k', (t.announce o k v).slot k' = t.slot k') ↔ t.heldBy o k = some v := by
  constructor
  · intro same
    have own := same k
    rw [slot_announce, if_pos rfl] at own
    simp [heldBy, <- own]
  · intro held k'
    rw [slot_announce]
    split
    next here =>
      subst here
      unfold heldBy at held
      split at held
      next owner => exact Prod.ext owner.symm held.symm
      · cases held
    · rfl

lemma withdraw_slots_iff (o : O) (k : K) (may : V -> Bool) :
  (∀ k', (t.withdraw o k may).slot k' = t.slot k') ↔ ∀ v, t.heldBy o k = some v -> may v = false := by
  rcases t.withdraw_cases o k may with ⟨same, barred⟩ | ⟨v, slot, allowed, removed⟩
  · rw [same]
    exact iff_of_true (fun _ => rfl) barred
  · rw [removed]
    refine iff_of_false (fun same => ?_) (fun barred => ?_)
    · have own := same k
      rw [slot_remove, if_pos rfl, slot] at own
      cases own
    · have := barred v (by simp [heldBy, slot])
      simp [allowed] at this

lemma Indexed.announce {t : OwnedTable K V O} (indexed : t.Indexed) (o : O) (k : K) (v : V) : (t.announce o k v).Indexed where
  owner_iff k' := by
    rw [slot_announce]
    split
    · simp
    · exact indexed.owner_iff k'
  listed_iff o' k' := by
    rw [slot_announce]
    simp only [OwnedTable.announce, takeOver, listed_insert]
    -- Whoever owned the key before has been unlisted when `o` takes it.
    have previous : ∀ (o' : O) (k' : K), k' ∈ listed (match t.owner.lookup k with
        | some prev => if prev ≠ o then disown t.owned prev k else t.owned
        | none => t.owned) o' ↔ (t.slot k').1 = some o' /\ (k' = k -> o' = o) := by
      intro o' k'
      cases owner : t.owner.lookup k with
      | none =>
        rw [indexed.listed_iff]
        constructor
        · intro held
          refine ⟨held, ?_⟩
          rintro rfl
          simp [slot, owner] at held
        · exact And.left
      | some prev =>
        by_cases mine : prev = o
        · subst mine
          simp only [ne_eq, not_true_eq_false, if_false, indexed.listed_iff]
          constructor
          · intro held
            refine ⟨held, ?_⟩
            rintro rfl
            rw [slot, owner] at held
            exact (Option.some.inj held).symm
          · exact And.left
        · simp only [ne_eq, mine, not_false_eq_true, if_true, mem_listed_disown, indexed.listed_iff]
          constructor
          · rintro ⟨held, other⟩
            refine ⟨held, ?_⟩
            rintro rfl
            rw [slot, owner] at held
            exact absurd ⟨(Option.some.inj held).symm, rfl⟩ other
          · rintro ⟨held, other⟩
            refine ⟨held, ?_⟩
            rintro ⟨rfl, rfl⟩
            exact mine (other rfl)
    by_cases own : o' = o
    · subst own
      have entry := previous o' k'
      unfold listed at entry
      rw [if_pos rfl, Finset.mem_insert, entry]
      by_cases same : k' = k <;> simp [same]
    · rw [if_neg own, previous]
      by_cases same : k' = k
      · simp [same, own, Ne.symm own]
      · simp [same]

lemma Indexed.remove {t : OwnedTable K V O} (indexed : t.Indexed) (o : O) (k : K)
  (held : (t.slot k).1 = some o) : (t.remove o k).Indexed where
  owner_iff k' := by
    rw [slot_remove]
    split
    · simp
    · exact indexed.owner_iff k'
  listed_iff o' k' := by
    rw [slot_remove]
    simp only [OwnedTable.remove, mem_listed_disown, indexed.listed_iff]
    by_cases same : k' = k
    · subst same
      simp only [held, if_true, reduceCtorEq, iff_false]
      rintro ⟨owner, other⟩
      exact other ⟨(Option.some.inj owner).symm, trivial⟩
    · simp [same]

lemma Indexed.withdraw {t : OwnedTable K V O} (indexed : t.Indexed) (o : O) (k : K)
  (may : V -> Bool) : (t.withdraw o k may).Indexed := by
  rcases t.withdraw_cases o k may with ⟨same, _⟩ | ⟨v, slot, _, removed⟩
  · rwa [same]
  · rw [removed]
    exact indexed.remove o k (by rw [slot])

lemma foldl_dropKey_owned : (order.foldl (dropKey o) t).owned = t.owned := by
  induction order generalizing t with
  | nil => rfl
  | cons k order ih =>
    rw [List.foldl_cons, ih, dropKey]
    split <;> rfl

lemma Indexed.dropOwner {t : OwnedTable K V O} (indexed : t.Indexed) (o : O) (order : List K)
  (visits : ∀ k, k ∈ order ↔ k ∈ listed t.owned o) : (t.dropOwner o order).Indexed where
  owner_iff k := by
    rw [indexed.slot_dropOwner o order visits]
    split
    · simp
    · exact indexed.owner_iff k
  listed_iff o' k := by
    rw [indexed.slot_dropOwner o order visits]
    unfold OwnedTable.dropOwner
    rw [foldl_dropKey_owned, listed_erase]
    by_cases own : o' = o
    · subst own
      by_cases held : (t.slot k).1 = some o' <;> simp [held]
    · rw [if_neg own, indexed.listed_iff]
      by_cases held : (t.slot k).1 = some o
      · simp [held, Ne.symm own]
      · simp [held]

lemma Indexed.listed_heldBy {t : OwnedTable K V O} (indexed : t.Indexed) (o : O) (k : K) :
  k ∈ listed t.owned o ↔ (t.heldBy o k).isSome := by
  rw [indexed.listed_iff, heldBy]
  split
  next own => simp [own, <- indexed.owner_iff]
  next other => simp [other]

lemma Indexed.stored_iff {t : OwnedTable K V O} (indexed : t.Indexed) (k : K) :
  (t.items.lookup k).isSome ↔ ∃ o, k ∈ listed t.owned o := by
  simp only [indexed.listed_iff, <- Option.isSome_iff_exists]
  exact (indexed.owner_iff k).symm

end OwnedTable

end Ectobase.Shared
