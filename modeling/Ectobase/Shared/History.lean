import Ectobase.Shared.Store

namespace Ectobase.Shared

open List Store

-- Every state the objects were in, the latest first, and the next number given out.
structure History {K A : Type} (key : A -> K) where
  now : Store key
  past : List (Store key)
  next : Nat

namespace History

variable {K A : Type} {key : A -> K}

def empty : History key where
  now := .empty
  past := []
  next := 0

def states (h : History key) : List (Store key) := h.now :: h.past

def commit (h : History key) (s : Store key) : History key where
  now := s
  past := h.states
  next := h.next + 1

def behind (h : History key) (lag : Nat) : Store key := (h.states.drop lag).headD .empty

variable (h : History key) (s : Store key)

lemma now_mem_states : h.now ∈ h.states := mem_cons_self

lemma mem_behind {h : History key} {lag : Nat} {a : A} (member : a ∈ (h.behind lag).items) :
  h.behind lag ∈ h.states.drop lag /\ h.behind lag ∈ h.states.take (lag + 1) := by
  unfold behind at member ⊢
  cases left : h.states.drop lag with
  | nil =>
    rw [left] at member
    exact absurd member not_mem_nil
  | cons s rest =>
    refine ⟨mem_cons_self, ?_⟩
    have found : h.states[lag]? = some s := by
      rw [<- head?_drop, left, head?_cons]
    rw [take_add_one, found]
    exact mem_append_right _ mem_cons_self

-- Every write has a version of its own.
structure Sound (uid version : A -> Nat) (become : A -> A -> Prop) (h : History key) : Prop where
  numbered : ∀ s ∈ h.states, ∀ a ∈ s.items, uid a < h.next /\ version a < h.next
  versions : ∀ s ∈ h.states, ∀ s' ∈ h.states, ∀ a ∈ s.items, ∀ b ∈ s'.items,
    version a = version b -> a = b
  identities : ∀ s ∈ h.states, ∀ a ∈ s.items, ∀ b ∈ s.items, uid a = uid b -> a = b
  lives : h.states.Pairwise fun newer older =>
    ∀ a ∈ older.items, ∀ b ∈ newer.items, uid a = uid b -> become a b

section

variable {uid version : A -> Nat} {become : A -> A -> Prop} {h : History key}

lemma empty_sound : (empty : History key).Sound uid version become where
  numbered s member a listed := by
    obtain rfl := mem_singleton.mp member
    exact absurd listed not_mem_nil
  versions s member _ _ a listed := by
    obtain rfl := mem_singleton.mp member
    exact absurd listed not_mem_nil
  identities s member a listed := by
    obtain rfl := mem_singleton.mp member
    exact absurd listed not_mem_nil
  lives := pairwise_singleton _ _

variable [Std.Refl become]

lemma Sound.become_of (sound : h.Sound uid version become) (lag : Nat) {s s' : Store key}
  (older : s ∈ h.states.drop lag) (newer : s' ∈ h.states.take (lag + 1)) {a b : A}
  (listed : a ∈ s.items) (listed' : b ∈ s'.items) (same : uid a = uid b) : become a b := by
  have order {R : Store key -> Store key -> Prop} (n : Nat) (l : List (Store key))
    (pairs : l.Pairwise R) (old : s ∈ l.drop n) (new : s' ∈ l.take (n + 1)) : s' = s \/ R s' s := by
    induction n generalizing l with
    | zero =>
      cases l with
      | nil => exact absurd new not_mem_nil
      | cons x rest =>
        obtain rfl := mem_singleton.mp new
        rcases mem_cons.mp old with here | later
        · exact .inl here.symm
        · exact .inr ((pairwise_cons.mp pairs).1 s later)
    | succ n ih =>
      cases l with
      | nil => exact absurd new not_mem_nil
      | cons x rest =>
        rw [pairwise_cons] at pairs
        rcases mem_cons.mp new with rfl | new
        · exact .inr (pairs.1 s (mem_of_mem_drop old))
        · exact ih rest pairs.2 old new
  rcases order lag h.states sound.lives older newer with rfl | lives
  · rw [sound.identities s' (mem_of_mem_drop older) a listed b listed' same]
    exact refl_of become b
  · exact lives a listed b listed' same

lemma Sound.become_now (sound : h.Sound uid version become) {s : Store key}
  (older : s ∈ h.states) {a b : A} (listed : a ∈ s.items) (listed' : b ∈ h.now.items)
  (same : uid a = uid b) : become a b :=
  sound.become_of 0 older mem_cons_self listed listed' same

variable [IsTrans A become]

lemma Sound.commit (sound : h.Sound uid version become) {s : Store key} (new : Option A)
  (each : ∀ b ∈ s.items, b ∈ h.now.items \/ new = some b)
  (number : ∀ b ∈ new, version b = h.next)
  (life : ∀ b ∈ new, uid b = h.next \/ ∃ old ∈ h.now.items, uid old = uid b /\ become old b)
  (identities : ∀ a ∈ s.items, ∀ b ∈ s.items, uid a = uid b -> a = b) :
  (h.commit s).Sound uid version become := by
  have fresh {s' : Store key} (state : s' ∈ h.states) {a b : A} (listed : a ∈ s'.items)
    (written : new = some b) : version a ≠ version b := by
    have below := (sound.numbered s' state a listed).2
    have above := number b written
    omega
  -- Against an earlier state, the objects of the new one.
  have against {s' : Store key} (state : s' ∈ h.states) {a b : A} (listed : a ∈ s'.items)
    (listed' : b ∈ s.items) : (version a = version b -> a = b) /\ (uid a = uid b -> become a b) := by
    rcases each b listed' with kept | written
    · exact ⟨sound.versions s' state h.now h.now_mem_states a listed b kept, sound.become_now state listed kept⟩
    · refine ⟨fun same => absurd same (fresh state listed written), fun same => ?_⟩
      rcases life b written with first | ⟨old, listed'', same', grown⟩
      · have below := (sound.numbered s' state a listed).1
        omega
      · exact trans_of become (sound.become_now state listed listed'' (same.trans same'.symm)) grown
  constructor
  · intro s' state a listed
    rcases mem_cons.mp state with rfl | state
    · rcases each a listed with kept | written
      · have below := sound.numbered h.now h.now_mem_states a kept
        exact ⟨Nat.lt_succ_of_lt below.1, Nat.lt_succ_of_lt below.2⟩
      · refine ⟨?_, Nat.lt_succ_of_le (Nat.le_of_eq (number a written))⟩
        rcases life a written with first | ⟨old, listed', same, -⟩
        · exact Nat.lt_succ_of_le (Nat.le_of_eq first)
        · rw [<- same]
          exact Nat.lt_succ_of_lt (sound.numbered h.now h.now_mem_states old listed').1
    · have below := sound.numbered s' state a listed
      exact ⟨Nat.lt_succ_of_lt below.1, Nat.lt_succ_of_lt below.2⟩
  · intro s' state s'' state' a listed b listed' same
    rcases mem_cons.mp state with rfl | state <;> rcases mem_cons.mp state' with rfl | state'
    · rcases each a listed with kept | written
      · exact (against h.now_mem_states kept listed').1 same
      · rcases each b listed' with kept' | written'
        · exact absurd same.symm (fresh h.now_mem_states kept' written)
        · exact Option.mem_unique written written'
    · exact ((against state' listed' listed).1 same.symm).symm
    · exact (against state listed listed').1 same
    · exact sound.versions s' state s'' state' a listed b listed' same
  · intro s' state
    rcases mem_cons.mp state with rfl | state
    · exact identities
    · exact sound.identities s' state
  · exact pairwise_cons.mpr ⟨fun s' state a listed b listed' => (against state listed listed').2, sound.lives⟩

variable [DecidableEq K]

lemma Sound.put (sound : h.Sound uid version become) {new : A} (number : version new = h.next)
  (life : uid new = h.next \/ ∃ old, h.now.find (key new) = some old /\ uid old = uid new /\ become old new) :
  (h.commit (h.now.put new)).Sound uid version become := by
  have unique {b : A} (kept : b ∈ h.now.items) (apart : key b ≠ key new) : uid b ≠ uid new := by
    intro again
    rcases life with first | ⟨old, found, same, -⟩
    · have below := (sound.numbered h.now h.now_mem_states b kept).1
      omega
    · have here := sound.identities h.now h.now_mem_states b kept old (mem_of_find found) (again.trans same.symm)
      exact apart (here ▸ find_key found)
  refine sound.commit (some new) (fun b member => ?_) ?_ ?_ ?_
  · rcases mem_put.mp member with rfl | ⟨kept, -⟩
    · exact .inr rfl
    · exact .inl kept
  · rintro b ⟨⟩
    exact number
  · rintro b ⟨⟩
    exact life.imp id fun ⟨old, found, same, grown⟩ => ⟨old, mem_of_find found, same, grown⟩
  · intro a memberA b memberB again
    rcases mem_put.mp memberA with rfl | ⟨keptA, apartA⟩ <;> rcases mem_put.mp memberB with rfl | ⟨keptB, apartB⟩
    · rfl
    · exact absurd again.symm (unique keptB apartB)
    · exact absurd again (unique keptA apartA)
    · exact sound.identities h.now h.now_mem_states a keptA b keptB again

lemma Sound.remove (sound : h.Sound uid version become) (k : K) : (h.commit (h.now.remove k)).Sound uid version become := by
  have kept {a : A} (member : a ∈ (h.now.remove k).items) : a ∈ h.now.items := (mem_remove.mp member).1
  refine sound.commit none (fun b member => .inl (kept member)) nofun nofun ?_
  exact fun a memberA b memberB =>
    sound.identities h.now h.now_mem_states a (kept memberA) b (kept memberB)

end

end History

end Ectobase.Shared
