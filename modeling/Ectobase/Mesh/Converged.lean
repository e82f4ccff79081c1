import Ectobase.Mesh.RouteBus
import Mathlib.Data.Finset.Basic

namespace Ectobase.Mesh

open List

-- The fields of the bus behind `Converged`. The maps to bool are the sets of their keys.
structure ReplayBooks where
  subscribedVNIs : Finset UInt32 := ∅
  eorSeen : Finset UInt32 := ∅
  globalDone : Bool := false
  converged : Bool := false
  deriving DecidableEq

namespace ReplayBooks

@[simp]
def resetGlobalSnapshot (b : ReplayBooks) : ReplayBooks := { b with globalDone := false, eorSeen := ∅ }

def recomputeConvergedLocked (b : ReplayBooks) : ReplayBooks := if b.converged || !b.globalDone then b
  else if b.subscribedVNIs ⊆ b.eorSeen then { b with converged := true }
  else b

@[simp]
def noteSubscribed (b : ReplayBooks) (vnis : List UInt32) : ReplayBooks :=
  recomputeConvergedLocked { b with subscribedVNIs := vnis.toFinset }

@[simp]
def noteEndOfRIB (b : ReplayBooks) (vni : UInt32) : ReplayBooks :=
  recomputeConvergedLocked { b with eorSeen := insert vni b.eorSeen }

@[simp]
def noteEndOfGlobal (b : ReplayBooks) : ReplayBooks :=
  recomputeConvergedLocked { b with globalDone := true }

-- The desired subscriptions, or `none` when the reconcile fails.
@[simp]
def reconcileStep (b : ReplayBooks) : Option (List UInt32) -> ReplayBooks
  | none => b
  | some subs => b.noteSubscribed subs

@[simp]
def handleServerMsg (b : ReplayBooks) : ServerMsg -> ReplayBooks
  | .endOfRib vni _ => b.noteEndOfRIB vni
  | .global (.endOfGlobal _) => b.noteEndOfGlobal
  | _ => b

end ReplayBooks

inductive BusEvent where
  | tick (desired : Option (List UInt32))
  | recv (msg : ServerMsg)
  deriving DecidableEq

structure BusSession where
  first : Option (List UInt32)
  events : List BusEvent

namespace ReplayBooks

@[simp]
def event (b : ReplayBooks) : BusEvent -> ReplayBooks
  | .tick desired => b.reconcileStep desired
  | .recv msg => b.handleServerMsg msg

def run (b : ReplayBooks) (s : BusSession) : ReplayBooks :=
  s.events.foldl event (b.resetGlobalSnapshot.reconcileStep s.first)

def before (b : ReplayBooks) (s : BusSession) : ReplayBooks :=
  if s.events = [] then b else b.run { s with events := s.events.dropLast }

end ReplayBooks

def BusSession.desired (s : BusSession) : Option (List UInt32) :=
  s.events.foldl (fun last e => match e with | .tick (some subs) => some subs | _ => last) s.first

def BusSession.FullPicture (s : BusSession) : Prop :=
  (∃ n, .recv (.global (.endOfGlobal n)) ∈ s.events) /\
    ∃ subs, s.desired = some subs /\ ∀ v ∈ subs, ∃ n, .recv (.endOfRib v n) ∈ s.events

@[simp]
lemma recomputeConvergedLocked_eq (b : ReplayBooks) : b.recomputeConvergedLocked = { b with
    converged := b.converged || b.globalDone && decide (b.subscribedVNIs ⊆ b.eorSeen) } := by
  obtain ⟨subs, seen, done, converged⟩ := b
  cases converged <;> cases done <;> simp [ReplayBooks.recomputeConvergedLocked]
  split <;> simp_all

section

variable (b : ReplayBooks) (first : Option (List UInt32)) (events : List BusEvent) (e : BusEvent)

@[simp]
lemma run_snoc : b.run ⟨first, events ++ [e]⟩ = (b.run ⟨first, events⟩).event e := by
  simp [ReplayBooks.run]

@[simp]
lemma before_snoc : b.before ⟨first, events ++ [e]⟩ = b.run ⟨first, events⟩ := by
  simp [ReplayBooks.before]

@[simp]
lemma desired_snoc : BusSession.desired ⟨first, events ++ [e]⟩ =
  match e with | .tick (some subs) => some subs | _ => BusSession.desired ⟨first, events⟩ := by
  simp [BusSession.desired]

structure Records : Prop where
  done : (b.run ⟨first, events⟩).globalDone = true ↔ ∃ n, .recv (.global (.endOfGlobal n)) ∈ events
  seen : ∀ v, v ∈ (b.run ⟨first, events⟩).eorSeen ↔ ∃ n, .recv (.endOfRib v n) ∈ events
  subscribed : (b.run ⟨first, events⟩).subscribedVNIs =
    ((BusSession.desired ⟨first, events⟩).map toFinset).getD b.subscribedVNIs

lemma records : Records b first events := by
  induction events using reverseRecOn with
  | nil => cases first <;> constructor <;> simp [ReplayBooks.run, BusSession.desired]
  | append_singleton events e ih =>
    -- Only the three events that evaluate the latch change a book, each its own.
    rcases e with (_ | subs) | (_ | ⟨vni, count⟩ | (_ | _ | count)) <;> constructor <;>
      simp [ih.done, ih.seen, ih.subscribed, exists_or, or_comm]

@[simp]
lemma open_converged : (b.run ⟨first, []⟩).converged = b.converged := by
  cases first <;> simp [ReplayBooks.run]

lemma run_converged (set : b.converged = true) : (b.run ⟨first, events⟩).converged = true := by
  induction events using reverseRecOn with
  | nil => simp [set]
  | append_singleton events e ih =>
    rcases e with (_ | subs) | (_ | ⟨vni, count⟩ | (_ | _ | count)) <;> simp [ih]

-- The latch is set by the event that completes the picture in the books.
lemma event_converged (unset : b.converged = false) (set : (b.event e).converged = true) :
  (b.event e).globalDone = true /\ (b.event e).subscribedVNIs ⊆ (b.event e).eorSeen := by
  rcases e with (_ | subs) | (_ | ⟨vni, count⟩ | (_ | _ | count)) <;> simp_all

lemma unfinished (unset : b.converged = false) (during : ∀ n, .recv (.global (.endOfGlobal n)) ∉ events) :
  (b.run ⟨first, events⟩).converged = false := by
  induction events using reverseRecOn with
  | nil => simp [unset]
  | append_singleton events e ih =>
    have before := ih fun n handled => during n (mem_append_left _ handled)
    by_contra set
    have done := (event_converged _ e before (by simpa using set)).1
    obtain ⟨n, handled⟩ := (records b first (events ++ [e])).done.mp (by rw [run_snoc, done])
    exact during n handled

lemma desired_isSome (reconciled : first.isSome = true) : (BusSession.desired ⟨first, events⟩).isSome = true := by
  induction events using reverseRecOn with
  | nil => exact reconciled
  | append_singleton events e ih =>
    rw [desired_snoc]
    split
    · rfl
    · exact ih

variable {b first events} in
lemma turns_fullPicture (reconciled : first.isSome = true) (unset : (b.before ⟨first, events⟩).converged = false)
  (set : (b.run ⟨first, events⟩).converged = true) : BusSession.FullPicture ⟨first, events⟩ := by
  obtain ⟨subs, wanted⟩ := Option.isSome_iff_exists.mp (desired_isSome first events reconciled)
  have r := records b first events
  rcases events.eq_nil_or_concat' with rfl | ⟨events, e, rfl⟩
  · rw [open_converged] at set
    simp [ReplayBooks.before, set] at unset
  · rw [before_snoc] at unset
    rw [run_snoc] at set
    obtain ⟨done, covered⟩ := event_converged _ e unset set
    rw [<- run_snoc] at done covered
    refine ⟨r.done.mp done, subs, wanted, fun v want => (r.seen v).mp (covered ?_)⟩
    rw [r.subscribed, wanted]
    exact mem_toFinset.mpr want

end

theorem converged_only_on_fullPicture (earlier : List BusSession) (first : Option (List UInt32)) :
  (∀ events, let s : BusSession := ⟨first, events⟩
    ((earlier.foldl ReplayBooks.run {}).before s).converged = false ->
      ((earlier.foldl ReplayBooks.run {}).run s).converged = true -> s.FullPicture) ↔
    (earlier.foldl ReplayBooks.run {}).converged = true \/ first.isSome = true := by
  generalize earlier.foldl ReplayBooks.run {} = b
  constructor
  · intro full
    by_contra neither
    obtain ⟨unset, rfl⟩ : b.converged = false /\ first = none := by simpa using neither
    -- Nothing but the ends of the tables the last session had asked for, then of the snapshot.
    let tables := b.subscribedVNIs.toList.map fun v => BusEvent.recv (.endOfRib v 0)
    have unasked : BusSession.desired ⟨none, tables⟩ = none := by
      simp [BusSession.desired, tables, foldl_map]
    have r := records b none tables
    have seen : b.subscribedVNIs ⊆ (b.run ⟨none, tables⟩).eorSeen := fun v member =>
      (r.seen v).mpr ⟨0, by simp [tables, member]⟩
    have before := unfinished b none tables unset (by simp [tables])
    obtain ⟨-, subs, wanted, -⟩ := full (tables ++ [.recv (.global (.endOfGlobal 0))])
      (by rw [before_snoc, before]) (by simp [r.subscribed, unasked, seen])
    simp [unasked] at wanted
  · rintro (set | reconciled) events s unset turned
    · rw [ReplayBooks.before] at unset
      split at unset
      · simp [set] at unset
      · simp [s, run_converged b _ _ set] at unset
    · exact turns_fullPicture reconciled unset turned

theorem converged_without_reconcile :
  let s : BusSession := ⟨none, [.recv (.global (.endOfGlobal 0))]⟩
  (ReplayBooks.before {} s).converged = false /\ (ReplayBooks.run {} s).converged = true /\ ¬ s.FullPicture := by
  refine ⟨by decide, by decide, ?_⟩
  rintro ⟨-, subs, reconciled, -⟩
  cases reconciled

end Ectobase.Mesh
