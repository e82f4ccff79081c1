import Mathlib.Data.List.Basic

namespace Ectobase.Mesh

open List

variable {M : Type}

def maxPendingDeltas : Nat := 1024

structure SessionQueue (M : Type) where
  wake : Bool
  pending : List M
  deltas : Nat
  dropping : Bool
  dropped : UInt64
  closed : Bool

namespace SessionQueue

variable (q : SessionQueue M)

def new : SessionQueue M := ⟨false, [], 0, false, 0, false⟩

-- The channel has room for one token, and a second one is not waited for.
def notify : SessionQueue M := { q with wake := true }

def send (m : M) : SessionQueue M :=
  if q.closed then q
  else if maxPendingDeltas <= q.deltas then { q with dropping := true, dropped := q.dropped + 1 }
  else notify { q with pending := q.pending ++ [m], deltas := q.deltas + 1 }

def sendSnapshot (ms : List M) : SessionQueue M :=
  if q.closed then q else notify { q with pending := q.pending ++ ms }

-- One turn of the loop: what it returns, or none when it goes on to wait.
def take : Option (List M × Bool) × SessionQueue M :=
  if q.pending ≠ [] then (some (q.pending, true), { q with pending := [], deltas := 0, dropping := false })
  else if q.closed then (some ([], false), q)
  else (none, q)

def close : SessionQueue M := notify { q with closed := true }

end SessionQueue

inductive Drain where
  | taking
  | waiting
  | ended
  deriving DecidableEq

structure DrainedQueue (M : Type) where
  queue : SessionQueue M
  drain : Drain
  taken : List (List M)

inductive QueueEvent (M : Type) where
  | send (m : M)
  | sendSnapshot (ms : List M)
  | close
  | drain

namespace DrainedQueue

def new : DrainedQueue M := ⟨.new, .taking, []⟩

def step (s : DrainedQueue M) : QueueEvent M -> DrainedQueue M
  | .send m => { s with queue := s.queue.send m }
  | .sendSnapshot ms => { s with queue := s.queue.sendSnapshot ms }
  | .close => { s with queue := s.queue.close }
  | .drain =>
    match s.drain with
    | .taking =>
      match s.queue.take with
      | (some (batch, true), queue) => { s with queue, taken := s.taken ++ [batch] }
      | (some (_, false), queue) => { s with queue, drain := .ended }
      | (none, queue) => { s with queue, drain := .waiting }
    -- the receive from the channel blocks while there is no token
    | .waiting =>
      if s.queue.wake then { s with queue := { s.queue with wake := false }, drain := .taking } else s
    | .ended => s

end DrainedQueue

structure Sending (M : Type) where
  delta : Bool
  msgs : List M

def QueueEvent.sending : QueueEvent M -> List (Sending M)
  | .send m => [⟨true, [m]⟩]
  | .sendSnapshot ms => [⟨false, ms⟩]
  | .close | .drain => []

def SessionQueue.refuses (q : SessionQueue M) (x : Sending M) : Bool :=
  q.closed || x.delta && decide (maxPendingDeltas <= q.deltas)

def accepted (s : DrainedQueue M) : List (QueueEvent M) -> List (Sending M)
  | [] => []
  | e :: rest => (e.sending.filter fun x => !s.queue.refuses x) ++ accepted (s.step e) rest

-- The accepted sendings, whole and in order: some taken, each in one batch, and the others pending.
structure Accounted (s : DrainedQueue M) (batches : List (List (Sending M))) (rest : List (Sending M)) : Prop where
  taken : s.taken = batches.map fun batch => batch.flatMap Sending.msgs
  pending : s.queue.pending = rest.flatMap Sending.msgs
  deltas : s.queue.deltas = rest.countP Sending.delta
  ended : s.drain = .ended -> s.queue.closed = true /\ s.queue.pending = []
  awake : s.drain = .waiting -> s.queue.closed = true \/ s.queue.pending ≠ [] -> s.queue.wake = true

variable {s : DrainedQueue M} {batches : List (List (Sending M))} {rest : List (Sending M)}

lemma Accounted.accept (old : Accounted s batches rest) (x : Sending M) (isOpen : s.queue.closed = false)
  {q : SessionQueue M} (pending : q.pending = s.queue.pending ++ x.msgs)
  (deltas : q.deltas = s.queue.deltas + [x].countP Sending.delta) (wake : q.wake = true) :
  Accounted { s with queue := q } batches (rest ++ [x]) where
  taken := old.taken
  pending := by rw [pending, old.pending, flatMap_append, flatMap_singleton]
  deltas := by rw [deltas, old.deltas, countP_append]
  ended done := absurd (isOpen.symm.trans (old.ended done).1) Bool.false_ne_true
  awake _ _ := wake

lemma Accounted.step (old : Accounted s batches rest) (e : QueueEvent M) : ∃ batches' rest',
  Accounted (s.step e) batches' rest' /\
    batches'.flatten ++ rest' = batches.flatten ++ rest ++ e.sending.filter fun x => !s.queue.refuses x := by
  cases e with
  | send m =>
    by_cases closed : s.queue.closed = true
    · refine ⟨batches, rest, ?_, by simp [QueueEvent.sending, SessionQueue.refuses, closed]⟩
      simpa only [DrainedQueue.step, SessionQueue.send, if_pos closed] using old
    · simp only [DrainedQueue.step, SessionQueue.send, if_neg closed]
      by_cases full : maxPendingDeltas <= s.queue.deltas
      · rw [if_pos full]
        exact ⟨batches, rest, ⟨old.taken, old.pending, old.deltas, old.ended, old.awake⟩,
          by simp [QueueEvent.sending, SessionQueue.refuses, full]⟩
      · rw [if_neg full]
        exact ⟨batches, _, old.accept ⟨true, [m]⟩ (Bool.eq_false_iff.mpr closed) rfl rfl rfl,
          by simp [QueueEvent.sending, SessionQueue.refuses, closed, full]⟩
  | sendSnapshot ms =>
    by_cases closed : s.queue.closed = true
    · refine ⟨batches, rest, ?_, by simp [QueueEvent.sending, SessionQueue.refuses, closed]⟩
      simpa only [DrainedQueue.step, SessionQueue.sendSnapshot, if_pos closed] using old
    · simp only [DrainedQueue.step, SessionQueue.sendSnapshot, if_neg closed]
      exact ⟨batches, _, old.accept ⟨false, ms⟩ (Bool.eq_false_iff.mpr closed) rfl rfl rfl,
        by simp [QueueEvent.sending, SessionQueue.refuses, closed]⟩
  | close =>
    refine ⟨batches, rest, ⟨old.taken, old.pending, old.deltas, fun done => ⟨rfl, (old.ended done).2⟩,
      fun _ _ => rfl⟩, by simp [QueueEvent.sending]⟩
  | drain =>
    simp only [DrainedQueue.step, QueueEvent.sending, filter_nil, append_nil]
    split
    next taking =>
      unfold SessionQueue.take
      by_cases empty : s.queue.pending = []
      · rw [if_neg (not_not.mpr empty)]
        by_cases closed : s.queue.closed = true
        · rw [if_pos closed]
          exact ⟨batches, rest, ⟨old.taken, old.pending, old.deltas, fun _ => ⟨closed, empty⟩, nofun⟩, rfl⟩
        · rw [if_neg closed]
          exact ⟨batches, rest, ⟨old.taken, old.pending, old.deltas, nofun,
            fun _ due => (due.elim closed (absurd empty)).elim⟩, rfl⟩
      · rw [if_pos empty]
        refine ⟨batches ++ [rest], [], ⟨?_, rfl, rfl, ?_, ?_⟩, by simp⟩
        · simp [old.taken, old.pending]
        · exact fun done => by cases taking.symm.trans done
        · exact fun wait => by cases taking.symm.trans wait
    next waiting =>
      split
      · exact ⟨batches, rest, ⟨old.taken, old.pending, old.deltas, nofun, nofun⟩, rfl⟩
      · exact ⟨batches, rest, old, rfl⟩
    · exact ⟨batches, rest, old, rfl⟩

lemma Accounted.run (old : Accounted s batches rest) (events : List (QueueEvent M)) : ∃ batches' rest',
  Accounted (events.foldl DrainedQueue.step s) batches' rest' /\
    batches'.flatten ++ rest' = batches.flatten ++ rest ++ accepted s events := by
  induction events generalizing s batches rest with
  | nil => exact ⟨batches, rest, old, (append_nil _).symm⟩
  | cons e events ih =>
    obtain ⟨batches1, rest1, now, here⟩ := old.step e
    obtain ⟨batches', rest', last, later⟩ := ih now
    exact ⟨batches', rest', last, by rw [later, here, accepted, append_assoc _ _ (accepted _ _)]⟩

lemma accepted_sublist (s : DrainedQueue M) (events : List (QueueEvent M)) :
  (accepted s events).Sublist (events.flatMap QueueEvent.sending) := by
  induction events generalizing s with
  | nil => exact Sublist.refl _
  | cons e events ih => exact filter_sublist.append (ih _)

lemma closed_step (s : DrainedQueue M) (e : QueueEvent M) :
  (s.step e).queue.closed = true ↔ s.queue.closed = true \/ .close = e := by
  cases e with
  | send m =>
    simp only [DrainedQueue.step, SessionQueue.send]
    split_ifs <;> simp_all [SessionQueue.notify]
  | sendSnapshot ms =>
    simp only [DrainedQueue.step, SessionQueue.sendSnapshot]
    split_ifs <;> simp_all [SessionQueue.notify]
  | close => simp [DrainedQueue.step, SessionQueue.close, SessionQueue.notify]
  | drain =>
    simp only [DrainedQueue.step, SessionQueue.take, reduceCtorEq, or_false]
    split
    · split_ifs <;> rfl
    · split_ifs <;> rfl
    · rfl

lemma closed_run (s : DrainedQueue M) (events : List (QueueEvent M)) :
  (events.foldl DrainedQueue.step s).queue.closed = true ↔ s.queue.closed = true \/ .close ∈ events := by
  induction events generalizing s with
  | nil => simp
  | cons e events ih => rw [foldl_cons, ih, closed_step, mem_cons, or_assoc]

-- A token waits for the drain, which then takes what is left, and finds the queue closed.
lemma Accounted.ends (old : Accounted s batches rest) (closed : s.queue.closed = true) :
  ([.drain, .drain, .drain].foldl DrainedQueue.step s).drain = .ended := by
  obtain ⟨⟨wake, pending, deltas, dropping, dropped, isClosed⟩, drain, taken⟩ := s
  cases closed
  have awake := fun waits => old.awake waits (.inl rfl)
  cases drain <;> cases pending <;> simp_all [DrainedQueue.step, SessionQueue.take]

-- The session's messages come out whole and in order. What is refused comes after a close, or is a
-- delta with 1024 pending before it; and the drain of a closed queue ends, with nothing pending.
theorem session_queue_fifo (events : List (QueueEvent M)) : let s := events.foldl DrainedQueue.step .new
  ∃ batches rest, Accounted s batches rest /\ batches.flatten ++ rest = accepted .new events /\
    (accepted .new events).Sublist (events.flatMap QueueEvent.sending) /\
    (s.queue.closed = true ↔ .close ∈ events) /\
    (∀ x, s.queue.refuses x = true ↔ s.queue.closed = true \/ x.delta = true /\ 1024 <= rest.countP Sending.delta) /\
    (s.queue.closed = true -> ([.drain, .drain, .drain].foldl DrainedQueue.step s).drain = .ended) := by
  intro s
  have start : Accounted (.new : DrainedQueue M) [] [] := ⟨rfl, rfl, rfl, nofun, nofun⟩
  obtain ⟨batches, rest, last, whole⟩ := start.run events
  have closes : s.queue.closed = true ↔ .close ∈ events := (closed_run .new events).trans (or_iff_right Bool.false_ne_true)
  refine ⟨batches, rest, last, whole, accepted_sublist _ events, closes, fun x => ?_, last.ends⟩
  rw [<- last.deltas]
  simp only [SessionQueue.refuses, Bool.or_eq_true, Bool.and_eq_true, decide_eq_true_eq]
  rfl

end Ectobase.Mesh
