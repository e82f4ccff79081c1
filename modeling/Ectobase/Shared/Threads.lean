import Ectobase.Shared.Calls

namespace Ectobase.Shared

open Function

structure Thread {Call : Type} (W : Type) (Reply : Call -> Type) (ι α : Type) where
  tag : ι
  log : Log W Reply
  rest : Prog Call Reply α

structure Threads {Call : Type} (κ W : Type) (Reply : Call -> Type) (ι α : Type) where
  world : W
  running : κ -> Option (Thread W Reply ι α)

inductive Move (κ ι O E : Type) where
  | start (worker : κ) (tag : ι)
  | call (worker : κ) (outcome : O)
  | env (event : E)

variable {Call κ W ι O E α : Type} {Reply : Call -> Type} [DecidableEq κ]

def Thread.next (serve : Serve W O Reply) (t : Thread W Reply ι α) (w : W) (o : O) : Thread W Reply ι α × W :=
  match t.rest with
  | .done _ => (t, w)
  | .call c next =>
    let answer := serve w c o
    ({ t with log := ⟨w, c, answer.1⟩ :: t.log, rest := next answer.1 }, answer.2)

def Prog.result : Prog Call Reply α -> Option α
  | .done value => some value
  | .call _ _ => none

lemma Prog.result_eq_some {p : Prog Call Reply α} {value : α} : p.result = some value ↔ p = .done value := by
  cases p with
  | done | call => simp [result]

def Threads.step (serve : Serve W O Reply) (environment : W -> E -> W)
  (program : ι -> Prog Call Reply α) (s : Threads κ W Reply ι α) :
  Move κ ι O E -> Threads κ W Reply ι α
  | .start worker tag =>
    { s with running := update s.running worker (some ⟨tag, [], program tag⟩) }
  | .call worker outcome =>
    match s.running worker with
    | none => s
    | some t =>
      let out := t.next serve s.world outcome
      { world := out.2, running := update s.running worker (some out.1) }
  | .env event => { s with world := environment s.world event }

def Threads.idle (w : W) : Threads κ W Reply ι α where
  world := w
  running := fun _ => none

section

variable (serve : Serve W O Reply) (environment : W -> E -> W) (program : ι -> Prog Call Reply α)
  (credible : (c : Call) -> Reply c -> Prop) (allowed : ι -> Trace Reply -> Call -> Prop)
  (post : ι -> α -> Trace Reply -> Prop) (admitted : κ -> ι -> Prop)
  (inv : W -> Prop) (knows : κ -> ι -> Trace Reply -> W -> Prop)

-- An allowed call adds to what its thread knows, and upsets nothing another worker knows.
structure Discipline : Prop where
  obeys : ∀ k tag, admitted k tag -> (program tag).Obeys credible (allowed tag) (post tag) []
  served : ∀ w c o, credible c (serve w c o).1
  nothing : ∀ k tag w, inv w -> knows k tag [] w
  call : ∀ k tag told w c o, admitted k tag -> inv w -> knows k tag told w -> allowed tag told c ->
    inv (serve w c o).2 /\ knows k tag (⟨c, (serve w c o).1⟩ :: told) (serve w c o).2
  stable : ∀ k tag told w c o, admitted k tag -> inv w -> knows k tag told w -> allowed tag told c ->
    ∀ k' tag' told', k' ≠ k -> admitted k' tag' -> knows k' tag' told' w ->
      knows k' tag' told' (serve w c o).2
  env : ∀ w e, inv w -> inv (environment w e)
  envStable : ∀ w e, inv w -> ∀ k tag told, admitted k tag -> knows k tag told w ->
    knows k tag told (environment w e)

-- Every call it has made was answered by a world in its invariant.
structure Thread.Sound (k : κ) (t : Thread W Reply ι α) (w : W) : Prop where
  admits : admitted k t.tag
  knows : knows k t.tag (Log.trace t.log) w
  obeys : t.rest.Obeys credible (allowed t.tag) (post t.tag) (Log.trace t.log)
  met : ∀ e ∈ t.log, inv e.world /\ ∃ o, e.reply = (serve e.world e.call o).1

structure Threads.Sound (s : Threads κ W Reply ι α) : Prop where
  world : inv s.world
  threads : ∀ k t, s.running k = some t ->
    t.Sound serve credible allowed post admitted inv knows k s.world

def Move.Admitted : Move κ ι O E -> Prop
  | .start worker tag => admitted worker tag
  | _ => True

end

section

variable {serve : Serve W O Reply} {environment : W -> E -> W} {program : ι -> Prog Call Reply α}
  {credible : (c : Call) -> Reply c -> Prop} {allowed : ι -> Trace Reply -> Call -> Prop}
  {post : ι -> α -> Trace Reply -> Prop} {admitted : κ -> ι -> Prop}
  {inv : W -> Prop} {knows : κ -> ι -> Trace Reply -> W -> Prop}

lemma Discipline.step (d : Discipline serve environment program credible allowed post admitted inv knows)
  {s : Threads κ W Reply ι α} (sound : s.Sound serve credible allowed post admitted inv knows)
  {move : Move κ ι O E} (allowed_move : move.Admitted admitted) :
  (s.step serve environment program move).Sound serve credible allowed post admitted inv knows := by
  cases move with
  | env event =>
    refine ⟨d.env s.world event sound.world, fun k t running => ?_⟩
    have thread := sound.threads k t running
    exact ⟨thread.admits, d.envStable s.world event sound.world _ _ _ thread.admits thread.knows, thread.obeys, thread.met⟩
  | start worker tag =>
    refine ⟨sound.world, fun k t running => ?_⟩
    simp only [Threads.step, update_apply] at running
    split at running
    next here =>
      obtain rfl := Option.some.inj running
      subst here
      exact ⟨allowed_move, d.nothing _ tag _ sound.world, d.obeys _ tag allowed_move, List.forall_mem_nil _⟩
    · exact sound.threads k t running
  | call worker outcome =>
    cases busy : s.running worker with
    | none => simpa only [Threads.step, busy] using sound
    | some t =>
      have thread := sound.threads worker t busy
      obtain ⟨tag, log, rest⟩ := t
      cases rest with
      | done value =>
        have same : update s.running worker (some ⟨tag, log, .done value⟩) = s.running :=
          update_eq_self_iff.mpr busy.symm
        simpa only [Threads.step, busy, Thread.next, same] using sound
      | call c next =>
        obtain ⟨permitted, onwards⟩ := thread.obeys
        obtain ⟨kept, learned⟩ :=
          d.call worker tag _ s.world c outcome thread.admits sound.world thread.knows permitted
        simp only [Threads.step, busy, Thread.next]
        refine ⟨kept, fun k t running => ?_⟩
        simp only [update_apply] at running
        split at running
        next here =>
          obtain rfl := Option.some.inj running
          subst here
          refine ⟨thread.admits, learned, onwards _ (d.served _ _ _), ?_⟩
          exact List.forall_mem_cons.mpr ⟨⟨sound.world, outcome, rfl⟩, thread.met⟩
        next apart =>
          have other := sound.threads k t running
          have still := d.stable worker tag _ _ c outcome thread.admits sound.world thread.knows
            permitted k _ _ apart other.admits other.knows
          exact ⟨other.admits, still, other.obeys, other.met⟩

omit [DecidableEq κ] in
lemma Threads.idle_sound {w : W} (initial : inv w) :
  (Threads.idle w : Threads κ W Reply ι α).Sound serve credible allowed post admitted inv knows :=
  ⟨initial, fun _ _ running => nomatch running⟩

lemma Discipline.run (d : Discipline serve environment program credible allowed post admitted inv knows)
  {s : Threads κ W Reply ι α} (sound : s.Sound serve credible allowed post admitted inv knows)
  (moves : List (Move κ ι O E)) (admits : ∀ move ∈ moves, move.Admitted admitted) :
  (moves.foldl (Threads.step serve environment program) s).Sound serve credible allowed post admitted inv knows := by
  induction moves generalizing s with
  | nil => exact sound
  | cons move moves ih =>
    rw [List.forall_mem_cons] at admits
    exact ih (d.step sound admits.1) admits.2

end

end Ectobase.Shared
