import Mathlib.Data.List.Infix

namespace Ectobase.Shared

inductive Prog (Call : Type) (Reply : Call -> Type) (α : Type) where
  | done (value : α)
  | call (c : Call) (next : Reply c -> Prog Call Reply α)

variable {Call : Type} {Reply : Call -> Type} {α β : Type}

namespace Prog

def bind (p : Prog Call Reply α) (f : α -> Prog Call Reply β) : Prog Call Reply β := match p with
  | .done value => f value
  | .call c next => .call c fun r => (next r).bind f

instance : Monad (Prog Call Reply) where
  pure := .done
  bind := .bind

def ask (c : Call) : Prog Call Reply (Reply c) := .call c .done

end Prog

abbrev Trace (Reply : Call -> Type) := List (Σ c, Reply c)

def Replied (told : Trace Reply) (c : Call) (r : Reply c) : Prop := ⟨c, r⟩ ∈ told

lemma Replied.later {told later : Trace Reply} {c : Call} {r : Reply c} (replied : Replied told c r)
  (longer : told <:+ later) : Replied later c r :=
  longer.subset replied

@[simp] lemma replied_head (told : Trace Reply) (c : Call) (r : Reply c) : Replied (⟨c, r⟩ :: told) c r :=
  List.mem_cons_self

section

variable (credible : (c : Call) -> Reply c -> Prop) (allowed : Trace Reply -> Call -> Prop)

-- Whatever credible replies it gets.
def Prog.Obeys (post : α -> Trace Reply -> Prop) : Prog Call Reply α -> Trace Reply -> Prop
  | .done value, told => post value told
  | .call c next, told =>
    allowed told c /\ ∀ r, credible c r -> (next r).Obeys post (⟨c, r⟩ :: told)

end

section

variable {credible : (c : Call) -> Reply c -> Prop} {allowed : Trace Reply -> Call -> Prop}

lemma Prog.Obeys.weaken {post post' : α -> Trace Reply -> Prop} {p : Prog Call Reply α}
  {told : Trace Reply} (obeys : p.Obeys credible allowed post told)
  (weaker : ∀ value later, told <:+ later -> post value later -> post' value later) :
  p.Obeys credible allowed post' told := by
  induction p generalizing told with
  | done value => exact weaker value told List.suffix_rfl obeys
  | call c next ih =>
    refine ⟨obeys.1, fun r fits => ih r (obeys.2 r fits) ?_⟩
    exact fun value later longer => weaker value later ((List.suffix_cons _ told).trans longer)

variable {c : Call} {post : α -> Trace Reply -> Prop}

lemma Prog.Obeys.keep {kept : Trace Reply -> Prop}
  {p : Prog Call Reply α} {told : Trace Reply} (obeys : p.Obeys credible allowed post told)
  (start : kept told)
  (step : ∀ told c r, allowed told c -> kept told -> kept (⟨c, r⟩ :: told)) :
  p.Obeys credible allowed (fun value later => post value later /\ kept later) told := by
  induction p generalizing told with
  | done value => exact ⟨obeys, start⟩
  | call c next ih =>
    exact ⟨obeys.1, fun r fits => ih r (obeys.2 r fits) (step told c r obeys.1 start)⟩

lemma Prog.Obeys.allow {allowed' : Trace Reply -> Call -> Prop} {post : α -> Trace Reply -> Prop}
  {p : Prog Call Reply α} {told : Trace Reply} (obeys : p.Obeys credible allowed post told)
  (weaker : ∀ told c, allowed told c -> allowed' told c) :
  p.Obeys credible allowed' post told := by
  induction p generalizing told with
  | done value => exact obeys
  | call c next ih => exact ⟨weaker told c obeys.1, fun r fits => ih r (obeys.2 r fits)⟩

lemma Prog.obeys_bind {post : β -> Trace Reply -> Prop} {p : Prog Call Reply α}
  {f : α -> Prog Call Reply β} {told : Trace Reply} :
  (p >>= f).Obeys credible allowed post told ↔
    p.Obeys credible allowed (fun value later => (f value).Obeys credible allowed post later)
      told := by
  induction p generalizing told with
  | done value => exact Iff.rfl
  | call c next ih =>
    exact and_congr_right fun _ => forall₂_congr fun r _ => ih r

@[simp] lemma Prog.obeys_pure {value : α} {told : Trace Reply} :
  (pure value : Prog Call Reply α).Obeys credible allowed post told ↔ post value told :=
  Iff.rfl

@[simp] lemma Prog.obeys_ask {post : Reply c -> Trace Reply -> Prop} {told : Trace Reply} :
  (Prog.ask c).Obeys credible allowed post told ↔ allowed told c /\ ∀ r, credible c r -> post r (⟨c, r⟩ :: told) :=
  Iff.rfl

lemma Prog.obeys_call {f : Reply c -> Prog Call Reply β} {post : β -> Trace Reply -> Prop}
  {told : Trace Reply} (permitted : allowed told c)
  (next : ∀ r, credible c r -> (f r).Obeys credible allowed post (⟨c, r⟩ :: told)) :
  (Prog.ask c >>= f).Obeys credible allowed post told :=
  obeys_bind.mpr ⟨permitted, next⟩

lemma Prog.Obeys.andThen {post' : β -> Trace Reply -> Prop}
  {p : Prog Call Reply α} {f : α -> Prog Call Reply β} {told : Trace Reply}
  (obeys : p.Obeys credible allowed post told)
  (next : ∀ value later, told <:+ later -> post value later -> (f value).Obeys credible allowed post' later) :
  (p >>= f).Obeys credible allowed post' told :=
  obeys_bind.mpr (obeys.weaken next)

lemma Prog.obeys_foldlM {ι σ : Type} {body : σ -> ι -> Prog Call Reply σ} (inv : List ι -> σ -> Trace Reply -> Prop)
  (step : ∀ item items s told, inv (item :: items) s told -> (body s item).Obeys credible allowed (inv items) told)
  {items : List ι} {s : σ} {told : Trace Reply} (start : inv items s told) :
  (items.foldlM body s).Obeys credible allowed (inv []) told := by
  induction items generalizing s told with
  | nil => exact start
  | cons item items ih =>
    rw [List.foldlM_cons, obeys_bind]
    exact (step item items s told start).weaken fun _ _ _ held => ih held

end

structure Answered (W : Type) (Reply : Call -> Type) where
  world : W
  call : Call
  reply : Reply call

abbrev Log (W : Type) (Reply : Call -> Type) := List (Answered W Reply)

def Log.trace {W : Type} (log : Log W Reply) : Trace Reply := log.map fun e => ⟨e.call, e.reply⟩

lemma Log.mem_of_trace {W : Type} {log : Log W Reply} {c : Call} {r : Reply c} (told : (⟨c, r⟩ : Σ c, Reply c) ∈ log.trace) :
  ∃ w, (⟨w, c, r⟩ : Answered W Reply) ∈ log := by
  obtain ⟨⟨w, c', r'⟩, member, same⟩ := List.mem_map.mp told
  cases same
  exact ⟨w, member⟩

-- The outcome is what the caller cannot foresee: a lost message, a refused write.
abbrev Serve (W O : Type) (Reply : Call -> Type) := W -> (c : Call) -> O -> Reply c × W

section

variable {W O : Type} (serve : Serve W O Reply)

-- others is what everyone else does before the n-th call, outcome how that call turns out.
def Prog.run (others : Nat -> W -> W) (outcome : Nat -> O) : Prog Call Reply α -> Log W Reply -> W -> α × Log W Reply × W
  | .done value, log, w => (value, log, w)
  | .call c next, log, w =>
    let met := others log.length w
    let answer := serve met c (outcome log.length)
    (next answer.1).run others outcome (⟨met, c, answer.1⟩ :: log) answer.2

variable (others : Nat -> W -> W) (outcome : Nat -> O)

@[simp] lemma Prog.run_pure (value : α) (log : Log W Reply) (w : W) :
  (pure value : Prog Call Reply α).run serve others outcome log w = (value, log, w) :=
  rfl

lemma Prog.run_ask (c : Call) (log : Log W Reply) (w : W) :
  (Prog.ask c).run serve others outcome log w = let met := others log.length w
    let answer := serve met c (outcome log.length)
    (answer.1, ⟨met, c, answer.1⟩ :: log, answer.2) :=
  rfl

lemma Prog.run_bind (p : Prog Call Reply α) (f : α -> Prog Call Reply β) (log : Log W Reply) (w : W) :
  (p >>= f).run serve others outcome log w = (f (p.run serve others outcome log w).1).run serve others outcome
      (p.run serve others outcome log w).2.1 (p.run serve others outcome log w).2.2 := by
  induction p generalizing log w with
  | done value => rfl
  | call c next ih => exact ih _ _ _

lemma Prog.run_foldlM {ι σ : Type} {body : σ -> ι -> Prog Call Reply σ} {others : Nat -> W -> W}
  {outcome : Nat -> O} (inv : List ι -> Log W Reply -> W -> Prop)
  (step : ∀ item items s log w, inv (item :: items) log w -> inv items ((body s item).run serve others outcome log w).2.1
      ((body s item).run serve others outcome log w).2.2)
  {items : List ι} (s : σ) {log : Log W Reply} {w : W} (start : inv items log w) :
  inv [] ((items.foldlM body s).run serve others outcome log w).2.1
    ((items.foldlM body s).run serve others outcome log w).2.2 := by
  induction items generalizing s log w with
  | nil => exact start
  | cons item items ih =>
    rw [List.foldlM_cons, run_bind]
    exact ih _ (step item items s log w start)

variable (moves : W -> W -> Prop) (allowed : Trace Reply -> Call -> Prop)

-- Between two calls others have moved the world; each call was allowed when made.
def Leads (start : W) : Log W Reply -> W -> Prop
  | [], w => w = start
  | e :: earlier, w =>
    ∃ left o, Leads start earlier left /\ moves left e.world /\ allowed (Log.trace earlier) e.call /\
      (e.reply, w) = serve e.world e.call o

end

section

variable {W O : Type} {serve : Serve W O Reply} {moves : W -> W -> Prop}
  {credible : (c : Call) -> Reply c -> Prop} {allowed : Trace Reply -> Call -> Prop}

lemma Prog.Obeys.run (served : ∀ w c o, credible c (serve w c o).1) {others : Nat -> W -> W}
  (moved : ∀ n w, moves w (others n w)) (outcome : Nat -> O)
  {post : α -> Trace Reply -> Prop} {p : Prog Call Reply α} {start w : W} {log : Log W Reply}
  (obeys : p.Obeys credible allowed post log.trace)
  (leads : Leads serve moves allowed start log w) :
  Leads serve moves allowed start (p.run serve others outcome log w).2.1 (p.run serve others outcome log w).2.2 /\
    post (p.run serve others outcome log w).1 (p.run serve others outcome log w).2.1.trace := by
  induction p generalizing log w with
  | done value => exact ⟨leads, obeys⟩
  | call c next ih =>
    exact ih _ (obeys.2 _ (served _ c _)) ⟨w, _, leads, moved _ w, obeys.1, rfl⟩

-- The invariant rule for a run whose outcomes are given call by call.
lemma Leads.invariant {inv : Log W Reply -> W -> Prop} {start w : W} {log : Log W Reply}
  (leads : Leads serve moves allowed start log w) (first : inv [] start)
  (move : ∀ log left met, inv log left -> moves left met -> inv log met)
  (call : ∀ log met c o, inv log met -> allowed log.trace c -> inv (⟨met, c, (serve met c o).1⟩ :: log) (serve met c o).2) :
  inv log w := by
  induction log generalizing w with
  | nil =>
    have here : w = start := leads
    rwa [here]
  | cons e earlier ih =>
    obtain ⟨left, o, before, moved, permitted, answered⟩ := leads
    obtain ⟨world, c, reply⟩ := e
    dsimp only at moved permitted answered
    obtain ⟨rfl, rfl⟩ := Prod.mk.inj answered
    exact call earlier world c o (move earlier left world (ih before) moved) permitted

lemma Leads.at_call {start w : W} {later earlier : Log W Reply} {e : Answered W Reply}
  (leads : Leads serve moves allowed start (later ++ e :: earlier) w) :
  allowed (Log.trace earlier) e.call /\ ∃ o, e.reply = (serve e.world e.call o).1 := by
  induction later generalizing w with
  | nil =>
    obtain ⟨left, o, -, -, permitted, answered⟩ := leads
    exact ⟨permitted, o, congrArg Prod.fst answered⟩
  | cons _ later ih =>
    obtain ⟨left, o, before, -⟩ := leads
    exact ih before

lemma Prog.Obeys.run_invariant (inv : Log W Reply -> W -> Prop)
  (served : ∀ w c o, credible c (serve w c o).1) {others : Nat -> W -> W}
  (moved : ∀ n w, moves w (others n w)) (outcome : Nat -> O)
  {post : α -> Trace Reply -> Prop} {p : Prog Call Reply α} {start : W}
  (obeys : p.Obeys credible allowed post []) (first : inv [] start)
  (move : ∀ log left met, inv log left -> moves left met -> inv log met)
  (call : ∀ log met c o, inv log met -> allowed log.trace c -> inv (⟨met, c, (serve met c o).1⟩ :: log) (serve met c o).2) :
  inv (p.run serve others outcome [] start).2.1 (p.run serve others outcome [] start).2.2 :=
  have leads : Leads serve moves allowed start [] start := rfl
  (obeys.run served moved outcome leads).1.invariant first move call

end

end Ectobase.Shared
