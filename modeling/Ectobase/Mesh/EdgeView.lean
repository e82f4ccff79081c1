import Ectobase.Mesh.EdgeNat

namespace Ectobase.Mesh

open Shared List Option RIB

section

variable (underlay : String)

def Feed.Learned (t : Feed) (seen : Map NatEntry String) : Prop :=
  ∀ e owner, seen.lookup e = some owner ↔
    ∃ b : NatBlock, t (.nat b.key) = some (.nat b) /\ b.ownerUnderlay ≠ underlay /\ b.entry = e /\ b.ownerUnderlay = owner

def Feed.Steady (t : Feed) (msg : ServerMsg) : Prop :=
  ∀ b : NatBlock, (msg = .global (.natUpdate b .withdraw) -> t (.nat b.key) = some (.nat b)) /\
    (msg = .global (.natUpdate b .add) -> ∀ old, t (.nat b.key) = some (.nat old) ->
      old.ownerUnderlay ≠ underlay -> b.entry = old.entry /\ b.ownerUnderlay ≠ underlay)

def RibOp.NatSteady (r : RIB) : RibOp -> Prop
  | .announceNat _ b => ∀ old, r.nat.lookup b.key = some old -> old.ownerUnderlay ≠ underlay ->
      b.portMax = old.portMax /\ b.vni = old.vni /\ b.ownerUnderlay ≠ underlay
  | _ => True

instance RibOp.NatSteady.decidable (r : RIB) : ∀ op, Decidable (RibOp.NatSteady underlay r op)
  | .announceNat _ b => inferInstanceAs (Decidable (∀ old ∈ r.nat.lookup b.key, old.ownerUnderlay ≠ underlay ->
      b.portMax = old.portMax /\ b.vni = old.vni /\ b.ownerUnderlay ≠ underlay))
  | .subscribe _ _ | .unsubscribe _ _ | .announce _ _ _ _ _ | .withdraw _ _ _ | .setFence _ _ | .clearFence _ _
  | .claimOrigin _ _ | .releaseOrigin _ _ _ | .registerSink _ _ | .withdrawNat _ _ _ _ _ | .announcePublic _ _
  | .withdrawPublic _ _ _ => isTrue trivial

variable {underlay} {t : Feed} {seen : Map NatEntry String}

lemma entry_key {b c : NatBlock} (same : b.entry = c.entry) : b.key = c.key := by
  have ip : b.natIP = c.natIP := congrArg NatEntry.natIP same
  have low : b.portMin = c.portMin := congrArg NatEntry.portMin same
  simp [NatBlock.key, ip, low]

lemma learned_iff {r : RIB} (ready : r.FeedReady) : Learned underlay r seen ↔ r.global.Learned underlay seen := by
  refine forall_congr' fun e => forall_congr' fun owner => iff_congr Iff.rfl ⟨?_, ?_⟩
  · rintro ⟨k, b, held, rest⟩
    have stored : r.global (.nat k) = some (.nat b) := by rw [RIB.global, held, map_some]
    have own : GlobalKey.nat b.key = .nat k := ready.keyed _ _ stored
    exact ⟨b, own ▸ stored, rest⟩
  · rintro ⟨b, held, rest⟩
    obtain ⟨c, stored, same⟩ := map_eq_some_iff.mp held
    cases same
    exact ⟨b.key, b, stored, rest⟩

lemma RibOp.Tells.steady {r : RIB} {op : RibOp} {msg : ServerMsg} (tells : op.Tells r t msg)
  (ready : r.FeedReady) (steady : op.NatSteady underlay r) : t.Steady underlay msg := by
  refine fun b => ⟨(tells (.nat b)).1, fun said old held foreign => ?_⟩
  rcases (tells (.nat b)).2 said with ⟨-, same⟩ | ⟨rfl, publishes⟩
  · obtain rfl : old = b := by simpa using same _ held
    exact ⟨rfl, foreign⟩
  · have own : GlobalKey.nat old.key = .nat b.key := ready.keyed _ _ held
    obtain ⟨c, stored, same⟩ := map_eq_some_iff.mp held
    cases same
    cases op <;> simp [RibOp.publishes] at publishes
    subst publishes
    obtain ⟨high, vni, still⟩ := steady old stored foreign
    simp only [GlobalKey.nat.injEq, NatBlock.key, NatKey.mk.injEq] at own
    simp [NatBlock.entry, own, high, vni, still]

lemma exists_update {A : Type} {f : A -> GlobalRecord} {k : GlobalKey} {v : Option GlobalRecord}
  {R : A -> Prop} (before : ∀ x, t k = some (f x) -> ¬ R x) (after : ∀ x, v = some (f x) -> ¬ R x) :
  (∃ x, t (f x).key = some (f x) /\ R x) ↔ ∃ x, Function.update t k v (f x).key = some (f x) /\ R x := by
  refine exists_congr fun x => ?_
  by_cases own : (f x).key = k
  · subst own
    rw [Function.update_self]
    exact ⟨fun held => absurd held.2 (before x held.1), fun held => absurd held.2 (after x held.1)⟩
  · rw [Function.update_of_ne own]

lemma seenMsg_learned {msg : ServerMsg} (steady : t.Steady underlay msg) (learned : t.Learned underlay seen) :
  (t.take msg).Learned underlay (seenMsg underlay seen msg) := by
  cases msg with
  | routeUpdate | endOfRib => exact learned
  | global msg =>
    cases msg with
    | endOfGlobal want => exact learned
    | publicUpdate record op =>
      cases op <;> simpa [Feed.Learned, Feed.take, Feed.put, seenMsg, GlobalRecord.key] using learned
    | natUpdate b op =>
      intro e owner
      obtain ⟨stored, atop⟩ := steady b
      cases op with
      | withdraw =>
        have stored := stored rfl
        simp only [Feed.take, Feed.put, seenMsg, GlobalRecord.key]
        split
        next mine =>
          rw [learned e owner]
          refine exists_update (f := .nat) (fun c held foreign => ?_) (by simp)
          obtain rfl : b = c := by simpa [stored] using held
          exact foreign.1 mine
        · rw [lookup_erase_ite]
          split
          next here =>
            subst here
            simp only [reduceCtorEq, false_iff, not_exists]
            rintro c ⟨held, _, same, _⟩
            simp [entry_key same] at held
          next elsewhere =>
            rw [learned e owner]
            refine exists_update (f := .nat) (fun c held foreign => ?_) (by simp)
            obtain rfl : b = c := by simpa [stored] using held
            exact elsewhere foreign.2.1.symm
      | add =>
        have atop := atop rfl
        simp only [Feed.take, Feed.put, seenMsg, GlobalRecord.key]
        split
        next mine =>
          rw [learned e owner]
          refine exists_update (f := .nat) (fun c held foreign => (atop c held foreign.1).2 mine) ?_
          rintro c same ⟨foreign, _⟩
          obtain rfl : b = c := by simpa using same
          exact foreign mine
        next announced =>
          rw [lookup_insert_ite]
          split
          next here =>
            subst here
            constructor
            · intro same
              exact ⟨b, Function.update_self .., announced, rfl, some.inj same⟩
            · rintro ⟨c, held, _, same, rfl⟩
              obtain rfl : b = c := by simpa [entry_key same] using held
              rfl
          next elsewhere =>
            rw [learned e owner]
            refine exists_update (f := .nat) (fun c held foreign => ?_) ?_
            · exact elsewhere (foreign.2.1.symm.trans (atop c held foreign.1).1.symm)
            · rintro c same ⟨_, here, _⟩
              obtain rfl : b = c := by simpa using same
              exact elsewhere here.symm

lemma seenMsgs_learned {msgs : List ServerMsg} (learned : t.Learned underlay seen)
  (along : Along Feed.take (Feed.Steady underlay) t msgs) :
  (msgs.foldl Feed.take t).Learned underlay (msgs.foldl (seenMsg underlay) seen) := by
  induction msgs generalizing t seen with
  | nil => exact learned
  | cons msg msgs ih => exact ih (seenMsg_learned along.1 learned) along.2

end

def NatEntry.Apart (a b : NatEntry) : Prop :=
  a.natIP ≠ b.natIP \/ a.portMax <= b.portMin \/ b.portMax <= a.portMin

theorem edge_seenNat_eq_table (history : List RibOp)
  (possible : Along step (fun r op => op.Possible r) newRIB history) (s : Sink)
  (order : SnapshotOrder) (replay : order.Enumerates (history.foldl step newRIB))
  (bus : EdgeBus) (edge : bus.isEdge = true) (ops : List RibOp)
  (along : Along step (fun r op => op.Possible r /\ op.NatSteady bus.underlay r /\ (r.step op).sinks s.id = some s)
    ((history.foldl step newRIB).step (.registerSink s order)) ops)
  (steps : List (ServerMsg × DataplaneResults))
  (arrived : steps.map Prod.fst = received s (history.foldl step newRIB) (.registerSink s order :: ops)) :
  let final := ops.foldl step ((history.foldl step newRIB).step (.registerSink s order))
  let seen := (steps.foldl EdgeBus.handleServerMsg bus.resetGlobalSnapshot).seenNat
  Learned bus.underlay final seen /\
    ((∀ k b k' b', final.nat.lookup k = some b -> final.nat.lookup k' = some b' -> k ≠ k' -> b.entry.Apart b'.entry) ->
      ∀ e e', e ∈ seen -> e' ∈ seen -> e ≠ e' -> e.Apart e') := by
  intro final seen
  have ready := run_feedReady history possible
  have ready' := step_feedReady _ (.registerSink s order) ready replay
  have learned : Learned bus.underlay final seen := by
    obtain ⟨told, fold⟩ := registered_feeds (s := s) (Q := Feed.Steady bus.underlay)
      (fun _ _ _ _ ready steady tells => tells.steady ready steady) ready replay trivial along
    have empty : Feed.Learned bus.underlay (fun _ => none) ∅ := by simp [Feed.Learned]
    have last := seenMsgs_learned empty told
    rw [fold, <- arrived] at last
    rw [learned_iff (along.invariant (fun r op ready held => step_feedReady r op ready held.1) ready')]
    simp only [seen, handleServerMsgs_seen bus.resetGlobalSnapshot steps edge]
    exact last
  refine ⟨learned, fun apart e e' member member' differ => ?_⟩
  obtain ⟨owner, found⟩ := isSome_iff_exists.mp (Finmap.lookup_isSome.mpr member)
  obtain ⟨owner', found'⟩ := isSome_iff_exists.mp (Finmap.lookup_isSome.mpr member')
  obtain ⟨k, b, held, _, rfl, _⟩ := (learned e owner).mp found
  obtain ⟨k', b', held', _, rfl, _⟩ := (learned e' owner').mp found'
  apply apart k b k' b' held held'
  rintro rfl
  rw [held] at held'
  cases held'
  exact differ rfl

theorem edge_keeps_replaced_range :
  let s : Sink := { id := "e1", session := 1 }
  let old : NatBlock :=
    { vni := 5, sourceIP := "10.0.0.1", natIP := "192.0.2.1", portMin := 1024, portMax := 2048,
      ownerUnderlay := "fd00::1" }
  let new : NatBlock := { old with portMax := 4096 }
  let ops := [RibOp.announceNat "n1" old, .announceNat "n1" new]
  let register := RibOp.registerSink s { nat := [], pub := [] }
  let final := ops.foldl step (newRIB.step register)
  let bus : EdgeBus :=
    { isEdge := true, underlay := "fd00::e", seenNat := ∅, installedNat := ∅,
      replayingGlobal := true, globalRecords := 0 }
  let dp : DataplaneResults :=
    { replaceNeighborNats := .ok, addNeighborNat := fun _ => true,
      withdrawNeighborNat := fun _ => true }
  let seen := ((received s newRIB (register :: ops)).map (fun msg => (msg, dp)) |>.foldl
    EdgeBus.handleServerMsg bus.resetGlobalSnapshot).seenNat
  final.nat.keys = {old.key} /\ final.nat.lookup old.key = some new /\
    seen.lookup old.entry = some "fd00::1" /\ seen.lookup new.entry = some "fd00::1" /\
    old.entry ≠ new.entry /\ ¬ old.entry.Apart new.entry := by
  intro s old new ops register final bus dp seen
  refine ⟨by decide +kernel, by decide +kernel, by decide +kernel, by decide +kernel, by decide +kernel, ?_⟩
  unfold NatEntry.Apart
  decide +kernel

theorem edge_learns_announced_block :
  let s : Sink := { id := "e1", session := 1 }
  let bus : EdgeBus :=
    { isEdge := true, underlay := "fd00::e", seenNat := ∅, installedNat := ∅,
      replayingGlobal := true, globalRecords := 0 }
  let dp : DataplaneResults :=
    { replaceNeighborNats := .ok, addNeighborNat := fun _ => true,
      withdrawNeighborNat := fun _ => true }
  let seen := ((received s (beforeSink.foldl step newRIB) (.registerSink s sinkOrder :: afterSink)).map
    (fun msg => (msg, dp)) |>.foldl EdgeBus.handleServerMsg bus.resetGlobalSnapshot).seenNat
  seen.lookup (natBlock "9" 1024 2048 "fd00::1").entry = some "fd00::1" /\
    seen.lookup (natBlock "3" 4096 8192 "fd00::3").entry = some "fd00::3" := by
  intro s bus dp seen
  have view := edge_seenNat_eq_table beforeSink (by decide +kernel) s sinkOrder (by decide +kernel) bus rfl afterSink
    (by decide +kernel)
    ((received s (beforeSink.foldl step newRIB) (.registerSink s sinkOrder :: afterSink)).map fun msg => (msg, dp)) (by
      rw [List.map_map]
      exact map_id _)
  have learned (b : NatBlock) (found : (afterSink.foldl step
    ((beforeSink.foldl step newRIB).step (.registerSink s sinkOrder))).nat.lookup b.key = some b)
    (foreign : b.ownerUnderlay ≠ "fd00::e") : seen.lookup b.entry = some b.ownerUnderlay :=
    (view.1 _ _).mpr ⟨b.key, b, found, foreign, rfl, rfl⟩
  exact ⟨learned _ (by decide +kernel) (by decide), learned _ (by decide +kernel) (by decide)⟩

end Ectobase.Mesh
