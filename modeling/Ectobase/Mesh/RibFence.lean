import Ectobase.Mesh.RibIndex
import Ectobase.Shared.NetBits

namespace Ectobase.Mesh

open Shared List RIB

lemma mem_mergeNexthops {origins : Map String (List String)} {nh : String} :
  nh ∈ mergeNexthops origins ↔ ∃ origin nhs, origins.lookup origin = some nhs /\ nh ∈ nhs := by
  rw [mergeNexthops, mem_sorted, Finset.mem_biUnion]
  constructor
  · rintro ⟨origin, listed, member⟩
    obtain ⟨nhs, held⟩ := (mem_keys_iff_lookup origin origins).mp listed
    rw [held, Option.getD_some, mem_toFinset] at member
    exact ⟨origin, nhs, held, member⟩
  · rintro ⟨origin, nhs, held, member⟩
    refine ⟨origin, (mem_keys_iff_lookup origin origins).mpr ⟨nhs, held⟩, ?_⟩
    rw [held, Option.getD_some, mem_toFinset]
    exact member

lemma merged_of_advertised {r : RIB} {e : RouteEntry} {nh : String} (member : nh ∈ r.advertised e) :
  nh ∈ mergeNexthops e.origins := by
  unfold advertised at member
  split at member
  · exact member
  · exact mem_of_mem_filter member

-- What the check is asked about it sees, under the key as asked and in canonical form; what it returns is stored.
theorem release_check_asked_keys (r : RIB) (within : String) (net : IPNet) (parsed : parseCIDR within = some net)
  (keys : List RouteKey) (holdings : List RouteHolding) (told : r.announcedFrom within keys = some holdings) :
  (holdings = [] -> ∀ order, ∀ asked ∈ keys, ∀ k ∈ spellings asked, let cleared := (r.clearFence within order).1
    ∀ left ∈ cleared.advertised (cleared.entry k), nexthopWithin left net = false) /\
  ∀ h ∈ holdings, h.key ∈ keys /\ nexthopWithin h.nexthop net = true /\
    ∃ spelled ∈ spellings h.key, ∃ nhs, (r.entry spelled).origins.lookup h.origin = some nhs /\ h.nexthop ∈ nhs := by
  constructor
  · rintro rfl order asked listed k spelled cleared left member
    obtain ⟨fenced, frame⟩ := (clearFence_refences r within order).frame
    obtain ⟨origin, nhs, stored, here⟩ := mem_mergeNexthops.mp (merged_of_advertised member)
    simp only [cleared, frame] at stored
    exact not_within_of_announcedFrom told parsed listed spelled stored here
  · intro h member
    rw [announcedFrom, parsed, Option.map_some, Option.some_inj] at told
    subst told
    obtain ⟨asked, listed, member⟩ := mem_flatMap.mp member
    cases found : ((spellings asked).map fun k => r.holdersWithin k asked net).find? (· ≠ []) with
    | none =>
      rw [found] at member
      cases member
    | some holdings =>
      rw [found, Option.getD_some] at member
      obtain ⟨spelled, among, rfl⟩ := mem_map.mp (mem_of_find?_eq_some found)
      obtain ⟨id, present, member⟩ := mem_flatMap.mp member
      obtain ⟨nh, kept, rfl⟩ := mem_map.mp member
      obtain ⟨stored, inside⟩ := mem_filter.mp kept
      refine ⟨mem_eraseDups.mp listed, inside, spelled, among, ?_⟩
      rw [mem_sorted] at present
      obtain ⟨nhs, held⟩ := (mem_keys_iff_lookup id _).mp present
      rw [held, Option.getD_some, mem_insertionSort] at stored
      exact ⟨nhs, held, stored⟩

theorem release_check_misses_spelling :
  let stored : RouteKey := { vni := 5, pfx := "2001:DB8::1/128" }
  let asked : RouteKey := { vni := 5, pfx := "2001:db8::1/128" }
  let r := (newRIB.step (.announce "n1" 5 stored.pfx ["fd00::1"] false)).step (.setFence "fd00::/64" [stored])
  let cleared := r.step (.clearFence "fd00::/64" [stored])
  NetPrefix.parse stored.pfx = NetPrefix.parse asked.pfx /\ r.advertised (r.entry stored) = [] /\
    r.announcedFrom "fd00::/64" [asked] = some [] /\
    cleared.advertised (cleared.entry stored) = ["fd00::1"] := by
  decide +kernel

-- A moved address is announced from its new pool alone, so the fence may go, although it hides another route.
theorem release_check_moved :
  let moved : RouteKey := { vni := 5, pfx := "2001:db8::1/128" }
  let stays : RouteKey := { vni := 5, pfx := "2001:db8::2/128" }
  let asked : RouteKey := { vni := 5, pfx := "2001:DB8::1/128" }
  let r := [RibOp.announce "n1" 5 stays.pfx ["fd00::1"] false, .announce "n2" 5 moved.pfx ["fd01::1"] false,
    .setFence "fd00::/64" [stays, moved]].foldl RIB.step newRIB
  let cleared := (r.clearFence "fd00::/64" [moved, stays]).1
  r.announcedFrom "fd00::/64" [asked] = some [] /\ cleared.advertised (cleared.entry stays) = ["fd00::1"] /\
    ∀ left ∈ cleared.advertised (cleared.entry moved), nexthopWithin left ⟨[0xfd] ++ replicate 15 0, cidrMask 64 128⟩ = false := by
  intro moved stays asked r cleared
  have unheld : r.announcedFrom "fd00::/64" [asked] = some [] := by decide +kernel
  have checked := (release_check_asked_keys r "fd00::/64" ⟨[0xfd] ++ replicate 15 0, cidrMask 64 128⟩ (by decide +kernel)
    [asked] [] unheld).1
  exact ⟨unheld, by decide +kernel,
    checked rfl [moved, stays] asked (mem_singleton_self asked) moved (by decide +kernel)⟩

section

variable (r : RIB) (fenced : Map FenceKey IPNet) (origin : String)

def RIB.refence : RIB := { r with fenced }

def RibOp.isFence : RibOp -> Bool
  | .setFence .. | .clearFence .. => true
  | _ => false

def fenceStep (nets : Finset Network) : RibOp -> Finset Network
  | .setFence pfx _ => (readNetwork pfx).elim nets fun net => insert net nets
  | .clearFence pfx _ => (readNetwork pfx).elim nets fun net => nets.erase net
  | _ => nets

def Hidden (nets : Finset Network) (nh : String) : Prop := ∃ net ∈ nets, ∃ ip ∈ parseIP nh, net.holds ip

instance Hidden.decidable (nets : Finset Network) (nh : String) : Decidable (Hidden nets nh) :=
  inferInstanceAs (Decidable (∃ net ∈ nets, ∃ ip ∈ parseIP nh, net.holds ip))

lemma nexthopWithin_iff {nh : String} {net : IPNet} :
  nexthopWithin nh net = true ↔ ∃ ip, parseIP nh = some ip /\ net.contains ip = true := by
  unfold nexthopWithin
  cases parseIP nh <;> simp

lemma forEach_refence {K : Type} {body : RIB -> K -> RIB × Sent}
  (pass : ∀ r k, (body (r.refence fenced) k).1 = (body r k).1.refence fenced) (keys : List K) :
  (forEach body (r.refence fenced) keys).1 = (forEach body r keys).1.refence fenced := by
  induction keys generalizing r with
  | nil => rfl
  | cons k keys ih =>
    simp only [forEach, pass]
    exact ih _

lemma withdrawRouteOrigin_refence (k : RouteKey) : ((r.refence fenced).withdrawRouteOrigin origin k).1 =
    (r.withdrawRouteOrigin origin k).1.refence fenced := by
  simp only [withdrawRouteOrigin, refence]
  split
  · rfl
  · split <;> rfl

lemma dropOriginLocked_refence (order : DropOrder) : ((r.refence fenced).dropOriginLocked origin order).1 =
    (r.dropOriginLocked origin order).1.refence fenced := by
  have routes (r : RIB) : ((r.refence fenced).dropOriginRoutes origin order.routes).1 =
    (r.dropOriginRoutes origin order.routes).1.refence fenced :=
    forEach_refence { r with byOrigin := r.byOrigin.erase origin } fenced
      (fun r k => withdrawRouteOrigin_refence r fenced origin k) order.routes
  have nat (r : RIB) : ((r.refence fenced).dropOriginNat origin order.nat).1 =
    (r.dropOriginNat origin order.nat).1.refence fenced := by
    refine forEach_refence { r with natByOrigin := r.natByOrigin.erase origin } fenced (fun r k => ?_) _
    by_cases own : r.natOrigin.lookup k = some origin
    · cases held : r.nat.lookup k <;> simp [dropNatKey, refence, own, held]
    · simp [dropNatKey, refence, own]
  have pub (r : RIB) : ((r.refence fenced).dropOriginPublic origin order.pub).1 =
    (r.dropOriginPublic origin order.pub).1.refence fenced := by
    refine forEach_refence { r with publicByOrigin := r.publicByOrigin.erase origin } fenced (fun r k => ?_) _
    by_cases own : r.publicOrigin.lookup k = some origin
    · cases held : r.pub.lookup k <;> simp [dropPublicKey, refence, own, held]
    · simp [dropPublicKey, refence, own]
  have subscriptions (r : RIB) :
    (r.refence fenced).dropSubscriptions origin = (r.dropSubscriptions origin).refence fenced := rfl
  simp only [dropOriginLocked, routes, subscriptions, nat, pub]

lemma step_refence {op : RibOp} (plain : op.isFence = false) : (r.refence fenced).step op = (r.step op).refence fenced := by
  cases op with
  | setFence | clearFence => cases plain
  | subscribe vni s => simp only [step, apply, subscribe_frame, refence]
  | unsubscribe | announce | registerSink | announceNat | announcePublic => rfl
  | withdraw origin vni pfx =>
    exact withdrawRouteOrigin_refence { r with byOrigin := disown r.byOrigin origin { vni, pfx } } fenced origin { vni, pfx }
  | claimOrigin nodeID order =>
    have drop := dropOriginLocked_refence (deleteSink { r with
      origins := r.origins.insert nodeID (r.nextToken + 1)
      nextToken := r.nextToken + 1 } nodeID) fenced nodeID order
    by_cases live : (r.origins.lookup nodeID).isSome
    · have live' : ((r.refence fenced).origins.lookup nodeID).isSome := live
      simp only [step, apply, claimOrigin, if_pos live, if_pos live']
      exact drop
    · have live' : ¬ ((r.refence fenced).origins.lookup nodeID).isSome := live
      simp only [step, apply, claimOrigin, if_neg live, if_neg live']
      rfl
  | releaseOrigin nodeID token order =>
    have drop := dropOriginLocked_refence (deleteSink { r with origins := r.origins.erase nodeID } nodeID) fenced nodeID order
    by_cases stale : r.origins.lookup nodeID ≠ some token
    · have stale' : (r.refence fenced).origins.lookup nodeID ≠ some token := stale
      simp only [step, apply, releaseOrigin, if_pos stale, if_pos stale']
    · have stale' : ¬ (r.refence fenced).origins.lookup nodeID ≠ some token := stale
      simp only [step, apply, releaseOrigin, if_neg stale, if_neg stale']
      exact drop
  | withdrawNat origin natIP portMin portMax permit =>
    cases held : r.nat.lookup { natIP, portMin } with
    | none => simp [step, apply, withdrawNat, refence, held]
    | some b =>
      cases allowed : permit b.ownerUnderlay <;>
        by_cases own : r.natOrigin.lookup { natIP, portMin } = some origin <;>
          simp [step, apply, withdrawNat, refence, held, allowed, own]
  | withdrawPublic origin record permit =>
    cases held : r.pub.lookup record.key with
    | none => simp [step, apply, withdrawPublic, refence, held]
    | some b =>
      cases allowed : permit b.ownerUnderlay <;>
        by_cases own : r.publicOrigin.lookup record.key = some origin <;>
          simp [step, apply, withdrawPublic, refence, held, allowed, own]

structure RIB.FencedBy (nets : Finset Network) : Prop where
  known : ∀ key net, r.fenced.lookup key = some net -> networkNumberAndMask net = some key /\ ∃ w ∈ nets, Keyed key w
  stored : ∀ w ∈ nets, ∃ key, (r.fenced.lookup key).isSome /\ Keyed key w

-- The key's network is fenced if and only if the key is stored.
lemma RIB.FencedBy.mem_iff {r : RIB} {nets : Finset Network} (old : r.FencedBy nets) {key : FenceKey} {w : Network}
  (keyed : Keyed key w) : w ∈ nets ↔ (r.fenced.lookup key).isSome := by
  constructor
  · intro listed
    obtain ⟨key', held, keyed'⟩ := old.stored w listed
    rwa [(keyed.eq_iff keyed').mpr rfl]
  · intro held
    obtain ⟨net, found⟩ := Option.isSome_iff_exists.mp held
    obtain ⟨-, w', listed, keyed'⟩ := old.known key net found
    rwa [(keyed.eq_iff keyed').mp rfl]

lemma RIB.FencedBy.step {r : RIB} {nets : Finset Network} (old : r.FencedBy nets) (op : RibOp) :
  (r.step op).FencedBy (fenceStep nets op) := by
  by_cases plain : op.isFence = false
  · have same : (r.step op).fenced = r.fenced := by
      have untouched : r.step op = (r.step op).refence r.fenced := step_refence r r.fenced plain
      rw [untouched]
      rfl
    have kept : fenceStep nets op = nets := by cases op <;> first | rfl | cases plain
    rw [kept]
    exact ⟨same.symm ▸ old.known, same.symm ▸ old.stored⟩
  · cases op <;> try exact absurd rfl plain
    next pfx order =>
      rcases parseCIDR_network pfx with ⟨unread, unnamed⟩ | ⟨net, key, w, read, named, number, keyed⟩
      · simpa [RIB.step, apply, setFence, fenceStep, fenceKey, unread, unnamed] using old
      · have fence : fenceKey pfx = some (key, net) := by simp [fenceKey, read, number]
        simp only [RIB.step, apply, setFence, fenceStep, fence, named, Option.elim_some]
        split
        next held => rwa [Finset.insert_eq_of_mem ((old.mem_iff keyed).mpr held)]
        · refine ⟨fun k n found => ?_, fun v listed => ?_⟩
          · rw [refilter_frame, lookup_insert_ite] at found
            split at found
            next same =>
              cases found
              exact ⟨same ▸ number, w, Finset.mem_insert_self w nets, same ▸ keyed⟩
            · obtain ⟨own, v, listed, keyed'⟩ := old.known k n found
              exact ⟨own, v, Finset.mem_insert_of_mem listed, keyed'⟩
          · simp only [refilter_frame, lookup_insert_ite]
            rcases Finset.mem_insert.mp listed with rfl | before
            · exact ⟨key, by simp, keyed⟩
            · obtain ⟨k, held, keyed'⟩ := old.stored v before
              exact ⟨k, by split <;> simp [held], keyed'⟩
    next pfx order =>
      rcases parseCIDR_network pfx with ⟨unread, unnamed⟩ | ⟨net, key, w, read, named, number, keyed⟩
      · simpa [RIB.step, apply, clearFence, fenceStep, fenceKey, unread, unnamed] using old
      · have fence : fenceKey pfx = some (key, net) := by simp [fenceKey, read, number]
        simp only [RIB.step, apply, clearFence, fenceStep, fence, named, Option.elim_some]
        split
        next absent =>
          have unlisted : w ∉ nets := by
            rw [old.mem_iff keyed, Option.isNone_iff_eq_none.mp absent]
            simp
          rwa [Finset.erase_eq_of_notMem unlisted]
        · refine ⟨fun k n found => ?_, fun v listed => ?_⟩
          · rw [refilter_frame, lookup_erase_ite] at found
            split at found
            · cases found
            next other =>
              obtain ⟨own, v, listed, keyed'⟩ := old.known k n found
              exact ⟨own, v, Finset.mem_erase.mpr ⟨fun same => other ((keyed'.eq_iff keyed).mpr same), listed⟩, keyed'⟩
          · obtain ⟨other, before⟩ := Finset.mem_erase.mp listed
            obtain ⟨k, held, keyed'⟩ := old.stored v before
            refine ⟨k, ?_, keyed'⟩
            rw [refilter_frame, lookup_erase_ite, if_neg fun same => other ((keyed'.eq_iff keyed).mp same)]
            exact held

lemma step_refenced (op : RibOp) : ∃ after, (r.refence fenced).step op =
  (([op].filter fun op => !op.isFence).foldl RIB.step r).refence after := by
  cases plain : op.isFence with
  | false => exact ⟨fenced, by simpa [plain] using step_refence r fenced plain⟩
  | true =>
    cases op <;> try cases plain
    next pfx order => exact (setFence_refences (r.refence fenced) pfx order).frame
    next pfx order => exact (clearFence_refences (r.refence fenced) pfx order).frame

lemma run_refenced (ops : List RibOp) (nets : Finset Network) (old : (r.refence fenced).FencedBy nets) : ∃ after,
  ops.foldl RIB.step (r.refence fenced) = ((ops.filter fun op => !op.isFence).foldl RIB.step r).refence after /\
    (ops.foldl RIB.step (r.refence fenced)).FencedBy (ops.foldl fenceStep nets) := by
  induction ops generalizing r fenced nets with
  | nil => exact ⟨fenced, rfl, old⟩
  | cons op ops ih =>
    obtain ⟨after, stepped⟩ := step_refenced r fenced op
    have now := old.step op
    rw [stepped] at now
    obtain ⟨last, same, held⟩ := ih _ after _ now
    rw [<- foldl_append, <- filter_append] at same
    rw [foldl_cons, foldl_cons, stepped]
    exact ⟨last, same, held⟩

lemma nexthopFenced_iff (nh : String) : nexthopFenced nh fenced = true ↔
  ∃ key net, fenced.lookup key = some net /\ nexthopWithin nh net = true := by
  have any (ip : List UInt8) (entries : List (Sigma fun _ : FenceKey => IPNet)) (found : Bool) :
    entries.foldl (fun found e => found || e.2.contains ip) found = (found || entries.any fun e => e.2.contains ip) := by
    induction entries generalizing found with
    | nil => simp
    | cons e entries ih => rw [foldl_cons, ih, any_cons, Bool.or_assoc]
  unfold nexthopFenced nexthopWithin
  cases parseIP nh with
  | none => simp
  | some ip =>
    dsimp only
    induction fenced using Finmap.induction_on with
    | H a =>
      have all : Finmap.any (fun _ net => net.contains ip) a.toFinmap =
        a.entries.any fun e => e.2.contains ip := any ip a.entries false
      rw [all, List.any_eq_true]
      constructor
      · rintro ⟨⟨key, net⟩, mem, within⟩
        exact ⟨key, net, (mem_dlookup_iff a.nodupKeys).mpr mem, within⟩
      · rintro ⟨key, net, found, within⟩
        exact ⟨⟨key, net⟩, (mem_dlookup_iff a.nodupKeys).mp found, within⟩

-- Fencing is a filter on what is advertised: it leaves every table as it is without the fence calls, and
-- depends on the set of fenced networks alone, each named by its leading bits.
theorem fences_filter (ops : List RibOp) : let r := ops.foldl step newRIB
  let fenced := ops.foldl fenceStep ∅
  r = ((ops.filter fun op => !op.isFence).foldl step newRIB).refence r.fenced /\
    (∀ e, r.advertised e = (mergeNexthops e.origins).filter fun nh => !decide (Hidden fenced nh)) /\
    (fenced = ∅ -> ∀ e, r.advertised e = mergeNexthops e.origins) := by
  intro r fenced
  obtain ⟨after, same, held⟩ := run_refenced newRIB ∅ ops ∅ ⟨by simp [refence], by simp⟩
  have filtered (e : RouteEntry) : r.advertised e = (mergeNexthops e.origins).filter fun nh =>
      !decide (Hidden fenced nh) := by
    have inside (nh : String) : nexthopFenced nh r.fenced = decide (Hidden fenced nh) := by
      rw [Bool.eq_iff_iff, decide_eq_true_iff, nexthopFenced_iff]
      constructor
      · rintro ⟨key, net, found, within⟩
        obtain ⟨number, w, listed, keyed⟩ := held.known key net found
        obtain ⟨ip, parsed, within⟩ := nexthopWithin_iff.mp within
        exact ⟨w, listed, ip, parsed, (keyed.contains_iff number ip).mp within⟩
      · rintro ⟨w, listed, ip, parsed, within⟩
        obtain ⟨key, stored, keyed⟩ := held.stored w listed
        obtain ⟨net, found⟩ := Option.isSome_iff_exists.mp stored
        have number := (held.known key net found).1
        exact ⟨key, net, found, nexthopWithin_iff.mpr ⟨ip, parsed, (keyed.contains_iff number ip).mpr within⟩⟩
    have unfenced : r.fenced = ∅ -> ∀ nh, nexthopFenced nh r.fenced = false := fun none nh => by
      simp [Bool.eq_false_iff, nexthopFenced_iff, none]
    simp only [advertised, <- inside]
    split
    next none => simp [unfenced none]
    · rfl
  refine ⟨?_, filtered, fun none e => ?_⟩
  · exact same.trans (by rw [show r.fenced = after from congrArg RIB.fenced same])
  · rw [filtered, none]
    simp [Hidden]

example : readNetwork "2001:db8:0:1::a/64" = readNetwork "2001:0db8:0000:0001::/64" := by
  decide +kernel

end

end Ectobase.Mesh
