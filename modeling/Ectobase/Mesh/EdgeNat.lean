import Ectobase.Mesh.GlobalFeed

namespace Ectobase.Mesh

open Shared RIB

structure NatEntry where
  natIP : String
  portMin : UInt32
  portMax : UInt32
  vni : UInt32
  deriving DecidableEq, Repr

def NatBlock.entry (b : NatBlock) : NatEntry :=
  { natIP := b.natIP, portMin := b.portMin, portMax := b.portMax, vni := b.vni }

inductive ReplaceResult where
  | ok
  | transient
  | unimplemented
  | failed
  deriving DecidableEq, Repr

structure DataplaneResults where
  replaceNeighborNats : ReplaceResult
  addNeighborNat : NatEntry -> Bool
  withdrawNeighborNat : NatEntry -> Bool

structure EdgeBus where
  isEdge : Bool
  underlay : String
  seenNat : Map NatEntry String
  installedNat : Finset NatEntry
  replayingGlobal : Bool
  globalRecords : UInt32

variable (dp : DataplaneResults) (b : EdgeBus)

def EdgeBus.resetGlobalSnapshot : EdgeBus :=
  { b with seenNat := ∅, globalRecords := 0, replayingGlobal := true }

def EdgeBus.addNeighborNats : EdgeBus :=
  { b with installedNat := b.installedNat ∪ b.seenNat.keys.filter fun e => dp.addNeighborNat e }

def EdgeBus.syncNeighborNats : EdgeBus := match dp.replaceNeighborNats with
  | .ok => { b with installedNat := b.seenNat.keys }
  | .transient => b
  | .failed => b.addNeighborNats dp
  | .unimplemented =>
    let added := b.addNeighborNats dp
    { added with
      installedNat := added.installedNat.filter fun e =>
        e ∈ b.seenNat.keys \/ dp.withdrawNeighborNat e = false }

def EdgeBus.pruneGlobal (want : UInt32) : EdgeBus := let b := { b with replayingGlobal := false }
  if b.globalRecords ≠ want then b.addNeighborNats dp else b.syncNeighborNats dp

def EdgeBus.applyNat (nu : NatBlock) (op : RouteOp) : EdgeBus :=
  if b.isEdge = false \/ nu.ownerUnderlay = b.underlay then b
  else
    let e := nu.entry
    match op with
    | .add =>
      let b := { b with seenNat := b.seenNat.insert e nu.ownerUnderlay }
      if b.replayingGlobal then b
      else if dp.addNeighborNat e then { b with installedNat := insert e b.installedNat }
      else b
    | .withdraw =>
      let b := { b with seenNat := b.seenNat.erase e }
      if dp.withdrawNeighborNat e then { b with installedNat := b.installedNat.erase e } else b

def EdgeBus.handleServerMsg (step : ServerMsg × DataplaneResults) : EdgeBus := match step.1 with
  | .global (.natUpdate nu op) =>
    { b with globalRecords := b.globalRecords + 1 }.applyNat step.2 nu op
  | .global (.publicUpdate _ _) => { b with globalRecords := b.globalRecords + 1 }
  | .global (.endOfGlobal want) => b.pruneGlobal step.2 want
  | _ => b

-- What the learned set does with a message does not depend on the dataplane's answers.
def seenMsg (underlay : String) (seen : Map NatEntry String) : ServerMsg -> Map NatEntry String
  | .global (.natUpdate nu op) =>
    if nu.ownerUnderlay = underlay then seen
    else
      match op with
      | .add => seen.insert nu.entry nu.ownerUnderlay
      | .withdraw => seen.erase nu.entry
  | _ => seen

lemma handleServerMsg_frame (step : ServerMsg × DataplaneResults) (edge : b.isEdge = true) :
  (b.handleServerMsg step).isEdge = true /\ (b.handleServerMsg step).underlay = b.underlay /\
    (b.handleServerMsg step).seenNat = seenMsg b.underlay b.seenNat step.1 := by
  obtain ⟨msg, dp⟩ := step
  cases msg with
  | routeUpdate | endOfRib => exact ⟨edge, rfl, rfl⟩
  | global msg =>
    cases msg with
    | publicUpdate rec op => exact ⟨edge, rfl, rfl⟩
    | endOfGlobal want =>
      simp only [EdgeBus.handleServerMsg, EdgeBus.pruneGlobal, EdgeBus.syncNeighborNats, EdgeBus.addNeighborNats]
      split
      · exact ⟨edge, rfl, rfl⟩
      · split <;> exact ⟨edge, rfl, rfl⟩
    | natUpdate nu op =>
      simp only [EdgeBus.handleServerMsg, EdgeBus.applyNat, seenMsg, edge, Bool.true_eq_false, false_or]
      split
      · exact ⟨rfl, rfl, rfl⟩
      · cases op with
        | add =>
          dsimp only
          split
          · exact ⟨rfl, rfl, rfl⟩
          · split <;> exact ⟨rfl, rfl, rfl⟩
        | withdraw =>
          dsimp only
          split <;> exact ⟨rfl, rfl, rfl⟩

lemma handleServerMsgs_seen (steps : List (ServerMsg × DataplaneResults)) (edge : b.isEdge = true) :
  (steps.foldl EdgeBus.handleServerMsg b).seenNat = (steps.map Prod.fst).foldl (seenMsg b.underlay) b.seenNat := by
  induction steps generalizing b with
  | nil => rfl
  | cons step steps ih =>
    obtain ⟨edge', underlay, seen⟩ := handleServerMsg_frame b step edge
    rw [List.foldl_cons, ih _ edge', underlay, seen]
    rfl

def Learned (underlay : String) (r : RIB) (seen : Map NatEntry String) : Prop :=
  ∀ e owner, seen.lookup e = some owner ↔
    ∃ k b, r.nat.lookup k = some b /\ b.ownerUnderlay ≠ underlay /\ b.entry = e /\ b.ownerUnderlay = owner

end Ectobase.Mesh
