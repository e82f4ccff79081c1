import Ectobase.Flowplane.NatOwner

namespace Ectobase.Flowplane

inductive ServiceError where
  | conflict (message : String)
  | notFound (message : String)
  | invalid (message : String)
  | exhausted (message : String)
  | internal (message : String)
  deriving DecidableEq, Repr

def ServiceError.ofNeighborNat (e : NeighborNatError) : ServiceError := match e with
  | .emptyRange => .invalid e.display
  | .overlap => .conflict e.display
  | .full _ _ => .exhausted e.display
  | .map cause => .internal cause

def portU16 (p : UInt32) : Except ServiceError UInt16 := if p.toNat <= 65535 then .ok p.toUInt16
  else .error (.invalid s!"port {p} out of range (0..=65535)")

def natSourcePorts (portMin portMax : UInt32) : Except ServiceError (UInt16 × UInt16) := do
  let lo <- portU16 portMin
  let hi <- portU16 portMax
  .ok (lo, hi)

def neighborNatPorts (portMin portMax : UInt32) : Except ServiceError (UInt16 × UInt16) := do
  let lo <- portU16 portMin
  let hi <- portU16 portMax
  if hi <= lo then .error (.ofNeighborNat .emptyRange) else .ok (lo, hi)

lemma portU16_ok {p : UInt32} {q : UInt16} : portU16 p = .ok q ↔ p.toNat = q.toNat := by
  unfold portU16
  constructor
  · intro ok
    split at ok
    next small =>
      cases ok
      rw [UInt32.toNat_toUInt16, Nat.mod_eq_of_lt (by omega)]
    · cases ok
  · intro same
    have bound := q.toNat_lt
    rw [if_pos (by omega)]
    congr 1
    apply UInt16.toNat_inj.mp
    rw [UInt32.toNat_toUInt16, Nat.mod_eq_of_lt (by omega), same]

variable {portMin portMax : UInt32} {lo hi : UInt16}

lemma natSourcePorts_ok : natSourcePorts portMin portMax = .ok (lo, hi) ↔
    portMin.toNat = lo.toNat /\ portMax.toNat = hi.toNat := by
  rw [<- portU16_ok, <- portU16_ok]
  unfold natSourcePorts
  cases portU16 portMin <;> cases portU16 portMax <;> simp [bind, Except.bind]

lemma neighborNatPorts_ok : neighborNatPorts portMin portMax = .ok (lo, hi) ↔
    portMin.toNat = lo.toNat /\ portMax.toNat = hi.toNat /\ lo < hi := by
  rw [<- portU16_ok, <- portU16_ok]
  unfold neighborNatPorts
  cases portU16 portMin with
  | error e => simp [bind, Except.bind]
  | ok lo' =>
    cases portU16 portMax with
    | error e => simp [bind, Except.bind]
    | ok hi' =>
      simp only [bind, Except.bind]
      split
      next empty =>
        simp only [reduceCtorEq, false_iff, Except.ok.injEq]
        rintro ⟨rfl, rfl, nonempty⟩
        exact absurd empty (UInt16.not_le.mpr nonempty)
      next nonempty =>
        simp only [Except.ok.injEq, Prod.mk.injEq]
        constructor
        · rintro ⟨rfl, rfl⟩
          exact ⟨rfl, rfl, UInt16.not_le.mp nonempty⟩
        · rintro ⟨rfl, rfl, _⟩
          exact ⟨rfl, rfl⟩

end Ectobase.Flowplane
