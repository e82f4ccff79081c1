import Mathlib.Algebra.Group.Nat.Defs
import Mathlib.Data.List.Basic

namespace Ectobase.Flowplane

def fwDirIngress : UInt8 := 0
def fwDirEgress : UInt8 := 1
def fwActionDrop : UInt8 := 0
def fwActionAccept : UInt8 := 1

def fwClassAny : UInt32 := 0
def fwScopeNone : UInt64 := 0

def fwScopeMaxClasses : Nat := 4096
def fwScopeMaxEntries : Nat := 16384

def fwPolPrefixClass : Nat := 32
def fwPolPrefixProto : Nat := 40

-- Ports are inclusive ranges; type and code 0xffff and protocol 0 stand for any.
structure Rule (n : Nat) where
  srcIp : Vector UInt8 n
  srcMask : Vector UInt8 n
  dstIp : Vector UInt8 n
  dstMask : Vector UInt8 n
  srcPortMin : UInt16
  srcPortMax : UInt16
  dstPortMin : UInt16
  dstPortMax : UInt16
  icmpType : UInt16
  icmpCode : UInt16
  proto : UInt8
  action : UInt8
  direction : UInt8
  enabled : UInt8
  deriving DecidableEq, Repr

abbrev FwRule := Rule 4
abbrev FwRule6 := Rule 16

inductive FwError where
  | unknownInterface
  | unsupported (what : String)
  | scopeTooLarge (family what : String) (count : Nat)
  | map
  deriving DecidableEq, Repr

structure FwPolKey where
  cls : UInt32
  proto : UInt8
  port : UInt8 × UInt8
  deriving DecidableEq, Repr

structure FwBind where
  ingressScope : UInt64
  egressScope : UInt64
  deriving DecidableEq, Repr

def FwBind.scope (bind : FwBind) (dir : UInt8) : UInt64 :=
  if dir = fwDirEgress then bind.egressScope else bind.ingressScope

def fwPrecAllow : Nat := 1
def fwPrecDeny : Nat := 255
def fwRankMax : Nat := 0xffffff

-- Rank 0 wins; ranks past fwRankMax saturate.
def fwPrecedence (rank : Nat) (allow : Bool) : Nat := let rank := rank % 2 ^ 32
  let r := if fwRankMax < rank then fwRankMax else rank
  let verdict := if allow then fwPrecAllow else fwPrecDeny
  ((fwRankMax - r) <<< 8) ||| verdict

def fwPrecedenceAllows (precedence : Nat) : Bool := precedence &&& 0xff == fwPrecAllow

def saturated (rank : Nat) : Nat := min fwRankMax (rank % 2 ^ 32)

lemma fwPrecedence_eq (rank : Nat) (allow : Bool) : fwPrecedence rank allow =
    (fwRankMax - saturated rank) * 256 + if allow then fwPrecAllow else fwPrecDeny := by
  have rankEq : (if fwRankMax < rank % 2 ^ 32 then fwRankMax else rank % 2 ^ 32) = saturated rank := by
    unfold saturated
    split <;> omega
  have small : (if allow then fwPrecAllow else fwPrecDeny) < 2 ^ 8 := by
    cases allow <;> decide
  simp only [fwPrecedence, rankEq]
  rw [<- Nat.shiftLeft_add_eq_or_of_lt small, Nat.shiftLeft_eq]

@[simp] lemma fwPrecedenceAllows_fwPrecedence (rank : Nat) (allow : Bool) :
  fwPrecedenceAllows (fwPrecedence rank allow) = allow := by
  unfold fwPrecedenceAllows
  rw [fwPrecedence_eq, show (0xff : Nat) = 2 ^ 8 - 1 from rfl, Nat.and_two_pow_sub_one_eq_mod]
  cases allow <;> simp [fwPrecAllow, fwPrecDeny, Nat.add_mod]

end Ectobase.Flowplane
