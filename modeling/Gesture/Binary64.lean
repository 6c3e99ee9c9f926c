import Gesture.Rounding

namespace Gesture

inductive Binary64 where
  | finite (negative : Bool) (units : Nat)
  | infinite (negative : Bool)
  | nan
  deriving DecidableEq, Repr

namespace Binary64

def one : Nat := Nat.pow 2 1074

def limit : Nat := Nat.pow 2 2098

def nearest (num den : Nat) : Nat :=
  let grid := Nat.pow 2 ((num / den).log2 - 52)
  roundDiv num (den * grid) * grid

def ofUnits (negative : Bool) (num den : Nat) : Binary64 :=
  let units := nearest num den
  if units < limit then .finite negative units else .infinite negative

def ofRatio (negative : Bool) (num den : Nat) : Binary64 :=
  ofUnits negative (num * one) den

def ofInt (n : Int) : Binary64 :=
  ofRatio (decide (n < 0)) n.natAbs 1

def zero : Binary64 := .finite false 0

def isFinite : Binary64 → Bool
  | .finite _ _ => true
  | _ => false

def ofQuotient? (num : Int) (den : Nat) : Option Binary64 :=
  let q := ofRatio (decide (num < 0)) num.natAbs den
  if q.isFinite then some q else none

def signedUnits (negative : Bool) (units : Nat) : Int :=
  if negative then -(units : Int) else units

def addFinite (n₁ : Bool) (u₁ : Nat) (n₂ : Bool) (u₂ : Nat) : Binary64 :=
  let sum := signedUnits n₁ u₁ + signedUnits n₂ u₂
  if sum = 0 then .finite (n₁ && n₂) 0 else ofUnits (decide (sum < 0)) sum.natAbs 1

def neg : Binary64 → Binary64
  | .finite n u => .finite (!n) u
  | .infinite n => .infinite (!n)
  | .nan => .nan

def add : Binary64 → Binary64 → Binary64
  | .finite n₁ u₁, .finite n₂ u₂ => addFinite n₁ u₁ n₂ u₂
  | .nan, _ | _, .nan => .nan
  | .infinite n₁, .infinite n₂ => if n₁ = n₂ then .infinite n₁ else .nan
  | .infinite n, .finite _ _ | .finite _ _, .infinite n => .infinite n

def sub (a b : Binary64) : Binary64 :=
  add a b.neg

def mul : Binary64 → Binary64 → Binary64
  | .finite n₁ u₁, .finite n₂ u₂ => ofUnits (n₁ != n₂) (u₁ * u₂) one
  | .nan, _ | _, .nan => .nan
  | .infinite n₁, .infinite n₂ => .infinite (n₁ != n₂)
  | .infinite n₁, .finite n₂ u | .finite n₁ u, .infinite n₂ =>
    if u = 0 then .nan else .infinite (n₁ != n₂)

instance : Add Binary64 := ⟨add⟩
instance : Sub Binary64 := ⟨sub⟩
instance : Mul Binary64 := ⟨mul⟩

def round? : Binary64 → Option Int
  | .finite n u => some (signedUnits n (roundDiv u one))
  | _ => none

def toInt? : Binary64 → Option Int
  | .finite n u => if u % one = 0 then some (signedUnits n (u / one)) else none
  | _ => none

def isNonzero : Binary64 → Bool
  | .finite _ u => u != 0
  | _ => true

end Binary64

end Gesture
