import FunctionCalculator.Binary64.Basic
/-!
Addition, subtraction, multiplication and division of doubles, and their passage to and from the
integers.
-/

set_option autoImplicit false

namespace FunctionCalculator.Binary64

def negate : Binary64 → Binary64
  | .nan => .nan
  | .infinity negative => .infinity (!negative)
  | .finite negative rank => .finite (!negative) rank

-- An exact zero sum is negative only when both summands are.
def add : Binary64 → Binary64 → Binary64
  | .nan, _ | _, .nan => .nan
  | .infinity s, .infinity t => if s = t then .infinity s else .nan
  | .infinity s, .finite .. => .infinity s
  | .finite .., .infinity t => .infinity t
  | .finite s x, .finite t y => ofRat (s && t) (exact s x + exact t y)

def sub (x y : Binary64) : Binary64 := add x y.negate

def mul : Binary64 → Binary64 → Binary64
  | .nan, _ | _, .nan => .nan
  | .infinity s, .infinity t => .infinity (s ^^ t)
  | .infinity s, .finite t y => if y.val = 0 then .nan else .infinity (s ^^ t)
  | .finite s x, .infinity t => if x.val = 0 then .nan else .infinity (s ^^ t)
  | .finite s x, .finite t y => ofRat (s ^^ t) (exact s x * exact t y)

-- A zero divisor gives an infinity, or no number when the dividend is zero too.
def div : Binary64 → Binary64 → Binary64
  | .nan, _ | _, .nan => .nan
  | .infinity _, .infinity _ => .nan
  | .infinity s, .finite t _ => .infinity (s ^^ t)
  | .finite s _, .infinity t => zero (s ^^ t)
  | .finite s x, .finite t y =>
    if y.val = 0 then
      if x.val = 0 then .nan else .infinity (s ^^ t)
    else ofRat (s ^^ t) (exact s x / exact t y)

instance : Add Binary64 := ⟨add⟩
instance : Sub Binary64 := ⟨sub⟩
instance : Mul Binary64 := ⟨mul⟩
instance : Div Binary64 := ⟨div⟩
instance : Neg Binary64 := ⟨negate⟩

def ofInt? (n : Int) : Option Binary64 :=
  let x := ofRat false n
  if x.isFinite then some x else none

def ofNat (n : Nat) : Binary64 := ofRat false n

instance (n : Nat) : OfNat Binary64 n := ⟨ofNat n⟩

def floor? (x : Binary64) : Option Int := x.value?.map Rat.floor

def ceil? (x : Binary64) : Option Int := x.value?.map Rat.ceil

def floor (x : Binary64) : Binary64 :=
  match x.floor? with
  | some n => ofRat false n
  | none => x

def ceil (x : Binary64) : Binary64 :=
  match x.ceil? with
  | some n => ofRat false n
  | none => x

def half : Binary64 := ofRat false (1 / 2)

end FunctionCalculator.Binary64
