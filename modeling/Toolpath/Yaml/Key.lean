import Toolpath.Value
/-!
# Keys of mappings

When two values are the same key. Numbers and truth values of one size are one key. A double that is
no number equals nothing, so it carries a mark that tells it from others.

## Main definitions

* `Toolpath.Yaml.Key`, `Key.isSame` — a key, and when two are the same.
-/

namespace Toolpath.Yaml

/-- A value as a key. -/
structure Key where
  value : Value
  /-- What tells a double that is no number from others. -/
  mark : Nat

/-- A number that a value stands for as a key. -/
def Key.number? : Value → Option (Int ⊕ Float)
  | .bool b => some (.inl (if b then 1 else 0))
  | .int n => some (.inl n)
  | .float x => some (.inr x)
  | _ => none

/-- Whether a whole number and a double are the same number. -/
def Key.isSameNumber (n : Int) (x : Float) : Bool :=
  match Decimal.decode x with
  | .finite negative m e =>
    let (num, den) := Decimal.fraction m e
    num % den == 0 && n == (if negative then -((num / den : Nat) : Int) else (num / den : Nat))
  | _ => false

/-- Whether two values without parts that are no numbers are the same key. -/
def Key.isSameThing : Value → Value → Bool
  | .null, .null => true
  | .str s, .str t => s == t
  | .bytes s, .bytes t => s == t
  | .day s, .day t => s == t
  | .time s, .time t => s.isSame t
  | _, _ => false

/-- Whether two keys are the same. -/
def Key.isSame (a b : Key) : Bool :=
  match number? a.value, number? b.value with
  | some (.inl n), some (.inl m) => n == m
  | some (.inl n), some (.inr x) => isSameNumber n x
  | some (.inr x), some (.inl n) => isSameNumber n x
  | some (.inr x), some (.inr y) => x == y || (x.isNaN && y.isNaN && a.mark == b.mark)
  | none, none => isSameThing a.value b.value
  | _, _ => false

end Toolpath.Yaml
