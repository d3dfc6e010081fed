import Toolpath.Decimal.Layout
import Toolpath.Decimal.Reader
import Toolpath.Value
/-!
# Message templates

A message may hold places for values: a percent sign, flags, a width, a precision, and a letter
that says how the value is shown.

## Main definitions

* `Toolpath.Log.Template.Fault` — why a template cannot be filled.
* `Toolpath.Log.Template.Supply` — the values for the places.
* `Toolpath.Log.Template.Place` — the flags and the sizes of a place.
* `Toolpath.Log.Template.fill` — a template filled with values.
-/

namespace Toolpath.Log.Template

open Text

/-! ## Faults -/

/-- The sizes of a place. -/
inductive Measure where
  /-- The least number of characters. -/
  | width
  /-- The number of digits, or the greatest number of characters of a text. -/
  | precision
  deriving DecidableEq, Repr

/-- The first number that is too large for a size. -/
def Measure.limit : Measure → Nat
  | width => 0x8000000000000000
  | precision => 0x80000000

/-- Why a template cannot be filled. -/
inductive Fault where
  | tooFew
  | tooMany
  | needsMapping
  | noKey (key : List Char)
  | openKey
  | openPlace
  | unknownLetter (letter : Char) (index : Nat)
  | notReal (letter : Char) (kind : String)
  | notWhole (letter : Char) (kind : String)
  | notDouble (kind : String)
  | sizeNotWhole
  | sizeTooLarge (measure : Measure)
  /-- A size that is a value is too large. -/
  | valueTooLarge (measure : Measure)
  | notCharacter
  | noCharacter
  | nanToWhole
  | infiniteToWhole
  | wholeTooLarge
  deriving DecidableEq, Repr

/-- The wording of a fault. -/
def Fault.message : Fault → String
  | tooFew => "not enough arguments for format string"
  | tooMany => "not all arguments converted during string formatting"
  | needsMapping => "format requires a mapping"
  | noKey key => String.ofList (quoted key)
  | openKey => "incomplete format key"
  | openPlace => "incomplete format"
  | unknownLetter letter index =>
    let shown : Char := if 31 ≤ letter.toNat && letter.toNat < 127 then letter else '?'
    let code := String.ofList ((Nat.toDigits 16 letter.toNat))
    let name := String.ofList (singleQuote :: shown :: [singleQuote])
    s!"unsupported format character {name} (0x{code}) at index {index}"
  | notReal letter kind => s!"%{letter} format: a real number is required, not {kind}"
  | notWhole letter kind => s!"%{letter} format: an integer is required, not {kind}"
  | notDouble kind => s!"must be real number, not {kind}"
  | sizeNotWhole => "* wants int"
  | sizeTooLarge .width => "width too big"
  | sizeTooLarge .precision => "precision too big"
  | valueTooLarge .width => "Python int too large to convert to C ssize_t"
  | valueTooLarge .precision => "Python int too large to convert to C int"
  | notCharacter => "%c requires int or char"
  | noCharacter => "%c arg not in range(0x110000)"
  | nanToWhole => "cannot convert float NaN to integer"
  | infiniteToWhole => "cannot convert float infinity to integer"
  | wholeTooLarge => "int too large to convert to float"

/-! ## The values -/

/-- The values for the places to come. -/
inductive Supply where
  /-- Values one after the other, which all have to be used. -/
  | values (vs : List Value)
  /-- A mapping, and the value for the next place: the mapping as a whole at first, then the value
  of the last key, and none once that is used. -/
  | mapping (all : List (Value × Value)) (current : Option Value)

namespace Supply

/-- The values of a message: a single mapping that is not empty is used by key. -/
def of : List Value → Supply
  | [.map (e :: es)] => mapping (e :: es) (some (.map (e :: es)))
  | vs => values vs

/-- The next value, and the values after it. -/
def next : Supply → Except Fault (Value × Supply)
  | values (v :: vs) => .ok (v, values vs)
  | mapping all (some v) => .ok (v, mapping all none)
  | _ => .error .tooFew

/-- The values with the value of a key as the next one. -/
def find (s : Supply) (key : List Char) : Except Fault Supply :=
  match s with
  | values _ => .error .needsMapping
  | mapping all _ =>
    let name := String.ofList key
    match all.find? fun (k, _) => match k with
      | .str s => s == name
      | _ => false with
    | some (_, v) => .ok (mapping all (some v))
    | none => .error (.noKey key)

/-- All values that have to be used are used. -/
def finish : Supply → Except Fault Unit
  | values (_ :: _) => .error .tooMany
  | _ => .ok ()

end Supply

/-! ## Places -/

/-- What is left of the values and of the template. -/
structure Rest where
  supply : Supply
  text : List Char

namespace Rest

/-- A key in parentheses, which may be nested, and what follows it; `depth` counts those that are
open. -/
def splitKey? (depth : Nat) : List Char → Option (List Char × List Char)
  | [] => none
  | c :: s =>
    if c = ')' && depth = 0 then some ([], s)
    else
      let depth := if c = '(' then depth + 1 else if c = ')' then depth - 1 else depth
      (splitKey? depth s).map fun (key, rest) => (c :: key, rest)

/-- The rest behind a key, if there is one in front; the value of the key is the next one. -/
def afterKey (r : Rest) : Except Fault Rest :=
  match r.text, r.supply with
  | '(' :: _, .values _ => .error .needsMapping
  | '(' :: t, .mapping .. =>
    match splitKey? 0 t with
    | some (key, t) => (r.supply.find key).map (⟨·, t⟩)
    | none => .error .openKey
  | _, _ => .ok r

/-- A size that is the next value. -/
def nextSize (measure : Measure) (r : Rest) : Except Fault (Int × Rest) := do
  let (v, supply) ← r.supply.next
  let n : Int ← match v with
    | .int n => pure n
    | .bool b => pure (if b then 1 else 0)
    | _ => throw .sizeNotWhole
  if -(measure.limit : Int) ≤ n && n < measure.limit then return (n, { r with supply })
  else throw (.valueTooLarge measure)

/-- A size in front, if there is one: a number, or a star for the next value. -/
def size? (measure : Measure) (r : Rest) : Except Fault (Option Int × Rest) :=
  match r.text with
  | '*' :: t => do
    let (n, r) ← nextSize measure { r with text := t }
    return (some n, r)
  | t =>
    match t.takeWhile Char.isDigit with
    | [] => .ok (none, r)
    | ds =>
      let n := numberOf (ds.filterMap digitValue?)
      if n < measure.limit then .ok (some (n : Int), { r with text := t.dropWhile Char.isDigit })
      else .error (.sizeTooLarge measure)

/-- A point and a precision in front, if there is a point. -/
def precision? (r : Rest) : Except Fault (Option Nat × Rest) :=
  match r.text with
  | '.' :: t => do
    let (size, r) ← size? .precision { r with text := t }
    return (some (size.getD 0).toNat, r)
  | _ => .ok (none, r)

/-- The rest behind a length mark, which says nothing. -/
def afterLength (r : Rest) : Rest :=
  match r.text with
  | c :: t => if c = 'h' || c = 'l' || c = 'L' then { r with text := t } else r
  | [] => r

end Rest

/-- The characters of flags. -/
def isFlag (c : Char) : Bool := ['-', '+', ' ', '#', '0'].contains c

/-- The flags and the sizes of a place. -/
structure Place where
  left : Bool
  plus : Bool
  blank : Bool
  alternate : Bool
  zero : Bool
  width : Nat
  precision : Option Nat

/-- The place behind a percent sign up to its letter, and what is left. -/
def Place.read (r : Rest) : Except Fault (Place × Rest) := do
  let r ← r.afterKey
  let flags := r.text.takeWhile isFlag
  let (width, r) ← Rest.size? .width { r with text := r.text.dropWhile isFlag }
  let width := width.getD 0
  let (precision, r) ← r.precision?
  let place : Place :=
    ⟨flags.contains '-' || width < 0, flags.contains '+', flags.contains ' ', flags.contains '#',
      flags.contains '0', width.natAbs, precision⟩
  return (place, r.afterLength)

/-! ## Showing values -/

/-- The sign of a number. -/
def Place.sign (p : Place) (negative : Bool) : List Char :=
  if negative then ['-'] else if p.plus then ['+'] else if p.blank then [' '] else []

/-- A text in its place. -/
def Place.pad (p : Place) (s : List Char) : List Char :=
  if p.left then padRight p.width s else padLeft p.width s

/-- A number in its place: zeros go between what is in front of the digits and the digits. -/
def Place.showNumber (p : Place) (front digits : List Char) : List Char :=
  if p.zero && !p.left then
    front ++ List.replicate (p.width - front.length - digits.length) '0' ++ digits
  else p.pad (front ++ digits)

/-- A text cut to the precision. -/
def Place.cut (p : Place) (s : List Char) : List Char :=
  match p.precision with
  | some n => s.take n
  | none => s

/-- A text in ASCII, with escapes for all other characters. -/
def inAscii (s : List Char) : List Char :=
  s.flatMap fun c =>
    if c.toNat < 128 then [c]
    else if c.toNat < 0x100 then '\\' :: 'x' :: hex 2 c.toNat
    else if c.toNat < 0x10000 then '\\' :: 'u' :: hex 4 c.toNat
    else '\\' :: 'U' :: hex 8 c.toNat

/-- The whole part of a double. -/
def wholePart (x : Float) : Except Fault Int :=
  match Decimal.decode x with
  | .nan => .error .nanToWhole
  | .infinite _ => .error .infiniteToWhole
  | .finite negative m e =>
    let (n, d) := Decimal.fraction m e
    .ok (if negative then -((n / d : Nat) : Int) else (n / d : Nat))

/-- The whole number of a value, for a letter. -/
def wholeOf (letter : Char) : Value → Except Fault Int
  | .int n => .ok n
  | .bool b => .ok (if b then 1 else 0)
  | .float x =>
    if ['d', 'i', 'u'].contains letter then wholePart x else .error (.notWhole letter "float")
  | v =>
    if ['d', 'i', 'u'].contains letter then .error (.notReal letter v.kind)
    else .error (.notWhole letter v.kind)

/-- A whole number in its place. -/
def showWhole (p : Place) (letter : Char) (n : Int) : List Char :=
  let size := n.natAbs
  let (mark, digits) : List Char × List Char :=
    match letter with
    | 'o' => (['0', 'o'], Nat.toDigits 8 size)
    | 'x' => (['0', 'x'], Nat.toDigits 16 size)
    | 'X' => (['0', 'X'], (Nat.toDigits 16 size).map Char.toUpper)
    | _ => ([], ofNat size)
  let digits := List.replicate (p.precision.getD 0 - digits.length) '0' ++ digits
  p.showNumber (p.sign (n < 0) ++ if p.alternate then mark else []) digits

/-- The double of a value. -/
def doubleOf : Value → Except Fault Float
  | .float x => .ok x
  | .int n =>
    let x := Decimal.withSign (n < 0) (Decimal.nearest n.natAbs 0)
    if Decimal.isFinite x then .ok x else .error .wholeTooLarge
  | .bool b => .ok (if b then 1.0 else 0.0)
  | v => .error (.notDouble v.kind)

/-- The digits of a number with a point, which is put in front of the exponent if it lacks. -/
def withPoint (s : List Char) : List Char :=
  if s.contains '.' || !s.all fun c => c.isDigit || c == 'e' || c == '+' || c == '-' then s
  else
    let (mantissa, rest) := cutBefore (· == 'e') s
    mantissa ++ '.' :: rest

/-- A double in its place. -/
def showDouble (p : Place) (letter : Char) (x : Float) : List Char :=
  let precision := p.precision.getD 6
  let small := letter.toLower
  let (negative, digits) : Bool × List Char :=
    if small = 'e' then Decimal.scientificParts precision x
    else if small = 'f' then Decimal.fixedParts precision x
    else Decimal.generalParts precision p.alternate x
  let digits := if p.alternate then withPoint digits else digits
  let digits := if letter.isUpper then digits.map Char.toUpper else digits
  p.showNumber (p.sign negative) digits

/-- A single character in its place. -/
def showCharacter (p : Place) : Value → Except Fault (List Char)
  | .int n =>
    if 0 ≤ n && n < 0x110000 then .ok (p.pad [Char.ofNat n.toNat]) else .error .noCharacter
  | .bool b => .ok (p.pad [Char.ofNat (if b then 1 else 0)])
  | .str s => if s.length = 1 then .ok (p.pad s.toList) else .error .notCharacter
  | _ => .error .notCharacter

/-- A value in its place; `index` is where the letter stands in the template. -/
def showValue (p : Place) (letter : Char) (index : Nat) (v : Value) : Except Fault (List Char) :=
  if letter = 's' then .ok (p.pad (p.cut v.display))
  else if letter = 'r' then .ok (p.pad (p.cut v.shown))
  else if letter = 'a' then .ok (p.pad (p.cut (inAscii v.shown)))
  else if letter = 'c' then showCharacter p v
  else if ['d', 'i', 'u', 'o', 'x', 'X'].contains letter then
    (wholeOf letter v).map (showWhole p letter)
  else if ['e', 'E', 'f', 'F', 'g', 'G'].contains letter then
    (doubleOf v).map (showDouble p letter)
  else .error (.unknownLetter letter index)

/-! ## Filling -/

/-- A template filled from what is left of it; `size` is the length of the whole template. -/
def fillFrom (size : Nat) : (fuel : Nat) → Rest → Except Fault (List Char)
  | 0, r => r.supply.finish.map fun _ => []
  | fuel + 1, r =>
    match r.text with
    | [] => r.supply.finish.map fun _ => []
    | '%' :: '%' :: t => do return '%' :: (← fillFrom size fuel { r with text := t })
    | '%' :: t => do
      let (p, r) ← Place.read { r with text := t }
      match r.text with
      | [] => throw .openPlace
      | letter :: t =>
        let (v, supply) ← r.supply.next
        let shown ← showValue p letter (size - r.text.length) v
        return shown ++ (← fillFrom size fuel ⟨supply, t⟩)
    | c :: t => do return c :: (← fillFrom size fuel { r with text := t })

/-- A template filled with values; without values it is taken as it stands. -/
def fill (template : List Char) (vs : List Value) : Except Fault (List Char) :=
  if vs.isEmpty then .ok template
  else fillFrom template.length (template.length + 1) ⟨.of vs, template⟩

end Toolpath.Log.Template
