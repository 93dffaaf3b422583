import ComponentCompiler.Value.Calendar

namespace ComponentCompiler

open Number

/-!
# Equal keys

Two keys of a map can be equal without being written alike: truth values count
as the numbers zero and one, numbers are equal by value, and moments with a
known offset are equal when they are at the same time.  A map keeps the key
that was written first.
-/

/-- The quotient that a finite number is. -/
def Number.Binary64.quotient? : Binary64 → Option (Int × Nat)
  | .finite negative significand exponent =>
    let size : Nat × Nat :=
      if 0 ≤ exponent then (significand * powerOfTwo exponent.toNat, 1)
      else (significand, powerOfTwo (-exponent).toNat)
    some (if negative then -(size.1 : Int) else size.1, size.2)
  | _ => none

namespace Key

/-- The number that a key stands for, as a quotient. -/
def number? : Key → Option (Int × Nat)
  | .bool value => some (if value then 1 else 0, 1)
  | .int value => some (value, 1)
  | .real value => value.quotient?
  | _ => none

/-- The time that a key stands for, when its offset is known. -/
def instant? : Key → Option Int
  | .moment value => value.instant?
  | _ => none

/-- Whether two keys are equal. -/
def same (first second : Key) : Bool :=
  match first.number?, second.number? with
  | some (firstTop, firstBottom), some (secondTop, secondBottom) =>
    firstTop * secondBottom = secondTop * firstBottom
  | _, _ =>
    match first.instant?, second.instant? with
    | some firstTime, some secondTime => firstTime = secondTime
    | _, _ => first = second

end Key

/-- Write a value under a key.  Of equal keys the first one stays. -/
def putSame (entries : Entries Key Value) (key : Key) (value : Value) : Entries Key Value :=
  Entries.put entries (((Entries.keys entries).find? key.same).getD key) value

end ComponentCompiler
