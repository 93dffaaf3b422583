namespace ComponentCompiler
namespace Text

/-!
# Bytes in letters

Three bytes are written as four letters of sixty-four.  Equals signs fill the
last four up.  Characters that are none of these are passed over.
-/

/-- The six bits that a letter stands for. -/
def sixBits? (character : Char) : Option Nat :=
  let code := character.toNat
  if 'A' ≤ character && character ≤ 'Z' then some (code - 65)
  else if 'a' ≤ character && character ≤ 'z' then some (code - 71)
  else if character.isDigit then some (code + 4)
  else if character = '+' then some 62
  else if character = '/' then some 63
  else none

/-- The bytes of letters, with the letters since the last full group, the latest
first, and the number of equals signs behind them.  Reading ends at the sign that
fills a group up; a group that stays open is refused. -/
def bytesFrom : List Nat → Nat → List Char → Option (List UInt8)
  | group, _, [] => if group.isEmpty then some [] else none
  | group, signs, character :: rest =>
    if character = '=' then
      match group with
      | [second, first] =>
        if signs = 0 then bytesFrom group 1 rest
        else some [(first * 4 + second / 16).toUInt8]
      | [third, second, first] =>
        some [(first * 4 + second / 16).toUInt8, (second * 16 + third / 4).toUInt8]
      | _ => bytesFrom group signs rest
    else
      match sixBits? character, group with
      | none, _ => bytesFrom group signs rest
      | some fourth, [third, second, first] =>
        (bytesFrom [] 0 rest).map fun bytes =>
          (first * 4 + second / 16).toUInt8 :: (second * 16 + third / 4).toUInt8 ::
            (third * 64 + fourth).toUInt8 :: bytes
      | some bits, group => bytesFrom (bits :: group) 0 rest

/-- The bytes that a text stands for. -/
def bytesOfLetters? (characters : List Char) : Option (List UInt8) :=
  bytesFrom [] 0 characters

end Text
end ComponentCompiler
