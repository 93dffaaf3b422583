import ComponentCompiler.Content.Basic
import ComponentCompiler.Script.Member

namespace ComponentCompiler

open Script Number

/-!
# Bindings

A text that starts with a marker refers to something else: to an input of the
component, to one of its states, or to the current item of repeated content.
A marker with nothing behind it is plain text.
-/

namespace Binding

/-- What follows a marker at the start of a text, when there is something. -/
def afterMarker? (marker : String) : Value → Option String
  | .text content =>
    match List.isPrefixOf? marker.toList content.toList with
    | some (first :: rest) => some (String.ofList (first :: rest))
    | _ => none
  | _ => none

/-- The input that a value refers to. -/
def prop? (value : Value) : Option String :=
  afterMarker? "$props." value

/-- The state that a value refers to. -/
def state? (value : Value) : Option String :=
  afterMarker? "$state." value

/-- The expression for the current item, or for what it holds. -/
def item? (value : Value) : Option String :=
  match value with
  | .text "$item" => some "item"
  | _ => (afterMarker? "$item." value).map ("item." ++ ·)

/-- The expression that a binding stands for. -/
def expression? (value : Value) : Option String :=
  match prop? value with
  | some path => some (memberPath "props" path)
  | none =>
    match state? value with
    | some name => some name
    | none => item? value

end Binding

/-- A value as an expression: what it is bound to, or else its literal. -/
def Value.expression (value : Value) : Except RenderFault String :=
  match Binding.expression? value with
  | some expression => .ok expression
  | none => blockLiteral 0 value

namespace Scalar

/-- The literal of a scalar. -/
def literal : Scalar → String
  | .text content => quote content
  | .bool value => if value then "true" else "false"
  | .int value => toString value
  | .real value => value.text .script

/-- Whether a scalar is a whole number with too many digits to be written. -/
def isTooLong : Scalar → Bool
  | .int value => Script.isTooLong value
  | _ => false

/-- A scalar that can be written has the same literal as the value that it is. -/
theorem blockLiteral_toValue (scalar : Scalar) (level : Int) (short : scalar.isTooLong = false) :
    blockLiteral level scalar.toValue = .ok scalar.literal := by
  cases scalar with
  | int value =>
      have brief : Script.isTooLong value = false := short
      simp [toValue, blockLiteral, inlineLiteral, wholeLiteral, brief, literal]
  | _ => rfl

/-- A scalar as an expression. -/
def expression (scalar : Scalar) : String :=
  (Binding.expression? scalar.toValue).getD scalar.literal

/-- A scalar that can be written has the same expression as the value that it is. -/
theorem expression_toValue (scalar : Scalar) (short : scalar.isTooLong = false) :
    scalar.toValue.expression = .ok scalar.expression := by
  unfold Value.expression expression
  cases Binding.expression? scalar.toValue with
  | none => simp [blockLiteral_toValue scalar 0 short]
  | some bound => rfl

/-- A scalar that may be absent, as an expression. -/
def optionalExpression : Option Scalar → String
  | some scalar => scalar.expression
  | none => "null"

/-- The fault of writing scalars, when one of them cannot be written. -/
def writeFault? (scalars : List Scalar) : Option RenderFault :=
  if scalars.any isTooLong then some .tooManyDigits else none

end Scalar
end ComponentCompiler
