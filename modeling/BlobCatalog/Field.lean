import BlobCatalog.Fault

/-!
# Field rules

What each kind of record field accepts and what it makes of it. A rule is liberal: a text may come
as bytes, a number as text, an identifier in several forms. A number or an identifier in a text with
surrogates is malformed. `Checked` results of several fields are
combined by `Checked.andAlso`, which keeps the faults of all of them in order.
-/

namespace BlobCatalog

/-- A checked result, or every refused field. -/
abbrev Checked (α : Type) := Except (List FieldFault) α

namespace Checked

/-- Apply a checked function to a checked argument; faults of both are kept, in order. -/
def andAlso {α β : Type} (function : Checked (α → β)) (argument : Checked α) : Checked β :=
  match function, argument with
  | .ok f, .ok a => .ok (f a)
  | .ok _, .error faults => .error faults
  | .error faults, .ok _ => .error faults
  | .error first, .error second => .error (first ++ second)

/-- The result of a rule as the field at a path. -/
def at? {α : Type} (path : List String) : Except FieldCause α → Checked α
  | .ok value => .ok value
  | .error cause => .error [⟨path, cause⟩]

end Checked

namespace Field

/-- A text: a text, bytes that encode one, or a status by its code. -/
def text : Value → Except FieldCause Text
  | .text content => .ok content
  | .bytes content =>
    match Text.decodeBytes? content with
    | some decoded => .ok (.ofString decoded)
    | none => .error .malformedText
  | .status value => .ok (.ofString (Text.decimalText value.code))
  | _ => .error .notText

/-- An integer written as text. -/
def integerInText (content : String) : Except FieldCause Int :=
  if content.length > Text.digitLimit then .error .oversizedInteger
  else
    match Text.readPlain? content.toList with
    | some number => .ok number
    | none => .error .unreadableInteger

/-- An integer: a number without a fraction, a truth value, a status, or an integer in text. -/
def integer : Value → Except FieldCause Int
  | .float value =>
    match Binary64.parts value with
    | .finite _ _ _ =>
      match Binary64.whole? value with
      | some number =>
        if number.natAbs < Nat.pow 2 63 then .ok number else .error .oversizedInteger
      | none => .error .fractionalInteger
    | _ => .error .unboundedInteger
  | .text content =>
    match content.string? with
    | some content => integerInText content
    | none => .error .malformedText
  | .bytes content =>
    match Text.decodeBytes? content with
    | some decoded => integerInText decoded
    | none => .error .unreadableInteger
  | other =>
    match other.integer? with
    | some number => .ok number
    | none => .error .notInteger

/-- A size: an integer that is not negative. -/
def size (value : Value) : Except FieldCause Nat :=
  match integer value with
  | .ok number => if number < 0 then .error .negativeInteger else .ok number.toNat
  | .error cause => .error cause

/-- A status: a value that is an integer and a code. -/
def status (value : Value) : Except FieldCause Status :=
  match integer value with
  | .ok number =>
    match Status.ofCode? number with
    | some status => .ok status
    | none => .error .notStatus
  | .error _ => .error .notStatus

/-- An identifier or nothing: an identifier, its text in a fixed form, or its sixteen bytes. -/
def identifier : Value → Except FieldCause (Option Uuid)
  | .absent => .ok none
  | .uuid value => .ok (some value)
  | .text content =>
    match content.string? with
    | some content =>
      match Uuid.ofField? content with
      | some value => .ok (some value)
      | none => .error .unreadableIdentifier
    | none => .error .malformedText
  | .bytes content =>
    match (Text.decodeBytes? content).bind Uuid.ofField?, Uuid.ofBytes? content with
    | some value, _ => .ok (some value)
    | none, some value => .ok (some value)
    | none, none => .error .unreadableIdentifier
  | _ => .error .notIdentifier

/-- A time or nothing; a date stands for its start. -/
def time : Value → Except FieldCause (Option Calendar.DateTime)
  | .absent => .ok none
  | .dateTime value => .ok (some value)
  | .date value => .ok (some (Calendar.DateTime.startOf value))
  | _ => .error .notTime

end Field

end BlobCatalog
