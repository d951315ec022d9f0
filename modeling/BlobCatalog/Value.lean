import BlobCatalog.Calendar.DateTime
import BlobCatalog.Number.Binary64
import BlobCatalog.Status
import BlobCatalog.Text
import BlobCatalog.Uuid

/-!
# Values

What a property, a record field or an argument can hold before anything is known about it. Records
read from other tools and records whose fields were assigned by hand hold any `Value`; the typed
form of a record is `Blob`. The module gives the kind of a value by name, its truth, its reading as
an integer and the question whether it may be looked up in a set.
-/

namespace BlobCatalog

/-- A value of any kind. A `property` is a named value and `stamps` is a set of time stamps; a
`mapping` keeps the order its members were given in. Time stamps note which of their fields were
set; `looseStamps` cannot, so that an assignment to one of their fields takes effect and then
fails. -/
inductive Value where
  | absent
  | boolean (value : Bool)
  | integer (value : Int)
  | float (value : Float)
  | text (content : Text)
  | bytes (content : List UInt8)
  | dateTime (value : Calendar.DateTime)
  | date (value : Calendar.Date)
  | uuid (value : Uuid)
  | status (value : Status)
  | list (items : List Value)
  | tuple (items : List Value)
  | mapping (members : List (String × Value))
  | property (name : String) (value : Value)
  | stamps (createdAt updatedAt signature : Value)
  | looseStamps (createdAt updatedAt signature : Value)
  | thing

namespace Value

/-- The name of a value's kind in messages. -/
def kindName : Value → String
  | absent => "NoneType"
  | boolean _ => "bool"
  | integer _ => "int"
  | float _ => "float"
  | text _ => "str"
  | bytes _ => "bytes"
  | dateTime _ => "datetime"
  | date _ => "date"
  | uuid _ => "UUID"
  | status _ => "BlobStatus"
  | list _ => "list"
  | tuple _ => "tuple"
  | mapping _ => "dict"
  | property _ _ => "Property"
  | stamps _ _ _ => "Timestamps"
  | looseStamps _ _ _ => "Timestamps"
  | thing => "object"

/-- A value that counts as given: not absent, false, zero or empty. -/
def isGiven : Value → Bool
  | absent => false
  | boolean value => value
  | integer value => value != 0
  | float value => !Binary64.isZero value
  | text content => !content.isEmpty
  | bytes content => !content.isEmpty
  | status value => value != .unknown
  | list items => !items.isEmpty
  | tuple items => !items.isEmpty
  | mapping members => !members.isEmpty
  | _ => true

/-- The integer that a value is: a number, a truth value or a status, but not a float. -/
def integer? : Value → Option Int
  | boolean value => some value.toNat
  | integer value => some value
  | status value => some value.code
  | _ => none

mutual

/-- A value that may be looked up in a set. Lists, mappings and time stamps may not, nor may what
holds one of them. -/
def canBeMember : Value → Bool
  | list _ => false
  | mapping _ => false
  | stamps _ _ _ => false
  | looseStamps _ _ _ => false
  | tuple items => canAllBeMembers items
  | property _ value => canBeMember value
  | _ => true

/-- All of the values may be looked up in a set. -/
def canAllBeMembers : List Value → Bool
  | [] => true
  | item :: rest => canBeMember item && canAllBeMembers rest

end

/-! ## Equality -/

/-- The equality of an integer with a value that is a number. -/
def equalsInteger (number : Int) : Value → Bool
  | float value => Binary64.whole? value == some number
  | other => integer? other == some number

mutual

/-- Equality of values: numbers by size whatever their kind, times as `DateTime.same` has it,
composite values part by part. -/
def same : Value → Value → Bool
  | absent, absent => true
  | boolean left, right => equalsInteger left.toNat right
  | integer left, right => equalsInteger left right
  | status left, right => equalsInteger left.code right
  | float left, float right => Binary64.same left right
  | float left, right => (integer? right).any fun number => Binary64.whole? left == some number
  | text left, text right => left == right
  | bytes left, bytes right => left == right
  | dateTime left, dateTime right => left.same right
  | date left, date right => left == right
  | uuid left, uuid right => left == right
  | list left, list right => sameItems left right
  | tuple left, tuple right => sameItems left right
  | mapping left, mapping right => left.length == right.length && sameMembers left right
  | property leftName left, property rightName right => leftName == rightName && same left right
  | stamps leftCreated leftUpdated leftSignature, stamps rightCreated rightUpdated rightSignature
  | stamps leftCreated leftUpdated leftSignature,
    looseStamps rightCreated rightUpdated rightSignature
  | looseStamps leftCreated leftUpdated leftSignature,
    stamps rightCreated rightUpdated rightSignature
  | looseStamps leftCreated leftUpdated leftSignature,
    looseStamps rightCreated rightUpdated rightSignature =>
    same leftCreated rightCreated && same leftUpdated rightUpdated &&
      same leftSignature rightSignature
  | _, _ => false

/-- Equality of values one by one. -/
def sameItems : List Value → List Value → Bool
  | [], [] => true
  | left :: lefts, right :: rights => same left right && sameItems lefts rights
  | _, _ => false

/-- Every member on the left is among those on the right. -/
def sameMembers : List (String × Value) → List (String × Value) → Bool
  | [], _ => true
  | (name, left) :: lefts, rights =>
    (match rights.lookup name with
      | some right => same left right
      | none => false) && sameMembers lefts rights

end

end Value

end BlobCatalog
