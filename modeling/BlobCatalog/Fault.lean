import BlobCatalog.Value.Shown

/-!
# Faults

Why an operation is refused. A `Fault` names the cause and holds what its message speaks of; the
wording is in `Fault.message?` alone. Some faults have no message of their own: they say only that a
value cannot do what was asked of it. `FieldFault` is one refused field of a record, with the path
to it.
-/

namespace BlobCatalog

/-- Why a field is refused. -/
inductive FieldCause where
  | notText
  | malformedText
  | missing
  | fractionalInteger
  | unboundedInteger
  | unreadableInteger
  | oversizedInteger
  | notInteger
  | negativeInteger
  | notStatus
  | unreadableIdentifier
  | notIdentifier
  | notTime
  | notStamps
  | notLevel
  | frozenField
  | frozenRecord
deriving DecidableEq, Repr

/-- A refused field with the path to it. -/
structure FieldFault where
  path : List String
  cause : FieldCause
deriving DecidableEq, Repr

/-- Why a property list is refused. -/
inductive Malformation where
  | notProperty (kind : String)
  | notInteger (name kind : String)
  | negative (name : String) (number : Int)
  | unknownCode (name : String) (code : Int)
  | notText (name kind : String)
  | notTime (name kind : String)
  | naive (name : String) (time : Calendar.DateTime)
  | unreadableSignature (name : String) (text : Text)
  | notComposite (name kind : String)
  | notInnerProperty (name kind : String)
deriving DecidableEq

namespace Malformation

/-- What is wrong with a property list. -/
def message : Malformation → String
  | notProperty kind => "Expected a Property, got " ++ kind
  | notInteger name kind => "Property " ++ name ++ " must be an integer, got " ++ kind
  | negative name number =>
    "Property " ++ name ++ " must not be negative, got " ++ Text.integerText number
  | unknownCode name code =>
    "Property " ++ name ++ " has unknown status code " ++ Text.integerText code
  | notText name kind => "Property " ++ name ++ " must be a string, got " ++ kind
  | notTime name kind => "Property " ++ name ++ " must be a datetime, got " ++ kind
  | naive name time => "Property " ++ name ++ " must be timezone-aware, got " ++ time.isoText
  | unreadableSignature name text =>
    "Property " ++ name ++ " is not a valid signature: " ++ Text.quoted text
  | notComposite name kind => "Property " ++ name ++ " must be a composite value, got " ++ kind
  | notInnerProperty name kind => "Property " ++ name ++ " holds " ++ kind ++ ", expected Property"

/-- The message can be written: a number in it has a text. -/
def isWritable : Malformation → Bool
  | negative _ number => Text.isWritable number
  | unknownCode _ code => Text.isWritable code
  | _ => true

end Malformation

/-- The families of faults that a caller may raise with words of its own. -/
inductive FaultFamily where
  | general
  | keyName
  | encoding
  | decoding
deriving DecidableEq, Repr

/-- Why an operation is refused. -/
inductive Fault where
  /-- A caller's own words. -/
  | stated (family : FaultFamily) (words : List Value)
  /-- The name of a stored record is no identifier. -/
  | unreadableKey (name : Value)
  /-- A time without an offset cannot be written. -/
  | naiveStamp (property : String) (time : Calendar.DateTime)
  /-- A property list is malformed. -/
  | malformed (cause : Malformation)
  /-- A loaded record has refused fields. -/
  | rejected (fields : List FieldFault)
  /-- A record, a key, a property or a set of time stamps has refused fields. -/
  | invalid (fields : List FieldFault)
  /-- The lifecycle does not allow the move. -/
  | forbidden (current target : Value)
  /-- No record is stored under the key. -/
  | notFound (key : Value)
  /-- A record is stored under the key already. -/
  | alreadyExists (key : Value)
  /-- The stored record was changed by somebody else. -/
  | modified (key : Value)
  /-- A record may be purged only when its deletion is pending. -/
  | notPurgeable (key : Uuid) (status : Status)
  /-- A record without a key has no place. -/
  | noKey
  /-- A stamp needs an offset. -/
  | naiveTime (time : Calendar.DateTime)
  /-- A value is no status. -/
  | noStatus (value : Value)
  /-- A value lacks an operation. -/
  | lacksOperation
  /-- A value is of the wrong kind for an operation. -/
  | wrongKind
  /-- A content cannot be read, a field does not exist, or a number has no text. -/
  | unreadable
  /-- A number is too large for its place. -/
  | outOfRange
  /-- A value of this kind cannot be bound to a column. -/
  | unbindable
  /-- A row breaks a rule of the table. -/
  | constraint
  /-- A value of this kind cannot be printed. -/
  | unprintable
  /-- Bytes encode no text. -/
  | undecodable
  /-- A text with surrogates cannot be encoded. -/
  | unencodable
  /-- A column holds a text whose bytes encode none. -/
  | garbled
  /-- No identifier is left. -/
  | exhausted
  /-- A file stands where a directory is needed. -/
  | fileInTheWay
  /-- A path leads through a file. -/
  | notDirectory
  /-- The system makes no directory at a path. -/
  | barred
  /-- A directory stands where a table is needed. -/
  | unopenable

namespace Fault

/-- The words of a fault, for those that have words. -/
def message? : Fault → Option Text
  | stated _ [] => some ""
  | stated _ [only] => some only.shown
  | stated _ words => some (Value.shown (.tuple words))
  | unreadableKey name => some ("Invalid blob ref key name: " ++ name.quoted)
  | naiveStamp property time =>
    some (property ++ " must be timezone-aware, got " ++ time.isoText)
  | malformed cause => some cause.message
  | forbidden current target =>
    some ("Invalid status transition: " ++ current.label ++ " -> " ++ target.label)
  | notFound key => some ("Blob ref not found: " ++ key.shown)
  | alreadyExists key => some ("Blob ref already exists: " ++ key.shown)
  | modified key => some ("Blob ref was modified concurrently: " ++ key.shown)
  | notPurgeable key status =>
    some ("Blob ref " ++ key.text ++ " is " ++ status.name ++ ", not PENDING_DELETION")
  | noKey => some "Blob ref has no key"
  | naiveTime time => some ("Timestamps must be timezone-aware, got " ++ time.isoText)
  | noStatus value => some (value.quoted ++ " is not a valid BlobStatus")
  | _ => none

/-- The fault of a malformed property list. If a number has no text, the message cannot be written,
and the fault is that of the number. -/
def ofMalformation (cause : Malformation) : Fault :=
  if cause.isWritable then malformed cause else unreadable

/-- A fault of the domain: one that the command line reports instead of failing. -/
def isDomain : Fault → Bool
  | stated _ _ | unreadableKey _ | naiveStamp _ _ | malformed _ | rejected _ | forbidden _ _
  | notFound _ | alreadyExists _ | modified _ | notPurgeable _ _ => true
  | _ => false

end Fault

/-! ## Texts of values -/

namespace Value

/-- The plain text of a value, if it has one. -/
def spelled (value : Value) : Except Fault Text :=
  if value.isWritable then .ok value.shown else .error .unreadable

theorem spelled_eq_ok_iff {value : Value} {text : Text} :
    value.spelled = .ok text ↔ value.isWritable = true ∧ value.shown = text := by
  unfold spelled
  split <;> simp [*]

@[simp] theorem spelled_uuid (id : Uuid) : (uuid id).spelled = .ok id.text := rfl

end Value

end BlobCatalog
