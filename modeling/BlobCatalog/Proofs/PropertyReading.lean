import BlobCatalog.Proofs.PropertyRoundTrip
import Mathlib.Tactic.SplitIfs

/-!
# What a property list is read as

A property list is read item by item, and two things can be said of the whole list at once. It is
accepted exactly when each of its items is (`Blob.ofItems_eq_ok_iff`): what an item must be depends
on its name alone, not on the items around it. And each field of the record is read from the last
property of its name, or is empty without one (`Blob.IsRead`). Both hold at the two levels of a
list, the properties of a record and those of its time stamps, so they are proved for any step that
reads the properties of a name into a part of a state (`isLast_foldlM`, `foldlM_isOk_iff`).
`ofProperties_accepts_iff` says which lists are accepted and how the others are refused.
-/

namespace BlobCatalog

open Calendar (DateTime)

/-! ## Values that a property may have -/

namespace Value

/-- The value is an integer, as a number or as the code of a status. A truth value is none. -/
def IsInteger (number : Int) : Value → Prop
  | integer held => held = number
  | status held => held.code = number
  | _ => False

/-- An integer that is not negative. -/
def IsSize (value : Value) : Prop := ∃ number, value.IsInteger number ∧ 0 ≤ number

/-- An integer that is the code of a status. -/
def IsStatusCode (value : Value) : Prop := ∃ status : Status, value.IsInteger status.code

/-- A text. -/
def IsText (value : Value) : Prop := ∃ content, value = text content

/-- Nothing, or a time with an offset. -/
def IsStamp (value : Value) : Prop :=
  value = absent ∨ ∃ time : DateTime, value = dateTime time ∧ time.isAware = true

/-- Nothing, an identifier, or the text of one. -/
def IsSignature (value : Value) : Prop :=
  value = absent ∨ (∃ id, value = uuid id) ∨
    ∃ content id, value = text content ∧ Uuid.ofText? content = some id

/-- A composite value with the given items. -/
def IsComposite (items : List Value) (value : Value) : Prop :=
  value = list items ∨ value = tuple items

/-- A property that may stand among time stamps. Names other than the three ask for nothing. -/
def IsStampItem : Value → Prop
  | property name value =>
    (name = createdAtName → value.IsStamp) ∧ (name = updatedAtName → value.IsStamp) ∧
      (name = signatureName → value.IsSignature)
  | _ => False

/-- A composite value with properties that may stand among time stamps. -/
def IsStampList (value : Value) : Prop :=
  ∃ items, value.IsComposite items ∧ ∀ item ∈ items, item.IsStampItem

/-- A property that a record may be read from. Names other than the five ask for nothing. -/
def IsRecordItem : Value → Prop
  | property name value =>
    (name = sizeName → value.IsSize) ∧ (name = statusName → value.IsStatusCode) ∧
      (name = storeKeyName → value.IsText) ∧ (name = recordKeyName → value.IsText) ∧
      (name = timestampsName → value.IsStampList)
  | _ => False

/-- A property whose refusal cannot be told, as it has to name a number with too many digits to have
a text: a size below zero, or a status. -/
def IsLong (item : Value) : Prop :=
  ∃ name number, item = property name (integer number) ∧ Text.isWritable number = false ∧
    (name = sizeName ∧ number < 0 ∨ name = statusName)

end Value

/-! ## Readers of single values -/

/-- A status is found by its code and by no other number. -/
theorem Status.ofCode?_eq_some_iff {code : Int} {status : Status} :
    ofCode? code = some status ↔ code = status.code := by
  constructor
  · intro h
    unfold ofCode? at h
    split at h <;> simp_all [Status.code, eq_comm]
  · rintro rfl
    exact ofCode?_code status

section Readers

variable {name : String} {value : Value}

theorem readInteger_eq_ok_iff {number : Int} :
    readInteger name value = .ok number ↔ value.IsInteger number := by
  cases value <;> simp [readInteger, Value.IsInteger]

theorem readSize_eq_ok_iff {size : Nat} :
    readSize name value = .ok size ↔ value.IsInteger size := by
  have hinteger : readInteger name value = .ok (size : Int) ↔ value.IsInteger size :=
    readInteger_eq_ok_iff
  rw [← hinteger]
  cases hread : readInteger name value with
  | error cause => simp [readSize, hread]
  | ok number =>
    by_cases hnegative : number < 0
    · have hne : number ≠ size := by omega
      simp [readSize, hread, hnegative, hne]
    · have hsame : number.toNat = size ↔ number = size := by omega
      simp [readSize, hread, hnegative, hsame]

theorem readStatus_eq_ok_iff {status : Status} :
    readStatus name value = .ok status ↔ value.IsInteger status.code := by
  have hinteger : readInteger name value = .ok (status.code : Int) ↔
      value.IsInteger status.code := readInteger_eq_ok_iff
  rw [← hinteger]
  cases hread : readInteger name value with
  | error cause => simp [readStatus, hread]
  | ok code =>
    rw [Except.ok.injEq, ← Status.ofCode?_eq_some_iff]
    cases hcode : Status.ofCode? code <;> simp [readStatus, hread, hcode]

theorem readText_eq_ok_iff {content : Text} :
    readText name value = .ok content ↔ value = .text content := by
  cases value <;> simp [readText]

theorem readStamp_eq_ok_iff {stamp : Option DateTime} :
    readStamp name value = .ok stamp ↔
      value = .ofTime? stamp ∧ ∀ time ∈ stamp, time.isAware = true := by
  cases value with
  | dateTime time =>
    by_cases haware : time.isAware = true
    · cases stamp <;> simp [readStamp, Value.ofTime?, haware]
      rintro rfl
      exact haware
    · cases stamp <;> simp [readStamp, Value.ofTime?, haware]
      rintro rfl
      simpa using haware
  | _ => cases stamp <;> simp [readStamp, Value.ofTime?]

theorem readSignature_eq_ok_iff {id : Option Uuid} :
    readSignature name value = .ok id ↔
      value = .ofUuid? id ∨
        ∃ content held, id = some held ∧ value = .text content ∧
          Uuid.ofText? content = some held := by
  cases value with
  | text content =>
    cases hread : Uuid.ofText? content <;> cases id <;>
      simp [readSignature, Value.ofUuid?, hread]
  | _ => cases id <;> simp [readSignature, Value.ofUuid?]

/-! Something can be read exactly from the values that the name asks for. -/

theorem readSize_isOk_iff : (∃ size, readSize name value = .ok size) ↔ value.IsSize := by
  simp only [readSize_eq_ok_iff]
  constructor
  · rintro ⟨size, hsize⟩
    exact ⟨size, hsize, Int.natCast_nonneg size⟩
  · rintro ⟨number, hnumber, hnonneg⟩
    refine ⟨number.toNat, ?_⟩
    rwa [Int.toNat_of_nonneg hnonneg]

theorem readStatus_isOk_iff :
    (∃ status, readStatus name value = .ok status) ↔ value.IsStatusCode := by
  simp only [readStatus_eq_ok_iff, Value.IsStatusCode]

theorem readText_isOk_iff : (∃ content, readText name value = .ok content) ↔ value.IsText := by
  simp only [readText_eq_ok_iff, Value.IsText]

theorem readStamp_isOk_iff : (∃ stamp, readStamp name value = .ok stamp) ↔ value.IsStamp := by
  simp only [readStamp_eq_ok_iff]
  constructor
  · rintro ⟨stamp, rfl, haware⟩
    cases stamp with
    | none => exact .inl rfl
    | some time => exact .inr ⟨time, rfl, haware time rfl⟩
  · rintro (rfl | ⟨time, rfl, haware⟩)
    · exact ⟨none, rfl, by simp⟩
    · exact ⟨some time, rfl, by simpa using haware⟩

theorem readSignature_isOk_iff :
    (∃ id, readSignature name value = .ok id) ↔ value.IsSignature := by
  simp only [readSignature_eq_ok_iff]
  constructor
  · rintro ⟨id, rfl | ⟨content, held, -, rfl, hread⟩⟩
    · cases id with
      | none => exact .inl rfl
      | some held => exact .inr (.inl ⟨held, rfl⟩)
    · exact .inr (.inr ⟨content, held, rfl, hread⟩)
  · rintro (rfl | ⟨held, rfl⟩ | ⟨content, held, rfl, hread⟩)
    · exact ⟨none, .inl rfl⟩
    · exact ⟨some held, .inl rfl⟩
    · exact ⟨some held, .inr ⟨content, held, rfl, rfl, hread⟩⟩

/-! What was wrong with a value can be told, unless it is a number without a text. -/

/-- Numbers of at most twenty digits have a text. -/
theorem isWritable_of_lt {number : Int} (h : number.natAbs < Nat.pow 10 20) :
    Text.isWritable number = true := by
  have hpower : ∀ limit, 20 ≤ limit → Nat.pow 10 20 ≤ Nat.pow 10 limit :=
    fun _ => Nat.pow_le_pow_right (by decide)
  rw [Text.isWritable, decide_eq_true_eq]
  exact Nat.lt_of_lt_of_le h (hpower _ (by decide))

theorem isWritable_of_isInteger {number : Int} (h : value.IsInteger number)
    (hlong : value = .integer number → Text.isWritable number = true) :
    Text.isWritable number = true := by
  -- A status has a small code, so a long number is one that was given as such.
  cases value with
  | integer held =>
    obtain rfl : held = number := h
    exact hlong rfl
  | status held =>
    obtain rfl : (held.code : Int) = number := h
    exact isWritable_of_lt (by cases held <;> decide)
  | _ => exact absurd h (by simp [Value.IsInteger])

theorem isWritable_of_readInteger_error {cause : Malformation}
    (h : readInteger name value = .error cause) : cause.isWritable = true := by
  unfold readInteger at h
  split at h <;> cases h
  rfl

theorem isWritable_of_readSize_error {cause : Malformation}
    (h : readSize name value = .error cause)
    (hlong : ∀ held, value = .integer held → held < 0 → Text.isWritable held = true) :
    cause.isWritable = true := by
  cases hread : readInteger name value with
  | error fault =>
    simp only [readSize, hread, Except.error.injEq] at h
    exact h ▸ isWritable_of_readInteger_error hread
  | ok number =>
    simp only [readSize, hread] at h
    split at h
    · next hnegative =>
      cases h
      exact isWritable_of_isInteger (readInteger_eq_ok_iff.1 hread) fun heq =>
        hlong number heq hnegative
    · cases h

theorem isWritable_of_readStatus_error {cause : Malformation}
    (h : readStatus name value = .error cause)
    (hlong : ∀ held, value = .integer held → Text.isWritable held = true) :
    cause.isWritable = true := by
  cases hread : readInteger name value with
  | error fault =>
    simp only [readStatus, hread, Except.error.injEq] at h
    exact h ▸ isWritable_of_readInteger_error hread
  | ok number =>
    simp only [readStatus, hread] at h
    split at h <;> cases h
    exact isWritable_of_isInteger (readInteger_eq_ok_iff.1 hread) (hlong number)

theorem isWritable_of_readText_error {cause : Malformation}
    (h : readText name value = .error cause) : cause.isWritable = true := by
  unfold readText at h
  split at h <;> cases h
  rfl

theorem isWritable_of_readStamp_error {cause : Malformation}
    (h : readStamp name value = .error cause) : cause.isWritable = true := by
  unfold readStamp at h
  split at h
  · cases h
  · split at h <;> cases h
    rfl
  · cases h
    rfl

theorem isWritable_of_readSignature_error {cause : Malformation}
    (h : readSignature name value = .error cause) : cause.isWritable = true := by
  unfold readSignature at h
  split at h
  · cases h
  · cases h
  · split at h <;> cases h
    rfl
  · cases h
    rfl

end Readers

/-! ## Items read in their order -/

namespace Value

/-- The value of a property of the given name. -/
def named? (name : String) : Value → Option Value
  | property held value => if held = name then some value else none
  | _ => none

theorem named?_eq_some_iff {name : String} {item value : Value} :
    item.named? name = some value ↔ item = property name value := by
  cases item with
  | property held value =>
    by_cases hname : held = name <;> simp [named?, hname]
  | _ => simp [named?]

/-- The value of the last property of a name. -/
def lastNamed? (name : String) (items : List Value) : Option Value :=
  (items.filterMap (named? name)).getLast?

theorem lastNamed?_cons (name : String) (item : Value) (items : List Value) :
    lastNamed? name (item :: items) = (lastNamed? name items).or (item.named? name) := by
  cases hitem : item.named? name with
  | none => simp [lastNamed?, hitem]
  | some value =>
    rw [lastNamed?, List.filterMap_cons_some hitem, List.getLast?_cons, lastNamed?]
    cases (items.filterMap (named? name)).getLast? <;> rfl

theorem lastNamed?_eq_none_iff {name : String} {items : List Value} :
    lastNamed? name items = none ↔ ∀ value, property name value ∉ items := by
  rw [lastNamed?, List.getLast?_eq_none_iff, List.filterMap_eq_nil_iff]
  constructor
  · intro hnone value hmem
    exact absurd (hnone _ hmem) (by simp [named?])
  · intro hlacks item hmem
    cases hitem : item.named? name with
    | none => rfl
    | some value => exact absurd (named?_eq_some_iff.1 hitem ▸ hmem) (hlacks value)

end Value

section Reading

variable {σ α ε : Type} {step : σ → Value → Except ε σ} {items : List Value} {state last : σ}

/-- The result is read from the last value of its name, or is the default if there is none. -/
def IsLast (read : Value → Except ε α) (default : α) : Option Value → α → Prop
  | none, result => result = default
  | some value, result => read value = .ok result

theorem IsLast.unique {read : Value → Except ε α} {default left right : α} {held : Option Value}
    (hleft : IsLast read default held left) (hright : IsLast read default held right) :
    left = right := by
  cases held with
  | none => exact hleft.trans hright.symm
  | some value => exact Except.ok.inj (hleft.symm.trans hright)

theorem IsLast.trans {read : Value → Except ε α} {default middle result : α}
    {held later : Option Value} (h : IsLast read default held middle)
    (hlater : IsLast read middle later result) : IsLast read default (later.or held) result := by
  cases later with
  | none =>
    obtain rfl : result = middle := hlater
    exact h
  | some value => exact hlater

/-- If each item sets a part of the state from its value of a name, then all items set it from the
last value of the name. -/
theorem isLast_foldlM {name : String} {read : Value → Except ε α} {part : σ → α}
    (h : ∀ {state item next}, step state item = .ok next →
      IsLast read (part state) (item.named? name) (part next))
    (hrun : items.foldlM step state = .ok last) :
    IsLast read (part state) (Value.lastNamed? name items) (part last) := by
  induction items generalizing state with
  | nil =>
    obtain rfl := Except.ok.inj hrun
    rfl
  | cons item rest ih =>
    rw [List.foldlM_cons] at hrun
    cases hnext : step state item with
    | error fault =>
      rw [hnext] at hrun
      cases hrun
    | ok next =>
      rw [hnext] at hrun
      rw [Value.lastNamed?_cons]
      exact (h hnext).trans (ih hrun)

/-- If what is asked of an item does not depend on the state, all items are read exactly when each
of them can be. -/
theorem foldlM_isOk_iff {good : Value → Prop}
    (h : ∀ state item, (∃ next, step state item = .ok next) ↔ good item) (items : List Value)
    (state : σ) :
    (∃ last, items.foldlM step state = .ok last) ↔ ∀ item ∈ items, good item := by
  induction items generalizing state with
  | nil => exact ⟨fun _ _ hitem => absurd hitem List.not_mem_nil, fun _ => ⟨state, rfl⟩⟩
  | cons item rest ih =>
    rw [List.forall_mem_cons, List.foldlM_cons, ← h state item]
    cases hnext : step state item with
    | error fault => simp [bind, Except.bind]
    | ok next => simp [bind, Except.bind, ih next]

theorem map_isOk_iff {β : Type} {read : Except ε α} {set : α → β} :
    (∃ next, read.map set = .ok next) ↔ ∃ value, read = .ok value := by
  cases read <;> simp [Except.map]

theorem map_eq_ok_iff {β : Type} {read : Except ε α} {set : α → β} {next : β} :
    read.map set = .ok next ↔ ∃ value, read = .ok value ∧ set value = next := by
  cases read <;> simp [Except.map]

theorem map_eq_error_iff {β : Type} {read : Except ε α} {set : α → β} {fault : ε} :
    read.map set = .error fault ↔ read = .error fault := by
  cases read <;> simp [Except.map]

/-- Items are refused for one of them. -/
theorem exists_of_foldlM_error {fault : ε} (h : items.foldlM step state = .error fault) :
    ∃ reached, ∃ item ∈ items, step reached item = .error fault := by
  induction items generalizing state with
  | nil => cases h
  | cons item rest ih =>
    rw [List.foldlM_cons] at h
    cases hnext : step state item with
    | error cause =>
      rw [hnext] at h
      obtain rfl := Except.error.inj h
      exact ⟨state, item, List.mem_cons_self, hnext⟩
    | ok next =>
      rw [hnext] at h
      obtain ⟨reached, other, hother, hfault⟩ := ih h
      exact ⟨reached, other, List.mem_cons_of_mem _ hother, hfault⟩

end Reading

/-! ## Time stamps -/

namespace Stamps

variable {outer : String} {stamps next : Stamps} {item : Value} {items : List Value}

/-- Each stamp is read from the value held under its name, or is as before if there is none. -/
structure IsRead (outer : String) (before : Stamps) (held : String → Option Value)
    (after : Stamps) : Prop where
  createdAt : IsLast (readStamp (innerName outer createdAtName)) before.createdAt
    (held createdAtName) after.createdAt
  updatedAt : IsLast (readStamp (innerName outer updatedAtName)) before.updatedAt
    (held updatedAtName) after.updatedAt
  signature : IsLast (readSignature (innerName outer signatureName)) before.signature
    (held signatureName) after.signature

theorem IsRead.unique {before left right : Stamps} {held : String → Option Value}
    (hleft : IsRead outer before held left) (hright : IsRead outer before held right) :
    left = right := by
  obtain ⟨createdAt, updatedAt, signature⟩ := left
  obtain rfl := hleft.createdAt.unique hright.createdAt
  obtain rfl := hleft.updatedAt.unique hright.updatedAt
  obtain rfl := hleft.signature.unique hright.signature
  rfl

theorem isRead_readProperty (h : stamps.readProperty outer item = .ok next) :
    IsRead outer stamps (fun name => item.named? name) next := by
  cases item with
  | property name value =>
    simp only [readProperty] at h
    split_ifs at h with hcreated hupdated hsignature
    · subst hcreated
      obtain ⟨time, htime, rfl⟩ := map_eq_ok_iff.1 h
      exact ⟨htime, rfl, rfl⟩
    · subst hupdated
      obtain ⟨time, htime, rfl⟩ := map_eq_ok_iff.1 h
      exact ⟨rfl, htime, rfl⟩
    · subst hsignature
      obtain ⟨id, hid, rfl⟩ := map_eq_ok_iff.1 h
      exact ⟨rfl, rfl, hid⟩
    · obtain rfl := Except.ok.inj h
      constructor <;> simp [Value.named?, IsLast, *]
  | _ => cases h

theorem isWritable_of_readProperty_error {cause : Malformation}
    (h : stamps.readProperty outer item = .error cause) : cause.isWritable = true := by
  cases item with
  | property name value =>
    simp only [readProperty] at h
    split_ifs at h
    · exact isWritable_of_readStamp_error (map_eq_error_iff.1 h)
    · exact isWritable_of_readStamp_error (map_eq_error_iff.1 h)
    · exact isWritable_of_readSignature_error (map_eq_error_iff.1 h)
  | _ =>
    cases h
    rfl

/-- A property is read into time stamps exactly if it may stand among them. -/
theorem readProperty_isOk_iff :
    (∃ next, stamps.readProperty outer item = .ok next) ↔ item.IsStampItem := by
  cases item with
  | property name value =>
    simp only [readProperty, Value.IsStampItem]
    split_ifs with hcreated hupdated hsignature
    · simp [map_isOk_iff, readStamp_isOk_iff, hcreated, createdAtName, updatedAtName,
        signatureName]
    · simp [map_isOk_iff, readStamp_isOk_iff, hupdated, createdAtName, updatedAtName,
        signatureName]
    · simp [map_isOk_iff, readSignature_isOk_iff, hsignature, createdAtName, updatedAtName,
        signatureName]
    · simp [hcreated, hupdated, hsignature]
  | _ => simp [readProperty, Value.IsStampItem]

theorem foldlM_readProperty_isOk_iff :
    (∃ read, items.foldlM (readProperty outer) .empty = .ok read) ↔
      ∀ item ∈ items, item.IsStampItem := by
  have hstep : ∀ (stamps : Stamps) (item : Value),
      (∃ next, stamps.readProperty outer item = .ok next) ↔ item.IsStampItem :=
    fun _ _ => readProperty_isOk_iff
  exact foldlM_isOk_iff hstep items .empty

theorem isRead_foldlM {read : Stamps} (h : items.foldlM (readProperty outer) .empty = .ok read) :
    IsRead outer .empty (Value.lastNamed? · items) read where
  createdAt := isLast_foldlM (fun hstep => (isRead_readProperty hstep).createdAt) h
  updatedAt := isLast_foldlM (fun hstep => (isRead_readProperty hstep).updatedAt) h
  signature := isLast_foldlM (fun hstep => (isRead_readProperty hstep).signature) h

/-- Time stamps are read from a list exactly if each of its items may stand there. They are read
from the last property of each name, and then settled. -/
theorem ofProperties_eq_ok_iff :
    ofProperties outer items = .ok stamps ↔
      (∀ item ∈ items, item.IsStampItem) ∧
        ∃ read, IsRead outer .empty (Value.lastNamed? · items) read ∧ stamps = read.settle := by
  rw [ofProperties, map_eq_ok_iff]
  constructor
  · rintro ⟨last, hrun, rfl⟩
    exact ⟨foldlM_readProperty_isOk_iff.1 ⟨last, hrun⟩, last, isRead_foldlM hrun, rfl⟩
  · rintro ⟨hitems, read, hread, rfl⟩
    obtain ⟨last, hrun⟩ := foldlM_readProperty_isOk_iff.2 hitems
    exact ⟨last, hrun, by rw [(isRead_foldlM hrun).unique hread]⟩

end Stamps

theorem readStamps_isOk_iff {name : String} {value : Value} :
    (∃ stamps, readStamps name value = .ok stamps) ↔ value.IsStampList := by
  have hitems : ∀ items : List Value, (∃ stamps, Stamps.ofProperties name items = .ok stamps) ↔
      ∀ item ∈ items, item.IsStampItem := by
    intro items
    rw [Stamps.ofProperties, map_isOk_iff]
    exact Stamps.foldlM_readProperty_isOk_iff
  cases value with
  | list items => simpa [readStamps, Value.IsStampList, Value.IsComposite] using hitems items
  | tuple items => simpa [readStamps, Value.IsStampList, Value.IsComposite] using hitems items
  | _ => simp [readStamps, Value.IsStampList, Value.IsComposite]

/-! ## Records -/

namespace Blob

variable {blob next : Blob} {item key : Value} {items : List Value}

/-- Each field but the key is read from the value held under its name, or is as before if there is
none. -/
structure IsRead (before : Blob) (held : String → Option Value) (after : Blob) : Prop where
  size : IsLast (readSize sizeName) before.size (held sizeName) after.size
  status : IsLast (readStatus statusName) before.status (held statusName) after.status
  storeKey : IsLast (readText storeKeyName) before.storeKey (held storeKeyName) after.storeKey
  recordKey : IsLast (readText recordKeyName) before.recordKey (held recordKeyName) after.recordKey
  stamps : IsLast (readStamps timestampsName) before.stamps (held timestampsName) after.stamps

theorem IsRead.unique {before left right : Blob} {held : String → Option Value}
    (hleft : IsRead before held left) (hright : IsRead before held right)
    (hkey : left.key = right.key) : left = right := by
  obtain ⟨key, size, status, storeKey, recordKey, stamps⟩ := left
  obtain rfl := hleft.size.unique hright.size
  obtain rfl := hleft.status.unique hright.status
  obtain rfl := hleft.storeKey.unique hright.storeKey
  obtain rfl := hleft.recordKey.unique hright.recordKey
  obtain rfl := hleft.stamps.unique hright.stamps
  obtain rfl : key = right.key := hkey
  rfl

theorem isRead_readProperty (h : blob.readProperty item = .ok next) :
    IsRead blob (fun name => item.named? name) next := by
  cases item with
  | property name value =>
    simp only [readProperty] at h
    split_ifs at h with hsize hstatus hstore hrecord hstamps
    · subst hsize
      obtain ⟨size, hread, rfl⟩ := map_eq_ok_iff.1 h
      exact ⟨hread, rfl, rfl, rfl, rfl⟩
    · subst hstatus
      obtain ⟨status, hread, rfl⟩ := map_eq_ok_iff.1 h
      exact ⟨rfl, hread, rfl, rfl, rfl⟩
    · subst hstore
      obtain ⟨storeKey, hread, rfl⟩ := map_eq_ok_iff.1 h
      exact ⟨rfl, rfl, hread, rfl, rfl⟩
    · subst hrecord
      obtain ⟨recordKey, hread, rfl⟩ := map_eq_ok_iff.1 h
      exact ⟨rfl, rfl, rfl, hread, rfl⟩
    · subst hstamps
      obtain ⟨stamps, hread, rfl⟩ := map_eq_ok_iff.1 h
      exact ⟨rfl, rfl, rfl, rfl, hread⟩
    · obtain rfl := Except.ok.inj h
      constructor <;> simp [Value.named?, IsLast, *]
  | _ => cases h

theorem readProperty_timestamps (blob : Blob) (value : Value) :
    blob.readProperty (.property timestampsName value) =
      (readStamps timestampsName value).map fun stamps => { blob with stamps } := rfl

/-- A property is read into a record exactly if a record may be read from it. -/
theorem readProperty_isOk_iff :
    (∃ next, blob.readProperty item = .ok next) ↔ item.IsRecordItem := by
  cases item with
  | property name value =>
    simp only [readProperty, Value.IsRecordItem]
    split_ifs with hsize hstatus hstore hrecord hstamps
    · simp [map_isOk_iff, readSize_isOk_iff, hsize, sizeName, statusName, storeKeyName,
        recordKeyName, timestampsName]
    · simp [map_isOk_iff, readStatus_isOk_iff, hstatus, sizeName, statusName, storeKeyName,
        recordKeyName, timestampsName]
    · simp [map_isOk_iff, readText_isOk_iff, hstore, sizeName, statusName, storeKeyName,
        recordKeyName, timestampsName]
    · simp [map_isOk_iff, readText_isOk_iff, hrecord, sizeName, statusName, storeKeyName,
        recordKeyName, timestampsName]
    · simp [map_isOk_iff, readStamps_isOk_iff, hstamps, sizeName, statusName, storeKeyName,
        recordKeyName, timestampsName]
    · simp [hsize, hstatus, hstore, hrecord, hstamps]
  | _ => simp [readProperty, Value.IsRecordItem]

theorem foldlM_readProperty_isOk_iff :
    (∃ read, items.foldlM readProperty .empty = .ok read) ↔
      ∀ item ∈ items, item.IsRecordItem := by
  have hstep : ∀ (blob : Blob) (item : Value),
      (∃ next, blob.readProperty item = .ok next) ↔ item.IsRecordItem :=
    fun _ _ => readProperty_isOk_iff
  exact foldlM_isOk_iff hstep items .empty

theorem isRead_foldlM {read : Blob} (h : items.foldlM readProperty .empty = .ok read) :
    IsRead .empty (Value.lastNamed? · items) read where
  size := isLast_foldlM (fun hstep => (isRead_readProperty hstep).size) h
  status := isLast_foldlM (fun hstep => (isRead_readProperty hstep).status) h
  storeKey := isLast_foldlM (fun hstep => (isRead_readProperty hstep).storeKey) h
  recordKey := isLast_foldlM (fun hstep => (isRead_readProperty hstep).recordKey) h
  stamps := isLast_foldlM (fun hstep => (isRead_readProperty hstep).stamps) h

/-- What is wrong with time stamps can be told. -/
theorem isWritable_of_readStamps_error {cause : Malformation}
    (h : readStamps name value = .error cause) : cause.isWritable = true := by
  have hitems : ∀ items, Stamps.ofProperties name items = .error cause →
      cause.isWritable = true := by
    intro items hrefused
    obtain ⟨stamps, item, -, hread⟩ := exists_of_foldlM_error (map_eq_error_iff.1 hrefused)
    exact Stamps.isWritable_of_readProperty_error hread
  unfold readStamps at h
  split at h
  · exact hitems _ h
  · exact hitems _ h
  · cases h
    rfl

/-- A malformed property has a cause that can be told, unless it has to name a number without a
text. -/
theorem isWritable_of_readProperty_error {cause : Malformation}
    (h : blob.readProperty item = .error cause) (hlong : ¬item.IsLong) :
    cause.isWritable = true := by
  cases item with
  | property name value =>
    have htold : ∀ held, value = .integer held →
        name = sizeName ∧ held < 0 ∨ name = statusName → Text.isWritable held = true := by
      rintro held rfl hnamed
      exact Bool.not_eq_false _ ▸ fun hheld => hlong ⟨name, held, rfl, hheld, hnamed⟩
    simp only [readProperty] at h
    split_ifs at h with hsize hstatus
    · exact isWritable_of_readSize_error (map_eq_error_iff.1 h) fun held hheld hnegative =>
        htold held hheld (.inl ⟨hsize, hnegative⟩)
    · exact isWritable_of_readStatus_error (map_eq_error_iff.1 h) fun held hheld =>
        htold held hheld (.inr hstatus)
    · exact isWritable_of_readText_error (map_eq_error_iff.1 h)
    · exact isWritable_of_readText_error (map_eq_error_iff.1 h)
    · exact isWritable_of_readStamps_error (map_eq_error_iff.1 h)
  | _ =>
    obtain rfl := Except.error.inj h
    rfl

/-- A list with an item that no record may be read from is malformed, whatever the key is. The cause
can be told unless it has to name a number without a text. -/
theorem ofItems_of_not_isRecordItem (h : ¬∀ item ∈ items, item.IsRecordItem) (key : Value) :
    ∃ cause, Blob.ofItems items key = .error (.ofMalformation cause) ∧
      ((∀ item ∈ items, ¬item.IsLong) → cause.isWritable = true) := by
  cases hrun : items.foldlM readProperty .empty with
  | error cause =>
    refine ⟨cause, by simp only [ofItems, hrun], fun hlong => ?_⟩
    obtain ⟨blob, item, hitem, hread⟩ := exists_of_foldlM_error hrun
    exact isWritable_of_readProperty_error hread (hlong item hitem)
  | ok read => exact absurd (foldlM_readProperty_isOk_iff.1 ⟨read, hrun⟩) h

/-- A list of which a record may be read is rejected for its key alone. -/
theorem ofItems_of_identifier_error (h : ∀ item ∈ items, item.IsRecordItem) {cause : FieldCause}
    (hkey : Field.identifier key = .error cause) :
    Blob.ofItems items key = .error (.rejected [⟨["key"], cause⟩]) := by
  obtain ⟨read, hrun⟩ := foldlM_readProperty_isOk_iff.2 h
  simp only [ofItems, hrun, hkey, Checked.at?]

/-- A list of which a record may be read is read under every key that the key field accepts. -/
theorem exists_ofItems (h : ∀ item ∈ items, item.IsRecordItem) {id : Option Uuid}
    (hkey : Field.identifier key = .ok id) : ∃ blob, Blob.ofItems items key = .ok blob := by
  obtain ⟨read, hrun⟩ := foldlM_readProperty_isOk_iff.2 h
  exact ⟨{ read with key := id }, by simp only [ofItems, hrun, hkey, Checked.at?]⟩

/-- **What a list is read as.** A record is read from a list under a key exactly if a record may be
read from each item and the key is one that the key field accepts. It has that key, and its other
fields are read from the last property of each name. -/
theorem ofItems_eq_ok_iff :
    Blob.ofItems items key = .ok blob ↔
      (∀ item ∈ items, item.IsRecordItem) ∧ Field.identifier key = .ok blob.key ∧
        IsRead .empty (Value.lastNamed? · items) blob := by
  constructor
  · intro h
    cases hrun : items.foldlM readProperty .empty with
    | error cause => simp [ofItems, hrun] at h
    | ok read =>
      cases hkey : Field.identifier key with
      | error cause => simp [ofItems, hrun, hkey, Checked.at?] at h
      | ok id =>
        simp only [ofItems, hrun, hkey, Checked.at?, Except.ok.injEq] at h
        subst h
        have hread := isRead_foldlM hrun
        exact ⟨foldlM_readProperty_isOk_iff.1 ⟨read, hrun⟩, rfl,
          ⟨hread.size, hread.status, hread.storeKey, hread.recordKey, hread.stamps⟩⟩
  · rintro ⟨hitems, hkey, hblob⟩
    obtain ⟨read, hrun⟩ := foldlM_readProperty_isOk_iff.2 hitems
    have hread := isRead_foldlM hrun
    have hkeyed : IsRead .empty (Value.lastNamed? · items) { read with key := blob.key } :=
      ⟨hread.size, hread.status, hread.storeKey, hread.recordKey, hread.stamps⟩
    simp only [ofItems, hrun, hkey, Checked.at?, hkeyed.unique hblob rfl]

/-! ## Names that are passed over -/

end Blob

section Passing

variable {before after front back : List Value} {name : String} {value wide narrow : Value}

/-- The names of the properties that a record is read from. -/
def recordNames : List String :=
  [sizeName, statusName, storeKeyName, recordKeyName, timestampsName]

/-- The names of the properties that time stamps are read from. -/
def stampNames : List String := [createdAtName, updatedAtName, signatureName]

theorem Blob.readProperty_of_not_mem (h : name ∉ recordNames) (blob : Blob) :
    blob.readProperty (.property name value) = .ok blob := by
  simp only [recordNames, List.mem_cons, List.not_mem_nil, or_false, not_or] at h
  obtain ⟨hsize, hstatus, hstore, hrecord, hstamps⟩ := h
  simp only [readProperty, hsize, hstatus, hstore, hrecord, hstamps, if_false]

theorem Stamps.readProperty_of_not_mem (h : name ∉ stampNames) (outer : String)
    (stamps : Stamps) : stamps.readProperty outer (.property name value) = .ok stamps := by
  simp only [stampNames, List.mem_cons, List.not_mem_nil, or_false, not_or] at h
  obtain ⟨hcreated, hupdated, hsignature⟩ := h
  simp only [readProperty, hcreated, hupdated, hsignature, if_false]

/-- An item that no step takes notice of may be left out. -/
theorem foldlM_insert {σ ε : Type} {step : σ → Value → Except ε σ} {item : Value}
    (h : ∀ state, step state item = .ok state) (before after : List Value) (state : σ) :
    (before ++ item :: after).foldlM step state = (before ++ after).foldlM step state := by
  simp only [List.foldlM_append, List.foldlM_cons, h]
  rfl

/-- A composite value is read as the time stamps that its items describe. -/
theorem readStamps_of_isComposite (outer : String) {items : List Value}
    (h : value.IsComposite items) : readStamps outer value = Stamps.ofProperties outer items := by
  rcases h with rfl | rfl <;> rfl

/-- A value has the items of one list only. -/
theorem Value.IsComposite.items_eq {items others : List Value} (h : value.IsComposite items)
    (hother : value.IsComposite others) : items = others := by
  rcases h with rfl | rfl <;> rcases hother with heq | heq <;> cases heq <;> rfl

theorem Value.IsStampList.items {items : List Value} (h : value.IsStampList)
    (hitems : value.IsComposite items) : ∀ item ∈ items, item.IsStampItem := by
  obtain ⟨held, hheld, hgood⟩ := h
  obtain rfl := hheld.items_eq hitems
  exact hgood

/-- A property with another name may be left out of a list, whatever it holds. -/
theorem Blob.ofItems_insert (h : name ∉ recordNames) (before after : List Value)
    (value key : Value) :
    Blob.ofItems (before ++ .property name value :: after) key =
      Blob.ofItems (before ++ after) key := by
  simp only [Blob.ofItems, foldlM_insert (Blob.readProperty_of_not_mem h)]

/-- A property with another name may be left out of time stamps, whatever it holds. -/
theorem Blob.ofItems_insert_inner (h : name ∉ stampNames) (before after : List Value)
    (hwide : wide.IsComposite (front ++ .property name value :: back))
    (hnarrow : narrow.IsComposite (front ++ back)) (key : Value) :
    Blob.ofItems (before ++ .property timestampsName wide :: after) key =
      Blob.ofItems (before ++ .property timestampsName narrow :: after) key := by
  have hsame : readStamps timestampsName wide = readStamps timestampsName narrow := by
    rw [readStamps_of_isComposite _ hwide, readStamps_of_isComposite _ hnarrow,
      Stamps.ofProperties, foldlM_insert (Stamps.readProperty_of_not_mem h timestampsName),
      Stamps.ofProperties]
  simp only [Blob.ofItems, List.foldlM_append, List.foldlM_cons, Blob.readProperty_timestamps,
    hsame]

end Passing

/-! ## Accepted lists -/

/-- No item of the list is a property of the name. -/
def Value.Lacks (name : String) (items : List Value) : Prop :=
  ∀ value, Value.property name value ∉ items

/-- The record is empty where the list has no property of a name, and so are its time stamps where
the last composite value has none. -/
structure Blob.IsEmptyWithout (blob : Blob) (items : List Value) : Prop where
  size : Value.Lacks sizeName items → blob.size = 0
  status : Value.Lacks statusName items → blob.status = .unknown
  storeKey : Value.Lacks storeKeyName items → blob.storeKey = ""
  recordKey : Value.Lacks recordKeyName items → blob.recordKey = ""
  stamps : Value.Lacks timestampsName items → blob.stamps = .empty
  inner : ∀ value inner, Value.lastNamed? timestampsName items = some value →
    value.IsComposite inner →
      (Value.Lacks createdAtName inner → blob.stamps.createdAt = none) ∧
      (Value.Lacks updatedAtName inner → blob.stamps.updatedAt = none) ∧
      (Value.Lacks signatureName inner → blob.stamps.signature = none)

theorem IsLast.eq_default {α ε : Type} {read : Value → Except ε α} {default result : α}
    {name : String} {items : List Value}
    (h : IsLast read default (Value.lastNamed? name items) result)
    (hlacks : Value.Lacks name items) :
    result = default := by
  rw [Value.lastNamed?_eq_none_iff.2 hlacks] at h
  exact h

theorem Blob.IsRead.isEmptyWithout {blob : Blob} {items : List Value}
    (h : IsRead .empty (Value.lastNamed? · items) blob) : blob.IsEmptyWithout items where
  size := h.size.eq_default
  status := h.status.eq_default
  storeKey := h.storeKey.eq_default
  recordKey := h.recordKey.eq_default
  stamps := h.stamps.eq_default
  inner := by
    intro value inner hvalue hcomposite
    have hstamps := h.stamps
    rw [hvalue] at hstamps
    have hread : readStamps timestampsName value = .ok blob.stamps := hstamps
    rw [readStamps_of_isComposite _ hcomposite] at hread
    obtain ⟨-, read, hlast, heq⟩ := Stamps.ofProperties_eq_ok_iff.1 hread
    rw [heq]
    refine ⟨fun hlacks => hlast.createdAt.eq_default hlacks, fun hlacks => ?_,
      fun hlacks => hlast.signature.eq_default hlacks⟩
    have hnone : read.updatedAt = none := hlast.updatedAt.eq_default hlacks
    simp [Stamps.settle, hnone]

/-- **Which lists are accepted.** A record is read from a list of values exactly if every item is a
property whose value is one that its name asks for, and the key is one that the key field accepts.
Otherwise the list is malformed, or it is rejected for its key; only if a size below zero or a
status has too many digits to have a text, the fault may be that of the number. The record has the
key that the field makes of it, and is empty where no property has the name. Properties with other
names change nothing, among the items and among the time stamps. -/
theorem ofProperties_accepts_iff (key : Value) :
    (∀ items,
      ((∃ blob, Blob.ofProperties (.list items) key = .ok blob) ↔
        (∀ item ∈ items, item.IsRecordItem) ∧ ∃ id, Field.identifier key = .ok id) ∧
      (∀ fault, Blob.ofProperties (.list items) key = .error fault →
        (∃ cause, fault = .malformed cause) ∨
          (∃ cause, Field.identifier key = .error cause ∧
            fault = .rejected [⟨["key"], cause⟩]) ∨
          fault = .unreadable ∧ ∃ item ∈ items, item.IsLong) ∧
      ∀ blob, Blob.ofProperties (.list items) key = .ok blob →
        Field.identifier key = .ok blob.key ∧ blob.IsEmptyWithout items) ∧
    (∀ before after name value, name ∉ recordNames →
      Blob.ofProperties (.list (before ++ .property name value :: after)) key =
        Blob.ofProperties (.list (before ++ after)) key) ∧
    ∀ before after front back name value wide narrow, name ∉ stampNames →
      Value.IsComposite (front ++ .property name value :: back) wide →
      Value.IsComposite (front ++ back) narrow →
      Blob.ofProperties (.list (before ++ .property timestampsName wide :: after)) key =
        Blob.ofProperties (.list (before ++ .property timestampsName narrow :: after)) key := by
  have hitems : ∀ items, Blob.ofProperties (.list items) key = Blob.ofItems items key :=
    fun _ => rfl
  simp only [hitems]
  refine ⟨fun items => ⟨⟨?_, ?_⟩, ?_, ?_⟩, ?_, ?_⟩
  · rintro ⟨blob, hblob⟩
    obtain ⟨hgood, hkey, -⟩ := Blob.ofItems_eq_ok_iff.1 hblob
    exact ⟨hgood, blob.key, hkey⟩
  · rintro ⟨hgood, id, hkey⟩
    exact Blob.exists_ofItems hgood hkey
  · intro fault hfault
    -- If every item is good, only the key is left to be at fault.
    by_cases hgood : ∀ item ∈ items, item.IsRecordItem
    · cases hkey : Field.identifier key with
      | error cause =>
        rw [Blob.ofItems_of_identifier_error hgood hkey] at hfault
        exact .inr (.inl ⟨cause, rfl, (Except.error.inj hfault).symm⟩)
      | ok id =>
        obtain ⟨blob, hblob⟩ := Blob.exists_ofItems hgood hkey
        rw [hblob] at hfault
        cases hfault
    · obtain ⟨cause, hcause, htold⟩ := Blob.ofItems_of_not_isRecordItem hgood key
      obtain rfl := Except.error.inj (hcause.symm.trans hfault)
      rw [Fault.ofMalformation]
      split
      · exact .inl ⟨cause, rfl⟩
      · next huntold =>
        refine .inr (.inr ⟨rfl, ?_⟩)
        by_contra hnone
        exact huntold (htold fun item hitem hlong => hnone ⟨item, hitem, hlong⟩)
  · intro blob hblob
    obtain ⟨-, hkey, hread⟩ := Blob.ofItems_eq_ok_iff.1 hblob
    exact ⟨hkey, hread.isEmptyWithout⟩
  · intro before after name value hname
    exact Blob.ofItems_insert hname before after value key
  · intro before after front back name value wide narrow hname hwide hnarrow
    exact Blob.ofItems_insert_inner hname before after hwide hnarrow key

/-! A list with a status as its size, a size that is overwritten, other names at both levels and no
status; before it, a size that is a truth value and is overwritten too. -/

/-- The time stamps of the sample list. -/
def sampleComposite : Value :=
  .tuple [.property "Zone" .thing, .property createdAtName (.dateTime sampleTime)]

/-- A list that a record is read from. -/
def sampleItems : List Value :=
  [.property sizeName (.status .ready), .property "Color" .thing,
    .property timestampsName sampleComposite, .property sizeName (.integer 7)]

theorem isRecordItem_sampleItems : ∀ item ∈ sampleItems, item.IsRecordItem := by
  have hcomposite : sampleComposite.IsStampList := by
    have haware : sampleTime.isAware = true := rfl
    refine ⟨_, .inr rfl, ?_⟩
    simp [Value.IsStampItem, Value.IsStamp, createdAtName, updatedAtName, signatureName, haware]
  simp [sampleItems, Value.IsRecordItem, Value.IsSize, Value.IsInteger, hcomposite, sizeName,
    statusName, storeKeyName, recordKeyName, timestampsName]

theorem not_isLong_of_mem_sampleItems {item : Value}
    (h : item ∈ .property sizeName (.boolean true) :: sampleItems) : ¬item.IsLong := by
  rintro ⟨name, number, rfl, hlong, -⟩
  simp only [sampleItems, List.mem_cons, Value.property.injEq, reduceCtorEq, and_false,
    Value.integer.injEq, List.not_mem_nil, false_or, or_false] at h
  rcases h with ⟨-, hcomposite⟩ | ⟨-, rfl⟩
  · cases hcomposite
  · rw [isWritable_of_lt (by decide)] at hlong
    cases hlong

theorem ofProperties_sampleItems :
    (∃ blob, Blob.ofProperties (.list sampleItems) (.uuid sampleKey) = .ok blob ∧
      blob.key = some sampleKey ∧ blob.status = .unknown ∧ blob.stamps.updatedAt = none) ∧
    ∃ cause, Blob.ofProperties (.list (.property sizeName (.boolean true) :: sampleItems))
      (.uuid sampleKey) = .error (.malformed cause) := by
  obtain ⟨hlists, -, -⟩ := ofProperties_accepts_iff (.uuid sampleKey)
  have hkey : Field.identifier (.uuid sampleKey) = .ok (some sampleKey) := rfl
  constructor
  · obtain ⟨haccepts, -, hread⟩ := hlists sampleItems
    obtain ⟨blob, hblob⟩ := haccepts.2 ⟨isRecordItem_sampleItems, some sampleKey, hkey⟩
    obtain ⟨hid, hempty⟩ := hread blob hblob
    have hstatus : Value.Lacks statusName sampleItems := by
      simp [Value.Lacks, sampleItems, sizeName, statusName, timestampsName]
    have hupdated : Value.Lacks updatedAtName
        [.property "Zone" .thing, .property createdAtName (.dateTime sampleTime)] := by
      simp [Value.Lacks, createdAtName, updatedAtName]
    obtain ⟨-, hnone, -⟩ := hempty.inner sampleComposite _ (by with_unfolding_all rfl) (.inr rfl)
    exact ⟨blob, hblob, (Except.ok.inj hid).symm, hempty.status hstatus, hnone hupdated⟩
  · obtain ⟨haccepts, hfault, -⟩ := hlists (.property sizeName (.boolean true) :: sampleItems)
    cases hread : Blob.ofProperties (.list (.property sizeName (.boolean true) :: sampleItems))
        (.uuid sampleKey) with
    | ok blob =>
      -- A truth value is no size, although a later size stands.
      have hgood := (haccepts.1 ⟨blob, hread⟩).1 _ List.mem_cons_self
      simp [Value.IsRecordItem, Value.IsSize, Value.IsInteger] at hgood
    | error fault =>
      rcases hfault fault hread with ⟨cause, rfl⟩ | ⟨cause, hcause, -⟩ | ⟨-, item, hitem, hlong⟩
      · exact ⟨cause, rfl⟩
      · rw [hkey] at hcause
        cases hcause
      · exact absurd hlong (not_isLong_of_mem_sampleItems hitem)

end BlobCatalog
