import BlobCatalog.Proofs.PropertyReading

/-!
# Matching lists are read as corresponding records

What is read from a list depends on the last property of each name alone, and the same holds of the
time stamps inside it. Lists that match there (`Matches`) are read as corresponding records, for any
relation between values that the single readers respect (`Respects`, `Matches.corresponds`). Two
relations are respected: the same values are read as the same record (`Matches.eq_of_ofItems`), and
values that compare as equal, such as a status and its code or one instant with two offsets, are
read as records that compare as equal (`Matches.isEqual_of_ofItems`). For this the times of the
records have to be in no zone. Then the last update is raised to the creation for both lists or for
neither, as it is instants that count there (`isBefore_iff_of_same`).
-/

namespace BlobCatalog

open Calendar (DateTime)
open Value (lastNamed? named?)

/-! ## Related lists -/

/-- The lists have related values at the last property of each name, or both lack it. -/
def RelatedAt (related : Value → Value → Prop) (names : List String) (left right : List Value) :
    Prop :=
  ∀ name ∈ names, Option.Rel related (lastNamed? name left) (lastNamed? name right)

/-- The values are related, or composite values whose time stamps are related by name. -/
def Value.HasRelatedStamps (related : Value → Value → Prop) (left right : Value) : Prop :=
  related left right ∨ ∃ inner other, left.IsComposite inner ∧ right.IsComposite other ∧
    RelatedAt related stampNames inner other

/-- The lists have related values for every field of a record, the time stamps being compared by
their own properties. -/
structure Matches (related : Value → Value → Prop) (left right : List Value) : Prop where
  fields : RelatedAt related [sizeName, statusName, storeKeyName, recordKeyName] left right
  stamps : Option.Rel (Value.HasRelatedStamps related) (lastNamed? timestampsName left)
    (lastNamed? timestampsName right)

/-! ## Readers that respect a relation -/

/-- The stamps differ at most in how their times are given. -/
structure Stamps.Corresponds (alike : DateTime → DateTime → Prop) (left right : Stamps) : Prop where
  createdAt : Option.Rel alike left.createdAt right.createdAt
  updatedAt : Option.Rel alike left.updatedAt right.updatedAt
  signature : left.signature = right.signature

/-- Related values are read as the same size, status, text or signature and as times that are alike,
and related composite values have related time stamps. Stamps with times that are alike are made
into related stamps when they are settled. -/
structure Respects (related : Value → Value → Prop) (alike : DateTime → DateTime → Prop)
    (made : Stamps → Stamps → Prop) : Prop where
  size : ∀ {name left right size other}, related left right → readSize name left = .ok size →
    readSize name right = .ok other → size = other
  status : ∀ {name left right status other}, related left right →
    readStatus name left = .ok status → readStatus name right = .ok other → status = other
  text : ∀ {name left right text other}, related left right → readText name left = .ok text →
    readText name right = .ok other → text = other
  signature : ∀ {name left right id other}, related left right →
    readSignature name left = .ok id → readSignature name right = .ok other → id = other
  stamp : ∀ {name left right stamp other}, related left right → readStamp name left = .ok stamp →
    readStamp name right = .ok other → Option.Rel alike stamp other
  composite : ∀ {left right inner other}, related left right → Value.IsComposite inner left →
    Value.IsComposite other right → RelatedAt related stampNames inner other
  settle : ∀ {left right : Stamps}, left.Corresponds alike right → made left.settle right.settle
  empty : made .empty .empty

/-- The records are the same but for their stamps, which are related. -/
structure Blob.Corresponds (made : Stamps → Stamps → Prop) (left right : Blob) : Prop where
  key : left.key = right.key
  size : left.size = right.size
  status : left.status = right.status
  storeKey : left.storeKey = right.storeKey
  recordKey : left.recordKey = right.recordKey
  stamps : made left.stamps right.stamps

/-- What is read from related values is related if the reader relates it and the default is related
to itself. -/
theorem IsLast.rel {α ε : Type} {related : Value → Value → Prop} {made : α → α → Prop}
    {read : Value → Except ε α} {default left right : α} {held other : Option Value}
    (h : Option.Rel related held other) (hdefault : made default default)
    (hread : ∀ {value another first second}, related value another → read value = .ok first →
      read another = .ok second → made first second)
    (hleft : IsLast read default held left) (hright : IsLast read default other right) :
    made left right := by
  cases h with
  | none =>
    obtain rfl : left = default := hleft
    obtain rfl : right = left := hright
    exact hdefault
  | some hrelated => exact hread hrelated hleft hright

section Options

variable {α : Type} {made : α → α → Prop} {left right first second : Option α}

theorem rel_mono {weaker : α → α → Prop} (h : Option.Rel made left right)
    (hweaker : ∀ {one other}, made one other → weaker one other) :
    Option.Rel weaker left right := by
  cases h with
  | none => exact .none
  | some hone => exact .some (hweaker hone)

theorem rel_or (h : Option.Rel made left right) (hnext : Option.Rel made first second) :
    Option.Rel made (left.or first) (right.or second) := by
  cases h with
  | none => exact hnext
  | some hone => exact .some hone

theorem rel_eq_iff : Option.Rel Eq left right ↔ left = right := by
  cases left <;> cases right <;> simp

end Options

section Corresponding

variable {related : Value → Value → Prop} {alike : DateTime → DateTime → Prop}
  {made : Stamps → Stamps → Prop}

/-- Time stamps that are read from related properties correspond. -/
theorem Respects.stamps_of_isRead (hrespects : Respects related alike made) {outer : String}
    {held other : List Value} {left right : Stamps} (h : RelatedAt related stampNames held other)
    (hleft : Stamps.IsRead outer .empty (lastNamed? · held) left)
    (hright : Stamps.IsRead outer .empty (lastNamed? · other) right) :
    left.Corresponds alike right where
  createdAt := IsLast.rel (h createdAtName (by simp [stampNames])) .none hrespects.stamp
    hleft.createdAt hright.createdAt
  updatedAt := IsLast.rel (h updatedAtName (by simp [stampNames])) .none hrespects.stamp
    hleft.updatedAt hright.updatedAt
  signature := IsLast.rel (h signatureName (by simp [stampNames])) rfl hrespects.signature
    hleft.signature hright.signature

theorem Respects.related_composite (hrespects : Respects related alike made) {left right : Value}
    (h : left.HasRelatedStamps related right) {inner other : List Value}
    (hleft : left.IsComposite inner) (hright : right.IsComposite other) :
    RelatedAt related stampNames inner other := by
  rcases h with hrelated | ⟨first, second, hfirst, hsecond, hat⟩
  · exact hrespects.composite hrelated hleft hright
  · obtain rfl := hfirst.items_eq hleft
    obtain rfl := hsecond.items_eq hright
    exact hat

theorem Respects.readStamps (hrespects : Respects related alike made) {name : String}
    {left right : Value} {stamps other : Stamps} (h : left.HasRelatedStamps related right)
    (hleft : readStamps name left = .ok stamps) (hright : readStamps name right = .ok other) :
    made stamps other := by
  obtain ⟨inner, hinner, -⟩ := readStamps_isOk_iff.1 ⟨stamps, hleft⟩
  obtain ⟨outer, houter, -⟩ := readStamps_isOk_iff.1 ⟨other, hright⟩
  rw [readStamps_of_isComposite name hinner] at hleft
  rw [readStamps_of_isComposite name houter] at hright
  obtain ⟨-, read, hread, rfl⟩ := Stamps.ofProperties_eq_ok_iff.1 hleft
  obtain ⟨-, found, hfound, rfl⟩ := Stamps.ofProperties_eq_ok_iff.1 hright
  have hinside := hrespects.related_composite h hinner houter
  exact hrespects.settle (hrespects.stamps_of_isRead hinside hread hfound)

/-- **Matching lists are read as corresponding records** under one key. -/
theorem Matches.corresponds {left right : List Value} {key : Value} {blob other : Blob}
    (h : Matches related left right) (hrespects : Respects related alike made)
    (hleft : Blob.ofItems left key = .ok blob) (hright : Blob.ofItems right key = .ok other) :
    blob.Corresponds made other := by
  obtain ⟨-, hid, hread⟩ := Blob.ofItems_eq_ok_iff.1 hleft
  obtain ⟨-, hagain, hfound⟩ := Blob.ofItems_eq_ok_iff.1 hright
  constructor
  · exact Except.ok.inj (hid.symm.trans hagain)
  · exact IsLast.rel (h.fields sizeName (by simp)) rfl hrespects.size hread.size hfound.size
  · exact IsLast.rel (h.fields statusName (by simp)) rfl hrespects.status hread.status
      hfound.status
  · exact IsLast.rel (h.fields storeKeyName (by simp)) rfl hrespects.text hread.storeKey
      hfound.storeKey
  · exact IsLast.rel (h.fields recordKeyName (by simp)) rfl hrespects.text hread.recordKey
      hfound.recordKey
  · exact IsLast.rel h.stamps hrespects.empty hrespects.readStamps hread.stamps hfound.stamps

end Corresponding

/-! ## The same values -/

/-- A reader makes one thing of one value. -/
theorem eq_of_read {α ε : Type} {read : Value → Except ε α} {left right : Value} {made other : α}
    (h : left = right) (hleft : read left = .ok made) (hright : read right = .ok other) :
    made = other := by
  rw [h, hright] at hleft
  exact (Except.ok.inj hleft).symm

theorem respects_eq : Respects Eq Eq Eq where
  size := eq_of_read
  status := eq_of_read
  text := eq_of_read
  signature := eq_of_read
  stamp := fun h hleft hright => rel_eq_iff.2 (eq_of_read h hleft hright)
  composite := by
    rintro _ _ inner other rfl hleft hright name -
    rw [hleft.items_eq hright]
    exact rel_eq_iff.2 rfl
  settle := by
    rintro ⟨createdAt, updatedAt, signature⟩ ⟨_, _, _⟩ ⟨hcreated, hupdated, rfl⟩
    obtain rfl : createdAt = _ := rel_eq_iff.1 hcreated
    obtain rfl : updatedAt = _ := rel_eq_iff.1 hupdated
    rfl
  empty := rfl

/-- The same values are read as the same record. -/
theorem Matches.eq_of_ofItems {left right : List Value} {key : Value} {blob other : Blob}
    (h : Matches Eq left right) (hleft : Blob.ofItems left key = .ok blob)
    (hright : Blob.ofItems right key = .ok other) : blob = other := by
  obtain ⟨hkey, hsize, hstatus, hstore, hrecord, hstamps⟩ := h.corresponds respects_eq hleft hright
  obtain ⟨key, size, status, storeKey, recordKey, stamps⟩ := blob
  simp only at hkey hsize hstatus hstore hrecord hstamps
  simp only [hkey, hsize, hstatus, hstore, hrecord, hstamps]

/-! ## Equal values -/

namespace Value

variable {left right : Value} {number other : Int}

/-- The values compare as equal. -/
def IsEqual (left right : Value) : Prop := left.same right = true

theorem IsInteger.same_eq (h : left.IsInteger number) (right : Value) :
    left.same right = equalsInteger number right := by
  cases left with
  | integer held =>
    obtain rfl : held = number := h
    simp only [same]
  | status held =>
    obtain rfl : (held.code : Int) = number := h
    simp only [same]
  | _ => exact h.elim

theorem IsInteger.equalsInteger_eq (h : right.IsInteger other) (number : Int) :
    equalsInteger number right = (some other == some number) := by
  cases right with
  | integer held =>
    obtain rfl : held = other := h
    simp only [equalsInteger, integer?]
  | status held =>
    obtain rfl : (held.code : Int) = other := h
    simp only [equalsInteger, integer?]
  | _ => exact h.elim

/-- Equal integers are the same number, whether it is given as such or as the code of a status. -/
theorem IsEqual.eq_of_isInteger (h : left.IsEqual right) (hleft : left.IsInteger number)
    (hright : right.IsInteger other) : number = other := by
  rw [IsEqual, hleft.same_eq, hright.equalsInteger_eq] at h
  exact (Option.some.inj (eq_of_beq h)).symm

theorem isEqual_ofTime?_iff {left right : Option DateTime} :
    (ofTime? left).IsEqual (ofTime? right) ↔
      Option.Rel (fun time other => time.same other = true) left right := by
  cases left <;> cases right <;> simp [ofTime?, IsEqual, same]

theorem isEqual_ofUuid?_iff {left right : Option Uuid} :
    (ofUuid? left).IsEqual (ofUuid? right) ↔ left = right := by
  cases left <;> cases right <;> simp [ofUuid?, IsEqual, same]

/-- Equal items are properties of one name with equal values, or neither of them is a property. -/
theorem IsEqual.rel_named? (h : left.IsEqual right) (name : String) :
    Option.Rel IsEqual (left.named? name) (right.named? name) := by
  unfold IsEqual at h
  cases left with
  | property held value =>
    cases right with
    | property other another =>
      simp only [same, Bool.and_eq_true, beq_iff_eq] at h
      obtain ⟨rfl, hvalue⟩ := h
      by_cases hname : held = name
      · simp only [named?, hname, if_true]
        exact .some hvalue
      · simp only [named?, hname, if_false]
        exact .none
    | _ => simp [same] at h
  | _ =>
    cases right with
    | property other another => simp [same, equalsInteger, integer?] at h
    | _ => exact .none

/-- Lists of equal items have equal values at the last property of a name. -/
theorem rel_lastNamed?_of_sameItems {left right : List Value} (h : sameItems left right = true)
    (name : String) : Option.Rel IsEqual (lastNamed? name left) (lastNamed? name right) := by
  induction left generalizing right with
  | nil =>
    cases right with
    | nil => exact .none
    | cons item rest => simp [sameItems] at h
  | cons item rest ih =>
    cases right with
    | nil => simp [sameItems] at h
    | cons other others =>
      simp only [sameItems, Bool.and_eq_true] at h
      obtain ⟨hitem, hrest⟩ := h
      rw [lastNamed?_cons, lastNamed?_cons]
      exact rel_or (ih hrest) (IsEqual.rel_named? hitem name)

/-- The items of equal composite values are equal one by one. -/
theorem IsEqual.sameItems (h : left.IsEqual right) {inner other : List Value}
    (hleft : left.IsComposite inner) (hright : right.IsComposite other) :
    sameItems inner other = true := by
  unfold IsEqual at h
  rcases hleft with rfl | rfl <;> rcases hright with rfl | rfl <;> simp only [same] at h
  · exact h
  · cases h
  · cases h
  · exact h

end Value

theorem readStatus_eq_of_isEqual {name : String} {left right : Value} {status other : Status}
    (h : left.IsEqual right) (hleft : readStatus name left = .ok status)
    (hright : readStatus name right = .ok other) : status = other := by
  have hcode : (status.code : Int) = other.code :=
    h.eq_of_isInteger (readStatus_eq_ok_iff.1 hleft) (readStatus_eq_ok_iff.1 hright)
  exact (Option.some.inj
    ((Status.ofCode?_eq_some_iff.2 hcode).symm.trans (Status.ofCode?_code status))).symm

theorem readText_eq_of_isEqual {name : String} {left right : Value} {content other : Text}
    (h : left.IsEqual right) (hleft : readText name left = .ok content)
    (hright : readText name right = .ok other) : content = other := by
  obtain rfl := readText_eq_ok_iff.1 hleft
  obtain rfl := readText_eq_ok_iff.1 hright
  simpa [Value.IsEqual, Value.same] using h

/-- An identifier and its text are not equal values, so equal signatures are of one kind. -/
theorem readSignature_eq_of_isEqual {name : String} {left right : Value} {id other : Option Uuid}
    (h : left.IsEqual right) (hleft : readSignature name left = .ok id)
    (hright : readSignature name right = .ok other) : id = other := by
  rcases readSignature_eq_ok_iff.1 hleft with rfl | ⟨content, held, rfl, rfl, hread⟩ <;>
    rcases readSignature_eq_ok_iff.1 hright with rfl | ⟨again, found, rfl, rfl, hagain⟩
  · exact Value.isEqual_ofUuid?_iff.1 h
  · cases id <;> simp [Value.IsEqual, Value.same, Value.ofUuid?] at h
  · cases other <;> simp [Value.IsEqual, Value.same, Value.ofUuid?] at h
  · obtain rfl : content = again := by simpa [Value.IsEqual, Value.same] using h
    exact hread.symm.trans hagain

namespace Calendar.DateTime

variable {left right : DateTime}

/-- Equal times are one instant if one of them is in no zone. -/
theorem instant_eq_of_same (h : left.same right = true) (hzone : left.sharesZone right = false) :
    left.instant = right.instant := by
  simp only [same, hzone, Bool.and_eq_true, Bool.false_eq_true, if_false, beq_iff_eq] at h
  exact h.2.2

theorem isAware_eq_of_same (h : left.same right = true) : left.isAware = right.isAware := by
  simp only [same, Bool.and_eq_true, beq_iff_eq] at h
  exact h.1

/-- Equal times are both before equal bounds or neither is, if no bound is in a zone and one of the
times is not. -/
theorem isBefore_iff_of_same {bound limit : DateTime} (h : left.same right = true)
    (hzone : left.sharesZone right = false) (hsame : bound.same limit = true)
    (hbound : bound.zone = none) (hlimit : limit.zone = none) :
    left.IsBefore bound ↔ right.IsBefore limit := by
  have hinstant := instant_eq_of_same h hzone
  have hlimits := instant_eq_of_same hsame (sharesZone_of_left hbound)
  simp [IsBefore, sharesZone_of_right hbound, sharesZone_of_right hlimit, hinstant, hlimits]

end Calendar.DateTime

/-- Stamps with equal times are settled as stamps with equal times, if these are in no zone: a last
update is raised to the creation in both or in neither. -/
theorem Stamps.Corresponds.settle {left right : Stamps}
    (h : left.Corresponds (fun time other => time.same other = true) right)
    (hleft : left.settle.AreFixed) (hright : right.settle.AreFixed) :
    left.settle.Corresponds (fun time other => time.same other = true) right.settle := by
  obtain ⟨leftCreated, leftUpdated, signature⟩ := left
  obtain ⟨rightCreated, rightUpdated, other⟩ := right
  obtain ⟨hcreated, hupdated, rfl⟩ := h
  refine ⟨hcreated, ?_, rfl⟩
  cases hupdated with
  | none => exact .none
  | @some time other hsame =>
    cases hcreated with
    | none => exact .some hsame
    | @some bound limit hbounds =>
      have hbound : bound.zone = none := hleft.1 bound rfl
      have hlimit : limit.zone = none := hright.1 limit rfl
      have htime := hleft.2 _ rfl
      have hother := hright.2 _ rfl
      have haware := DateTime.isAware_eq_of_same hbounds
      refine .some ?_
      simp only [DateTime.notBefore, haware] at htime hother ⊢
      by_cases hraised : limit.isAware = true ∧ time.IsBefore bound
      · by_cases hagain : limit.isAware = true ∧ other.IsBefore limit
        · rwa [if_pos hraised, if_pos hagain]
        · -- The other time is read as it is, so it is in no zone.
          rw [if_neg hagain] at hother
          have hzone : time.sharesZone other = false := DateTime.sharesZone_of_right hother
          exact absurd ⟨hraised.1,
            (DateTime.isBefore_iff_of_same hsame hzone hbounds hbound hlimit).1 hraised.2⟩ hagain
      · by_cases hagain : limit.isAware = true ∧ other.IsBefore limit
        · rw [if_neg hraised] at htime
          have hzone : time.sharesZone other = false := DateTime.sharesZone_of_left htime
          exact absurd ⟨hagain.1,
            (DateTime.isBefore_iff_of_same hsame hzone hbounds hbound hlimit).2 hagain.2⟩ hraised
        · rwa [if_neg hraised, if_neg hagain]

/-- Stamps that correspond by equal times, if these are in no zone. -/
def Stamps.CorrespondFixed (left right : Stamps) : Prop :=
  left.AreFixed → right.AreFixed →
    left.Corresponds (fun time other => time.same other = true) right

theorem respects_isEqual :
    Respects Value.IsEqual (fun time other => time.same other = true) Stamps.CorrespondFixed where
  size := fun h hleft hright => Int.ofNat_inj.1
    (h.eq_of_isInteger (readSize_eq_ok_iff.1 hleft) (readSize_eq_ok_iff.1 hright))
  status := readStatus_eq_of_isEqual
  text := readText_eq_of_isEqual
  signature := readSignature_eq_of_isEqual
  stamp := by
    intro name left right stamp other h hleft hright
    obtain ⟨rfl, -⟩ := readStamp_eq_ok_iff.1 hleft
    obtain ⟨rfl, -⟩ := readStamp_eq_ok_iff.1 hright
    exact Value.isEqual_ofTime?_iff.1 h
  composite := fun h hleft hright name _ =>
    Value.rel_lastNamed?_of_sameItems (h.sameItems hleft hright) name
  settle := Stamps.Corresponds.settle
  empty := fun _ _ => ⟨.none, .none, rfl⟩

/-- The records compare as equal. -/
def Blob.IsEqual (left right : Blob) : Prop := left.toRecord.same right.toRecord = true

/-- Values that compare as equal are read as records that compare as equal, if the times of these
are in no zone. -/
theorem Matches.isEqual_of_ofItems {left right : List Value} {key : Value} {blob other : Blob}
    (h : Matches Value.IsEqual left right) (hleft : Blob.ofItems left key = .ok blob)
    (hright : Blob.ofItems right key = .ok other) :
    blob.stamps.AreFixed → other.stamps.AreFixed → blob.IsEqual other := by
  intro hfixed hagain
  obtain ⟨hkey, hsize, hstatus, hstore, hrecord, hstamps⟩ :=
    h.corresponds respects_isEqual hleft hright
  obtain ⟨hcreated, hupdated, hsignature⟩ := hstamps hfixed hagain
  rw [← Value.isEqual_ofTime?_iff] at hcreated hupdated
  rw [← Value.isEqual_ofUuid?_iff] at hkey hsignature
  unfold Value.IsEqual at hcreated hupdated hkey hsignature
  simp [Blob.IsEqual, Record.same, Blob.toRecord, Stamps.toValue, Value.same, Value.equalsInteger,
    Value.integer?, hkey, hsize, hstatus, hstore, hrecord, hcreated, hupdated, hsignature]

end BlobCatalog
