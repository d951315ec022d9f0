import BlobCatalog.Proofs.PropertyMatching
import Mathlib.Data.List.Perm.Basic

/-!
# The order of properties does not matter

Rearranging properties of distinct names and putting in properties of other names keeps the last
property of each name as it is (`Rearranged.relatedAt`), and so does leaving out a property that is
followed by another of its name (`relatedAt_dropEarlier`). So the lists match, and they are read as
the same record. This holds of the properties of a record and of those inside its time stamps, where
the order of the two times makes no difference although the last update is raised to the creation.
`ofProperties_order_independent` collects these cases.
-/

namespace BlobCatalog

open Calendar (DateTime)
open Value (lastNamed? named?)

/-! ## Lists that match -/

/-- If a record may be read from the items of both lists, then records are read from them under the
key, and these are related. -/
def ReadAs (made : Blob → Blob → Prop) (key : Value) (left right : List Value) : Prop :=
  (∀ item ∈ left, item.IsRecordItem) → (∀ item ∈ right, item.IsRecordItem) →
    ∃ blob other, Blob.ofProperties (.list left) key = .ok blob ∧
      Blob.ofProperties (.list right) key = .ok other ∧ made blob other

section Match

variable {left right : List Value} {key : Value} {id : Option Uuid}

theorem ReadAs.of_ofItems {made : Blob → Blob → Prop} (hkey : Field.identifier key = .ok id)
    (h : ∀ {blob other}, Blob.ofItems left key = .ok blob → Blob.ofItems right key = .ok other →
      made blob other) : ReadAs made key left right := by
  intro hleft hright
  obtain ⟨blob, hblob⟩ := Blob.exists_ofItems hleft hkey
  obtain ⟨other, hother⟩ := Blob.exists_ofItems hright hkey
  exact ⟨blob, other, hblob, hother, h hblob hother⟩

theorem Matches.readAs (h : Matches Eq left right) (hkey : Field.identifier key = .ok id) :
    ReadAs Eq key left right :=
  .of_ofItems hkey h.eq_of_ofItems

/-- Lists that are related at all five names match. -/
theorem RelatedAt.matches {related : Value → Value → Prop}
    (h : RelatedAt related recordNames left right) : Matches related left right where
  fields := fun name hname => h name (List.mem_append_left [timestampsName] hname)
  stamps := rel_mono (h timestampsName (by simp [recordNames])) .inl

end Match

/-! ## Rearranged lists -/

/-- The name of a property. -/
def Value.name? : Value → Option String
  | .property name _ => some name
  | _ => none

/-- The properties of the given names, in their order. -/
def propertiesNamed (names : List String) (items : List Value) : List Value :=
  items.filter fun item => item.name?.any names.contains

/-- The second list has the properties of the given names in another order, where no name comes
twice. What other properties the two lists have does not count. -/
structure Rearranged (names : List String) (left right : List Value) : Prop where
  perm : (propertiesNamed names left).Perm (propertiesNamed names right)
  distinct : ((propertiesNamed names left).filterMap Value.name?).Nodup

section Order

variable {left right : List Value} {names : List String} {name : String}

/-- There are as many values of a name as properties with it. -/
theorem length_filterMap_named? (name : String) (items : List Value) :
    (items.filterMap (named? name)).length = (items.filterMap Value.name?).count name := by
  induction items with
  | nil => rfl
  | cons item rest ih =>
    cases item with
    | property held value =>
      by_cases hname : held = name <;> simp [named?, Value.name?, hname, ih]
    | _ =>
      rw [List.filterMap_cons_none rfl, List.filterMap_cons_none rfl]
      exact ih

/-- The values of a given name are those among the properties of the given names. -/
theorem filterMap_propertiesNamed (hname : name ∈ names) (items : List Value) :
    (propertiesNamed names items).filterMap (named? name) = items.filterMap (named? name) := by
  rw [propertiesNamed, List.filterMap_filter]
  apply List.filterMap_congr
  intro item _
  cases item with
  | property held value =>
    by_cases hheld : held = name
    · simp [Value.name?, hheld, hname]
    · simp [named?, hheld]
  | _ => simp [named?]

/-- A list that has at most one element is the only rearrangement of itself. -/
theorem eq_of_perm_of_length_le_one {α : Type} {left right : List α} (h : left.Perm right)
    (hlength : left.length ≤ 1) : left = right := by
  match left, hlength with
  | [], _ => exact h.nil_eq
  | [only], _ => exact List.singleton_perm.1 h

/-- Rearranged lists have the same value at the last property of each name: it is the only one. -/
theorem Rearranged.relatedAt (h : Rearranged names left right) : RelatedAt Eq names left right := by
  intro name hname
  have hperm : (left.filterMap (named? name)).Perm (right.filterMap (named? name)) := by
    rw [← filterMap_propertiesNamed hname left, ← filterMap_propertiesNamed hname right]
    exact h.perm.filterMap _
  have hlength : (left.filterMap (named? name)).length ≤ 1 := by
    rw [← filterMap_propertiesNamed hname left, length_filterMap_named?]
    exact List.nodup_iff_count.1 h.distinct name
  rw [rel_eq_iff, lastNamed?, lastNamed?, eq_of_perm_of_length_le_one hperm hlength]

theorem lastNamed?_append (name : String) (front back : List Value) :
    lastNamed? name (front ++ back) = (lastNamed? name back).or (lastNamed? name front) := by
  simp only [lastNamed?, List.filterMap_append, List.getLast?_append]

/-- A property is replaced by a later one of its name. -/
theorem relatedAt_dropEarlier (names : List String) (before middle after : List Value)
    (name : String) (earlier later : Value) :
    RelatedAt Eq names
      (before ++ .property name earlier :: (middle ++ .property name later :: after))
      (before ++ (middle ++ .property name later :: after)) := by
  intro held _
  rw [rel_eq_iff]
  simp only [lastNamed?_append, Value.lastNamed?_cons]
  by_cases hheld : name = held
  · simp [named?, hheld]
  · simp [named?, hheld]

/-- A composite value may be replaced by one with the same time stamps. -/
theorem matches_replaced {value other : Value} (h : value.HasRelatedStamps Eq other)
    (before after : List Value) :
    Matches Eq (before ++ .property timestampsName value :: after)
      (before ++ .property timestampsName other :: after) where
  fields := by
    intro name hname
    have hother : timestampsName ≠ name := by
      rintro rfl
      exact absurd hname (by decide)
    rw [rel_eq_iff]
    simp [lastNamed?_append, Value.lastNamed?_cons, named?, hother]
  stamps := by
    simp only [lastNamed?_append, Value.lastNamed?_cons, named?, if_true]
    cases lastNamed? timestampsName after with
    | none => exact .some h
    | some last => exact .some (.inl rfl)

end Order

/-! ## All orders -/

/-- **The order of properties does not matter.** Take lists whose items may be read and a key that
the key field accepts. Lists that have the same values at the last property of each name are read as
the same record, and those that have equal values there as equal records, if the times of these are
in no zone; of the time stamps it is their own properties that are compared. The record is the same
if one list has the properties of the five names in another order and no name comes twice, whatever
other properties are put in, and so it is inside the time stamps. A property is replaced as a whole
by a later one of its name. -/
theorem ofProperties_order_independent {key : Value} {id : Option Uuid}
    (hkey : Field.identifier key = .ok id) :
    (∀ left right, Matches Eq left right → ReadAs Eq key left right) ∧
    (∀ left right, Matches Value.IsEqual left right →
      ReadAs (fun blob other => blob.stamps.AreFixed → other.stamps.AreFixed → blob.IsEqual other)
        key left right) ∧
    (∀ left right, RelatedAt Eq recordNames left right ∨ Rearranged recordNames left right →
      ReadAs Eq key left right) ∧
    (∀ before after value other inner others,
      Value.IsComposite inner value → Value.IsComposite others other →
      RelatedAt Eq stampNames inner others ∨ Rearranged stampNames inner others →
        ReadAs Eq key (before ++ .property timestampsName value :: after)
          (before ++ .property timestampsName other :: after)) ∧
    ∀ before middle after name earlier later,
      ReadAs Eq key
        (before ++ .property name earlier :: (middle ++ .property name later :: after))
        (before ++ (middle ++ .property name later :: after)) := by
  -- Each part is a case of two lists that match name by name.
  refine ⟨fun left right hmatches => hmatches.readAs hkey, ?_, ?_, ?_, ?_⟩
  · intro left right hmatches
    exact .of_ofItems hkey hmatches.isEqual_of_ofItems
  · rintro left right (hrelated | hrearranged)
    · exact hrelated.matches.readAs hkey
    · exact hrearranged.relatedAt.matches.readAs hkey
  · intro before after value other inner others hvalue hother hsame
    have hrelated : RelatedAt Eq stampNames inner others :=
      hsame.elim (fun h => h) (fun h => h.relatedAt)
    have hstamps : value.HasRelatedStamps Eq other :=
      .inr ⟨inner, others, hvalue, hother, hrelated⟩
    exact (matches_replaced hstamps before after).readAs hkey
  · intro before middle after name earlier later
    have hrelated := relatedAt_dropEarlier recordNames before middle after name earlier later
    exact hrelated.matches.readAs hkey

/-! The sample times in both orders: the last update is before the creation and is raised to it. -/

/-- The sample time stamps, the last update first. -/
def sampleStampItems : List Value :=
  [.property updatedAtName (.ofTime? sampleBlob.stamps.updatedAt),
    .property createdAtName (.dateTime sampleTime)]

/-- The sample time stamps in the order in which they are written, with another name. -/
def otherStampItems : List Value :=
  [.property createdAtName (.dateTime sampleTime), .property "Zone" .thing,
    .property updatedAtName (.ofTime? sampleBlob.stamps.updatedAt)]

theorem rearranged_sampleStampItems : Rearranged stampNames sampleStampItems otherStampItems where
  perm := List.Perm.swap _ _ []
  distinct := by decide

theorem isRecordItem_stamps {value : Value} {items : List Value} (h : value.IsComposite items)
    (hitems : ∀ item ∈ items, item.IsStampItem) :
    (Value.property timestampsName value).IsRecordItem := by
  have hlist : value.IsStampList := ⟨items, h, hitems⟩
  simp [Value.IsRecordItem, hlist, sizeName, statusName, storeKeyName, recordKeyName,
    timestampsName]

theorem ofProperties_sampleStampItems :
    ∃ blob, Blob.ofProperties (.list [.property timestampsName (.list sampleStampItems)])
        (.uuid sampleKey) = .ok blob ∧
      Blob.ofProperties (.list [.property timestampsName (.tuple otherStampItems)])
        (.uuid sampleKey) = .ok blob ∧ blob.stamps.updatedAt = some sampleTime := by
  have hkey : Field.identifier (.uuid sampleKey) = .ok (some sampleKey) := rfl
  obtain ⟨-, -, -, hinner, -⟩ := ofProperties_order_independent hkey
  have hread : ReadAs Eq (.uuid sampleKey)
      [.property timestampsName (.list sampleStampItems)]
      [.property timestampsName (.tuple otherStampItems)] :=
    hinner [] [] _ _ _ _ (.inl rfl) (.inr rfl) (.inr rearranged_sampleStampItems)
  have hleft : ∀ item ∈ sampleStampItems, item.IsStampItem := by
    simp [sampleStampItems, sampleBlob, Value.ofTime?, Value.IsStampItem, Value.IsStamp,
      createdAtName, updatedAtName, signatureName, Calendar.PlainTime.isAware, sampleTime]
  have hright : ∀ item ∈ otherStampItems, item.IsStampItem := by
    simp [otherStampItems, sampleBlob, Value.ofTime?, Value.IsStampItem, Value.IsStamp,
      createdAtName, updatedAtName, signatureName, Calendar.PlainTime.isAware, sampleTime]
  obtain ⟨blob, _, hblob, hother, rfl⟩ := hread
    (List.forall_mem_singleton.2 (isRecordItem_stamps (.inl rfl) hleft))
    (List.forall_mem_singleton.2 (isRecordItem_stamps (.inr rfl) hright))
  refine ⟨blob, hblob, hother, ?_⟩
  have hraised : (Blob.ofProperties (.list [.property timestampsName (.list sampleStampItems)])
      (.uuid sampleKey)).map (fun blob => blob.stamps.updatedAt) = .ok (some sampleTime) := by
    with_unfolding_all rfl
  rw [hblob] at hraised
  exact Except.ok.inj hraised

end BlobCatalog
