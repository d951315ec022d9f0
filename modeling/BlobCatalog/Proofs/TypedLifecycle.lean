import BlobCatalog.Proofs.StoredRow
import BlobCatalog.Record.Lifecycle
import Mathlib.Logic.Relation

/-!
# The lifecycle of typed records

What creation and moves make of typed records. The moves of the lifecycle are the edges of a graph
on the statuses (`Status.Edge`); a record moves along an edge and its last update becomes a time
with an offset (`Record.transition_toRecord`). A created record is typed and initializing, and its
key and signature are identifiers that were not drawn before and are not drawn again
(`Record.create_toRecord`), if the supply hands out no identifier twice (`Supply.IsDistinct`).
-/

namespace BlobCatalog

open Checked (andAlso at?)

/-! ## Supplies without repetition -/

namespace Supply

variable {before after last : Supply} {id : Uuid} {value : Value}

/-- A supply after some readings of the clock and some draws. -/
structure LeadsTo (before after : Supply) : Prop where
  idAt_eq : after.idAt = before.idAt
  drawn_le : before.drawn ≤ after.drawn

theorem LeadsTo.refl (supply : Supply) : supply.LeadsTo supply := ⟨rfl, Nat.le_refl _⟩

theorem LeadsTo.trans (h : before.LeadsTo after) (hlast : after.LeadsTo last) :
    before.LeadsTo last :=
  ⟨hlast.idAt_eq.trans h.idAt_eq, Nat.le_trans h.drawn_le hlast.drawn_le⟩

theorem LeadsTo.of_drawId {drawn : Except Fault Value} (h : before.drawId = (drawn, after)) :
    before.LeadsTo after := by
  obtain ⟨-, rfl⟩ := Prod.mk.inj h
  exact ⟨rfl, Nat.le_succ _⟩

theorem LeadsTo.of_readClock {read : Except Fault Calendar.DateTime}
    (h : before.readClock = (read, after)) : before.LeadsTo after := by
  obtain ⟨-, rfl⟩ := Prod.mk.inj h
  exact ⟨rfl, Nat.le_refl _⟩

/-- All identifiers that are handed out are identifiers by type, and none is handed out twice. -/
structure IsDistinct (supply : Supply) : Prop where
  isUuid : ∀ draw value, supply.idAt draw = some value → ∃ id, value = .uuid id
  unique : ∀ left right value, supply.idAt left = some value → supply.idAt right = some value →
    left = right

theorem IsDistinct.leadsTo (h : before.IsDistinct) (hlater : before.LeadsTo after) :
    after.IsDistinct := by
  obtain ⟨hsame, -⟩ := hlater
  constructor
  · rw [hsame]
    exact h.isUuid
  · rw [hsame]
    exact h.unique

/-- The identifiers 1, 2, 3, … come without repetition. -/
theorem isDistinct_numbered (timeAt : Nat → Option Calendar.DateTime) :
    (start timeAt numbered).IsDistinct := by
  constructor
  · intro draw value hvalue
    obtain ⟨id, -, rfl⟩ := Option.map_eq_some_iff.1 hvalue
    exact ⟨id, rfl⟩
  · intro left right value hleft hright
    obtain ⟨id, hid, rfl⟩ := Option.map_eq_some_iff.1 hleft
    obtain ⟨other, hother, hsame⟩ := Option.map_eq_some_iff.1 hright
    obtain rfl := Value.uuid.inj hsame
    have hnumber : ∀ {number : Nat}, Uuid.ofNat? number = some other → number = other.value := by
      intro number hnumber
      unfold Uuid.ofNat? at hnumber
      split at hnumber
      · obtain rfl := Option.some.inj hnumber
        rfl
      · exact absurd hnumber (by simp)
    exact Nat.succ.inj ((hnumber hid).trans (hnumber hother).symm)

/-- The supply after a creation, which draws a key and a signature and reads the clock. -/
def afterCreation (supply : Supply) : Supply :=
  { supply with ticks := supply.ticks + 1, drawn := supply.drawn + 1 + 1 }

theorem leadsTo_afterCreation (supply : Supply) : supply.LeadsTo supply.afterCreation :=
  ⟨rfl, Nat.le_trans (Nat.le_succ _) (Nat.le_succ _)⟩

/-- An identifier that no draw from here on gives. -/
def IsSpent (supply : Supply) (id : Uuid) : Prop :=
  ∀ draw, supply.drawn ≤ draw → supply.idAt draw ≠ some (.uuid id)

theorem IsSpent.leadsTo (h : before.IsSpent id) (hlater : before.LeadsTo after) :
    after.IsSpent id := by
  intro draw hdraw
  rw [hlater.idAt_eq]
  exact h draw (Nat.le_trans hlater.drawn_le hdraw)

/-- What a draw gives is spent for all later draws. -/
theorem IsDistinct.isSpent (h : before.IsDistinct) {draw : Nat}
    (hid : before.idAt draw = some (.uuid id)) (hlater : before.LeadsTo after)
    (hdraw : draw < after.drawn) : after.IsSpent id := by
  intro again hagain hsame
  -- A second draw of the identifier would be at the place of the first.
  rw [hlater.idAt_eq] at hsame
  obtain rfl := h.unique _ _ _ hid hsame
  exact absurd hagain (Nat.not_le_of_lt hdraw)

/-- A drawn value is an identifier that is spent afterwards and was not before. -/
theorem IsDistinct.of_drawId (h : before.IsDistinct) (hdrawn : before.drawId = (.ok value, after)) :
    ∃ id, value = .uuid id ∧ after.IsSpent id ∧ ¬before.IsSpent id := by
  obtain ⟨hvalue, rfl⟩ := Prod.mk.inj hdrawn
  cases hheld : before.idAt before.drawn with
  | none => exact absurd hvalue (by simp [hheld])
  | some held =>
    obtain rfl : held = value := by simpa [hheld] using hvalue
    obtain ⟨id, rfl⟩ := h.isUuid _ _ hheld
    refine ⟨id, rfl, ?_, fun hspent => hspent _ (Nat.le_refl _) hheld⟩
    exact h.isSpent hheld (.of_drawId rfl) (Nat.lt_succ_self _)

end Supply

/-! ## Edges between statuses -/

namespace Status

/-- The moves of the lifecycle. -/
inductive Edge : Status → Status → Prop where
  | ready : Edge initializing ready
  | deletion : Edge initializing pendingDeletion
  | laterDeletion : Edge ready pendingDeletion
  | failure (source : Status) : Edge source error

/-- Zero or more moves of the lifecycle. -/
abbrev Reaches : Status → Status → Prop := Relation.ReflTransGen Edge

/-- A move leads to failure, or it is one of the ordinary moves to its target. -/
theorem edge_iff {source target : Status} :
    source.Edge target ↔ target = error ∨ source ∈ target.enteredFrom := by
  constructor
  · intro hedge
    cases hedge <;> simp [enteredFrom]
  · rintro (rfl | hentered)
    · exact .failure source
    · cases target with
      | ready =>
        obtain rfl := List.mem_singleton.1 hentered
        exact .ready
      | pendingDeletion =>
        rcases List.mem_cons.1 hentered with rfl | hready
        · exact .deletion
        · obtain rfl := List.mem_singleton.1 hready
          exact .laterDeletion
      | unknown => exact absurd hentered List.not_mem_nil
      | initializing => exact absurd hentered List.not_mem_nil
      | error => exact .failure source

instance (source target : Status) : Decidable (source.Edge target) :=
  decidable_of_iff _ edge_iff.symm

/-- Two moves can be made at once. -/
theorem Edge.trans {first second third : Status} (h : Edge first second)
    (hnext : Edge second third) : Edge first third := by
  -- Nothing leads to the initializing status, so the second move starts from one that is entered.
  cases hnext with
  | ready => cases h
  | deletion => cases h
  | laterDeletion =>
    cases h
    exact .deletion
  | failure => exact .failure first

/-- No move leads to the unknown status. -/
theorem Edge.target_ne {source target : Status} (h : Edge source target) : target ≠ unknown := by
  cases h <;> simp

/-- A status that is reached is the same or one move away. -/
theorem reaches_iff {source target : Status} :
    Reaches source target ↔ source = target ∨ Edge source target := by
  constructor
  · intro h
    induction h with
    | refl => exact .inl rfl
    | tail _ hedge ih =>
      rcases ih with rfl | hfirst
      · exact .inr hedge
      · exact .inr (hfirst.trans hedge)
  · rintro (rfl | h)
    · exact .refl
    · exact .single h

section Reached

variable {source target : Status}

theorem Reaches.ne_initializing (h : source.Reaches target) (hsource : source ≠ initializing) :
    target ≠ initializing := by
  rcases reaches_iff.1 h with rfl | hedge
  · exact hsource
  · cases hedge <;> simp

theorem Reaches.ne_ready (h : pendingDeletion.Reaches target) : target ≠ ready := by
  rcases reaches_iff.1 h with rfl | hedge
  · simp
  · cases hedge
    simp

theorem Reaches.eq_error (h : error.Reaches target) : target = error := by
  rcases reaches_iff.1 h with rfl | hedge
  · rfl
  · cases hedge
    rfl

theorem Reaches.ne_unknown (h : source.Reaches target) (hsource : source ≠ unknown) :
    target ≠ unknown := by
  rcases reaches_iff.1 h with rfl | hedge
  · exact hsource
  · exact hedge.target_ne

end Reached

theorem code_injective {left right : Status} (h : left.code = right.code) : left = right := by
  have hcodes : ofCode? left.code = ofCode? right.code := by rw [h]
  rw [ofCode?_code, ofCode?_code] at hcodes
  exact Option.some.inj hcodes

end Status

/-! ## Records that were given a key and a signature -/

/-- A record as creation, moves and updates make it: its key and signature are drawn identifiers
that are not drawn again, and its status is not the unknown one. -/
structure Blob.IsIssued (blob : Blob) (supply : Supply) (key signature : Uuid) : Prop where
  key_eq : blob.key = some key
  signature_eq : blob.stamps.signature = some signature
  key_spent : supply.IsSpent key
  signature_spent : supply.IsSpent signature
  status_ne : blob.status ≠ .unknown

theorem Blob.IsIssued.eq_of_key {blob : Blob} {supply : Supply} {held key signature : Uuid}
    (h : blob.IsIssued supply held signature) (hkey : blob.toRecord.key = .uuid key) :
    held = key :=
  Value.uuid.inj ((Blob.key_toRecord h.key_eq).symm.trans hkey)

theorem Blob.IsIssued.leadsTo {blob : Blob} {before after : Supply} {key signature : Uuid}
    (h : blob.IsIssued before key signature) (hlater : before.LeadsTo after) :
    blob.IsIssued after key signature :=
  ⟨h.key_eq, h.signature_eq, h.key_spent.leadsTo hlater, h.signature_spent.leadsTo hlater,
    h.status_ne⟩

/-- A new record, made with a drawn key and a drawn signature at a time. -/
def Blob.created (key signature : Uuid) (now : Calendar.DateTime) (size : Nat)
    (storeKey recordKey : Text) : Blob where
  key := some key
  size := size
  status := .initializing
  storeKey := storeKey
  recordKey := recordKey
  stamps := ⟨some now, some now, some signature⟩

/-- The key and the signature of a new record are not drawn again. -/
theorem Supply.IsDistinct.isIssued_created {supply : Supply} (h : supply.IsDistinct)
    {key signature : Uuid} (hkey : supply.idAt supply.drawn = some (.uuid key))
    (hsignature : supply.idAt (supply.drawn + 1) = some (.uuid signature))
    {now : Calendar.DateTime} {size : Nat} {storeKey recordKey : Text} :
    (Blob.created key signature now size storeKey recordKey).IsIssued supply.afterCreation key
      signature where
  key_eq := rfl
  signature_eq := rfl
  key_spent := h.isSpent hkey supply.leadsTo_afterCreation
    (Nat.lt_trans (Nat.lt_succ_self _) (Nat.lt_succ_self _))
  signature_spent := h.isSpent hsignature supply.leadsTo_afterCreation (Nat.lt_succ_self _)
  status_ne := by simp [Blob.created]

/-! ## Moves -/

/-- A typed record after a move at a time. -/
def Blob.moved (blob : Blob) (target : Status) (now : Calendar.DateTime) : Blob :=
  { blob with status := target, stamps := { blob.stamps with updatedAt := some now }.settle }

/-- The times of a moved record have offsets if the times it comes from have. -/
theorem Blob.areAware_moved {blob : Blob} {now : Calendar.DateTime} (h : blob.stamps.AreAware)
    (hnow : now.isAware = true) (target : Status) : (blob.moved target now).stamps.AreAware := by
  refine Stamps.AreAware.settle ⟨h.1, ?_⟩
  rintro _ ⟨⟩
  exact hnow

namespace Record

/-- The lifecycle allows the moves along the edges and no others. -/
theorem canTransition_eq {record : Record} {status : Status} (h : record.status = .status status)
    (target : Status) :
    record.canTransition (.status target) = .ok (decide (status.Edge target)) := by
  rw [canTransition, h]
  cases target <;> cases status <;> rfl

theorem canTransition_iff {record : Record} {status target : Status}
    (h : record.status = .status status) :
    record.canTransition (.status target) = .ok true ↔ status.Edge target := by
  rw [canTransition_eq h, Except.ok.injEq, decide_eq_true_eq]

/-- A refresh at a time with an offset stores that time, raised to the creation. -/
theorem refreshedWithin_of_isAware {now : Calendar.DateTime} (h : now.isAware = true)
    (created : Option Calendar.DateTime) :
    refreshedWithin (.ofTime? created) (.dateTime now) =
      .ok (.dateTime (now.notBefore created)) := by
  simp only [refreshedWithin, h, if_true]
  cases created <;> rfl

/-- A refresh stores a time with an offset, raised to the creation. -/
theorem refreshedWithin_ofTime? {created : Option Calendar.DateTime} {now updatedAt : Value}
    (h : refreshedWithin (.ofTime? created) now = .ok updatedAt) :
    ∃ time : Calendar.DateTime, time.isAware = true ∧
      updatedAt = .dateTime (time.notBefore created) := by
  cases now with
  | dateTime time =>
    by_cases haware : time.isAware = true
    · rw [refreshedWithin_of_isAware haware] at h
      exact ⟨time, haware, (Except.ok.inj h).symm⟩
    · exact absurd h (by simp [refreshedWithin, haware])
  | _ => exact absurd h (by simp [refreshedWithin])

/-- A move stores the refreshed time of the last update, or fails with at most one reading of the
clock. -/
theorem transition_cases (record : Record) (target : Status) (now : Value) (supply : Supply) :
    ∃ after, supply.LeadsTo after ∧
      ((∃ fault, record.transition target now supply = (.error fault, after)) ∨
        ∃ createdAt time updatedAt, record.canTransition (.status target) = .ok true ∧
          record.createdAt? = .ok createdAt ∧ refreshedWithin createdAt time = .ok updatedAt ∧
          record.transition target now supply =
            (.ok ({ record with status := .status target }.withUpdatedAt updatedAt), after)) := by
  cases hallowed : record.canTransition (.status target) with
  | error fault => exact ⟨supply, .refl supply, .inl ⟨fault, by simp only [transition, hallowed]⟩⟩
  | ok allowed =>
    cases allowed with
    | false =>
      exact ⟨supply, .refl supply,
        .inl ⟨record.refusal target, by simp only [transition, hallowed]⟩⟩
    | true =>
      cases hcreated : record.createdAt? with
      | error fault =>
        exact ⟨supply, .refl supply, .inl ⟨fault, by simp only [transition, hallowed, hcreated]⟩⟩
      | ok createdAt =>
        -- The time is the given one, or the clock's if none is given.
        obtain ⟨time, after, hlater, heq⟩ : ∃ (time : Except Fault Value) (after : Supply),
            supply.LeadsTo after ∧ record.transition target now supply =
              ((do
                let time ← time
                let updatedAt ← refreshedWithin createdAt time
                record.noteAssigned
                return { record with status := .status target }.withUpdatedAt updatedAt),
                after) := by
          by_cases hgiven : now.isGiven = true
          · refine ⟨.ok now, supply, .refl supply, ?_⟩
            simp only [transition, hallowed, hcreated, hgiven, if_true]
            rfl
          · refine ⟨supply.readClock.1.map Value.dateTime, supply.readClock.2,
              .of_readClock rfl, ?_⟩
            simp only [transition, hallowed, hcreated, hgiven]
            cases supply.readClock.1 <;> rfl
        refine ⟨after, hlater, ?_⟩
        rw [heq]
        cases time with
        | error fault => exact .inl ⟨fault, rfl⟩
        | ok time =>
          cases hrefreshed : refreshedWithin createdAt time with
          | error fault => exact .inl ⟨fault, by simp only [hrefreshed, bind, Except.bind]⟩
          | ok updatedAt =>
            cases hnoted : record.noteAssigned with
            | error fault =>
              exact .inl ⟨fault, by simp only [hrefreshed, bind, Except.bind]⟩
            | ok noted =>
              exact .inr ⟨createdAt, time, updatedAt, rfl, rfl, hrefreshed,
                by simp only [hrefreshed, bind, Except.bind, pure, Except.pure]⟩

theorem leadsTo_transition {record : Record} {target : Status} {now : Value}
    {supply after : Supply} {moved : Except Fault Record}
    (h : record.transition target now supply = (moved, after)) : supply.LeadsTo after := by
  obtain ⟨later, hlater, ⟨fault, heq⟩ | ⟨_, _, _, _, _, _, heq⟩⟩ :=
    transition_cases record target now supply
  · obtain ⟨-, rfl⟩ := Prod.mk.inj (h.symm.trans heq)
    exact hlater
  · obtain ⟨-, rfl⟩ := Prod.mk.inj (h.symm.trans heq)
    exact hlater

/-- A record that is typed but for its signature moves along an edge and keeps everything but its
status and its last update. -/
theorem transition_withSignature {blob : Blob} {signature : Value} {record : Record}
    {target : Status} {now : Value} {supply after : Supply}
    (h : (blob.toRecord.withSignature signature).transition target now supply =
      (.ok record, after)) :
    blob.status.Edge target ∧ ∃ time : Calendar.DateTime, time.isAware = true ∧
      record = (blob.moved target time).toRecord.withSignature signature := by
  obtain ⟨_, -, hmoved⟩ :=
    transition_cases (blob.toRecord.withSignature signature) target now supply
  rw [h] at hmoved
  rcases hmoved with ⟨fault, hfault⟩ | ⟨createdAt, time, updatedAt, hallowed, hcreated, hrefreshed,
    hrecord⟩
  · exact absurd hfault (by simp)
  · obtain rfl : Value.ofTime? blob.stamps.createdAt = createdAt := Except.ok.inj hcreated
    obtain ⟨stored, haware, rfl⟩ := refreshedWithin_ofTime? hrefreshed
    refine ⟨(canTransition_iff rfl).1 hallowed, stored, haware, ?_⟩
    rw [Prod.mk.injEq, Except.ok.injEq] at hrecord
    exact hrecord.1

/-- **A typed record moves along an edge** and keeps everything but its status and its last update,
which becomes a time with an offset. -/
theorem transition_toRecord {blob : Blob} {record : Record} {target : Status} {now : Value}
    {supply after : Supply}
    (h : blob.toRecord.transition target now supply = (.ok record, after)) :
    blob.status.Edge target ∧ ∃ time : Calendar.DateTime, time.isAware = true ∧
      record = (blob.moved target time).toRecord := by
  have hheld : blob.toRecord.withSignature (.ofUuid? blob.stamps.signature) = blob.toRecord := rfl
  rw [← hheld] at h
  exact transition_withSignature h

/-- Along an edge the clock's time is all that a move needs. -/
theorem transition_of_edge {blob : Blob} {target : Status} {supply : Supply}
    {now : Calendar.DateTime} (hedge : blob.status.Edge target)
    (hnow : supply.timeAt supply.ticks = some now) (haware : now.isAware = true) :
    blob.toRecord.transition target .absent supply =
      (.ok (blob.moved target now).toRecord, { supply with ticks := supply.ticks + 1 }) := by
  have hallowed : blob.toRecord.canTransition (.status target) = .ok true :=
    (canTransition_iff rfl).2 hedge
  have hcreated : blob.toRecord.createdAt? = .ok (.ofTime? blob.stamps.createdAt) := rfl
  have hgiven : Value.absent.isGiven = false := rfl
  simp only [transition, hallowed, hcreated, hgiven, Supply.readClock, hnow, Except.map,
    refreshedWithin_of_isAware haware, Bool.false_eq_true, if_false]
  rfl

/-- Off the edges a move is forbidden, and the clock is not read. -/
theorem transition_of_not_edge {blob : Blob} {target : Status} (hedge : ¬blob.status.Edge target)
    (now : Value) (supply : Supply) :
    blob.toRecord.transition target now supply =
      (.error (.forbidden (.status blob.status) (.status target)), supply) := by
  have hallowed : blob.toRecord.canTransition (.status target) = .ok false := by
    rw [canTransition_eq rfl, decide_eq_false hedge]
  simp only [transition, hallowed]
  rfl

/-! ## Creation -/

/-- Checked fields of a creation make a typed record with the drawn key and stamps. -/
theorem ofFields_created {key : Uuid} {stamps : Stamps} {size storeKey recordKey : Value}
    {record : Record}
    (h : ofFields [("key", .uuid key), ("size", size), ("status", .status .initializing),
      ("store_key", storeKey), ("record_key", recordKey), ("timestamps", stamps.toValue)] =
        .ok record) :
    ∃ number store entry, record = Blob.toRecord
      { key := some key, size := number, status := .initializing, storeKey := store
        recordKey := entry, stamps } := by
  have hkey : Field.identifier (.uuid key) = .ok (some key) := rfl
  have hstatus : Field.status (.status .initializing) = .ok .initializing := rfl
  have hstamps : Field.stamps ["timestamps"] stamps.toValue = .ok stamps.toValue := rfl
  have hchecked := Checked.ok_of_mapError h
  -- The key, the status and the stamps pass; if one of the other three is refused, nothing is made.
  cases hsize : Field.size size <;> cases hstore : Field.text storeKey <;>
    cases hentry : Field.text recordKey <;>
    simp [checked, checkedField, Fields.get?, List.lookup_cons, at?, andAlso, hkey, hstatus,
      hstamps, hsize, hstore, hentry, Functor.map, Except.map] at hchecked
  next number store entry => exact ⟨number, store, entry, hchecked.symm⟩

/-- With a key, a time and a signature at hand, a creation checks the fields of the new record. -/
theorem create_eq_ofFields {supply : Supply} {key signature : Uuid} {now : Calendar.DateTime}
    (hkey : supply.idAt supply.drawn = some (.uuid key))
    (hnow : supply.timeAt supply.ticks = some now)
    (hsignature : supply.idAt (supply.drawn + 1) = some (.uuid signature))
    (size storeKey recordKey : Value) :
    create size storeKey recordKey supply =
      (ofFields [("key", .uuid key), ("size", size), ("status", .status .initializing),
        ("store_key", storeKey), ("record_key", recordKey),
        ("timestamps", (⟨some now, some now, some signature⟩ : Stamps).toValue)],
      supply.afterCreation) := by
  have hstamps : Stamps.checked [] (.dateTime now) (.dateTime now) (.uuid signature) =
      .ok ⟨some now, some now, some signature⟩ := rfl
  simp only [create, Supply.drawId, Supply.readClock, hkey, hnow, hsignature, hstamps]
  rfl

/-- With a key, a time and a signature at hand, a creation of a size and two texts makes the new
record. -/
theorem create_of_supply {supply : Supply} {key signature : Uuid} {now : Calendar.DateTime}
    (hkey : supply.idAt supply.drawn = some (.uuid key))
    (hnow : supply.timeAt supply.ticks = some now)
    (hsignature : supply.idAt (supply.drawn + 1) = some (.uuid signature)) (size : Nat)
    (storeKey recordKey : Text) :
    create (.integer size) (.text storeKey) (.text recordKey) supply =
      (.ok (Blob.created key signature now size storeKey recordKey).toRecord,
        supply.afterCreation) := by
  have hfields : ofFields [("key", .uuid key), ("size", .integer size),
      ("status", .status .initializing), ("store_key", .text storeKey),
      ("record_key", .text recordKey),
      ("timestamps", (⟨some now, some now, some signature⟩ : Stamps).toValue)] =
        .ok (Blob.created key signature now size storeKey recordKey).toRecord := rfl
  rw [create_eq_ofFields hkey hnow hsignature, hfields]

/-- A creation fails with what it was given, or takes a key, a time and a signature from the supply
and makes the initializing record of them. -/
theorem create_cases {supply : Supply}
    (hids : ∀ draw value, supply.idAt draw = some value → ∃ id, value = .uuid id)
    (size storeKey recordKey : Value) :
    ∃ after, supply.LeadsTo after ∧
      ((∃ fault, create size storeKey recordKey supply = (.error fault, after)) ∨
        ∃ key signature now number store entry,
          supply.idAt supply.drawn = some (.uuid key) ∧
          supply.idAt (supply.drawn + 1) = some (.uuid signature) ∧
          supply.timeAt supply.ticks = some now ∧ after = supply.afterCreation ∧
          create size storeKey recordKey supply =
            (.ok (Blob.created key signature now number store entry).toRecord, after)) := by
  -- The key is drawn before the clock is read and the signature after it; each may be missing.
  cases hkey : supply.idAt supply.drawn with
  | none =>
    exact ⟨_, .of_drawId rfl, .inl ⟨.exhausted, by simp only [create, Supply.drawId, hkey]⟩⟩
  | some key =>
    obtain ⟨key, rfl⟩ := hids _ _ hkey
    cases hnow : supply.timeAt supply.ticks with
    | none =>
      refine ⟨_, (Supply.LeadsTo.of_drawId rfl).trans (.of_readClock rfl), .inl ⟨.outOfRange, ?_⟩⟩
      simp only [create, Supply.drawId, Supply.readClock, hkey, hnow]
    | some now =>
      refine ⟨supply.afterCreation, supply.leadsTo_afterCreation, ?_⟩
      cases hsignature : supply.idAt (supply.drawn + 1) with
      | none =>
        refine .inl ⟨.exhausted, ?_⟩
        simp only [create, Supply.drawId, Supply.readClock, hkey, hnow, hsignature]
        rfl
      | some signature =>
        obtain ⟨signature, rfl⟩ := hids _ _ hsignature
        have hcreate := create_eq_ofFields hkey hnow hsignature size storeKey recordKey
        cases hfields : ofFields [("key", .uuid key), ("size", size),
            ("status", .status .initializing), ("store_key", storeKey), ("record_key", recordKey),
            ("timestamps", (⟨some now, some now, some signature⟩ : Stamps).toValue)] with
        | error fault => exact .inl ⟨fault, by rw [hcreate, hfields]⟩
        | ok record =>
          obtain ⟨number, store, entry, rfl⟩ := ofFields_created hfields
          exact .inr ⟨key, signature, now, number, store, entry, rfl, rfl, rfl, rfl,
            by rw [hcreate, hfields]; rfl⟩

/-- **A created record is typed and initializing.** Its key and its signature are drawn for it: they
are spent afterwards, and the key was not spent before. -/
theorem create_toRecord {supply : Supply} (hdistinct : supply.IsDistinct)
    (size storeKey recordKey : Value) :
    ∃ after, supply.LeadsTo after ∧
      ((∃ fault, create size storeKey recordKey supply = (.error fault, after)) ∨
        ∃ (blob : Blob) (key signature : Uuid),
          create size storeKey recordKey supply = (.ok blob.toRecord, after) ∧
          blob.status = .initializing ∧ blob.IsIssued after key signature ∧
          ¬supply.IsSpent key) := by
  obtain ⟨after, hlater, hfault | ⟨key, signature, now, number, store, entry, hkey, hsignature, -,
    rfl, hcreate⟩⟩ := create_cases hdistinct.isUuid size storeKey recordKey
  · exact ⟨after, hlater, .inl hfault⟩
  · refine ⟨_, hlater, .inr ⟨_, key, signature, hcreate, rfl, ?_, ?_⟩⟩
    · exact hdistinct.isIssued_created hkey hsignature
    · exact fun hspent => hspent _ (Nat.le_refl _) hkey

end Record

end BlobCatalog
