import BlobCatalog.Proofs.StoreRoundTrip
import BlobCatalog.Proofs.TypedLifecycle
import BlobCatalog.Proofs.UpdateOutcome
import Mathlib.Data.List.Perm.Basic

/-!
# Clients of a shared table

Any number of clients work on one table through stores of one kind, and their steps come in any
order (`Scene.run`). A client gets a record by creating and inserting it, by fetching it or as a
copy of a record that is held already; it moves the record along the lifecycle, saves it and deletes
records. A copy is in step with its row if no other copy was saved since it was gained or last saved
(`Scene.InStep`).

`Scene.IsConsistent` is the invariant of all runs. Its heart is `Scene.IsCopy`: a held copy carries
the signature of its row exactly when it is in step, and then the status of the row reaches the
status of the copy. `Scene.IsConsistent.run` states that every order of steps keeps it.
-/

namespace BlobCatalog

namespace Scene

/-- What happened to the copies of stored records that clients hold. Copies are numbered in the
order they were gained. -/
inductive Event where
  | gained (copy : Nat)
  | copied (source copy : Nat)
  | saved (copy : Nat) (key : Value)

/-- A step of some client. -/
inductive Step where
  | create (size storeKey recordKey : Value)
  | insert (draft : Nat)
  | fetch (key : Uuid)
  | copy (source : Nat)
  | move (copy : Nat) (target : Status) (now : Value)
  | update (copy : Nat)
  | delete (key : Uuid)

end Scene

/-- What clients share and hold: the table and the supply, created records that are not inserted
yet, copies of stored records, and what happened to these copies, the latest first. -/
structure Scene where
  table : Table
  supply : Supply
  drafts : List Record
  copies : List Record
  history : List Scene.Event

namespace Scene

/-! ## Steps and runs -/

/-- The scene with one more copy. -/
def hold (scene : Scene) (record : Record) (event : Event) : Scene :=
  { scene with copies := scene.copies ++ [record], history := event :: scene.history }

/-- The update of a record by a store of the kind, as the scene is. -/
def attempt (kind : String) (scene : Scene) (record : Record) : Update :=
  (⟨.text kind⟩ : Store).update record scene.table scene.supply

/-- The scene after a step of a client whose store is of a kind. A step on a draft or a copy that
nobody holds changes nothing. -/
def step (kind : String) (scene : Scene) : Step → Scene
  | .create size storeKey recordKey =>
    match Record.create size storeKey recordKey scene.supply with
    | (.ok record, supply) => { scene with supply, drafts := scene.drafts ++ [record] }
    | (.error _, supply) => { scene with supply }
  | .insert draft =>
    match scene.drafts[draft]? with
    | none => scene
    | some record =>
      let effect := (⟨.text kind⟩ : Store).insert record scene.table
      let rest := { scene with table := effect.table, drafts := scene.drafts.eraseIdx draft }
      match effect.outcome with
      | .ok () => rest.hold record (.gained scene.copies.length)
      | .error _ => rest
  | .fetch key =>
    match (⟨.text kind⟩ : Store).fetch (.uuid key) scene.table with
    | .ok (some blob) => scene.hold blob.toRecord (.gained scene.copies.length)
    | _ => scene
  | .copy source =>
    match scene.copies[source]? with
    | none => scene
    | some record => scene.hold record (.copied source scene.copies.length)
  | .move copy target now =>
    match scene.copies[copy]? with
    | none => scene
    | some record =>
      match record.transition target now scene.supply with
      | (.ok moved, supply) => { scene with supply, copies := scene.copies.set copy moved }
      | (.error _, supply) => { scene with supply }
  | .update copy =>
    match scene.copies[copy]? with
    | none => scene
    | some record =>
      let result := scene.attempt kind record
      let rest := { scene with
        table := result.table, supply := result.supply
        copies := scene.copies.set copy result.record }
      match result.outcome with
      | .ok () => { rest with history := .saved copy record.key :: scene.history }
      | .error _ => rest
  | .delete key =>
    { scene with table := ((⟨.text kind⟩ : Store).delete (.uuid key) scene.table).table }

/-- The scene after some steps. -/
def run (kind : String) (scene : Scene) (steps : List Step) : Scene := steps.foldl (step kind) scene

/-- A copy is in step with the row of its key: no other copy of that key was saved since the copy
was gained or saved itself. A copy of a copy is in step if its source was. -/
def InStep (key : Value) : List Event → Nat → Prop
  | [], _ => False
  | .gained made :: past, copy => made = copy ∨ InStep key past copy
  | .copied source made :: past, copy =>
    if made = copy then InStep key past source else InStep key past copy
  | .saved saver savedKey :: past, copy => saver = copy ∨ savedKey ≠ key ∧ InStep key past copy

/-- A scene before any client has done anything: the table has no row of the kind, and no identifier
is handed out twice. Rows of other kinds may be there. -/
structure IsStart (kind : String) (scene : Scene) : Prop where
  keyed : scene.table.IsKeyed
  distinct : scene.supply.IsDistinct
  rowOf_eq : ∀ key, scene.table.rowOf kind key = none
  drafts_eq : scene.drafts = []
  copies_eq : scene.copies = []
  history_eq : scene.history = []

/-! ## Being in step -/

section InStep

variable {key savedKey : Value} {past : List Event} {copy made source saver : Nat}

theorem inStep_gained_self : InStep key (.gained copy :: past) copy := .inl rfl

theorem inStep_gained_of_ne (h : made ≠ copy) :
    InStep key (.gained made :: past) copy ↔ InStep key past copy := or_iff_right h

theorem inStep_copied_self :
    InStep key (.copied source copy :: past) copy ↔ InStep key past source := by
  rw [InStep, if_pos rfl]

theorem inStep_copied_of_ne (h : made ≠ copy) :
    InStep key (.copied source made :: past) copy ↔ InStep key past copy := by
  rw [InStep, if_neg h]

theorem inStep_saved_self : InStep key (.saved copy savedKey :: past) copy := .inl rfl

/-- A saved copy puts all other copies of its key out of step. -/
theorem not_inStep_saved (h : saver ≠ copy) : ¬InStep key (.saved saver key :: past) copy := by
  rintro (hsame | ⟨hne, -⟩)
  · exact h hsame
  · exact hne rfl

theorem inStep_saved_of_ne (h : saver ≠ copy) (hkey : savedKey ≠ key) :
    InStep key (.saved saver savedKey :: past) copy ↔ InStep key past copy := by
  constructor
  · rintro (hsame | ⟨-, hin⟩)
    · exact absurd hsame h
    · exact hin
  · intro hin
    exact .inr ⟨hkey, hin⟩

end InStep

/-! ## The invariant -/

/-- Some copy has the key. -/
def Knows (scene : Scene) (key : Uuid) : Prop := .uuid key ∈ scene.copies.map Record.key

/-- A row of the kind is the row of a typed record whose key some copy has. -/
def IsRow (kind : String) (scene : Scene) (key : Uuid) (row : Row) : Prop :=
  ∃ blob signature, row = Row.ofBlob kind key blob ∧ blob.stamps.AreAware ∧ blob.IsEncodable ∧
    blob.IsIssued scene.supply key signature ∧ scene.Knows key

/-- A copy carries the signature of its row exactly when it is in step, and then the status of the
row reaches its own. -/
structure Tracks (kind : String) (scene : Scene) (copy : Nat) (blob : Blob)
    (key signature : Uuid) : Prop where
  aware : blob.stamps.AreAware
  issued : blob.IsIssued scene.supply key signature
  signature_iff : ∀ row, scene.table.rowOf kind key = some row →
    (InStep (.uuid key) scene.history copy ↔ row.signature = blob.signatureCell)
  reaches : ∀ row, scene.table.rowOf kind key = some row →
    InStep (.uuid key) scene.history copy →
      ∃ held : Status, row.status = .integer held.code ∧ held.Reaches blob.status

/-- A copy is a typed record that tracks its row. -/
def IsCopy (kind : String) (scene : Scene) (copy : Nat) (record : Record) : Prop :=
  ∃ blob key signature, record = Blob.toRecord blob ∧ scene.Tracks kind copy blob key signature

/-- A draft is a typed record whose key no copy has. -/
def IsDraft (scene : Scene) (record : Record) : Prop :=
  ∃ blob key signature, record = Blob.toRecord blob ∧
    blob.IsIssued scene.supply key signature ∧ ¬scene.Knows key

/-- The invariant of all runs. -/
structure IsConsistent (kind : String) (scene : Scene) : Prop where
  keyed : scene.table.IsKeyed
  distinct : scene.supply.IsDistinct
  rows : ∀ key row, scene.table.rowOf kind key = some row → scene.IsRow kind key row
  copies : ∀ copy record, scene.copies[copy]? = some record → scene.IsCopy kind copy record
  drafts : ∀ record ∈ scene.drafts, scene.IsDraft record
  unlike : scene.drafts.Pairwise fun left right => left.key ≠ right.key

variable {kind : String} {scene after : Scene} {key signature : Uuid} {blob : Blob}
  {record : Record} {copy : Nat} {row : Row}

theorem IsStart.isConsistent (h : scene.IsStart kind) : scene.IsConsistent kind where
  keyed := h.keyed
  distinct := h.distinct
  rows key row hrow := by
    rw [h.rowOf_eq] at hrow
    exact absurd hrow (by simp)
  copies copy record hcopy := by
    rw [h.copies_eq] at hcopy
    exact absurd hcopy (by simp)
  drafts record hdraft := by
    rw [h.drafts_eq] at hdraft
    exact absurd hdraft List.not_mem_nil
  unlike := by
    rw [h.drafts_eq]
    exact List.Pairwise.nil

/-- A copy in step that has the signature and the status of its row tracks it. -/
theorem Tracks.of_inStep (haware : blob.stamps.AreAware)
    (hissued : blob.IsIssued scene.supply key signature)
    (hfound : scene.table.rowOf kind key = some row)
    (hin : InStep (.uuid key) scene.history copy) (hsignature : row.signature = blob.signatureCell)
    (hstatus : row.status = .integer blob.status.code) :
    scene.Tracks kind copy blob key signature where
  aware := haware
  issued := hissued
  signature_iff other hother := by
    obtain rfl := Option.some.inj (hfound.symm.trans hother)
    exact iff_of_true hin hsignature
  reaches other hother _ := by
    obtain rfl := Option.some.inj (hfound.symm.trans hother)
    exact ⟨blob.status, hstatus, .refl⟩

/-- The status of the row reaches the status of a copy that carries its signature. -/
theorem Tracks.reaches_of_signature (h : scene.Tracks kind copy blob key signature)
    (hfound : scene.table.rowOf kind key = some row)
    (hsignature : row.signature = blob.signatureCell) :
    ∃ held : Status, row.status = .integer held.code ∧ held.Reaches blob.status :=
  h.reaches row hfound ((h.signature_iff row hfound).2 hsignature)

/-! ## What steps leave alone -/

theorem IsRow.mono (h : scene.IsRow kind key row) (hsupply : scene.supply.LeadsTo after.supply)
    (hknown : scene.Knows key → after.Knows key) : after.IsRow kind key row := by
  obtain ⟨blob, signature, hrow, haware, hencodable, hissued, hknows⟩ := h
  exact ⟨blob, signature, hrow, haware, hencodable, hissued.leadsTo hsupply, hknown hknows⟩

/-- A copy stays one if its row is as before or gone and it is in step as before. -/
theorem IsCopy.mono (h : scene.IsCopy kind copy record)
    (hsupply : scene.supply.LeadsTo after.supply)
    (hrow : ∀ key row, record.key = .uuid key → after.table.rowOf kind key = some row →
      scene.table.rowOf kind key = some row)
    (hstep : InStep record.key after.history copy ↔ InStep record.key scene.history copy) :
    after.IsCopy kind copy record := by
  obtain ⟨blob, key, signature, rfl, htracks⟩ := h
  have hkey := Blob.key_toRecord htracks.issued.key_eq
  rw [hkey] at hstep
  refine ⟨blob, key, signature, rfl, htracks.aware, htracks.issued.leadsTo hsupply, ?_, ?_⟩
  · intro row hfound
    exact hstep.trans (htracks.signature_iff row (hrow key row hkey hfound))
  · intro row hfound hin
    exact htracks.reaches row (hrow key row hkey hfound) (hstep.1 hin)

theorem IsDraft.mono (h : scene.IsDraft record) (hsupply : scene.supply.LeadsTo after.supply)
    (hknown : ∀ key, record.key = .uuid key → after.Knows key → scene.Knows key) :
    after.IsDraft record := by
  obtain ⟨blob, key, signature, rfl, hissued, hunknown⟩ := h
  exact ⟨blob, key, signature, rfl, hissued.leadsTo hsupply,
    fun hknows => hunknown (hknown key (Blob.key_toRecord hissued.key_eq) hknows)⟩

/-- Only the supply and the drafts change. -/
theorem IsConsistent.withDrafts (h : scene.IsConsistent kind) {supply : Supply}
    {drafts : List Record} (hlater : scene.supply.LeadsTo supply)
    (hdrafts : ∀ record ∈ drafts, { scene with supply, drafts }.IsDraft record)
    (hunlike : drafts.Pairwise fun left right => left.key ≠ right.key) :
    { scene with supply, drafts }.IsConsistent kind where
  keyed := h.keyed
  distinct := h.distinct.leadsTo hlater
  rows key row hrow := (h.rows key row hrow).mono hlater id
  copies copy record hcopy :=
    (h.copies copy record hcopy).mono hlater (fun _ _ _ hrow => hrow) Iff.rfl
  drafts := hdrafts
  unlike := hunlike

/-- Only the supply changes. -/
theorem IsConsistent.withSupply (h : scene.IsConsistent kind) {supply : Supply}
    (hlater : scene.supply.LeadsTo supply) : { scene with supply }.IsConsistent kind :=
  h.withDrafts hlater (fun record hdraft => (h.drafts record hdraft).mono hlater
    fun _ _ hknows => hknows) h.unlike

/-- Drafts may be dropped. -/
theorem IsConsistent.dropDrafts (h : scene.IsConsistent kind) {drafts : List Record}
    (hsublist : drafts.Sublist scene.drafts) : { scene with drafts }.IsConsistent kind :=
  h.withDrafts (.refl _) (fun record hdraft => (h.drafts record (hsublist.subset hdraft)).mono
    (.refl _) fun _ _ hknows => hknows) (h.unlike.sublist hsublist)

/-- The key of a copy is spent. -/
theorem IsConsistent.spent_of_knows (h : scene.IsConsistent kind) (hknows : scene.Knows key) :
    scene.supply.IsSpent key := by
  obtain ⟨record, hmem, hkey⟩ := List.mem_map.1 hknows
  obtain ⟨copy, hcopy⟩ := List.mem_iff_getElem?.1 hmem
  obtain ⟨blob, held, signature, rfl, htracks⟩ := h.copies copy record hcopy
  obtain rfl := htracks.issued.eq_of_key hkey
  exact htracks.issued.key_spent

/-- The key of a draft is spent. -/
theorem IsDraft.spent_of_key (h : scene.IsDraft record) (hkey : record.key = .uuid key) :
    scene.supply.IsSpent key := by
  obtain ⟨blob, held, signature, rfl, hissued, -⟩ := h
  obtain rfl := hissued.eq_of_key hkey
  exact hissued.key_spent

/-! ## Creating and inserting -/

/-- A creation adds a draft, whose key was not spent before and is not that of a copy or of another
draft. -/
theorem IsConsistent.step_create (h : scene.IsConsistent kind) (size storeKey recordKey : Value) :
    (scene.step kind (.create size storeKey recordKey)).IsConsistent kind := by
  obtain ⟨supply, hlater, ⟨fault, hcreate⟩ | ⟨blob, key, signature, hcreate, -, hissued, hnew⟩⟩ :=
    Record.create_toRecord h.distinct size storeKey recordKey
  · simp only [step, hcreate]
    exact h.withSupply hlater
  · simp only [step, hcreate]
    refine h.withDrafts hlater ?_ ?_
    · intro draft hdraft
      rcases List.mem_append.1 hdraft with hdraft | hdraft
      · exact (h.drafts draft hdraft).mono hlater fun _ _ hknows => hknows
      · obtain rfl := List.mem_singleton.1 hdraft
        exact ⟨blob, key, signature, rfl, hissued, fun hknows => hnew (h.spent_of_knows hknows)⟩
    · refine List.pairwise_append.2 ⟨h.unlike, List.pairwise_singleton _ _, ?_⟩
      intro draft hdraft created hcreated hsame
      obtain rfl := List.mem_singleton.1 hcreated
      rw [Blob.key_toRecord hissued.key_eq] at hsame
      exact hnew ((h.drafts draft hdraft).spent_of_key hsame)

/-- A copy of the scene with one more copy is an earlier one or the new one. -/
theorem getElem?_hold {event : Event} {held : Record}
    (h : (scene.hold record event).copies[copy]? = some held) :
    (copy < scene.copies.length ∧ scene.copies[copy]? = some held) ∨
      (copy = scene.copies.length ∧ held = record) := by
  rw [hold, List.getElem?_append] at h
  split at h
  · next hlt => exact .inl ⟨hlt, h⟩
  · next hge =>
    rw [List.getElem?_singleton] at h
    split at h
    · next hzero => exact .inr ⟨by omega, (Option.some.inj h).symm⟩
    · exact absurd h (by simp)

/-- The keys of the copies after one more was gained. -/
theorem knows_hold {event : Event} :
    (scene.hold record event).Knows key ↔ scene.Knows key ∨ record.key = .uuid key := by
  simp [Knows, Scene.hold, eq_comm]

/-- One more copy of a key that some copy has already. -/
theorem IsConsistent.hold (h : scene.IsConsistent kind) {event : Event}
    (hcopy : (scene.hold record event).IsCopy kind scene.copies.length record)
    (hknown : ∀ key, record.key = .uuid key → scene.Knows key)
    (hstep : ∀ key copy, copy < scene.copies.length →
      (InStep key (event :: scene.history) copy ↔ InStep key scene.history copy)) :
    (scene.hold record event).IsConsistent kind where
  keyed := h.keyed
  distinct := h.distinct
  rows key row hrow := (h.rows key row hrow).mono (.refl _) fun hknows => knows_hold.2 (.inl hknows)
  copies copy held hheld := by
    rcases getElem?_hold hheld with ⟨hlt, hheld⟩ | ⟨rfl, rfl⟩
    · exact (h.copies copy held hheld).mono (.refl _) (fun _ _ _ hrow => hrow)
        (hstep held.key copy hlt)
    · exact hcopy
  drafts draft hdraft := by
    refine (h.drafts draft hdraft).mono (.refl _) fun key _ hknows => ?_
    rcases knows_hold.1 hknows with hknows | hkey
    · exact hknows
    · exact hknown key hkey
  unlike := h.unlike

/-- The copy that an insertion gives is in step with the added row, whose key no copy had. -/
theorem IsConsistent.insert (h : scene.IsConsistent kind) {changed : Table} {drafts : List Record}
    (hkey : blob.key = some key) (haware : blob.stamps.AreAware) (hencodable : blob.IsEncodable)
    (hissued : blob.IsIssued scene.supply key signature) (hunknown : ¬scene.Knows key)
    (hinsert : scene.table.insert? (Row.ofBlob kind key blob) = some changed)
    (hsublist : drafts.Sublist scene.drafts)
    (hunlike : ∀ other ∈ drafts, other.key ≠ .uuid key) :
    ({ scene with table := changed, drafts }.hold blob.toRecord
      (.gained scene.copies.length)).IsConsistent kind where
  keyed := h.keyed.insert? hinsert
  distinct := h.distinct
  rows other row hrow := by
    change changed.rowOf kind other = some row at hrow
    rw [Table.rowOf_insert? hinsert] at hrow
    split at hrow
    · next hsame =>
      subst hsame
      obtain rfl := Option.some.inj hrow
      exact ⟨blob, signature, rfl, haware, hencodable, hissued,
        knows_hold.2 (.inr (Blob.key_toRecord hkey))⟩
    · exact (h.rows other row hrow).mono (.refl _) fun hknows => knows_hold.2 (.inl hknows)
  copies copy held hheld := by
    rcases getElem?_hold hheld with ⟨hlt, hheld⟩ | ⟨rfl, rfl⟩
    · refine (h.copies copy held hheld).mono (.refl _) ?_ (inStep_gained_of_ne (Nat.ne_of_gt hlt))
      intro other row hother hrow
      -- The key of an earlier copy is not the key of the added row.
      have hne : key ≠ other := by
        rintro rfl
        exact hunknown (List.mem_map.2 ⟨held, List.mem_of_getElem? hheld, hother⟩)
      change changed.rowOf kind other = some row at hrow
      rw [Table.rowOf_insert? hinsert, if_neg hne] at hrow
      exact hrow
    · have hfound : changed.rowOf kind key = some (Row.ofBlob kind key blob) := by
        rw [Table.rowOf_insert? hinsert, if_pos rfl]
      exact ⟨blob, key, signature, rfl,
        .of_inStep haware hissued hfound inStep_gained_self rfl rfl⟩
  drafts draft hdraft := by
    refine (h.drafts draft (hsublist.subset hdraft)).mono (.refl _) fun other hother hknows => ?_
    rcases knows_hold.1 hknows with hknows | hsame
    · exact hknows
    · rw [Blob.key_toRecord hkey] at hsame
      exact absurd (hother.trans hsame.symm) (hunlike draft hdraft)
  unlike := h.unlike.sublist hsublist

/-- A draft is unlike the drafts that are left without it. -/
theorem IsConsistent.ne_of_mem_eraseIdx (h : scene.IsConsistent kind) {draft : Nat}
    (hdraft : scene.drafts[draft]? = some record) :
    ∀ other ∈ scene.drafts.eraseIdx draft, other.key ≠ record.key := by
  obtain ⟨hlt, rfl⟩ := List.getElem?_eq_some_iff.1 hdraft
  have hperm := List.getElem_cons_eraseIdx_perm hlt
  have hpairwise := (hperm.pairwise_iff fun hne => Ne.symm hne).2 h.unlike
  intro other hother
  exact ((List.pairwise_cons.1 hpairwise).1 other hother).symm

/-- An insertion turns a draft into a copy, or drops it. -/
theorem IsConsistent.step_insert (h : scene.IsConsistent kind) (draft : Nat) :
    (scene.step kind (.insert draft)).IsConsistent kind := by
  cases hdraft : scene.drafts[draft]? with
  | none =>
    simp only [step, hdraft]
    exact h
  | some record =>
    obtain ⟨blob, key, signature, rfl, hissued, hunknown⟩ :=
      h.drafts record (List.mem_of_getElem? hdraft)
    have hsublist := List.eraseIdx_sublist scene.drafts draft
    -- A refused record is dropped as well: its client does not insert it again.
    cases houtcome : ((⟨.text kind⟩ : Store).insert blob.toRecord scene.table).outcome with
    | ok =>
      obtain ⟨haware, hencodable, hinsert⟩ :=
        Store.insert?_of_insert rfl hissued.key_eq houtcome
      simp only [step, hdraft, houtcome]
      refine h.insert hissued.key_eq haware hencodable hissued hunknown hinsert hsublist ?_
      intro other hother
      rw [← Blob.key_toRecord hissued.key_eq]
      exact h.ne_of_mem_eraseIdx hdraft other hother
    | error fault =>
      simp only [step, hdraft, houtcome]
      rw [Store.table_of_insert_error houtcome]
      exact h.dropDrafts hsublist

/-! ## Fetching and copying -/

/-- A fetched record is in step. -/
theorem IsConsistent.step_fetch (h : scene.IsConsistent kind) (key : Uuid) :
    (scene.step kind (.fetch key)).IsConsistent kind := by
  cases hfound : scene.table.rowOf kind key with
  | none =>
    have hfetch : (⟨.text kind⟩ : Store).fetch (.uuid key) scene.table = .ok none := by
      rw [Store.fetch_uuid rfl, hfound]
    simp only [step, hfetch]
    exact h
  | some row =>
    obtain ⟨stored, signature, rfl, haware, hencodable, hissued, hknows⟩ := h.rows key row hfound
    simp only [step, Store.fetch_of_rowOf rfl haware hencodable hfound]
    refine h.hold ?_ ?_ ?_
    · -- Reading the stamps of the row and settling them keeps its signature and its status.
      refine ⟨_, key, signature, rfl, .of_inStep haware.recorded.settle ?_ hfound
        inStep_gained_self rfl rfl⟩
      exact ⟨rfl, hissued.signature_eq, hissued.key_spent, hissued.signature_spent,
        hissued.status_ne⟩
    · intro other hother
      obtain rfl := Value.uuid.inj hother
      exact hknows
    · intro other copy hlt
      exact inStep_gained_of_ne (Nat.ne_of_gt hlt)

/-- A copy of a copy is in step if its source is. -/
theorem IsConsistent.step_copy (h : scene.IsConsistent kind) (source : Nat) :
    (scene.step kind (.copy source)).IsConsistent kind := by
  cases hsource : scene.copies[source]? with
  | none =>
    simp only [step, hsource]
    exact h
  | some record =>
    simp only [step, hsource]
    refine h.hold ?_ ?_ ?_
    · obtain ⟨blob, key, signature, rfl, htracks⟩ := h.copies source record hsource
      refine ⟨blob, key, signature, rfl, htracks.aware, htracks.issued, ?_, ?_⟩
      · intro row hrow
        exact inStep_copied_self.trans (htracks.signature_iff row hrow)
      · intro row hrow hin
        exact htracks.reaches row hrow (inStep_copied_self.1 hin)
    · intro key hkey
      exact List.mem_map.2 ⟨record, List.mem_of_getElem? hsource, hkey⟩
    · intro key copy hlt
      exact inStep_copied_of_ne (Nat.ne_of_gt hlt)

/-! ## Moving, saving and deleting -/

/-- A copy of the scene after one was replaced is the replacement or another one. -/
theorem getElem?_set_cases {moved held : Record} {other : Nat}
    (h : (scene.copies.set copy moved)[other]? = some held) :
    (other = copy ∧ held = moved) ∨ (other ≠ copy ∧ scene.copies[other]? = some held) := by
  rw [List.getElem?_set] at h
  split at h
  · next hsame =>
    split at h
    · exact .inl ⟨hsame.symm, (Option.some.inj h).symm⟩
    · exact absurd h (by simp)
  · next hne => exact .inr ⟨Ne.symm hne, h⟩

/-- Copies keep their keys when one is replaced by a record with its key. -/
theorem map_key_set {moved : Record} (hcopy : scene.copies[copy]? = some record)
    (hkey : moved.key = record.key) :
    (scene.copies.set copy moved).map Record.key = scene.copies.map Record.key := by
  obtain ⟨hlt, rfl⟩ := List.getElem?_eq_some_iff.1 hcopy
  have hlt' : copy < (scene.copies.map Record.key).length := by simpa using hlt
  have hself := List.set_getElem_self hlt'
  rw [List.getElem_map] at hself
  rw [List.map_set, hkey, hself]

/-- One copy is replaced by a record with its key. -/
theorem IsConsistent.replace (h : scene.IsConsistent kind)
    (hcopy : scene.copies[copy]? = some record) {moved : Record} (hkey : moved.key = record.key)
    {table : Table} {supply : Supply} {history : List Event} (hkeyed : table.IsKeyed)
    (hlater : scene.supply.LeadsTo supply)
    (hrows : ∀ other row, table.rowOf kind other = some row →
      { scene with table, supply, history }.IsRow kind other row)
    (hmoved : { scene with table, supply, history }.IsCopy kind copy moved)
    (hothers : ∀ other held, other ≠ copy → scene.copies[other]? = some held →
      { scene with table, supply, history }.IsCopy kind other held) :
    { scene with
      table, supply, history, copies := scene.copies.set copy moved }.IsConsistent kind where
  keyed := hkeyed
  distinct := h.distinct.leadsTo hlater
  rows other row hrow := by
    refine (hrows other row hrow).mono (.refl _) fun hknows => ?_
    rw [Knows, map_key_set hcopy hkey]
    exact hknows
  copies other held hheld := by
    rcases getElem?_set_cases hheld with ⟨rfl, rfl⟩ | ⟨hne, hheld⟩
    · exact hmoved.mono (.refl _) (fun _ _ _ hrow => hrow) Iff.rfl
    · exact (hothers other held hne hheld).mono (.refl _) (fun _ _ _ hrow => hrow) Iff.rfl
  drafts draft hdraft := by
    refine (h.drafts draft hdraft).mono hlater fun other _ hknows => ?_
    rw [Knows, map_key_set hcopy hkey] at hknows
    exact hknows
  unlike := h.unlike

/-- A moved copy keeps its signature, and its row reaches one status more. -/
theorem IsConsistent.step_move (h : scene.IsConsistent kind) (copy : Nat) (target : Status)
    (now : Value) : (scene.step kind (.move copy target now)).IsConsistent kind := by
  cases hcopy : scene.copies[copy]? with
  | none =>
    simp only [step, hcopy]
    exact h
  | some record =>
    rcases hmove : record.transition target now scene.supply with ⟨fault | moved, supply⟩
    all_goals
      have hlater := Record.leadsTo_transition hmove
      simp only [step, hcopy, hmove]
    · exact h.withSupply hlater
    · obtain ⟨blob, key, signature, rfl, htracks⟩ := h.copies copy record hcopy
      obtain ⟨hedge, time, htime, rfl⟩ := Record.transition_toRecord hmove
      -- Table and history are as before, and so is the signature of the moved copy.
      refine h.replace hcopy ?_ h.keyed hlater ?_ ?_ ?_
      · rfl
      · intro other row hrow
        exact (h.rows other row hrow).mono hlater id
      · refine ⟨_, key, signature, rfl, Blob.areAware_moved htracks.aware htime target, ?_,
          htracks.signature_iff, ?_⟩
        · have hissued := htracks.issued.leadsTo hlater
          exact ⟨hissued.key_eq, hissued.signature_eq, hissued.key_spent, hissued.signature_spent,
            hedge.target_ne⟩
        · intro row hrow hin
          obtain ⟨held, hstatus, hreaches⟩ := htracks.reaches row hrow hin
          exact ⟨held, hstatus, hreaches.tail hedge⟩
      · intro other held _ hheld
        exact (h.copies other held hheld).mono hlater (fun _ _ _ hrow => hrow) Iff.rfl

/-- Another copy stays one after a copy was saved. If it has the key of the saved copy, it is out of
step, and it does not carry the new signature, which was not spent before. -/
theorem IsCopy.saved (h : scene.IsCopy kind copy record) {saver : Nat} (hne : saver ≠ copy)
    {id : Uuid} {supply : Supply} {changed : Table} {saved : Row}
    (hlater : scene.supply.LeadsTo supply) (hnew : ¬scene.supply.IsSpent id)
    (hsigned : saved.signature = .text id.text)
    (hrowOf : ∀ other, changed.rowOf kind other =
      if key = other then some saved else scene.table.rowOf kind other) :
    { scene with
      table := changed, supply
      history := .saved saver (.uuid key) :: scene.history }.IsCopy kind copy record := by
  obtain ⟨blob, held, signature, rfl, htracks⟩ := h
  have hissued := htracks.issued
  have hheld := Blob.key_toRecord hissued.key_eq
  -- A save outdates the copies of others under its own key, and no copy under another one.
  by_cases hsame : key = held
  · subst hsame
    have hfound : changed.rowOf kind key = some saved := by rw [hrowOf, if_pos rfl]
    have hunlike : saved.signature ≠ blob.signatureCell := by
      intro hcell
      rw [hsigned, Blob.signatureCell_eq hissued.signature_eq] at hcell
      obtain rfl : id = signature := Uuid.text_injective (Cell.text.inj hcell)
      exact hnew hissued.signature_spent
    refine ⟨blob, key, signature, rfl, htracks.aware, hissued.leadsTo hlater, ?_, ?_⟩
    · intro row hrow
      obtain rfl := Option.some.inj (hfound.symm.trans hrow)
      exact iff_of_false (not_inStep_saved hne) hunlike
    · intro row _ hin
      exact absurd hin (not_inStep_saved hne)
  · refine IsCopy.mono ⟨blob, held, signature, rfl, htracks⟩ hlater ?_ ?_
    · intro other row hother hrow
      obtain rfl := hissued.eq_of_key hother
      change changed.rowOf kind held = some row at hrow
      rw [hrowOf, if_neg hsame] at hrow
      exact hrow
    · rw [hheld]
      exact inStep_saved_of_ne hne fun hkeys => hsame (Value.uuid.inj hkeys)

/-- A saved copy is in step with its changed row. -/
theorem IsConsistent.saved (h : scene.IsConsistent kind)
    (hcopy : scene.copies[copy]? = some blob.toRecord)
    (htracks : scene.Tracks kind copy blob key signature) {id : Uuid} {supply : Supply}
    {changed : Table} (hid : scene.supply.drawId = (.ok (.uuid id), supply))
    (hfound : scene.table.rowOf kind key = some row) (hkeyed : changed.IsKeyed)
    (hrowOf : ∀ other, changed.rowOf kind other =
      if key = other then some ((blob.change id).apply row) else scene.table.rowOf kind other) :
    { scene with
      table := changed, supply, copies := scene.copies.set copy (blob.signed id).toRecord
      history := .saved copy (.uuid key) :: scene.history }.IsConsistent kind := by
  have hlater := Supply.LeadsTo.of_drawId hid
  obtain ⟨_, hsame, hspent, hnew⟩ := h.distinct.of_drawId hid
  obtain rfl := Value.uuid.inj hsame
  have hissued := htracks.issued.leadsTo hlater
  refine h.replace hcopy ?_ hkeyed hlater ?_ ?_ ?_
  · rfl
  · intro other found hother
    change changed.rowOf kind other = some found at hother
    rw [hrowOf] at hother
    split at hother
    · -- The changed row is the row of the stored record with the status and the last update of the
      -- copy and the new signature.
      next hkey =>
      subst hkey
      obtain rfl := Option.some.inj hother
      obtain ⟨stored, _, rfl, haware, hencodable, hstored, hknows⟩ := h.rows key row hfound
      refine ⟨_, id, blob.apply_change stored id kind key, ⟨haware.1, htracks.aware.2⟩, hencodable,
        ?_, hknows⟩
      exact ⟨hstored.key_eq, rfl, hissued.key_spent, hspent, hissued.status_ne⟩
    · exact (h.rows other found hother).mono hlater fun hknows => hknows
  · have hsaved : changed.rowOf kind key = some ((blob.change id).apply row) := by
      rw [hrowOf, if_pos rfl]
    refine ⟨blob.signed id, key, id, rfl,
      .of_inStep htracks.aware ?_ hsaved inStep_saved_self rfl rfl⟩
    exact ⟨hissued.key_eq, rfl, hissued.key_spent, hspent, hissued.status_ne⟩
  · intro other held hne hheld
    exact (h.copies other held hheld).saved (Ne.symm hne) hlater hnew rfl hrowOf

/-- The update of a held copy fails and changes nothing but the supply, or changes the row that
carries the signature of the copy. -/
theorem IsConsistent.attempt_cases (h : scene.IsConsistent kind)
    (hcopy : scene.copies[copy]? = some record) :
    (∃ fault log supply, scene.supply.LeadsTo supply ∧ scene.attempt kind record =
      { outcome := .error fault, table := scene.table, log, record, supply }) ∨
    ∃ blob key signature id supply row changed log, record = Blob.toRecord blob ∧
      scene.Tracks kind copy blob key signature ∧
      scene.supply.drawId = (.ok (.uuid id), supply) ∧
      scene.table.rowOf kind key = some row ∧ row.signature = blob.signatureCell ∧
      changed.IsKeyed ∧
      (∀ other, changed.rowOf kind other =
        if key = other then some ((blob.change id).apply row) else scene.table.rowOf kind other) ∧
      scene.attempt kind record =
        { outcome := .ok ()
          table := changed
          log
          record := (blob.signed id).toRecord
          supply } := by
  obtain ⟨blob, key, signature, rfl, htracks⟩ := h.copies copy record hcopy
  rcases Store.update_cases kind h.keyed h.distinct htracks.issued.key_eq with
    ⟨fault, log, supply, hlater, hupdate⟩ |
      ⟨id, supply, row, changed, log, -, hid, hfound, hsignature, hkeyed, hrowOf, hupdate⟩
  · exact .inl ⟨fault, log, supply, hlater, hupdate⟩
  · exact .inr ⟨blob, key, signature, id, supply, row, changed, log, rfl, htracks, hid, hfound,
      hsignature, hkeyed, fun other => by simpa using hrowOf kind other, hupdate⟩

theorem IsConsistent.step_update (h : scene.IsConsistent kind) (copy : Nat) :
    (scene.step kind (.update copy)).IsConsistent kind := by
  cases hcopy : scene.copies[copy]? with
  | none =>
    simp only [step, hcopy]
    exact h
  | some record =>
    rcases h.attempt_cases hcopy with ⟨fault, log, supply, hlater, hattempt⟩ |
      ⟨blob, key, signature, id, supply, row, changed, log, rfl, htracks, hid, hfound, -, hkeyed,
        hrowOf, hattempt⟩
    · have hself : scene.copies.set copy record = scene.copies := by
        obtain ⟨hlt, hheld⟩ := List.getElem?_eq_some_iff.1 hcopy
        rw [← hheld, List.set_getElem_self]
      simp only [step, hcopy, hattempt, hself]
      exact h.withSupply hlater
    · simp only [step, hcopy, hattempt, Blob.key_toRecord htracks.issued.key_eq]
      exact h.saved hcopy htracks hid hfound hkeyed hrowOf

theorem table_step_delete (kind : String) (scene : Scene) (key : Uuid) :
    (scene.step kind (.delete key)).table =
      scene.table.erase (.text kind) (.text key.text) := by
  rw [step, Store.delete_uuid rfl]

/-- What is found after a deletion was found before. -/
theorem rowOf_of_step_delete {deleted : Uuid}
    (h : (scene.step kind (.delete deleted)).table.rowOf kind key = some row) :
    scene.table.rowOf kind key = some row := by
  rw [table_step_delete, Table.rowOf_erase] at h
  split at h
  · exact absurd h (by simp)
  · exact h

/-- The copies of a deleted record are left without a row. -/
theorem IsConsistent.step_delete (h : scene.IsConsistent kind) (key : Uuid) :
    (scene.step kind (.delete key)).IsConsistent kind where
  keyed := by
    rw [table_step_delete]
    exact h.keyed.erase
  distinct := h.distinct
  rows other row hrow :=
    (h.rows other row (rowOf_of_step_delete hrow)).mono (.refl _) fun hknows => hknows
  copies copy record hcopy :=
    (h.copies copy record hcopy).mono (.refl _) (fun _ _ _ hrow => rowOf_of_step_delete hrow)
      Iff.rfl
  drafts record hdraft := (h.drafts record hdraft).mono (.refl _) fun _ _ hknows => hknows
  unlike := h.unlike

/-! ## Runs -/

theorem IsConsistent.step (h : scene.IsConsistent kind) (step : Step) :
    (scene.step kind step).IsConsistent kind := by
  cases step with
  | create size storeKey recordKey => exact h.step_create size storeKey recordKey
  | insert draft => exact h.step_insert draft
  | fetch key => exact h.step_fetch key
  | copy source => exact h.step_copy source
  | move copy target now => exact h.step_move copy target now
  | update copy => exact h.step_update copy
  | delete key => exact h.step_delete key

/-- **Every order of steps keeps the invariant.** -/
theorem IsConsistent.run (h : scene.IsConsistent kind) (steps : List Step) :
    (scene.run kind steps).IsConsistent kind := by
  -- The induction is on the steps from the front, for all scenes at once.
  induction steps generalizing scene with
  | nil => exact h
  | cons first rest ih => exact ih (h.step first)

/-- Clients can bring the scene about, in some order of their steps. -/
def IsReached (kind : String) (scene : Scene) : Prop :=
  ∃ start steps, IsStart kind start ∧ scene = start.run kind steps

theorem IsReached.isConsistent (h : scene.IsReached kind) : scene.IsConsistent kind := by
  obtain ⟨start, steps, hstart, rfl⟩ := h
  exact hstart.isConsistent.run steps

/-! A client creates and inserts a record, another one fetches it, and the first one saves it. -/

/-- The sample scene before these steps. -/
def sampleStart : Scene where
  table := .empty
  supply := .start (fun _ => some sampleTime) Supply.numbered
  drafts := []
  copies := []
  history := []

/-- The sample scene after these steps. -/
def sampleScene : Scene :=
  sampleStart.run "blob"
    [.create (.integer 4) (.text "store") (.text "record"), .insert 0, .fetch sampleKey, .update 0]

theorem isReached_sampleScene : sampleScene.IsReached "blob" :=
  ⟨sampleStart, _,
    ⟨Table.isKeyed_empty, Supply.isDistinct_numbered _, fun _ => rfl, rfl, rfl, rfl⟩, rfl⟩

end Scene

end BlobCatalog
