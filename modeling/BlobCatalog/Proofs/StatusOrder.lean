import BlobCatalog.Proofs.SharedTable

/-!
# Stored statuses only move forward

Stores do not look at the moves of the lifecycle. The status in a row moves forward all the same,
however outdated the copies of some clients are: what a copy in step saves is reached from the
status of its row. `Scene.Follows` relates the rows under a key at two moments, every step keeps it
(`Scene.follows_step`), and `Scene.status_reaches` states what it means for single updates and for
whole runs.
-/

namespace BlobCatalog

namespace Scene

variable {kind : String} {scene : Scene} {key : Uuid} {before after last : Option Row}

/-! ## Rows at two moments -/

/-- A row that is there at the later moment was there at the earlier one, and its status is reached
from the earlier one. -/
def Follows (before after : Option Row) : Prop :=
  ∀ row ∈ after, ∃ earlier ∈ before, ∃ old new : Status,
    earlier.status = .integer old.code ∧ row.status = .integer new.code ∧ old.Reaches new

theorem Follows.trans (h : Follows before after) (hlast : Follows after last) :
    Follows before last := by
  intro row hrow
  obtain ⟨middle, hmiddle, held, new, hheld, hnew, hreaches⟩ := hlast row hrow
  obtain ⟨earlier, hearlier, old, held', hold, hheld', hreaches'⟩ := h middle hmiddle
  obtain rfl : held' = held :=
    Status.code_injective (Int.ofNat_inj.1 (Cell.integer.inj (hheld'.symm.trans hheld)))
  exact ⟨earlier, hearlier, old, new, hold, hnew, hreaches'.trans hreaches⟩

/-- The rows of a consistent scene follow themselves, also after some of them are removed. -/
theorem IsConsistent.follows_of_imp (h : scene.IsConsistent kind)
    (hrows : ∀ row, after = some row → scene.table.rowOf kind key = some row) :
    Follows (scene.table.rowOf kind key) after := by
  intro row hrow
  have hfound := hrows row hrow
  obtain ⟨stored, signature, rfl, -⟩ := h.rows key row hfound
  exact ⟨_, hfound, stored.status, stored.status, rfl, rfl, .refl⟩

/-! ## Single steps -/

/-- An insertion does not touch the row of a key that some copy has. -/
theorem IsConsistent.rowOf_step_insert (h : scene.IsConsistent kind) (hknows : scene.Knows key)
    (draft : Nat) :
    (scene.step kind (.insert draft)).table.rowOf kind key = scene.table.rowOf kind key := by
  cases hdraft : scene.drafts[draft]? with
  | none => simp only [Scene.step, hdraft]
  | some record =>
    obtain ⟨blob, created, signature, rfl, hissued, hunknown⟩ :=
      h.drafts record (List.mem_of_getElem? hdraft)
    cases houtcome : ((⟨.text kind⟩ : Store).insert blob.toRecord scene.table).outcome with
    | error fault =>
      simp only [Scene.step, hdraft, houtcome, Store.table_of_insert_error houtcome]
    | ok =>
      obtain ⟨-, -, hinsert⟩ := Store.insert?_of_insert rfl hissued.key_eq houtcome
      -- No copy has the key of a draft.
      have hne : created ≠ key := by
        rintro rfl
        exact hunknown hknows
      simp only [Scene.step, hdraft, houtcome, Scene.hold]
      rw [Table.rowOf_insert? hinsert, if_neg hne]

/-- The row of a key that some copy has follows the row before a step. -/
theorem IsConsistent.follows_step (h : scene.IsConsistent kind) (hknows : scene.Knows key)
    (step : Step) :
    Follows (scene.table.rowOf kind key) ((scene.step kind step).table.rowOf kind key) := by
  have hsame : Follows (scene.table.rowOf kind key) (scene.table.rowOf kind key) :=
    h.follows_of_imp fun _ hrow => hrow
  cases step with
  | create size storeKey recordKey =>
    simp only [Scene.step]
    split <;> exact hsame
  | insert draft =>
    rw [h.rowOf_step_insert hknows]
    exact hsame
  | fetch fetched =>
    simp only [Scene.step]
    split <;> exact hsame
  | copy source =>
    simp only [Scene.step]
    split <;> exact hsame
  | move copy target now =>
    simp only [Scene.step]
    split
    · exact hsame
    · split <;> exact hsame
  | update copy =>
    cases hcopy : scene.copies[copy]? with
    | none =>
      simp only [Scene.step, hcopy]
      exact hsame
    | some record =>
      rcases h.attempt_cases hcopy with ⟨fault, log, supply, -, hattempt⟩ |
        ⟨blob, saved, signature, id, supply, row, changed, log, -, htracks, -, hfound, hsignature,
          -, hrowOf, hattempt⟩
      · simp only [Scene.step, hcopy, hattempt]
        exact hsame
      · -- The saved copy carried the signature of its row.
        obtain ⟨old, hold, hreaches⟩ := htracks.reaches_of_signature hfound hsignature
        simp only [Scene.step, hcopy, hattempt, hrowOf]
        split
        · next hkey =>
          subst hkey
          rintro _ ⟨⟩
          exact ⟨row, hfound, old, blob.status, hold, rfl, hreaches⟩
        · exact hsame
  | delete deleted => exact h.follows_of_imp fun row hrow => rowOf_of_step_delete hrow

/-- A key that some copy has stays the key of a copy. -/
theorem IsConsistent.knows_step (h : scene.IsConsistent kind) (hknows : scene.Knows key)
    (step : Step) : (scene.step kind step).Knows key := by
  -- A step holds one more record or changes one in place, and neither loses a key.
  cases step with
  | create size storeKey recordKey =>
    simp only [Scene.step]
    split <;> exact hknows
  | insert draft =>
    simp only [Scene.step]
    split
    · exact hknows
    · split
      · exact knows_hold.2 (.inl hknows)
      · exact hknows
  | fetch fetched =>
    simp only [Scene.step]
    split
    · exact knows_hold.2 (.inl hknows)
    · exact hknows
  | copy source =>
    simp only [Scene.step]
    split
    · exact hknows
    · exact knows_hold.2 (.inl hknows)
  | move copy target now =>
    cases hcopy : scene.copies[copy]? with
    | none =>
      simp only [Scene.step, hcopy]
      exact hknows
    | some record =>
      rcases hmove : record.transition target now scene.supply with ⟨fault | moved, supply⟩
      · simp only [Scene.step, hcopy, hmove]
        exact hknows
      · obtain ⟨blob, held, signature, rfl, -⟩ := h.copies copy record hcopy
        obtain ⟨-, time, -, rfl⟩ := Record.transition_toRecord hmove
        simp only [Scene.step, hcopy, hmove, Knows]
        rw [map_key_set hcopy]
        · exact hknows
        · rfl
  | update copy =>
    cases hcopy : scene.copies[copy]? with
    | none =>
      simp only [Scene.step, hcopy]
      exact hknows
    | some record =>
      rcases h.attempt_cases hcopy with ⟨_, _, _, -, hattempt⟩ |
        ⟨blob, _, _, id, _, _, _, _, rfl, -, -, -, -, -, -, hattempt⟩
      · simp only [Scene.step, hcopy, hattempt, Knows]
        rw [map_key_set hcopy rfl]
        exact hknows
      · simp only [Scene.step, hcopy, hattempt, Knows]
        rw [map_key_set hcopy]
        · exact hknows
        · rfl
  | delete deleted => exact hknows

/-! ## Runs -/

/-- The row of a key that some copy has follows the row before any steps. -/
theorem IsConsistent.follows_run (h : scene.IsConsistent kind) (hknows : scene.Knows key)
    (steps : List Step) :
    Follows (scene.table.rowOf kind key) ((scene.run kind steps).table.rowOf kind key) := by
  induction steps generalizing scene with
  | nil => exact h.follows_of_imp fun _ hrow => hrow
  | cons first rest ih =>
    exact (h.follows_step hknows first).trans (ih (h.step first) (h.knows_step hknows first))

/-- **Stored statuses only move forward.** A successful update of a held copy writes the status of
the copy, which is reached from the status the row held just before. Between any two moments at
which the row of a key is there, its status moves along the lifecycle: it does not return to
initializing, does not go from pending deletion to ready, does not leave the failed status and is
never the unknown one. -/
theorem status_reaches (kind : String) (scene : Scene) (hreached : scene.IsReached kind) :
    (∀ (copy : Nat) (record : Record), scene.copies[copy]? = some record →
      (scene.attempt kind record).outcome = .ok () →
        ∃ key row saved, record.key = .uuid key ∧ scene.table.rowOf kind key = some row ∧
          (scene.attempt kind record).table.rowOf kind key = some saved ∧
          ∃ old new : Status, row.status = .integer old.code ∧ saved.status = .integer new.code ∧
            record.status = .status new ∧ old.Reaches new) ∧
    ∀ (steps : List Step) (key : Uuid) (row later : Row), scene.table.rowOf kind key = some row →
      (scene.run kind steps).table.rowOf kind key = some later →
        ∃ old new : Status, row.status = .integer old.code ∧ later.status = .integer new.code ∧
          old.Reaches new ∧ old ≠ .unknown ∧ new ≠ .unknown ∧
          (old ≠ .initializing → new ≠ .initializing) ∧
          (old = .pendingDeletion → new ≠ .ready) ∧ (old = .error → new = .error) := by
  have hconsistent := hreached.isConsistent
  constructor
  · intro copy record hcopy hsaved
    rcases hconsistent.attempt_cases hcopy with ⟨fault, log, supply, -, hattempt⟩ |
      ⟨blob, key, signature, id, supply, row, changed, log, rfl, htracks, -, hfound, hsignature, -,
        hrowOf, hattempt⟩
    · rw [hattempt] at hsaved
      exact absurd hsaved (by simp)
    · obtain ⟨old, hold, hreaches⟩ := htracks.reaches_of_signature hfound hsignature
      refine ⟨key, row, (blob.change id).apply row, Blob.key_toRecord htracks.issued.key_eq, hfound,
        ?_, old, blob.status, hold, rfl, rfl, hreaches⟩
      rw [hattempt]
      exact (hrowOf key).trans (if_pos rfl)
  · intro steps key row later hrow hlater
    -- The stored record is the one whose status the run is followed from.
    obtain ⟨stored, _, rfl, -, -, hissued, hknows⟩ := hconsistent.rows key row hrow
    obtain ⟨found, hfound, old, new, hold, hnew, hreaches⟩ :=
      hconsistent.follows_run hknows steps later hlater
    obtain rfl := Option.some.inj (hrow.symm.trans hfound)
    obtain rfl : stored.status = old :=
      Status.code_injective (Int.ofNat_inj.1 (Cell.integer.inj hold))
    refine ⟨stored.status, new, rfl, hnew, hreaches, hissued.status_ne,
      hreaches.ne_unknown hissued.status_ne, hreaches.ne_initializing, ?_, ?_⟩
    · intro hpending
      rw [hpending] at hreaches
      exact hreaches.ne_ready
    · intro hfailed
      rw [hfailed] at hreaches
      exact hreaches.eq_error

/-! In the sample scene the outdated copy is moved and not saved, then the other one is moved and
saved. -/

theorem reaches_of_sample :
    ∃ row later, sampleScene.table.rowOf "blob" sampleKey = some row ∧
      (sampleScene.run "blob" [.move 1 .pendingDeletion .absent, .update 1,
        .move 0 .ready .absent, .update 0]).table.rowOf "blob" sampleKey = some later ∧
      ∃ old new : Status, row.status = .integer old.code ∧ later.status = .integer new.code ∧
        old.Reaches new := by
  obtain ⟨row, hrow⟩ := Option.isSome_iff_exists.1
    (by decide +kernel : (sampleScene.table.rowOf "blob" sampleKey).isSome = true)
  obtain ⟨later, hlater⟩ := Option.isSome_iff_exists.1
    (by decide +kernel : ((sampleScene.run "blob" [.move 1 .pendingDeletion .absent, .update 1,
      .move 0 .ready .absent, .update 0]).table.rowOf "blob" sampleKey).isSome = true)
  obtain ⟨-, hmoments⟩ := status_reaches "blob" sampleScene isReached_sampleScene
  obtain ⟨old, new, hold, hnew, hreaches, -⟩ := hmoments _ _ row later hrow hlater
  exact ⟨row, later, hrow, hlater, old, new, hold, hnew, hreaches⟩

end Scene

end BlobCatalog
