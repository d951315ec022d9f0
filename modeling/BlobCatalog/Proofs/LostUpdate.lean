import BlobCatalog.Proofs.SharedTable

/-!
# No update is lost

A copy of a record is saved exactly when its row is there and no other copy was saved since the copy
was last in step with the row (`Scene.update_outcome_iff`). The statement is about every scene that
clients can reach from a table without rows of their kind, in any order of their steps.
-/

namespace BlobCatalog

namespace Scene

/-- **No update is lost.** With an identifier at hand, the update of a held copy succeeds exactly
when the row of its key is there and the copy is in step with it. It finds no row exactly when there
is none, and is refused as outdated exactly when the row is there and the copy is not in step. A
refused update leaves the table and the copy as they were. After a success the row and the copy
carry the drawn identifier as their signature, and the copy is in step. -/
theorem update_outcome_iff (kind : String) (scene : Scene) (hreached : scene.IsReached kind)
    (copy : Nat) (record : Record) (hcopy : scene.copies[copy]? = some record) (id : Value)
    (hid : scene.supply.idAt scene.supply.drawn = some id) :
    ∃ key, record.key = .uuid key ∧
      ((scene.attempt kind record).outcome = .ok () ↔
        scene.table.rowOf kind key ≠ none ∧ InStep record.key scene.history copy) ∧
      ((scene.attempt kind record).outcome = .error (.notFound record.key) ↔
        scene.table.rowOf kind key = none) ∧
      ((scene.attempt kind record).outcome = .error (.modified record.key) ↔
        scene.table.rowOf kind key ≠ none ∧ ¬InStep record.key scene.history copy) ∧
      ((scene.attempt kind record).outcome ≠ .ok () →
        (scene.attempt kind record).table = scene.table ∧
          (scene.attempt kind record).record = record) ∧
      ((scene.attempt kind record).outcome = .ok () →
        (scene.attempt kind record).record = record.withSignature id ∧
          (∃ row, (scene.attempt kind record).table.rowOf kind key = some row ∧
            Cell.ofText id.shown = .ok row.signature) ∧
          InStep record.key (scene.step kind (.update copy)).history copy) := by
  have hconsistent := hreached.isConsistent
  obtain ⟨blob, key, signature, rfl, htracks⟩ := hconsistent.copies copy record hcopy
  have hkey := Blob.key_toRecord htracks.issued.key_eq
  obtain ⟨id, rfl⟩ := hconsistent.distinct.isUuid _ _ hid
  have hdraw : scene.supply.drawId =
      (.ok (.uuid id), { scene.supply with drawn := scene.supply.drawn + 1 }) := by
    simp [Supply.drawId, hid]
  refine ⟨key, hkey, ?_⟩
  rw [hkey]
  rcases Store.update_toRecord kind hconsistent.keyed htracks.issued.key_eq htracks.aware
      hdraw with
    ⟨hfound, hupdate⟩ | ⟨row, _, hfound, hsignature, hupdate⟩ |
      ⟨row, changed, _, hfound, hsignature, -, -, hrowOf, hupdate⟩
  · -- There is no row.
    simp [attempt, hupdate, hfound]
  · -- The row carries another signature, so the copy is not in step.
    have hout := mt (htracks.signature_iff row hfound).1 hsignature
    simp [attempt, hupdate, hfound, hout]
  · -- The row carries the signature of the copy, so the copy is in step.
    have hin := (htracks.signature_iff row hfound).2 hsignature
    have hsaved : changed.rowOf kind key = some ((blob.change id).apply row) := by
      rw [hrowOf, if_pos ⟨rfl, rfl⟩]
    have hstep : InStep (.uuid key) (scene.step kind (.update copy)).history copy := by
      simp only [step, attempt, hcopy, hupdate, hkey]
      exact .inl rfl
    simp only [attempt, hupdate, hfound]
    refine ⟨by simp [hin], by simp, by simp [hin], by simp, fun _ => ⟨rfl, ?_, hstep⟩⟩
    exact ⟨_, hsaved, Cell.ofText_ofString id.text⟩

/-! The sample scene has two copies of one record, and the first was saved since the second was
fetched. -/

theorem attempt_of_outdated_sample :
    ∃ record, sampleScene.copies[1]? = some record ∧
      (sampleScene.attempt "blob" record).outcome = .error (.modified record.key) := by
  have hkeys : sampleScene.copies[1]?.map Record.key = some (.uuid sampleKey) := by
    with_unfolding_all rfl
  have hrow : sampleScene.table.rowOf "blob" sampleKey ≠ none := by decide +kernel
  have hhistory : sampleScene.history =
      [.saved 0 (.uuid sampleKey), .gained 1, .gained 0] := by
    with_unfolding_all rfl
  obtain ⟨record, hcopy, hheld⟩ := Option.map_eq_some_iff.1 hkeys
  obtain ⟨id, hid⟩ := Option.isSome_iff_exists.1
    (by decide +kernel : (sampleScene.supply.idAt sampleScene.supply.drawn).isSome = true)
  obtain ⟨key, hkey, -, -, hmodified, -⟩ :=
    update_outcome_iff "blob" sampleScene isReached_sampleScene 1 record hcopy id hid
  obtain rfl : sampleKey = key := Value.uuid.inj (hheld.symm.trans hkey)
  refine ⟨record, hcopy, hmodified.2 ⟨hrow, ?_⟩⟩
  simp [hkey, hhistory, InStep]

end Scene

end BlobCatalog
