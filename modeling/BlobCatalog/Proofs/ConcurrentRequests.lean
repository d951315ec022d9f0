import BlobCatalog.Proofs.CatalogService

/-!
# Requests that share a table

Requests run side by side on one table. A request asks the store at most twice, first to load a
record and then to act on it, and other requests may ask in between. `Traffic.step` runs one of
these turns, and the order of the turns is any.

A purge removes the row of the key it has loaded and does not look at the row again. The row it
removes therefore need not await deletion: another request may have failed the record meanwhile
(`Traffic.not_isPending_of_removes`), and `Traffic.isPending_iff_of_removes` says exactly when.
The invariant behind it is `Traffic.IsSound`: the row of a loaded record still holds that record, or
it has moved on along the lifecycle and carries a signature that the loaded record does not.
-/

namespace BlobCatalog

/-! ## Turns -/

/-- How far a request has come: it has not asked the store yet, it has loaded the record that it
acts on, or it is done. -/
inductive Progress where
  | waiting (request : Request)
  | loaded (action : Action) (found : Loaded)
  | done (outcome : Except Fault String)

/-- A request with the kind of its settings and the place of the objects. -/
structure Visit where
  kind : String
  locator : Locator
  progress : Progress

namespace Visit

/-- The catalog that serves the request. -/
def catalog (visit : Visit) : Catalog := ⟨⟨.text visit.kind⟩, visit.locator⟩

/-- The visit after a turn that ended it. -/
def finish (visit : Visit) (outcome : Except Fault String) : Visit :=
  { visit with progress := .done outcome }

end Visit

/-- The shared table with the clock and the identifiers, and all requests so far. -/
structure Traffic where
  table : Table
  supply : Supply
  visits : List Visit

/-- What happens next: a request arrives, or one of those that have arrived takes its turn. -/
inductive Turn where
  | arrive (kind : String) (locator : Locator) (request : Request)
  | proceed (index : Nat)

namespace Traffic

/-- The traffic after a turn that ended a visit. -/
def conclude (traffic : Traffic) (index : Nat) (visit : Visit) (service : Service) : Traffic :=
  ⟨service.table, service.supply, traffic.visits.set index (visit.finish service.outcome)⟩

/-- The traffic after a visit has taken its turn. -/
def advance (traffic : Traffic) (index : Nat) (visit : Visit) : Traffic :=
  match visit.progress with
  | .waiting (.create size storeKey recordKey) =>
    traffic.conclude index visit
      (visit.catalog.create size storeKey recordKey traffic.table traffic.supply)
  | .waiting (.manage action text) =>
    match visit.catalog.load text traffic.table with
    | .error fault =>
      traffic.conclude index visit
        (Catalog.unchanged (.error fault) traffic.table traffic.supply)
    | .ok found =>
      { traffic with
        visits := traffic.visits.set index { visit with progress := .loaded action found } }
  | .loaded action found =>
    traffic.conclude index visit (visit.catalog.act action found traffic.table traffic.supply)
  | .done _ => traffic

/-- The traffic after a turn. -/
def step (traffic : Traffic) : Turn → Traffic
  | .arrive kind locator request =>
    { traffic with visits := traffic.visits ++ [⟨kind, locator, .waiting request⟩] }
  | .proceed index =>
    match traffic.visits[index]? with
    | some visit => traffic.advance index visit
    | none => traffic

/-- The traffic after some turns. -/
def run (traffic : Traffic) (turns : List Turn) : Traffic := turns.foldl step traffic

/-! ## The invariant -/

/-- The row under a kind and a key is that of a record whose texts are strings, whose times have
offsets and whose key and signature are not drawn again. -/
def IsIssuedRow (supply : Supply) (kind : String) (key : Uuid) (row : Row) : Prop :=
  ∃ signature blob, row = Row.ofBlob kind key blob ∧ blob.stamps.AreAware ∧ blob.IsEncodable ∧
    blob.IsIssued supply key signature

/-- A row has moved on since a record was loaded from it: along the lifecycle, and with a signature
that the record does not carry. -/
def HasMovedOn (blob : Blob) (row : Row) : Prop :=
  ∃ status : Status, row.status = .integer status.code ∧ blob.status.Edge status ∧
    row.signature ≠ blob.signatureCell

/-- A loaded record: it was issued, and the row under its key, if it is still there, holds it or has
moved on. -/
structure IsFollowed (table : Table) (supply : Supply) (kind : String) (found : Loaded) :
    Prop where
  aware : found.blob.stamps.AreAware
  issued : ∃ signature, found.blob.IsIssued supply found.key signature
  row : ∀ row, table.rowOf kind found.key = some row →
    row.toBlob = .ok found.blob ∨ HasMovedOn found.blob row

/-- The invariant of requests that share a table. -/
structure IsSound (traffic : Traffic) : Prop where
  keyed : traffic.table.IsKeyed
  distinct : traffic.supply.IsDistinct
  rows : ∀ kind key row, traffic.table.rowOf kind key = some row →
    IsIssuedRow traffic.supply kind key row
  visits : ∀ visit ∈ traffic.visits, ∀ action found, visit.progress = .loaded action found →
    IsFollowed traffic.table traffic.supply visit.kind found

/-- A table of issued records before any request has arrived. No identifier comes twice. -/
structure IsStart (traffic : Traffic) : Prop where
  keyed : traffic.table.IsKeyed
  distinct : traffic.supply.IsDistinct
  rows : ∀ kind key row, traffic.table.rowOf kind key = some row →
    IsIssuedRow traffic.supply kind key row
  visits_eq : traffic.visits = []

theorem IsStart.isSound {traffic : Traffic} (h : traffic.IsStart) : traffic.IsSound where
  keyed := h.keyed
  distinct := h.distinct
  rows := h.rows
  visits visit hvisit := by
    rw [h.visits_eq] at hvisit
    exact absurd hvisit List.not_mem_nil

section Invariant

variable {traffic : Traffic} {before after : Supply} {table changed : Table} {kind : String}
  {key signature : Uuid} {found : Loaded} {visit : Visit} {index : Nat} {row : Row}

theorem IsIssuedRow.leadsTo (h : IsIssuedRow before kind key row)
    (hlater : before.LeadsTo after) : IsIssuedRow after kind key row := by
  obtain ⟨signature, blob, rfl, haware, hencodable, hissued⟩ := h
  exact ⟨signature, blob, rfl, haware, hencodable, hissued.leadsTo hlater⟩

/-- A loaded record stays followed as long as its row is left alone or removed. -/
theorem IsFollowed.mono (h : IsFollowed table before kind found) (hlater : before.LeadsTo after)
    (hrows : ∀ row, changed.rowOf kind found.key = some row →
      table.rowOf kind found.key = some row) : IsFollowed changed after kind found := by
  obtain ⟨signature, hissued⟩ := h.issued
  exact ⟨h.aware, ⟨signature, hissued.leadsTo hlater⟩, fun row hrow => h.row row (hrows row hrow)⟩

/-- A turn that ends a visit keeps the invariant if the rows are issued afterwards and the records
that others have loaded are followed. -/
theorem IsSound.conclude (h : traffic.IsSound) {service : Service}
    (hlater : traffic.supply.LeadsTo service.supply) (hkeyed : service.table.IsKeyed)
    (hrows : ∀ kind key row, service.table.rowOf kind key = some row →
      IsIssuedRow service.supply kind key row)
    (hothers : ∀ kind found, IsFollowed traffic.table traffic.supply kind found →
      IsFollowed service.table service.supply kind found) :
    (traffic.conclude index visit service).IsSound where
  keyed := hkeyed
  distinct := h.distinct.leadsTo hlater
  rows := hrows
  visits other hvisit action found hloaded := by
    rcases List.mem_or_eq_of_mem_set hvisit with hother | rfl
    · exact hothers _ _ (h.visits other hother action found hloaded)
    · -- The visit itself is done, so it has no record any more.
      exact absurd hloaded (by simp [Visit.finish])

/-- A turn that leaves the table alone or takes rows away keeps the invariant. -/
theorem IsSound.conclude_of_rowOf (h : traffic.IsSound) {service : Service}
    (hlater : traffic.supply.LeadsTo service.supply) (hkeyed : service.table.IsKeyed)
    (hrowOf : ∀ kind key row, service.table.rowOf kind key = some row →
      traffic.table.rowOf kind key = some row) :
    (traffic.conclude index visit service).IsSound := by
  apply h.conclude hlater hkeyed
  · intro kind key row hrow
    exact (h.rows kind key row (hrowOf kind key row hrow)).leadsTo hlater
  · intro kind found hfollowed
    exact hfollowed.mono hlater (hrowOf kind found.key)

/-! ## Single turns -/

/-- The record of a row that was just loaded is followed. -/
theorem IsSound.isFollowed_of_load (h : traffic.IsSound) {text : Text}
    (hload : visit.catalog.load text traffic.table = .ok found) :
    IsFollowed traffic.table traffic.supply visit.kind found := by
  obtain ⟨row, hrow, hread⟩ := Catalog.row_of_load rfl hload
  obtain ⟨signature, stored, rfl, haware, hencodable, hissued⟩ :=
    h.rows visit.kind found.key row hrow
  have hblob := hread
  rw [Row.toBlob_ofBlob visit.kind found.key haware hencodable, Except.ok.injEq] at hblob
  constructor
  · rw [← hblob]
    exact haware.recorded.settle
  · refine ⟨signature, ?_⟩
    rw [← hblob]
    exact ⟨rfl, hissued.signature_eq, hissued.key_spent, hissued.signature_spent,
      hissued.status_ne⟩
  · intro other hother
    rw [hrow, Option.some.injEq] at hother
    rw [← hother]
    exact .inl hread

theorem IsSound.load (h : traffic.IsSound) {text : Text} (action : Action)
    (hload : visit.catalog.load text traffic.table = .ok found) :
    ({ traffic with
      visits := traffic.visits.set index { visit with progress := .loaded action found } } :
        Traffic).IsSound where
  keyed := h.keyed
  distinct := h.distinct
  rows := h.rows
  visits other hvisit chosen held hloaded := by
    rcases List.mem_or_eq_of_mem_set hvisit with hother | rfl
    · exact h.visits other hother chosen held hloaded
    · obtain ⟨rfl, rfl⟩ := Progress.loaded.inj hloaded
      exact h.isFollowed_of_load hload

/-- A creation adds a row under a key that no loaded record has. -/
theorem IsSound.create (h : traffic.IsSound) (size : Option Nat)
    (storeKey recordKey : Option Text) :
    (traffic.conclude index visit (visit.catalog.create size storeKey recordKey traffic.table
      traffic.supply)).IsSound := by
  have hstore : visit.catalog.store = ⟨.text visit.kind⟩ := rfl
  obtain ⟨hlater, hsame | ⟨key, signature, now, number, store, entry, hkey, hsignature, hsupply,
    haware, hencodable, hinsert⟩⟩ :=
    Catalog.create_cases hstore h.distinct.isUuid size storeKey recordKey traffic.table
  · apply h.conclude_of_rowOf hlater
    · rw [hsame]
      exact h.keyed
    · intro kind key row hrow
      rw [hsame] at hrow
      exact hrow
  · apply h.conclude hlater (h.keyed.insert? hinsert)
    · intro kind other row hrow
      rw [Table.rowOf_inserted hinsert] at hrow
      split at hrow
      · next hplace =>
        obtain ⟨rfl, rfl⟩ := hplace
        obtain rfl := Option.some.inj hrow
        refine ⟨signature, _, rfl, haware, hencodable, ?_⟩
        rw [hsupply]
        exact h.distinct.isIssued_created hkey hsignature
      · exact (h.rows kind other row hrow).leadsTo hlater
    · intro kind found hfollowed
      apply hfollowed.mono hlater
      intro row hrow
      rw [Table.rowOf_inserted hinsert] at hrow
      split at hrow
      · next hplace =>
        -- The key of a loaded record is spent, and that of the new record was not.
        obtain ⟨_, hfound⟩ := hfollowed.issued
        rw [hplace.2] at hkey
        exact absurd hkey (hfound.key_spent _ (Nat.le_refl _))
      · exact hrow

/-- The row that a loaded record was moved in has moved on for everyone who had loaded it. -/
theorem IsFollowed.moved (h : IsFollowed table before kind found) {mover : Loaded}
    (hmover : IsFollowed table before kind mover) (hkey : mover.key = found.key)
    (hrow : table.rowOf kind found.key = some row)
    (hsignature : row.signature = mover.blob.signatureCell) {target : Status}
    (hedge : mover.blob.status.Edge target) {id : Uuid} (hnew : ¬before.IsSpent id)
    (time : Calendar.DateTime) (hissued : IsIssuedRow before kind found.key row) :
    HasMovedOn found.blob (((mover.blob.moved target time).change id).apply row) := by
  obtain ⟨signature, hfound⟩ := h.issued
  refine ⟨target, rfl, ?_, ?_⟩
  · -- The mover's record is the one in the row, because their signatures agree.
    have hread : row.toBlob = .ok mover.blob := by
      rcases hmover.row row (hkey ▸ hrow) with hread | ⟨-, -, -, hmoved⟩
      · exact hread
      · exact absurd hsignature hmoved
    rcases h.row row hrow with hsame | ⟨status, hstatus, hearlier, -⟩
    · rw [hread, Except.ok.injEq] at hsame
      rw [← hsame]
      exact hedge
    · obtain ⟨_, stored, rfl, haware, hencodable, -⟩ := hissued
      rw [Row.toBlob_ofBlob kind found.key haware hencodable, Except.ok.injEq] at hread
      have hcode : stored.status = status :=
        Status.code_injective (Int.ofNat_inj.1 (Cell.integer.inj hstatus))
      rw [← hread] at hedge
      exact (hcode ▸ hearlier).trans hedge
  · -- The drawn signature was not spent, and that of the loaded record was.
    intro hsame
    rw [Blob.signatureCell_eq hfound.signature_eq] at hsame
    obtain rfl : id = signature := Uuid.text_injective (Cell.text.inj hsame)
    exact hnew hfound.signature_spent

/-- A move changes the row of its record, which then has moved on for the others. -/
theorem IsSound.move (h : traffic.IsSound)
    (hfollowed : IsFollowed traffic.table traffic.supply visit.kind found) (chosen : Move) :
    (traffic.conclude index visit (visit.catalog.move chosen found traffic.table
      traffic.supply)).IsSound := by
  have hstore : visit.catalog.store = ⟨.text visit.kind⟩ := rfl
  obtain ⟨_, hissued⟩ := hfollowed.issued
  obtain ⟨hlater, hsame | ⟨time, id, row, changed, draw, hedge, hstamps, hdraw, hid, hdrawn, hrow,
    hsignature, hkeyed, hrowOf, hchanged⟩⟩ :=
      Catalog.move_cases hstore h.keyed h.distinct.isUuid hissued.key_eq hfollowed.aware chosen
  · apply h.conclude_of_rowOf hlater
    · rw [hsame]
      exact h.keyed
    · intro kind key row hrow
      rw [hsame] at hrow
      exact hrow
  · have hrowIssued := h.rows visit.kind found.key row hrow
    have hnew : ¬traffic.supply.IsSpent id := fun hspent => hspent draw hdraw hid
    apply h.conclude hlater
    · rw [hchanged]
      exact hkeyed
    · -- The changed row carries an identifier that was just drawn; the others are as before.
      intro kind key other hother
      rw [hchanged, hrowOf] at hother
      split at hother
      · next hplace =>
        obtain ⟨rfl, rfl⟩ := hplace
        obtain rfl := Option.some.inj hother
        obtain ⟨_, stored, rfl, haware, hencodable, hstored⟩ := hrowIssued
        refine ⟨id, _, Blob.apply_change _ stored id _ _, ⟨haware.1, hstamps.2⟩, hencodable, ?_⟩
        exact ⟨hstored.key_eq, rfl, hstored.key_spent.leadsTo hlater,
          h.distinct.isSpent hid hlater hdrawn, hedge.target_ne⟩
      · exact (h.rows kind key other hother).leadsTo hlater
    · intro kind held hheld
      obtain ⟨signature, hheldIssued⟩ := hheld.issued
      refine ⟨hheld.aware, ⟨signature, hheldIssued.leadsTo hlater⟩, ?_⟩
      intro other hother
      rw [hchanged, hrowOf] at hother
      split at hother
      · next hplace =>
        obtain ⟨rfl, hkey⟩ := hplace
        obtain rfl := Option.some.inj hother
        rw [hkey] at hrow hrowIssued
        exact .inr (hheld.moved hfollowed hkey hrow hsignature hedge hnew time hrowIssued)
      · exact hheld.row other hother

/-- A purge takes a row away or leaves the table alone. -/
theorem IsSound.purge (h : traffic.IsSound) (found : Loaded) :
    (traffic.conclude index visit (visit.catalog.purge found traffic.table
      traffic.supply)).IsSound := by
  have hstore : visit.catalog.store = ⟨.text visit.kind⟩ := rfl
  rw [Catalog.purge_eq hstore]
  split
  · apply h.conclude_of_rowOf (.refl _) h.keyed.erase
    intro kind key row hrow
    rw [Table.rowOf_erased] at hrow
    split at hrow
    · exact absurd hrow (by simp)
    · exact hrow
  · exact h.conclude_of_rowOf (.refl _) h.keyed fun _ _ _ hrow => hrow

theorem IsSound.advance (h : traffic.IsSound) (hvisit : visit ∈ traffic.visits) :
    (traffic.advance index visit).IsSound := by
  -- One case for each way to go on: a creation, a load, an action on a loaded record, nothing.
  unfold Traffic.advance
  split
  · exact h.create _ _ _
  · next action text _ =>
    split
    · exact h.conclude_of_rowOf (.refl _) h.keyed fun _ _ _ hrow => hrow
    · next found hload => exact h.load action hload
  · next action found hloaded =>
    have hfollowed := h.visits visit hvisit action found hloaded
    cases action with
    | inspect => exact h.conclude_of_rowOf (.refl _) h.keyed fun _ _ _ hrow => hrow
    | move chosen => exact h.move hfollowed chosen
    | purge => exact h.purge found
  · exact h

/-! ## Runs -/

theorem IsSound.step (h : traffic.IsSound) (turn : Turn) : (traffic.step turn).IsSound := by
  cases turn with
  | arrive kind locator request =>
    refine ⟨h.keyed, h.distinct, h.rows, ?_⟩
    intro visit hvisit action found hloaded
    rcases List.mem_append.1 hvisit with hvisit | hvisit
    · exact h.visits visit hvisit action found hloaded
    · obtain rfl := List.mem_singleton.1 hvisit
      exact absurd hloaded (by simp)
  | proceed index =>
    cases hvisit : traffic.visits[index]? with
    | none =>
      simp only [Traffic.step, hvisit]
      exact h
    | some visit =>
      simp only [Traffic.step, hvisit]
      exact h.advance (List.mem_of_getElem? hvisit)

/-- **Every order of turns keeps the invariant.** -/
theorem IsSound.run (h : traffic.IsSound) (turns : List Turn) : (traffic.run turns).IsSound := by
  -- The induction is on the turns from the front, for all traffic at once.
  induction turns generalizing traffic with
  | nil => exact h
  | cons first rest ih => exact ih (h.step first)

end Invariant

/-- Requests can bring the traffic about, in some order of their turns. -/
def IsReached (traffic : Traffic) : Prop :=
  ∃ start turns, IsStart start ∧ traffic = start.run turns

theorem IsReached.isSound {traffic : Traffic} (h : traffic.IsReached) : traffic.IsSound := by
  obtain ⟨start, turns, hstart, rfl⟩ := h
  exact hstart.isSound.run turns

/-! ## What a purge removes -/

/-- The next turn of a visit is the second one of a purge, and it removes a row. -/
def Removes (traffic : Traffic) (index : Nat) (found : Loaded) (row : Row) : Prop :=
  (∃ kind locator, traffic.visits[index]? = some ⟨kind, locator, .loaded .purge found⟩) ∧
    row ∈ traffic.table.rows ∧ row ∉ (traffic.step (.proceed index)).table.rows

/-- The row of a record that awaits deletion. -/
def IsPending (row : Row) : Prop := row.status = .integer Status.pendingDeletion.code

/-- The row of a failed record. -/
def IsFailed (row : Row) : Prop := row.status = .integer Status.error.code

/-- A row that a purge removes is the one under the key of the loaded record, which awaited
deletion. -/
theorem rowOf_of_removes {traffic : Traffic} {index : Nat} {found : Loaded} {row : Row}
    {kind : String} {locator : Locator} (hkeyed : traffic.table.IsKeyed)
    (hvisit : traffic.visits[index]? = some ⟨kind, locator, .loaded .purge found⟩)
    (hmem : row ∈ traffic.table.rows)
    (hgone : row ∉ (traffic.step (.proceed index)).table.rows) :
    found.blob.status = .pendingDeletion ∧ traffic.table.rowOf kind found.key = some row := by
  have hservice : (traffic.step (.proceed index)).table =
      ((⟨⟨.text kind⟩, locator⟩ : Catalog).purge found traffic.table traffic.supply).table := by
    simp only [step, hvisit]
    rfl
  rw [hservice, Catalog.purge_eq rfl] at hgone
  split at hgone
  · next hpending =>
    refine ⟨hpending, ?_⟩
    -- Only rows at the place of the key are taken out.
    have hat : row.isAt (.text kind) (.text found.key.text) = true := by
      apply Classical.byContradiction
      intro hnot
      exact hgone (List.mem_filter.2 ⟨hmem, by simpa using hnot⟩)
    exact hkeyed.find?_of_mem hmem hat
  · exact absurd hmem hgone

/-- **What a purge removes.** A purge removes only the row of a record that awaited deletion when it
was loaded. If the row still holds the loaded record, it awaits deletion. Otherwise somebody else
has failed the record since it was loaded, and the purge removes the row of a failed record all the
same. -/
theorem isPending_iff_of_removes (traffic : Traffic) (hreached : traffic.IsReached) (index : Nat)
    (found : Loaded) (row : Row) (hremoves : traffic.Removes index found row) :
    found.blob.status = .pendingDeletion ∧
      (IsPending row ↔ row.toBlob = .ok found.blob) ∧ (¬IsPending row → IsFailed row) := by
  have hsound := hreached.isSound
  obtain ⟨⟨kind, locator, hvisit⟩, hmem, hgone⟩ := hremoves
  obtain ⟨hpending, hrow⟩ := rowOf_of_removes hsound.keyed hvisit hmem hgone
  have hfollowed := hsound.visits _ (List.mem_of_getElem? hvisit) .purge found rfl
  obtain ⟨_, stored, rfl, haware, hencodable, -⟩ := hsound.rows kind found.key row hrow
  have hread := Row.toBlob_ofBlob kind found.key haware hencodable
  refine ⟨hpending, ?_⟩
  rcases hfollowed.row _ hrow with hsame | ⟨status, hstatus, hedge, hsignature⟩
  · have hstill : IsPending (Row.ofBlob kind found.key stored) := by
      rw [hread, Except.ok.injEq] at hsame
      rw [← hsame] at hpending
      exact congrArg (fun status : Status => Cell.integer status.code) hpending
    constructor
    · exact ⟨fun _ => hsame, fun _ => hstill⟩
    · exact fun hnot => absurd hstill hnot
  · -- The only way on from a pending deletion is to fail.
    rw [hpending] at hedge
    cases hedge
    have hfailed : ¬IsPending (Row.ofBlob kind found.key stored) := by
      intro hstill
      exact absurd (hstill.symm.trans hstatus) (by decide)
    constructor
    · constructor
      · exact fun hstill => absurd hstill hfailed
      · intro hsame
        rw [hread, Except.ok.injEq] at hsame
        exact absurd (congrArg Blob.signatureCell hsame) hsignature
    · exact fun _ => hstatus

/-! A record is created and marked for deletion. A purge loads it, another request fails it, and
then the purge takes its second turn. -/

/-- The traffic before these turns. -/
def sampleTraffic : Traffic := ⟨.empty, sampleSupply, []⟩

/-- The turns but the last. -/
def sampleTurns : List Turn :=
  let locator : Locator := ⟨⟨.root, ["objects"]⟩⟩
  [.arrive "blob" locator (.create (some 4) (some "store") (some "record")), .proceed 0,
    .arrive "blob" locator (.manage (.move .markForDeletion) sampleKey.text), .proceed 1,
    .proceed 1, .arrive "blob" locator (.manage .purge sampleKey.text), .proceed 2,
    .arrive "blob" locator (.manage (.move .fail) sampleKey.text), .proceed 3, .proceed 3]

theorem isStart_sampleTraffic : sampleTraffic.IsStart where
  keyed := Table.isKeyed_empty
  distinct := Supply.isDistinct_numbered _
  rows kind key row hrow := absurd hrow (by simp [sampleTraffic, Table.rowOf, Table.find?,
    Table.empty])
  visits_eq := rfl

/-- The purge has loaded the record, and its second turn empties the table. -/
theorem removes_after_sampleTurns :
    ∃ found row, (sampleTraffic.run sampleTurns).Removes 2 found row ∧ IsFailed row := by
  have hstatus : (sampleTraffic.run sampleTurns).table.rows.map Row.status =
      [.integer Status.error.code] := by
    decide +kernel
  have hempty : ((sampleTraffic.run sampleTurns).step (.proceed 2)).table = .empty := by
    decide +kernel
  obtain ⟨found, hvisit⟩ : ∃ found, (sampleTraffic.run sampleTurns).visits[2]? =
      some ⟨"blob", ⟨⟨.root, ["objects"]⟩⟩, .loaded .purge found⟩ :=
    ⟨_, by with_unfolding_all rfl⟩
  obtain ⟨row, hrows⟩ := List.length_eq_one_iff.1 ((List.length_map _).symm.trans
    (congrArg List.length hstatus))
  rw [hrows, List.map_singleton, List.singleton_inj] at hstatus
  refine ⟨found, row, ⟨⟨_, _, hvisit⟩, ?_, ?_⟩, hstatus⟩
  · rw [hrows]
    exact List.mem_singleton_self row
  · rw [hempty]
    exact List.not_mem_nil

theorem isPending_iff_of_removes_sample :
    ∃ found row, (sampleTraffic.run sampleTurns).Removes 2 found row ∧
      found.blob.status = .pendingDeletion ∧ row.toBlob ≠ .ok found.blob ∧ IsFailed row := by
  obtain ⟨found, row, hremoves, hfailed⟩ := removes_after_sampleTurns
  have hreached : (sampleTraffic.run sampleTurns).IsReached := ⟨_, _, isStart_sampleTraffic, rfl⟩
  obtain ⟨hloaded, hpending, -⟩ :=
    isPending_iff_of_removes (sampleTraffic.run sampleTurns) hreached 2 found row hremoves
  refine ⟨found, row, hremoves, hloaded, ?_, hfailed⟩
  intro hsame
  exact absurd ((hpending.2 hsame).symm.trans hfailed) (by decide)

/-- A purge may remove the row of a record that does not await deletion. -/
theorem not_isPending_of_removes :
    ¬∀ (traffic : Traffic) (index : Nat) (found : Loaded) (row : Row),
      traffic.IsReached → traffic.Removes index found row → IsPending row := by
  intro hall
  obtain ⟨found, row, hremoves, hfailed⟩ := removes_after_sampleTurns
  have hreached : (sampleTraffic.run sampleTurns).IsReached := ⟨_, _, isStart_sampleTraffic, rfl⟩
  have hpending := hall (sampleTraffic.run sampleTurns) 2 found row hreached hremoves
  exact absurd (hpending.symm.trans hfailed) (by decide)

end Traffic

end BlobCatalog
