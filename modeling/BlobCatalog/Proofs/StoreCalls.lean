import BlobCatalog.Proofs.StoreRoundTrip
import BlobCatalog.Proofs.UpdateOutcome

/-!
# Calls of a store and the row they are about

The four operations of a store as one step on the table, `Store.call`. A call is about one
identifier, and with the kind of its store that is one place in the table. Whatever the call is and
however it ends, it makes at most one change of the table, and that change is the business of its
place (`Place.exists_performs`): the rows elsewhere stay (`Place.without_call`), and what the call
gives back and leaves at its place depends on the table only through the row there
(`Place.call_congr`).
-/

namespace BlobCatalog

/-! ## Calls -/

/-- A place in the table: a kind and an identifier. -/
structure Place where
  kind : String
  key : Uuid
deriving DecidableEq

/-- A call of a store. An update comes with the supply that it draws its identifier from. -/
inductive Call where
  | insert (record : Record)
  | fetch (key : Uuid)
  | update (record : Record) (supply : Supply)
  | delete (key : Uuid)

namespace Call

/-- What a call gives back: the record it found or its fault, the record of the caller as the call
leaves it, and what was logged. -/
structure Result where
  outcome : Except Fault (Option Record)
  record : Option Record
  log : List LogEntry

/-- The call is about an identifier: its record has it as key, or it asks for it. -/
def IsAbout (key : Uuid) : Call → Prop
  | insert record => record.key = .uuid key
  | fetch asked => asked = key
  | update record _ => record.key = .uuid key
  | delete asked => asked = key

end Call

/-- What an operation gives back, with the record of the caller. -/
def Effect.result (effect : Effect Unit) (record : Option Record) : Call.Result :=
  ⟨effect.outcome.map fun _ => none, record, effect.log⟩

/-- What an update gives back. -/
def Update.result (update : Update) : Call.Result := update.toEffect.result (some update.record)

namespace Store

/-- A call of a store, with the table after it. -/
def call (store : Store) (call : Call) (table : Table) : Call.Result × Table :=
  match call with
  | .insert record =>
    let effect := store.insert record table
    (effect.result (some record), effect.table)
  | .fetch key => (⟨(store.fetch (.uuid key) table).map (·.map Blob.toRecord), none, []⟩, table)
  | .update record supply =>
    let update := store.update record table supply
    (update.result, update.table)
  | .delete key =>
    let effect := store.delete (.uuid key) table
    (effect.result none, effect.table)

end Store

/-- A call of a store of the kind. -/
def Place.call (place : Place) (call : Call) (table : Table) : Call.Result × Table :=
  (⟨.text place.kind⟩ : Store).call call table

/-- A new signature leaves the key of a record as it is. -/
theorem Record.key_withSignature (record : Record) (signature : Value) :
    (record.withSignature signature).key = record.key := by
  unfold withSignature
  split <;> rfl

/-! ## The row at a place -/

namespace Row

/-- The row is the one at a place. -/
def IsOf (row : Row) (place : Place) : Prop :=
  row.kind = .text place.kind ∧ row.name = .text place.key.text

theorem isAt_iff_isOf {row : Row} {place : Place} :
    row.isAt (.text place.kind) (.text place.key.text) = true ↔ row.IsOf place := by
  simp [isAt_iff, IsOf]

/-- The columns keep the place of a row. -/
theorem IsOf.isAt_stored {row : Row} {place : Place} (h : row.IsOf place) :
    row.stored.isAt (.text place.kind) (.text place.key.text) = true := by
  rw [isAt_iff_isOf]
  exact ⟨congrArg Cell.asText h.1, congrArg Cell.asText h.2⟩

/-- A record that is read from a row has the identifier of the row as its key. -/
theorem key_of_toBlob {row : Row} {key : Uuid} {blob : Blob} (hname : row.name = .text key.text)
    (hread : row.toBlob = .ok blob) : blob.key = some key := by
  have h := readValues_of_toBlob hread
  cases hkey : Key.ofFields [("kind", row.kind.toValue), ("name", row.name.toValue)] with
  | error fault => simp [readValues, hkey, bind, Except.bind] at h
  | ok place =>
    have hplace : place.identifier = .ok key := by
      rw [hname] at hkey
      obtain ⟨kind, -, rfl⟩ := Key.eq_of_ofFields hkey
      simp [Key.identifier, Key.identifierOf, Uuid.ofText?_text]
    cases hproperties : row.properties with
    | error fault => simp [readValues, hkey, hplace, hproperties, bind, Except.bind] at h
    | ok properties =>
      have hchecked : Checked.at? ["key"] (Field.identifier (.uuid key)) = .ok (some key) := rfl
      simp only [readValues, hkey, hplace, hproperties, bind, Except.bind, Blob.ofItems,
        hchecked] at h
      split at h
      · exact absurd h (by simp)
      · rw [← Except.ok.inj h]

end Row

namespace Table

variable {table changed : Table} {place : Place} {row : Row} {signature : Cell} {change : Change}

/-- The row at a place. -/
def rowAt (table : Table) (place : Place) : Option Row := table.rowOf place.kind place.key

/-- The table without the row at a place. -/
def without (table : Table) (place : Place) : Table :=
  table.erase (.text place.kind) (.text place.key.text)

theorem mem_without :
    row ∈ (table.without place).rows ↔ row ∈ table.rows ∧ ¬row.IsOf place := by
  rw [← Row.isAt_iff_isOf]
  simp [without, erase]

/-- Without the row at a place the look-ups elsewhere are as before. -/
theorem rowAt_without (table : Table) (place other : Place) :
    (table.without place).rowAt other = if place = other then none else table.rowAt other := by
  obtain ⟨kind, key⟩ := place
  obtain ⟨otherKind, otherKey⟩ := other
  simp only [Place.mk.injEq]
  exact rowOf_erased table kind otherKind key otherKey

/-- Tables that agree elsewhere have the same rows elsewhere. -/
theorem rowAt_of_without {other : Place} (h : changed.without place = table.without place)
    (hne : place ≠ other) : changed.rowAt other = table.rowAt other := by
  have hleft := rowAt_without changed place other
  have hright := rowAt_without table place other
  rw [if_neg hne] at hleft hright
  rw [← hleft, ← hright, h]

/-- A row is added at its place exactly if it is complete and the place is free. -/
theorem insert?_of_isOf (h : row.IsOf place) :
    table.insert? row =
      if row.stored.isComplete = true ∧ table.rowAt place = none then
        some ⟨table.rows ++ [row.stored]⟩
      else none := by
  have hfree : (table.rows.all fun other => !other.isAt row.stored.kind row.stored.name) = true ↔
      table.rowAt place = none := by
    rw [rowAt, rowOf, find?_eq_none_iff]
    simp [Row.stored, h.1, h.2]
  simp only [insert?, Bool.and_eq_true, hfree]

/-- An added row is found at its place. -/
theorem rowAt_insert? (h : row.IsOf place) (table : Table) :
    (table.insert? row).map (·.rowAt place) =
      if row.stored.isComplete = true ∧ table.rowAt place = none then some (some row.stored)
      else none := by
  rw [insert?_of_isOf h]
  split
  · next hfree =>
    have hnone : table.rows.find? (fun other =>
        other.isAt (.text place.kind) (.text place.key.text)) = none := hfree.2
    simp [rowAt, rowOf, find?, hnone, h.isAt_stored]
  · rfl

theorem without_insert? (h : row.IsOf place) (hinsert : table.insert? row = some changed) :
    changed.without place = table.without place := by
  rw [insert?_of_isOf h] at hinsert
  split at hinsert
  · obtain rfl := Option.some.inj hinsert
    simp [without, erase, h.isAt_stored]
  · exact absurd hinsert (by simp)

/-- In a keyed table the row at a place is changed exactly if it carries the expected signature. -/
theorem rowAt_update? (hkeyed : table.IsKeyed) (place : Place) (signature : Cell)
    (change : Change) :
    (table.update? (.text place.kind) (.text place.key.text) signature change).map
        (·.rowAt place) =
      ((table.rowAt place).filter (·.signature == signature.asText)).map
        fun row => some (change.apply row) := by
  have hexpected : (table.update? (.text place.kind) (.text place.key.text) signature
      change).isSome = true ↔ ∃ row, table.rowAt place = some row ∧
        row.signature = signature.asText := hkeyed.update?_isSome_iff
  cases hupdate : table.update? (.text place.kind) (.text place.key.text) signature change with
  | none =>
    rw [hupdate] at hexpected
    cases hrow : table.rowAt place with
    | none => rfl
    | some row =>
      have hother : row.signature ≠ signature.asText := fun hsame =>
        absurd (hexpected.2 ⟨row, hrow, hsame⟩) (by simp)
      simp [Option.filter, hother]
  | some changed =>
    rw [hupdate] at hexpected
    obtain ⟨row, hrow, hsignature⟩ := hexpected.1 rfl
    have hchanged := rowOf_updated hkeyed hupdate place.kind place.key
    rw [if_pos ⟨rfl, rfl⟩] at hchanged
    have hafter : changed.rowAt place = (table.rowAt place).map change.apply := hchanged
    simp [hafter, hrow, hsignature, Option.filter]

theorem without_update?
    (hupdate : table.update? (.text place.kind) (.text place.key.text) signature change =
      some changed) : changed.without place = table.without place := by
  let changeOne := fun row : Row =>
    if isExpected (.text place.kind) (.text place.key.text) signature row then change.apply row
    else row
  -- A change keeps the place of a row, and a row that is elsewhere is not expected.
  have hplace : ∀ row : Row, (changeOne row).isAt (.text place.kind) (.text place.key.text) =
      row.isAt (.text place.kind) (.text place.key.text) := by
    intro row
    simp only [changeOne]
    split
    · exact Change.isAt_apply change row _ _
    · rfl
  have hkept : ∀ row : Row, row.isAt (.text place.kind) (.text place.key.text) = false →
      changeOne row = row := fun row hat => if_neg (by simp [isExpected, hat])
  have hrows : changed.rows = table.rows.map changeOne := rows_of_update? hupdate
  simp only [without, erase, hrows, List.filter_map, Function.comp_def, Cell.asText_text, hplace]
  refine congrArg Table.mk ?_
  calc (table.rows.filter _).map changeOne
      = (table.rows.filter _).map id := List.map_congr_left fun row hrow =>
        hkept row (by simpa using (List.mem_filter.1 hrow).2)
    _ = table.rows.filter _ := List.map_id _

theorem without_without (table : Table) (place : Place) :
    (table.without place).without place = table.without place := by
  simp [without, erase]

end Table

/-! ## Changes of one row -/

/-- A change of the table that may be refused is the business of a place: it leaves the rows
elsewhere alone, and whether it is refused and what it leaves at the place depend on the row there
only. -/
structure Place.Owns (place : Place) (change? : Table → Option Table) : Prop where
  without_eq : ∀ {table changed}, change? table = some changed →
    changed.without place = table.without place
  isKeyed : ∀ {table changed}, table.IsKeyed → change? table = some changed → changed.IsKeyed
  exists_onRow : ∃ onRow : Option Row → Option (Option Row), ∀ {table : Table}, table.IsKeyed →
    (change? table).map (·.rowAt place) = onRow (table.rowAt place)

namespace Place

variable {place : Place}

/-- Nothing is changed. -/
theorem owns_nothing (place : Place) : place.Owns fun _ => none where
  without_eq h := absurd h (by simp)
  isKeyed _ h := absurd h (by simp)
  exists_onRow := ⟨fun _ => none, fun _ => rfl⟩

/-- A row is added at the place. -/
theorem owns_insert? {row : Row} (h : row.IsOf place) : place.Owns (·.insert? row) where
  without_eq hinsert := Table.without_insert? h hinsert
  isKeyed hkeyed hinsert := hkeyed.insert? hinsert
  exists_onRow := ⟨fun found =>
    if row.stored.isComplete = true ∧ found = none then some (some row.stored) else none,
    fun {table} _ => Table.rowAt_insert? h table⟩

/-- The row at the place is changed. -/
theorem owns_update? (place : Place) (signature : Cell) (change : Table.Change) :
    place.Owns fun table =>
      table.update? (.text place.kind) (.text place.key.text) signature change where
  without_eq hupdate := Table.without_update? hupdate
  isKeyed hkeyed hupdate := hkeyed.update? hupdate
  exists_onRow := ⟨fun found =>
    (found.filter (·.signature == signature.asText)).map fun row => some (change.apply row),
    fun hkeyed => Table.rowAt_update? hkeyed place signature change⟩

/-- The row at the place is removed. -/
theorem owns_without (place : Place) : place.Owns fun table => some (table.without place) where
  without_eq h := by
    obtain rfl := Option.some.inj h
    exact Table.without_without _ place
  isKeyed hkeyed h := by
    obtain rfl := Option.some.inj h
    exact hkeyed.erase
  exists_onRow := ⟨fun _ => some none, fun _ => by
    rw [Option.map_some, Table.rowAt_without, if_pos rfl]⟩

/-! ## What a call does -/

/-- A call of a store makes a change that is the business of its place. What it gives back says
whether the change was made, and if it was refused, at most which row stands in the way. -/
structure Performs (place : Place) (call : Call) (change? : Table → Option Table)
    (done : Call.Result) (refused : Option Row → Call.Result) : Prop where
  owns : place.Owns change?
  call_eq : ∀ table, place.call call table =
    match change? table with
    | some changed => (done, changed)
    | none => (refused (table.rowAt place), table)

/-- A call whose result does not depend on the table, which it leaves alone. -/
theorem performs_nothing {call : Call} {result : Call.Result}
    (h : ∀ table, place.call call table = (result, table)) :
    place.Performs call (fun _ => none) result fun _ => result :=
  ⟨place.owns_nothing, h⟩

/-- The row of a record with an identifier as its key is at the place of the identifier. -/
theorem isOf_of_ofContent {content : Content} {row : Row}
    (h : Row.ofContent ⟨place.kind, place.key.text⟩ content = .ok row) : row.IsOf place := by
  simp only [Row.ofContent, Checked.bind_eq_ok_iff, Cell.ofText_ofString, Except.ok.injEq] at h
  -- Each of the other cells may be refused; the place of the row is not among them.
  obtain ⟨kind, rfl, name, rfl, _, -, _, -, _, -, _, -, _, -, heq⟩ := h
  rw [← Except.ok.inj heq]
  exact ⟨rfl, rfl⟩

/-- An insertion adds a row at the place or is refused before it turns to the table. -/
theorem exists_performs_insert {record : Record} (hkey : record.key = .uuid place.key) :
    ∃ change? done refused, place.Performs (.insert record) change? done refused := by
  have hplace := Record.storageKey_of_key hkey place.kind
  cases hcontent : record.content with
  | error fault =>
    have hrefused : ∀ table, place.call (.insert record) table =
        (⟨.error fault, some record, []⟩, table) := fun table => by
      simp [call, Store.call, Store.insert, hplace, hcontent, bind, Except.bind, Effect.result,
        Except.map]
    exact ⟨_, _, _, performs_nothing hrefused⟩
  | ok content =>
    cases hrow : Row.ofContent ⟨place.kind, place.key.text⟩ content with
    | error fault =>
      have hrefused : ∀ table, place.call (.insert record) table =
          (⟨.error fault, some record, []⟩, table) := fun table => by
        simp [call, Store.call, Store.insert, hplace, hcontent, hrow, bind, Except.bind,
          Effect.result, Except.map]
      exact ⟨_, _, _, performs_nothing hrefused⟩
    | ok row =>
      refine ⟨(·.insert? row), ⟨.ok none, some record, [Store.entry .debug ("Created blob ref " ++
        (⟨place.kind, place.key.text⟩ : Key).text)]⟩,
        fun _ => ⟨.error (.alreadyExists record.key), some record, []⟩,
        owns_insert? (isOf_of_ofContent hrow), fun table => ?_⟩
      have hinsert := @Store.insert_of_row table ⟨.text place.kind⟩ record _ content row hplace
        hcontent hrow
      simp only [call, Store.call, hinsert]
      cases table.insert? row <;> rfl

/-- An update changes the row at the place or is refused before it turns to the table. -/
theorem exists_performs_update {record : Record} (hkey : record.key = .uuid place.key)
    (supply : Supply) :
    ∃ change? done refused, place.Performs (.update record supply) change? done refused := by
  by_cases hprepared : ∃ key content id after bound,
      Store.IsPrepared ⟨.text place.kind⟩ record supply key content id after bound
  · obtain ⟨key, content, id, after, ⟨change, kind, name, expected⟩, hprepared⟩ := hprepared
    obtain rfl : ⟨place.kind, place.key.text⟩ = key := Except.ok.inj
      ((Record.storageKey_of_key hkey place.kind).symm.trans hprepared.storageKey_eq)
    obtain ⟨-, hkind, hname, -⟩ := Store.cells_of_parameters hprepared.parameters_eq
    obtain rfl : .text place.kind = kind :=
      Except.ok.inj ((Cell.ofText_ofString place.kind).symm.trans hkind)
    obtain rfl : .text place.key.text = name :=
      Except.ok.inj ((Cell.ofText_ofString place.key.text).symm.trans hname)
    -- The result of a written change does not depend on the table it was written to.
    let done := (Store.written ⟨place.kind, place.key.text⟩ content id record .empty after).result
    have hdone : ∀ changed, (Store.written ⟨place.kind, place.key.text⟩ content id record changed
        after).result = done ∧ (Store.written ⟨place.kind, place.key.text⟩ content id record
          changed after).table = changed := by
      intro changed
      simp only [done, Store.written]
      cases record.noteAssigned with
      | error fault => exact ⟨rfl, rfl⟩
      | ok noted => cases Status.ofCode? content.status <;> exact ⟨rfl, rfl⟩
    let missing : Call.Result := ⟨.error (.notFound record.key), some record, []⟩
    let outdated : Call.Result := ⟨.error (.modified record.key), some record,
      [Store.entry .warning ("Signature mismatch updating blob ref " ++
        (⟨place.kind, place.key.text⟩ : Key).text)]⟩
    let refused : Option Row → Call.Result := fun found => found.elim missing fun _ => outdated
    refine ⟨_, done, refused, place.owns_update? expected change, fun table => ?_⟩
    simp only [call, Store.call, Store.update_of_prepared hprepared table]
    cases table.update? (.text place.kind) (.text place.key.text) expected change with
    | some changed => exact Prod.ext (hdone changed).1 (hdone changed).2
    | none =>
      simp only [Store.unwritten, Table.rowAt, Table.rowOf, refused]
      cases table.find? (.text place.kind) (.text place.key.text) <;> rfl
  · obtain ⟨fault, after, heq⟩ := Store.refused_of_not_prepared hprepared
    have hrefused : ∀ table, place.call (.update record supply) table =
        (⟨.error fault, some record, []⟩, table) := fun table => by
      simp only [call, Store.call, heq]
      rfl
    exact ⟨_, _, _, performs_nothing hrefused⟩

/-- **Every call is the business of its place.** It makes at most one change of the table, and that
change is the business of the place that the call is about. -/
theorem exists_performs {call : Call} (h : call.IsAbout place.key) :
    ∃ change? done refused, place.Performs call change? done refused := by
  cases call with
  | insert record => exact exists_performs_insert h
  | update record supply => exact exists_performs_update h supply
  | fetch key =>
    obtain rfl : key = place.key := h
    let read : Option Row → Except Fault (Option Blob) := fun found =>
      found.elim (.ok none) fun row => row.toBlob.map some
    refine ⟨fun _ => none, ⟨.ok none, none, []⟩,
      fun found => ⟨(read found).map (·.map Blob.toRecord), none, []⟩, place.owns_nothing,
      fun table => ?_⟩
    simp only [Place.call, Store.call, Store.fetch_uuid rfl, Table.rowAt]
    cases table.rowOf place.kind place.key <;> rfl
  | delete key =>
    obtain rfl : key = place.key := h
    exact ⟨fun table => some (table.without place),
      ⟨.ok none, none, [Store.entry .debug ("Deleted blob ref " ++ place.kind ++ "/" ++
        place.key.text)]⟩, fun _ => ⟨.ok none, none, []⟩, place.owns_without, fun table => by
      rw [Place.call, Store.call, Store.delete_uuid rfl]
      rfl⟩

/-! ## The consequences -/

variable {call : Call} {table left right : Table}

/-- A call leaves every row but the one at its place as it is. -/
theorem without_call (h : call.IsAbout place.key) (table : Table) :
    (place.call call table).2.without place = table.without place := by
  obtain ⟨change?, done, refused, howns, heq⟩ := exists_performs h
  rw [heq]
  cases hchange : change? table with
  | none => rfl
  | some changed => exact howns.without_eq hchange

/-- A row elsewhere is there after a call if it was there before. -/
theorem mem_call_iff (h : call.IsAbout place.key) {row : Row} (hrow : ¬row.IsOf place) :
    row ∈ (place.call call table).2.rows ↔ row ∈ table.rows := by
  have hwithout : row ∈ ((place.call call table).2.without place).rows ↔
      row ∈ (table.without place).rows := by rw [without_call h table]
  simpa only [Table.mem_without, hrow, not_false_eq_true, and_true] using hwithout

/-- Look-ups elsewhere find what they found before a call. -/
theorem rowAt_call_of_ne (h : call.IsAbout place.key) {other : Place} (hne : place ≠ other) :
    (place.call call table).2.rowAt other = table.rowAt other :=
  Table.rowAt_of_without (without_call h table) hne

theorem isKeyed_call (h : call.IsAbout place.key) (hkeyed : table.IsKeyed) :
    (place.call call table).2.IsKeyed := by
  obtain ⟨change?, done, refused, howns, heq⟩ := exists_performs h
  rw [heq]
  cases hchange : change? table with
  | none => exact hkeyed
  | some changed => exact howns.isKeyed hkeyed hchange

/-- In keyed tables with the same row at the place a call gives back the same and leaves the same
row there. -/
theorem call_congr (h : call.IsAbout place.key) (hleft : left.IsKeyed) (hright : right.IsKeyed)
    (hrow : left.rowAt place = right.rowAt place) :
    (place.call call left).1 = (place.call call right).1 ∧
      (place.call call left).2.rowAt place = (place.call call right).2.rowAt place := by
  obtain ⟨change?, done, refused, howns, heq⟩ := exists_performs h
  obtain ⟨onRow, honRow⟩ := howns.exists_onRow
  have hsame : (change? left).map (·.rowAt place) = (change? right).map (·.rowAt place) := by
    rw [honRow hleft, honRow hright, hrow]
  rw [heq, heq]
  cases hl : change? left <;> cases hr : change? right <;> rw [hl, hr] at hsame
  · exact ⟨congrArg refused hrow, hrow⟩
  · exact absurd hsame (by simp)
  · exact absurd hsame (by simp)
  · exact ⟨rfl, Option.some.inj hsame⟩

/-- A record that a call finds has the identifier of the place as its key. -/
theorem key_of_call_fetch {record : Record}
    (h : (place.call (.fetch place.key) table).1.outcome = .ok (some record)) :
    record.key = .uuid place.key := by
  have hfetch : ((⟨.text place.kind⟩ : Store).fetch (.uuid place.key) table).map
      (·.map Blob.toRecord) = .ok (some record) := h
  rw [Store.fetch_uuid rfl] at hfetch
  cases hrow : table.rowOf place.kind place.key with
  | none => simp [hrow, Except.map] at hfetch
  | some row =>
    cases hread : row.toBlob with
    | error fault => simp [hrow, hread, Except.map] at hfetch
    | ok blob =>
      simp only [hrow, hread, Except.map, Option.map_some, Except.ok.injEq,
        Option.some.injEq] at hfetch
      rw [← hfetch, Blob.key_toRecord (Row.key_of_toBlob (Table.mem_of_rowOf hrow).2.2 hread)]

/-- An update leaves the key of the record as it is. -/
theorem key_of_call_update {record after : Record} {supply : Supply}
    (h : (place.call (.update record supply) table).1.record = some after) :
    after.key = record.key := by
  have hafter : ((⟨.text place.kind⟩ : Store).update record table supply).record = after :=
    Option.some.inj h
  rcases Store.record_update ⟨.text place.kind⟩ record table supply with hkept | ⟨id, hsigned⟩
  · rw [← hafter, hkept]
  · rw [← hafter, hsigned, Record.key_withSignature]

end Place

/-! ## Calls with typed records -/

/-- Everything that a supply hands out as an identifier is one. -/
def Supply.GivesUuids (supply : Supply) : Prop :=
  ∀ draw value, supply.idAt draw = some value → ∃ id, value = .uuid id

/-- A typed record that has a place to be stored at has a key. -/
theorem Blob.exists_key_of_storageKey {blob : Blob} {kind : Value} {key : Key}
    (h : blob.toRecord.storageKey kind = .ok key) : ∃ held, blob.key = some held := by
  cases hkey : blob.key with
  | some held => exact ⟨held, rfl⟩
  | none => simp [Record.storageKey, Blob.toRecord, hkey, Value.ofUuid?] at h

namespace Store

variable {blob : Blob} {table : Table} {supply : Supply}

/-- An insertion of a typed record that succeeds has added its row, which its texts are in. -/
theorem exists_of_insert_toRecord (kind : String)
    (h : ((⟨.text kind⟩ : Store).insert blob.toRecord table).outcome = .ok ()) :
    ∃ key, blob.key = some key ∧ blob.stamps.AreAware ∧ blob.IsEncodable ∧
      table.insert? (Row.ofBlob kind key blob) =
        some ((⟨.text kind⟩ : Store).insert blob.toRecord table).table := by
  rcases insert_cases ⟨.text kind⟩ blob.toRecord table with
    ⟨fault, heq⟩ | ⟨place, content, row, changed, hplace, -⟩
  · rw [heq] at h
    exact absurd h (by simp)
  · obtain ⟨key, hkey⟩ := Blob.exists_key_of_storageKey hplace
    exact ⟨key, hkey, insert?_of_insert rfl hkey h⟩

/-- An update of a typed record fails and changes nothing, or it changes the row of the record and
signs both. -/
theorem update_toRecord_cases (kind : String) (blob : Blob) (table : Table)
    (hids : supply.GivesUuids) :
    (∃ fault log after, (⟨.text kind⟩ : Store).update blob.toRecord table supply =
      { outcome := .error fault, table, log, record := blob.toRecord, supply := after }) ∨
    ∃ key id changed log after, blob.key = some key ∧ blob.stamps.AreAware ∧
      table.update? (.text kind) (.text key.text) blob.signatureCell (blob.change id) =
        some changed ∧
      (⟨.text kind⟩ : Store).update blob.toRecord table supply =
        { outcome := .ok (), table := changed, log, record := (blob.signed id).toRecord
          supply := after } := by
  by_cases hprepared : ∃ key content id after bound,
      IsPrepared ⟨.text kind⟩ blob.toRecord supply key content id after bound
  · obtain ⟨place, content, value, after, bound, hprepared⟩ := hprepared
    obtain ⟨key, hkey⟩ := Blob.exists_key_of_storageKey hprepared.storageKey_eq
    have haware := Blob.areAware_of_content hprepared.content_eq
    obtain ⟨id, rfl⟩ : ∃ id, value = .uuid id := by
      have hdrawn := hprepared.drawId_eq
      cases hid : supply.idAt supply.drawn with
      | none => simp [Supply.drawId, hid] at hdrawn
      | some drawn =>
        obtain ⟨id, rfl⟩ := hids _ _ hid
        simp only [Supply.drawId, hid, Prod.mk.injEq, Except.ok.injEq] at hdrawn
        exact ⟨id, hdrawn.1.symm⟩
    have htyped : IsPrepared ⟨.text kind⟩ blob.toRecord supply ⟨kind, key.text⟩ blob.content
        (.uuid id) after (typedParameters kind key id blob) :=
      isPrepared_toRecord hkey haware hprepared.drawId_eq
    have hstatus : Status.ofCode? blob.content.status = some blob.status :=
      Status.ofCode?_code blob.status
    -- The table decides: it has the row with the signature, another row there, or none.
    cases hchanged : table.update? (.text kind) (.text key.text) blob.signatureCell
        (blob.change id) with
    | some changed =>
      have hwritten := (update_of_changed htyped hchanged).trans (written_of_ends ⟨rfl, hstatus⟩)
      exact .inr ⟨key, id, changed, _, after, hkey, haware, hchanged, hwritten⟩
    | none =>
      have hunwritten := update_of_unchanged htyped hchanged
      cases hfound : table.find? (.text kind) (.text key.text) with
      | none => exact .inl ⟨_, _, after, hunwritten.trans (unwritten_of_none hfound)⟩
      | some row => exact .inl ⟨_, _, after, hunwritten.trans (unwritten_of_some hfound)⟩
  · obtain ⟨fault, after, heq⟩ := update_of_not_prepared hprepared table
    exact .inl ⟨fault, [], after, heq⟩

end Store

end BlobCatalog
