import BlobCatalog.Command.Reply
import BlobCatalog.Proofs.CatalogService
import BlobCatalog.Proofs.PreparedWorkspace
import BlobCatalog.Proofs.StoreCalls

/-!
# A command line changes one row at most

A command line that does not succeed changes no row, and one that succeeds changes no row but that
of its key. What decides it is the order of a request: everything that can be refused comes before
the one change of the table, and after the change nothing is left that can fail, because a typed
record with a key is always printed (`Catalog.isConfined_serve`). Preparing the workspace touches no
row, so a whole command line does the same (`Workspace.tableAt_answer`). Nothing is asked of the
rows that are there: others may have written them, and they need not be readable.
-/

namespace BlobCatalog

open EnvFile (Environment)

/-! ## One request -/

/-- The key that a request is about: the first one that is drawn, or the one that the given text
stands for. -/
def Request.key? (supply : Supply) : Request → Option Uuid
  | create _ _ _ =>
    match supply.idAt supply.drawn with
    | some (.uuid key) => some key
    | _ => none
  | manage _ text => Uuid.ofText? text

/-- A service that fails leaves the table alone, and one that succeeds leaves it alone but for the
row at the place of a key. -/
def Service.IsConfined (service : Service) (table : Table) (kind : Text) (key? : Option Uuid) :
    Prop :=
  match service.outcome with
  | .error _ => service.table = table
  | .ok _ => ∃ (held : String) (key : Uuid), kind = held ∧ key? = some key ∧
      service.table.without ⟨held, key⟩ = table.without ⟨held, key⟩

/-- A change of the table followed by the printing of a record is confined, if a change that fails
leaves the table alone and after a change that succeeds the record is printed. -/
theorem Service.isConfined_of_change {outcome : Except Fault Unit} {changed table : Table}
    {printed : Except Fault String} {kind : String} {key : Uuid}
    (hfailed : ∀ fault, outcome = .error fault → changed = table)
    (hdone : outcome = .ok () → (∃ line, printed = .ok line) ∧
      changed.without ⟨kind, key⟩ = table.without ⟨kind, key⟩) (supply : Supply)
    (log : List LogEntry) :
    (⟨outcome.bind fun _ => printed, changed, supply, log⟩ : Service).IsConfined table kind
      (some key) := by
  cases outcome with
  | error fault => exact hfailed fault rfl
  | ok =>
    obtain ⟨⟨line, rfl⟩, hwithout⟩ := hdone rfl
    exact ⟨kind, key, rfl, rfl, hwithout⟩

theorem Supply.GivesUuids.leadsTo {before after : Supply} (h : before.GivesUuids)
    (hlater : before.LeadsTo after) : after.GivesUuids := by
  obtain ⟨hsame, -⟩ := hlater
  intro draw value hvalue
  rw [hsame] at hvalue
  exact h draw value hvalue

namespace Catalog

variable {catalog : Catalog} {kind : String} {table : Table} {supply : Supply}

/-- A request that is refused before it turns to the table is confined. -/
theorem isConfined_error (fault : Fault) (table : Table) (supply : Supply) (kind : Text)
    (key? : Option Uuid) : (unchanged (.error fault) table supply).IsConfined table kind key? := rfl

/-- A creation fails and adds nothing, or adds a row under the key that is drawn first. -/
theorem isConfined_create (hstore : catalog.store = ⟨.text kind⟩) (hids : supply.GivesUuids)
    (size : Option Nat) (storeKey recordKey : Option Text) :
    (catalog.create size storeKey recordKey table supply).IsConfined table kind
      ((Request.create size storeKey recordKey).key? supply) := by
  obtain ⟨after, -, ⟨fault, hcreate⟩ | ⟨key, signature, now, number, store, entry, hkey, -, -, -,
    hcreate⟩⟩ := Record.create_cases hids (switchValue (size.map fun number => .integer number))
      (switchValue (storeKey.map Value.text)) (switchValue (recordKey.map Value.text))
  · simp only [create, hcreate]
    exact isConfined_error fault table after kind _
  · let blob : Blob := .created key signature now number store entry
    have hdrawn : (Request.create size storeKey recordKey).key? supply = some key := by
      simp only [Request.key?, hkey]
    simp only [create, hcreate, hstore, hdrawn]
    refine Service.isConfined_of_change (fun _ => Store.table_of_insert_error) (fun _ => ?_) _ _
    have habout : (Call.insert blob.toRecord).IsAbout key := rfl
    have hkept : (Place.call ⟨kind, key⟩ (.insert blob.toRecord) table).2.without ⟨kind, key⟩ =
        table.without ⟨kind, key⟩ := Place.without_call habout table
    exact ⟨⟨_, Blob.printed_toRecord rfl catalog.locator⟩, hkept⟩

/-- A move of a record that was loaded fails and changes nothing, or changes its row. -/
theorem isConfined_move (hstore : catalog.store = ⟨.text kind⟩) (hids : supply.GivesUuids)
    (chosen : Move) {found : Loaded} (hkey : found.blob.key = some found.key) :
    (catalog.move chosen found table supply).IsConfined table kind (some found.key) := by
  rcases hmoved : found.blob.toRecord.transition chosen.target .absent supply with ⟨moved, after⟩
  have hlater := Record.leadsTo_transition hmoved
  cases moved with
  | error fault =>
    simp only [move, hmoved]
    exact isConfined_error fault table after kind _
  | ok record =>
    obtain ⟨-, time, -, rfl⟩ := Record.transition_toRecord hmoved
    have hheld : (found.blob.moved chosen.target time).key = some found.key := hkey
    generalize found.blob.moved chosen.target time = blob at hmoved hheld
    simp only [move, hmoved, hstore]
    rcases Store.update_toRecord_cases kind blob table (hids.leadsTo hlater) with
      ⟨fault, log, last, heq⟩ | ⟨_, id, changed, log, last, -, -, -, heq⟩
    · rw [heq]
      exact rfl
    · have habout : (Call.update blob.toRecord after).IsAbout found.key := Blob.key_toRecord hheld
      have hkept : (Place.call ⟨kind, found.key⟩ (.update blob.toRecord after) table).2.without
          ⟨kind, found.key⟩ = table.without ⟨kind, found.key⟩ := Place.without_call habout table
      have hsigned : (blob.signed id).key = some found.key := hheld
      have hprinted := Blob.printed_toRecord hsigned catalog.locator
      simp only [Place.call, Store.call, heq] at hkept
      rw [heq]
      exact Service.isConfined_of_change (fun _ hfailed => absurd hfailed (by simp))
        (fun _ => ⟨⟨_, hprinted⟩, hkept⟩) _ _

/-- A purge of a record that was loaded fails and removes nothing, or removes its row. -/
theorem isConfined_purge (hstore : catalog.store = ⟨.text kind⟩) (found : Loaded) :
    (catalog.purge found table supply).IsConfined table kind (some found.key) := by
  rw [purge_eq hstore]
  split
  · exact ⟨kind, found.key, rfl, rfl, Table.without_without table ⟨kind, found.key⟩⟩
  · exact isConfined_error _ table supply kind _

/-- An action on a record that was loaded is confined to its row. -/
theorem isConfined_act (hstore : catalog.store = ⟨.text kind⟩) (hids : supply.GivesUuids)
    (action : Action) {found : Loaded} (hkey : found.blob.key = some found.key) :
    (catalog.act action found table supply).IsConfined table kind (some found.key) := by
  cases action with
  | inspect =>
    have hprinted : found.blob.toRecord.printed catalog.locator = _ :=
      Blob.printed_toRecord hkey catalog.locator
    simp only [act, unchanged, hprinted]
    exact ⟨kind, found.key, rfl, rfl, rfl⟩
  | move chosen => exact isConfined_move hstore hids chosen hkey
  | purge => exact isConfined_purge hstore found

/-- **A request is confined to the row of its key**, and a request that fails changes nothing. -/
theorem isConfined_serve {kind : Text} (hstore : catalog.store = ⟨.text kind⟩)
    (hids : supply.GivesUuids) (request : Request) (table : Table) :
    (catalog.serve request table supply).IsConfined table kind (request.key? supply) := by
  by_cases hkind : kind.IsString
  swap
  · obtain ⟨fault, after, heq⟩ := serve_of_not_isString hstore hkind hids request table
    rw [heq]
    exact isConfined_error fault table after kind _
  obtain ⟨kind, rfl⟩ : ∃ held : String, kind = held := ⟨_, Text.isString_iff.1 hkind⟩
  cases request with
  | create size storeKey recordKey => exact isConfined_create hstore hids size storeKey recordKey
  | manage action text =>
    cases hload : catalog.load text table with
    | error fault =>
      simp only [serve, hload]
      exact isConfined_error fault table supply kind _
    | ok found =>
      -- The row was found under the key of the text, so the record that it holds has that key.
      obtain ⟨row, htext, hrow, hread⟩ := exists_row_of_load hstore hload
      have hkey := Row.key_of_toBlob (Table.mem_of_rowOf hrow).2.2 hread
      have hasked : (Request.manage action text).key? supply = some found.key := htext
      simp only [serve, hload, hasked]
      exact isConfined_act hstore hids action hkey

end Catalog

/-! ## Command lines -/

/-- A reply has the exit code 0 exactly if the request is served. -/
theorem Reply.outcome_ofService (request : Request) (service : Service) (level : LogLevel) :
    ((Reply.ofService request service).filtered level).outcome = .ok 0 ↔
      ∃ line, service.outcome = .ok line := by
  cases houtcome : service.outcome with
  | ok line =>
    simp [Reply.ofService, Reply.filtered, houtcome, Reply.success]
  | error fault =>
    simp only [Reply.ofService, Reply.filtered, houtcome]
    split <;> simp [Reply.escape]

namespace Workspace

variable {workspace : Workspace} {settings : Settings}

/-- The table at a path. A table that is not there has no rows. -/
def tableAt (workspace : Workspace) (path : Path) : Table :=
  (workspace.tables.lookup path).getD .empty

/-- A look-up does not find the entries that are taken out under another path. -/
theorem lookup_filter_of_ne {path other : Path} (hne : path ≠ other)
    (entries : List (Path × Table)) :
    (entries.filter fun entry => entry.1 != path).lookup other = entries.lookup other := by
  induction entries with
  | nil => rfl
  | cons entry rest ih =>
    obtain ⟨held, table⟩ := entry
    by_cases hheld : held = path
    · have hother : (other == held) = false := beq_eq_false_iff_ne.2 fun hsame =>
        hne (hheld.symm.trans hsame.symm)
      rw [List.filter_cons_of_neg (by simpa using hheld), ih, List.lookup_cons, hother]
    · rw [List.filter_cons_of_pos (by simpa using hheld), List.lookup_cons, List.lookup_cons, ih]

/-- Putting a table at a path leaves the tables at other paths. -/
theorem tableAt_putTable (workspace : Workspace) (path other : Path) (table : Table) :
    (workspace.putTable path table).tableAt other =
      if path = other then table else workspace.tableAt other := by
  split
  · next hsame =>
    rw [tableAt, ← hsame, lookup_putTable, Option.getD_some]
  · next hne =>
    have hother : (other == path) = false := beq_eq_false_iff_ne.2 (Ne.symm hne)
    have hnew : [(path, table)].lookup other = none := by
      rw [List.lookup_cons, hother]
      rfl
    rw [tableAt, tableAt, putTable, List.lookup_append, lookup_filter_of_ne hne, hnew,
      Option.or_none]

theorem tableAt_openTable {made : Workspace} {path : Path} {table : Table}
    (h : workspace.openTable path = .ok (table, made)) (other : Path) :
    made.tableAt other = workspace.tableAt other := by
  unfold openTable at h
  split at h
  · exact absurd h (by simp)
  · split at h
    · obtain ⟨-, rfl⟩ := Prod.mk.inj (Except.ok.inj h)
      rfl
    · next hmissing =>
      obtain ⟨-, rfl⟩ := Prod.mk.inj (Except.ok.inj h)
      rw [tableAt_putTable]
      split
      · next hsame => rw [tableAt, ← hsame, hmissing, Option.getD_none]
      · rfl

/-- Preparing a workspace changes no row. -/
theorem tableAt_prepare (workspace : Workspace) (settings : Settings) (path : Path) :
    (workspace.prepare settings).2.tableAt path = workspace.tableAt path := by
  have hsame : (workspace.makePlace settings).2.tableAt path = workspace.tableAt path := by
    rw [tableAt, tableAt, (makePlace_extends workspace settings).tables_eq]
  unfold prepare
  rcases hmade : workspace.makePlace settings with ⟨fault | ⟨⟩, second⟩
  all_goals
    rw [hmade] at hsame
    simp only
  · exact hsame
  · cases hopen : second.openTable (settings.tablePath second.directory) with
    | error fault => exact hsame
    | ok opened => exact (tableAt_openTable hopen path).trans hsame

/-- A workspace has the rows of another one but for the row at a place of the table at a path. -/
structure ChangesOnly (before after : Workspace) (path : Path) (place : Place) : Prop where
  tableAt_eq : ∀ other, other ≠ path → after.tableAt other = before.tableAt other
  without_eq : (after.tableAt path).without place = (before.tableAt path).without place

/-- Serving a request leaves the tables as they are if it fails, and changes one row at most if it
succeeds. -/
theorem tableAt_serve {supply : Supply} (hids : supply.GivesUuids) (workspace : Workspace)
    (settings : Settings) (request : Request) :
    ((workspace.serve settings request supply).1.outcome ≠ .ok 0 → ∀ path,
      (workspace.serve settings request supply).2.1.tableAt path = workspace.tableAt path) ∧
    ((workspace.serve settings request supply).1.outcome = .ok 0 →
      ∃ (kind : String) (key : Uuid), settings.entityKind = kind ∧
        request.key? supply = some key ∧
        workspace.ChangesOnly (workspace.serve settings request supply).2.1
          (settings.tablePath workspace.directory) ⟨kind, key⟩) := by
  rcases hprepare : workspace.prepare settings with ⟨opened, made⟩
  have hkept : ∀ path, made.tableAt path = workspace.tableAt path := by
    intro path
    rw [← tableAt_prepare workspace settings path, hprepare]
  -- Preparing touches no table, so only the service can change one.
  cases opened with
  | error fault =>
    simp only [serve, hprepare, Reply.escape]
    exact ⟨fun _ => hkept, fun hcode => absurd hcode (by simp)⟩
  | ok table =>
    obtain ⟨hprepared, halike⟩ := isPrepared_of_prepare hprepare
    have hdirectory := halike.directory_eq
    have htable : workspace.tableAt (settings.tablePath workspace.directory) = table := by
      rw [← hkept, tableAt, ← hdirectory, hprepared.lookup_eq, Option.getD_some]
    simp only [serve, hprepare, hdirectory]
    have hconfined : ((settings.catalog workspace.directory).serve request table
        supply).IsConfined table settings.entityKind (request.key? supply) :=
      Catalog.isConfined_serve rfl hids request table
    generalize (settings.catalog workspace.directory).serve request table supply = service
      at hconfined
    rw [ne_eq, Reply.outcome_ofService]
    cases houtcome : service.outcome with
    | error fault =>
      rw [Service.IsConfined, houtcome] at hconfined
      refine ⟨fun _ path => ?_, fun hcode => absurd hcode (by simp)⟩
      rw [tableAt_putTable, hconfined, hkept]
      split
      · next hsame => rw [← hsame, htable]
      · rfl
    | ok line =>
      rw [Service.IsConfined, houtcome] at hconfined
      obtain ⟨kind, key, hkind, hkey, hwithout⟩ := hconfined
      refine ⟨fun hcode => (hcode ⟨line, rfl⟩).elim,
        fun _ => ⟨kind, key, hkind, hkey, fun path hpath => ?_, ?_⟩⟩
      · rw [tableAt_putTable, if_neg (Ne.symm hpath), hkept]
      · rw [tableAt_putTable, if_pos rfl, htable]
        exact hwithout

/-- The command line asks for a request and its exit code is 0. -/
def Serves (workspace : Workspace) (environment : Environment) (words : List Text)
    (supply : Supply) (request : Request) : Prop :=
  Request.ofWords words = .ok request ∧
    (workspace.answer environment words supply).1.outcome = .ok 0

/-- **A command line changes one row at most.** If it is not served, every row of every table is as
before. If it is served, the settings were read and their kind is a string, the request has a key,
and every row but the one under that kind and that key is as before. -/
theorem tableAt_answer {supply : Supply} (hids : supply.GivesUuids) (workspace : Workspace)
    (environment : Environment) (words : List Text) :
    ((¬∃ request, workspace.Serves environment words supply request) → ∀ path,
      (workspace.answer environment words supply).2.1.tableAt path = workspace.tableAt path) ∧
    ∀ request, workspace.Serves environment words supply request →
      ∃ (settings : Settings) (kind : String) (key : Uuid),
        Settings.ofSources [] environment (workspace.fileBindings environment) = .ok settings ∧
        settings.entityKind = kind ∧ request.key? supply = some key ∧
        workspace.ChangesOnly (workspace.answer environment words supply).2.1
          (settings.tablePath workspace.directory) ⟨kind, key⟩ := by
  -- A command line ends with its words, with the settings or with the service.
  cases hwords : Request.ofWords words with
  | error halt =>
    have hanswer : (workspace.answer environment words supply).2.1 = workspace := by
      simp only [answer, hwords]
    refine ⟨fun _ path => by rw [hanswer], fun request hserves => ?_⟩
    exact absurd (hwords.symm.trans hserves.1) (by simp)
  | ok request =>
    cases hsettings : Settings.ofSources [] environment (workspace.fileBindings environment) with
    | error faults =>
      have hanswer : (workspace.answer environment words supply).2.1 = workspace := by
        simp only [answer, hwords, hsettings]
      refine ⟨fun _ path => by rw [hanswer], fun request hserves => ?_⟩
      have hcode := hserves.2
      simp [answer, hwords, hsettings, Reply.refusal] at hcode
    | ok settings =>
      have hanswer : workspace.answer environment words supply =
          workspace.serve settings request supply := by
        simp only [answer, hwords, hsettings]
      obtain ⟨hfailed, hserved⟩ := tableAt_serve hids workspace settings request
      rw [← hanswer] at hfailed hserved
      refine ⟨fun hnone => hfailed fun hcode => hnone ⟨request, hwords, hcode⟩, ?_⟩
      rintro other ⟨hother, hcode⟩
      obtain rfl : other = request := Except.ok.inj (hother.symm.trans hwords)
      obtain ⟨kind, key, hkind, hkey, hrows⟩ := hserved hcode
      exact ⟨settings, kind, key, rfl, hkind, hkey, hrows⟩

/-- A row that no store can read. -/
def strangeRow : Row :=
  { Row.ofBlob "blob" sampleKey sampleBlob with name := .text "strange", size := .null }

/-- The place of the table where nothing is set. -/
def samplePath : Path := ⟨.root, ["work", "data", "metadb.sqlite3"]⟩

/-- A workspace with a record and a row that cannot be read. -/
def sampleWorkspace : Workspace :=
  (fresh ⟨.root, ["work"]⟩ none).putTable samplePath
    ⟨[strangeRow, Row.ofBlob "blob" sampleKey sampleBlob]⟩

theorem tableAt_answer_sample :
    (∀ path, (sampleWorkspace.answer [] ["purge", sampleKey.text] sampleSupply).2.1.tableAt path =
      sampleWorkspace.tableAt path) ∧
    (sampleWorkspace.answer [] ["fail", sampleKey.text] sampleSupply).1.outcome = .ok 0 ∧
    sampleWorkspace.ChangesOnly
      (sampleWorkspace.answer [] ["fail", sampleKey.text] sampleSupply).2.1 samplePath
      ⟨"blob", sampleKey⟩ := by
  have hids : sampleSupply.GivesUuids := (Supply.isDistinct_numbered _).isUuid
  obtain ⟨hfailed, -⟩ := tableAt_answer hids sampleWorkspace [] ["purge", sampleKey.text]
  obtain ⟨-, hserved⟩ := tableAt_answer hids sampleWorkspace [] ["fail", sampleKey.text]
  have hrefused : (sampleWorkspace.answer [] ["purge", sampleKey.text] sampleSupply).1.outcome =
      .ok 1 := by with_unfolding_all rfl
  have hcode : (sampleWorkspace.answer [] ["fail", sampleKey.text] sampleSupply).1.outcome =
      .ok 0 := by with_unfolding_all rfl
  have hread : Request.ofWords ["fail", sampleKey.text] =
      .ok (.manage (.move .fail) sampleKey.text) := by with_unfolding_all rfl
  have hsettings : Settings.ofSources [] [] (sampleWorkspace.fileBindings []) =
      .ok ⟨"./data", "blob", .info⟩ := by with_unfolding_all rfl
  refine ⟨hfailed ?_, hcode, ?_⟩
  · rintro ⟨request, -, hzero⟩
    exact absurd (hrefused.symm.trans hzero) (by simp)
  · obtain ⟨settings, kind, key, hsettings', hkind, hkey, hchanges⟩ := hserved _ ⟨hread, hcode⟩
    obtain rfl := Except.ok.inj (hsettings.symm.trans hsettings')
    obtain rfl : "blob" = kind := Text.ofString_inj.1 hkind
    obtain rfl : sampleKey = key :=
      Option.some.inj ((Uuid.ofText?_text sampleKey).symm.trans hkey)
    exact hchanges

end Workspace

end BlobCatalog
