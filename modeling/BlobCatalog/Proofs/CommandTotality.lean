import BlobCatalog.Proofs.AssignedStatus
import BlobCatalog.Proofs.CommandFrame
import BlobCatalog.Proofs.CommandRefinement
import BlobCatalog.Proofs.ReadableTable

/-!
# When a command line is answered

A command line that is read as a request, under valid settings, either is answered with the exit
code 0 or 1 or lets a fault escape. It is answered exactly if the words are those of a command that
fits and the workspace admits the settings (`Terminal.answered_iff`): the size of a new record has
to be an integer of 64 bits, which reading a size does not ask for, every switch needs a value, what
is stored has to be a string, and the directories of the settings have to be there or to be
makeable.

Nothing else can go wrong, because the tables are written by command lines only. One request on a
table of typed records leaves such a table, and a record that is loaded from it can be moved,
removed and printed (`Catalog.serve_answers`); so one command line keeps the terminal sound
(`Terminal.IsSound.enter`), and by induction all of them do (`Terminal.IsSound.afterAll`).
-/

namespace BlobCatalog

open EnvFile (Environment)

/-! ## Supplies without end -/

/-- The supply has an identifier for each draw and a time with an offset for each reading. -/
structure Supply.IsUnlimited (supply : Supply) : Prop where
  exists_id : ∀ draw, ∃ id, supply.idAt draw = some (.uuid id)
  exists_time : ∀ tick, ∃ time, supply.timeAt tick = some time ∧ time.isAware = true

/-- Draws and readings leave a supply without end. -/
theorem Supply.IsUnlimited.advance {supply : Supply} (h : supply.IsUnlimited) (ticks drawn : Nat) :
    ({ supply with ticks := ticks, drawn := drawn } : Supply).IsUnlimited := ⟨h.1, h.2⟩

/-- A command that the store is asked for: a creation, or an action on a text that holds a key. -/
def Command.AsksStore : Command → Prop
  | create _ _ _ => True
  | manage _ text => Uuid.ofText? text ≠ none

/-! ## Requests that are answered -/

namespace Service

/-- The service comes to an answer. -/
def IsAnswered (service : Service) : Prop := ∃ answer, service.Gives answer

/-- Requests can go on after the service: it leaves a written table and a supply without end. -/
structure Continues (service : Service) : Prop where
  table : service.table.IsWritten
  supply : service.supply.IsUnlimited

theorem isAnswered_of_ok {service : Service} {line : String} (h : service.outcome = .ok line) :
    service.IsAnswered := ⟨_, .inl ⟨line, h, rfl⟩⟩

theorem isAnswered_of_error {service : Service} {fault : Fault} {message : Text}
    (h : service.outcome = .error fault) (hdomain : fault.isDomain = true)
    (hmessage : fault.message? = some message) : service.IsAnswered :=
  ⟨_, .inr ⟨fault, message, h, hdomain, hmessage, rfl⟩⟩

/-- A fault outside the domain is no answer. -/
theorem not_isAnswered_of_error {service : Service} {fault : Fault}
    (h : service.outcome = .error fault) (hdomain : fault.isDomain = false) :
    ¬service.IsAnswered := by
  rintro ⟨answer, ⟨line, houtcome, -⟩ | ⟨other, message, houtcome, hother, -⟩⟩
  · exact absurd (h.symm.trans houtcome) (by simp)
  · obtain rfl := Except.error.inj (h.symm.trans houtcome)
    exact absurd (hdomain.symm.trans hother) (by simp)

/-- The exit code of a service is 0 or 1 exactly if it comes to an answer. -/
theorem isAnswered_iff (service : Service) (request : Request) (level : LogLevel) :
    service.IsAnswered ↔
      ((Reply.ofService request service).filtered level).outcome = .ok 0 ∨
        ((Reply.ofService request service).filtered level).outcome = .ok 1 := by
  constructor
  · rintro ⟨answer, hgives⟩
    have hcode := (hgives.reply request level).1
    rcases hgives with ⟨line, -, rfl⟩ | ⟨_, _, -, -, -, rfl⟩
    · exact .inl hcode
    · exact .inr hcode
  · intro hcode
    cases houtcome : service.outcome with
    | ok line => exact isAnswered_of_ok houtcome
    | error fault =>
      simp only [Reply.ofService, houtcome, Reply.filtered] at hcode
      split at hcode
      · next message hdomain hmessage => exact isAnswered_of_error houtcome hdomain hmessage
      · simp [Reply.escape] at hcode

end Service

namespace Catalog

variable {catalog : Catalog} {kind : String} {table : Table} {supply : Supply}

/-! ### Creating -/

/-- A switch without a value is refused as a size and as a text, so that no record is made. -/
theorem exists_ofFields_error {key : Value} {stamps : Stamps} {size : Option Nat}
    {storeKey recordKey : Option Text}
    (h : size = none ∨ storeKey = none ∨ recordKey = none) :
    ∃ faults, Record.ofFields [("key", key),
      ("size", switchValue (size.map fun number => .integer number)),
      ("status", .status .initializing), ("store_key", switchValue (storeKey.map Value.text)),
      ("record_key", switchValue (recordKey.map Value.text)), ("timestamps", stamps.toValue)] =
        .error (.invalid faults) := by
  unfold Record.ofFields
  cases hchecked : Record.checked [("key", key),
      ("size", switchValue (size.map fun number => .integer number)),
      ("status", .status .initializing), ("store_key", switchValue (storeKey.map Value.text)),
      ("record_key", switchValue (recordKey.map Value.text)), ("timestamps", stamps.toValue)] with
  | error faults => exact ⟨faults, rfl⟩
  | ok record =>
    obtain ⟨_, _, hfive, -, -⟩ := Checked.andAlso_eq_ok_iff.1 hchecked
    obtain ⟨_, _, hfour, hentry, -⟩ := Checked.andAlso_eq_ok_iff.1 hfive
    obtain ⟨_, _, hthree, hstore, -⟩ := Checked.andAlso_eq_ok_iff.1 hfour
    obtain ⟨_, _, htwo, -, -⟩ := Checked.andAlso_eq_ok_iff.1 hthree
    obtain ⟨_, _, -, hsize, -⟩ := Checked.andAlso_eq_ok_iff.1 htwo
    rcases h with rfl | rfl | rfl
    · exact nomatch hsize
    · exact nomatch hstore
    · exact nomatch hentry

/-- Without a value for each switch no record is made. -/
theorem create_of_missing (catalog : Catalog) (table : Table) (hsupply : supply.IsUnlimited)
    {size : Option Nat} {storeKey recordKey : Option Text}
    (h : size = none ∨ storeKey = none ∨ recordKey = none) :
    ∃ faults, catalog.create size storeKey recordKey table supply =
      unchanged (.error (.invalid faults)) table supply.afterCreation := by
  obtain ⟨key, hkey⟩ := hsupply.exists_id supply.drawn
  obtain ⟨signature, hsignature⟩ := hsupply.exists_id (supply.drawn + 1)
  obtain ⟨now, hnow, -⟩ := hsupply.exists_time supply.ticks
  obtain ⟨faults, hfields⟩ := exists_ofFields_error h
  refine ⟨faults, ?_⟩
  rw [create, Record.create_eq_ofFields hkey hnow hsignature, hfields]

/-- With a value for each switch a typed record with a key is made, and it is printed if it can be
stored. -/
theorem exists_create_eq (catalog : Catalog) (hsupply : supply.IsUnlimited) (table : Table)
    (size : Nat) (storeKey recordKey : Text) :
    ∃ (key : Uuid) (blob : Blob), blob.key = some key ∧ blob.stamps.AreAware ∧ blob.size = size ∧
      blob.storeKey = storeKey ∧ blob.recordKey = recordKey ∧
      catalog.create (some size) (some storeKey) (some recordKey) table supply =
        let effect := catalog.store.insert blob.toRecord table
        ⟨effect.outcome.map fun _ => blob.line key catalog.locator, effect.table,
          supply.afterCreation, effect.log⟩ := by
  obtain ⟨key, hkey⟩ := hsupply.exists_id supply.drawn
  obtain ⟨signature, hsignature⟩ := hsupply.exists_id (supply.drawn + 1)
  obtain ⟨now, hnow, hnowAware⟩ := hsupply.exists_time supply.ticks
  have hcreated : Record.create (switchValue ((some size).map fun number => .integer number))
      (switchValue ((some storeKey).map Value.text)) (switchValue ((some recordKey).map Value.text))
        supply = (.ok (Blob.created key signature now size storeKey recordKey).toRecord,
          supply.afterCreation) :=
    Record.create_of_supply hkey hnow hsignature size storeKey recordKey
  have hheld : (Blob.created key signature now size storeKey recordKey).key = some key := rfl
  have hprinted := Blob.printed_toRecord hheld catalog.locator
  refine ⟨key, .created key signature now size storeKey recordKey, rfl, ?_, rfl, rfl, rfl, ?_⟩
  · constructor <;>
    · rintro _ ⟨⟩
      exact hnowAware
  · simp only [create, hcreated, hprinted]
    cases (catalog.store.insert
      (Blob.created key signature now size storeKey recordKey).toRecord table).outcome <;> rfl

/-- With a value for each switch the new record is stored and printed, unless its size is no integer
of 64 bits, one of its texts is no string or its key is taken. -/
theorem create_of_given (hstore : catalog.store = ⟨.text kind⟩) (hsupply : supply.IsUnlimited)
    (table : Table) (size : Nat) (storeKey recordKey : Text) :
    (¬(Command.create size storeKey recordKey).Fits ∧ ∃ fault, fault.isDomain = false ∧
      catalog.create (some size) (some storeKey) (some recordKey) table supply =
        unchanged (.error fault) table supply.afterCreation) ∨
    ((Command.create size storeKey recordKey).Fits ∧ ∃ key,
      catalog.create (some size) (some storeKey) (some recordKey) table supply =
        unchanged (.error (.alreadyExists (.uuid key))) table supply.afterCreation) ∨
    ((Command.create size storeKey recordKey).Fits ∧ ∃ key blob line changed log,
      blob.stamps.AreAware ∧ blob.IsEncodable ∧
      table.insert? (Row.ofBlob kind key blob) = some changed ∧
      catalog.create (some size) (some storeKey) (some recordKey) table supply =
        ⟨.ok line, changed, supply.afterCreation, log⟩) := by
  obtain ⟨key, blob, hkey, haware, rfl, rfl, rfl, hcreate⟩ :=
    exists_create_eq catalog hsupply table size storeKey recordKey
  rw [hcreate, hstore]
  rcases Store.insert_toRecord_cases kind hkey haware table with
    ⟨hlarge, hinsert⟩ | ⟨-, hencodable, hinsert⟩ | ⟨hsize, hencodable, -, hinsert⟩ |
      ⟨hsize, hencodable, changed, log, hchanged, hinsert⟩
  · exact .inl ⟨fun hfits => hlarge hfits.1, .outOfRange, rfl, by rw [hinsert]; rfl⟩
  · exact .inl ⟨fun hfits => hencodable hfits.2, .unencodable, rfl, by rw [hinsert]; rfl⟩
  · exact .inr (.inl ⟨⟨hsize, hencodable⟩, key, by rw [hinsert]; rfl⟩)
  · exact .inr (.inr ⟨⟨hsize, hencodable⟩, key, blob, blob.line key catalog.locator, changed, log,
      haware, hencodable, hchanged, by rw [hinsert]; rfl⟩)

/-- A creation comes to an answer exactly if each switch has a value, the size is an integer of 64
bits and the texts are strings. Whatever it comes to, requests can go on. -/
theorem create_answers (hstore : catalog.store = ⟨.text kind⟩) (hwritten : table.IsWritten)
    (hsupply : supply.IsUnlimited) (size : Option Nat) (storeKey recordKey : Option Text) :
    (catalog.create size storeKey recordKey table supply).Continues ∧
      ((catalog.create size storeKey recordKey table supply).IsAnswered ↔
        ∃ command : Command, Request.create size storeKey recordKey = command.request ∧
          command.Fits) := by
  have hafter : supply.afterCreation.IsUnlimited := hsupply.advance _ _
  -- A creation is a command exactly if each of its switches has a value.
  by_cases hmissing : size = none ∨ storeKey = none ∨ recordKey = none
  · obtain ⟨faults, hcreate⟩ := create_of_missing catalog table hsupply hmissing
    rw [hcreate]
    refine ⟨⟨hwritten, hafter⟩, iff_of_false (Service.not_isAnswered_of_error rfl rfl) ?_⟩
    rintro ⟨command, hrequest, -⟩
    cases command <;> simp_all [Command.request]
  · simp only [not_or, ← ne_eq, Option.ne_none_iff_exists'] at hmissing
    obtain ⟨⟨number, rfl⟩, ⟨store, rfl⟩, ⟨entry, rfl⟩⟩ := hmissing
    have hcommand : (∃ command : Command,
        Request.create (some number) (some store) (some entry) = command.request ∧ command.Fits) ↔
          (Command.create number store entry).Fits := by
      constructor
      · rintro ⟨command, hrequest, hfits⟩
        cases command with
        | create _ _ _ =>
          obtain ⟨rfl, rfl, rfl⟩ : number = _ ∧ store = _ ∧ entry = _ := by
            simpa [Command.request] using hrequest
          exact hfits
        | manage _ _ => exact absurd hrequest (by simp [Command.request])
      · exact fun hfits => ⟨.create number store entry, rfl, hfits⟩
    rw [hcommand]
    rcases create_of_given hstore hsupply table number store entry with
      ⟨hunfit, fault, hdomain, hcreate⟩ | ⟨hfits, key, hcreate⟩ |
        ⟨hfits, key, blob, line, changed, log, haware, hencodable, hchanged, hcreate⟩
    · rw [hcreate]
      exact ⟨⟨hwritten, hafter⟩, iff_of_false (Service.not_isAnswered_of_error rfl hdomain) hunfit⟩
    · rw [hcreate]
      exact ⟨⟨hwritten, hafter⟩, iff_of_true (Service.isAnswered_of_error rfl rfl rfl) hfits⟩
    · rw [hcreate]
      exact ⟨⟨hwritten.insert? haware hencodable hchanged, hafter⟩,
        iff_of_true (Service.isAnswered_of_ok rfl) hfits⟩

/-! ### Acting on a stored record -/

/-- A key in a written table is refused as a text or not found, or a typed record is loaded whose
signature its row carries. -/
theorem load_of_isWritten (hstore : catalog.store = ⟨.text kind⟩) (hwritten : table.IsWritten)
    (text : Text) :
    (∃ fault message, catalog.load text table = .error fault ∧ fault.isDomain = true ∧
      fault.message? = some message) ∨
    ∃ found row, catalog.load text table = .ok found ∧ found.blob.key = some found.key ∧
      found.blob.stamps.AreAware ∧ table.rowOf kind found.key = some row ∧
      row.signature = found.blob.signatureCell := by
  rw [load_eq hstore]
  cases htext : Uuid.ofText? text with
  | none => exact .inl ⟨_, _, rfl, rfl, rfl⟩
  | some key =>
    cases hrow : table.rowOf kind key with
    | none => exact .inl ⟨.notFound (.uuid key), _, by simp only [hrow], rfl, rfl⟩
    | some row =>
      obtain ⟨hmem, hkind, hname⟩ := Table.mem_of_rowOf hrow
      obtain ⟨heldKind, heldKey, blob, rfl, haware, hencodable⟩ := hwritten.rows row hmem
      obtain rfl : heldKey = key := Uuid.text_injective (Cell.text.inj hname)
      refine .inr ⟨⟨heldKey,
        { blob with key := some heldKey, stamps := blob.stamps.recorded.settle }⟩, _, ?_, rfl,
          haware.recorded.settle, hrow, rfl⟩
      simp only [hrow, Row.toBlob_ofBlob heldKind heldKey haware hencodable]
      rfl

/-- A loaded record is moved along an edge of the lifecycle and printed, or the move is refused. -/
theorem move_answers (hstore : catalog.store = ⟨.text kind⟩) (hwritten : table.IsWritten)
    (hsupply : supply.IsUnlimited) {found : Loaded} {row : Row}
    (hkey : found.blob.key = some found.key) (haware : found.blob.stamps.AreAware)
    (hrow : table.rowOf kind found.key = some row)
    (hsignature : row.signature = found.blob.signatureCell) (chosen : Move) :
    (catalog.move chosen found table supply).Continues ∧
      (catalog.move chosen found table supply).IsAnswered := by
  by_cases hedge : found.blob.status.Edge chosen.target
  · obtain ⟨now, hnow, hnowAware⟩ := hsupply.exists_time supply.ticks
    obtain ⟨id, hid⟩ := hsupply.exists_id supply.drawn
    obtain ⟨changed, log, hchanged, hmoved⟩ :=
      move_of_edge hstore hwritten.isKeyed hkey haware hedge hnow hnowAware hid hrow hsignature
    rw [hmoved]
    have hstamps := Blob.areAware_moved haware hnowAware chosen.target
    exact ⟨⟨hwritten.update? hstamps hchanged, hsupply.advance _ _⟩, Service.isAnswered_of_ok rfl⟩
  · rw [move_of_not_edge hedge]
    exact ⟨⟨hwritten, hsupply⟩, Service.isAnswered_of_error rfl rfl rfl⟩

/-- A record that awaits deletion is removed, and the removal of another one is refused. -/
theorem purge_answers (hstore : catalog.store = ⟨.text kind⟩) (hwritten : table.IsWritten)
    (hsupply : supply.IsUnlimited) (found : Loaded) :
    (catalog.purge found table supply).Continues ∧
      (catalog.purge found table supply).IsAnswered := by
  rw [purge_eq hstore]
  split
  · exact ⟨⟨hwritten.erase _ _, hsupply⟩, Service.isAnswered_of_ok rfl⟩
  · exact ⟨⟨hwritten, hsupply⟩, Service.isAnswered_of_error rfl rfl rfl⟩

/-- On a written table every request about a stored record comes to an answer, and a creation does
exactly if it is a command that fits. Requests can go on after each. -/
theorem serve_answers_string (hstore : catalog.store = ⟨.text kind⟩) (hwritten : table.IsWritten)
    (hsupply : supply.IsUnlimited) (request : Request) :
    (catalog.serve request table supply).Continues ∧
      ((catalog.serve request table supply).IsAnswered ↔
        ∃ command : Command, request = command.request ∧ command.Fits) := by
  cases request with
  | create size storeKey recordKey =>
    exact create_answers hstore hwritten hsupply size storeKey recordKey
  | manage action text =>
    have hcommand : ∃ command : Command, Request.manage action text = command.request ∧
        command.Fits := ⟨.manage action text, rfl, trivial⟩
    suffices hserved : (catalog.serve (.manage action text) table supply).Continues ∧
        (catalog.serve (.manage action text) table supply).IsAnswered from
      ⟨hserved.1, iff_of_true hserved.2 hcommand⟩
    rcases load_of_isWritten hstore hwritten text with
      ⟨fault, message, hload, hdomain, hmessage⟩ |
        ⟨found, row, hload, hkey, haware, hrow, hsignature⟩
    · simp only [serve, hload]
      exact ⟨⟨hwritten, hsupply⟩, Service.isAnswered_of_error rfl hdomain hmessage⟩
    · simp only [serve, hload]
      cases action with
      | inspect =>
        have hprinted : found.blob.toRecord.printed catalog.locator = _ :=
          Blob.printed_toRecord hkey catalog.locator
        exact ⟨⟨hwritten, hsupply⟩, Service.isAnswered_of_ok hprinted⟩
      | move chosen =>
        exact move_answers hstore hwritten hsupply hkey haware hrow hsignature chosen
      | purge => exact purge_answers hstore hwritten hsupply found

/-- A catalog of a kind that cannot be encoded answers no request but those that hold no key, which
it refuses. -/
theorem serve_answers_of_not_isString {kind : Text} (hstore : catalog.store = ⟨.text kind⟩)
    (hkind : ¬kind.IsString) (hwritten : table.IsWritten) (hsupply : supply.IsUnlimited)
    (request : Request) :
    (catalog.serve request table supply).Continues ∧
      ((catalog.serve request table supply).IsAnswered ↔
        ∃ action text, request = .manage action text ∧ Uuid.ofText? text = none) := by
  have hafter : supply.afterCreation.IsUnlimited := hsupply.advance _ _
  cases request with
  | create size storeKey recordKey =>
    -- Whatever the switches hold, the kind cannot be bound, so nothing is stored.
    suffices hrefused : ∃ fault, fault.isDomain = false ∧
        catalog.create size storeKey recordKey table supply =
          unchanged (.error fault) table supply.afterCreation by
      obtain ⟨fault, hdomain, hcreate⟩ := hrefused
      rw [serve, hcreate]
      exact ⟨⟨hwritten, hafter⟩,
        iff_of_false (Service.not_isAnswered_of_error rfl hdomain) (by simp)⟩
    by_cases hmissing : size = none ∨ storeKey = none ∨ recordKey = none
    · obtain ⟨faults, hcreate⟩ := create_of_missing catalog table hsupply hmissing
      exact ⟨.invalid faults, rfl, hcreate⟩
    · simp only [not_or, ← ne_eq, Option.ne_none_iff_exists'] at hmissing
      obtain ⟨⟨number, rfl⟩, ⟨store, rfl⟩, ⟨entry, rfl⟩⟩ := hmissing
      obtain ⟨key, blob, hkey, haware, -, -, -, hcreate⟩ :=
        exists_create_eq catalog hsupply table number store entry
      obtain ⟨fault, hfault, hinsert⟩ := Store.insert_of_not_isString hkind hkey table
      refine ⟨.unencodable, rfl, ?_⟩
      rw [hcreate, hstore, hinsert, hfault haware]
      rfl
  | manage action text =>
    -- The key is read before the kind is bound.
    rw [serve, load_of_not_isString hstore hkind]
    cases hkey : Uuid.ofText? text with
    | none =>
      exact ⟨⟨hwritten, hsupply⟩,
        iff_of_true (Service.isAnswered_of_error rfl rfl rfl) ⟨action, text, rfl, hkey⟩⟩
    | some key =>
      refine ⟨⟨hwritten, hsupply⟩, iff_of_false (Service.not_isAnswered_of_error rfl rfl) ?_⟩
      rintro ⟨_, _, ⟨⟩, hnone⟩
      exact absurd (hkey.symm.trans hnone) (by simp)

/-- **When a request comes to an answer.** On a written table it does exactly if it is a command
that fits and that the store is asked for under a kind that is a string only. Requests can go on
after each. -/
theorem serve_answers {kind : Text} (hstore : catalog.store = ⟨.text kind⟩)
    (hwritten : table.IsWritten) (hsupply : supply.IsUnlimited) (request : Request) :
    (catalog.serve request table supply).Continues ∧
      ((catalog.serve request table supply).IsAnswered ↔
        ∃ command : Command, request = command.request ∧ command.Fits ∧
          (command.AsksStore → kind.IsString)) := by
  by_cases hkind : kind.IsString
  · have hstring : catalog.store = ⟨.text kind.string⟩ :=
      hstore.trans (congrArg (fun kind => Store.mk (.text kind)) (Text.isString_iff.1 hkind))
    simpa [hkind] using serve_answers_string hstring hwritten hsupply request
  · obtain ⟨hcontinues, hanswered⟩ :=
      serve_answers_of_not_isString hstore hkind hwritten hsupply request
    refine ⟨hcontinues, hanswered.trans ?_⟩
    constructor
    · rintro ⟨action, text, rfl, hnone⟩
      exact ⟨.manage action text, rfl, trivial, fun hasks => absurd hnone hasks⟩
    · rintro ⟨command, rfl, -, hasks⟩
      cases command with
      | create size storeKey recordKey => exact absurd (hasks trivial) hkind
      | manage action text =>
        exact ⟨action, text, rfl, Classical.not_not.1 fun hsome => hkind (hasks hsome)⟩

end Catalog

/-! ## Command lines that are answered -/

namespace Workspace

variable {workspace made : Workspace} {settings : Settings}

/-- The tables of the workspace hold rows of typed records only. -/
def IsWritten (workspace : Workspace) : Prop := ∀ path, (workspace.tableAt path).IsWritten

/-- A prepared workspace has the tables that it had, and the opened one is among them. -/
theorem tableAt_of_prepare {table : Table} (h : workspace.prepare settings = (.ok table, made)) :
    (∀ path, made.tableAt path = workspace.tableAt path) ∧
      workspace.tableAt (settings.tablePath workspace.directory) = table := by
  have hkept : ∀ path, made.tableAt path = workspace.tableAt path := by
    intro path
    rw [← tableAt_prepare workspace settings path, h]
  obtain ⟨hprepared, halike⟩ := isPrepared_of_prepare h
  refine ⟨hkept, ?_⟩
  rw [← hkept, tableAt, ← halike.directory_eq, hprepared.lookup_eq, Option.getD_some]

/-- **When a served request comes to an answer**: the workspace admits the settings, and the request
is a command that fits, with a kind that is a string if the store is asked. The tables stay written,
whatever it comes to. -/
theorem serve_answers {supply : Supply} (hwritten : workspace.IsWritten)
    (hsupply : supply.IsUnlimited) (settings : Settings) (request : Request) :
    (workspace.serve settings request supply).2.1.IsWritten ∧
      (workspace.serve settings request supply).2.2.IsUnlimited ∧
      ((workspace.serve settings request supply).1.outcome = .ok 0 ∨
          (workspace.serve settings request supply).1.outcome = .ok 1 ↔
        (∃ command : Command, request = command.request ∧ command.Fits ∧
            (command.AsksStore → settings.entityKind.IsString)) ∧
          workspace.Admits settings) := by
  rcases hprepare : workspace.prepare settings with ⟨opened, made⟩
  cases opened with
  | error fault =>
    have hrefused : ¬workspace.Admits settings := by
      rw [← prepare_isOk_iff]
      rintro ⟨table, other, hother⟩
      exact absurd (hprepare.symm.trans hother) (by simp)
    simp only [serve, hprepare, Reply.escape]
    refine ⟨fun path => ?_, hsupply, iff_of_false (by simp) fun h => hrefused h.2⟩
    have hkept := tableAt_prepare workspace settings path
    rw [hprepare] at hkept
    exact hkept ▸ hwritten path
  | ok table =>
    have hadmits : workspace.Admits settings := prepare_isOk_iff.1 ⟨table, made, hprepare⟩
    obtain ⟨hkept, htable⟩ := tableAt_of_prepare hprepare
    have hopened : table.IsWritten := htable ▸ hwritten _
    obtain ⟨hcontinues, hanswered⟩ := Catalog.serve_answers
      (show (settings.catalog made.directory).store = ⟨.text settings.entityKind⟩ from rfl)
      hopened hsupply request
    simp only [serve, hprepare, ← Service.isAnswered_iff, hanswered]
    refine ⟨fun path => ?_, hcontinues.supply, (and_iff_left hadmits).symm⟩
    rw [tableAt_putTable]
    split
    · exact hcontinues.table
    · rw [hkept]
      exact hwritten path

end Workspace

/-! ## Terminals that are reached -/

namespace Terminal

/-- The terminal after some command lines, each with its environment. -/
def afterAll (terminal : Terminal) (lines : List (Environment × List Text)) : Terminal :=
  lines.foldl (fun terminal line => (terminal.enter line.1 line.2).2) terminal

/-- No command line was entered yet: there is no row in any table, and the supply is without end. -/
structure IsInitial (terminal : Terminal) : Prop where
  tables : ∀ path, terminal.workspace.tableAt path = .empty
  supply : terminal.supply.IsUnlimited

/-- Command lines lead to the terminal. -/
def IsReached (terminal : Terminal) : Prop :=
  ∃ (initial : Terminal) (lines : List (Environment × List Text)), initial.IsInitial ∧
    initial.afterAll lines = terminal

/-- The tables hold rows of typed records only, and the supply is without end. -/
structure IsSound (terminal : Terminal) : Prop where
  tables : terminal.workspace.IsWritten
  supply : terminal.supply.IsUnlimited

variable {terminal : Terminal}

theorem IsInitial.isSound (h : terminal.IsInitial) : terminal.IsSound :=
  ⟨fun path => h.tables path ▸ Table.isWritten_empty, h.supply⟩

/-- A command line keeps the terminal sound. -/
theorem IsSound.enter (h : terminal.IsSound) (environment : Environment) (words : List Text) :
    (terminal.enter environment words).2.IsSound := by
  unfold Terminal.enter Workspace.answer
  cases Request.ofWords words with
  | error halt => exact h
  | ok request =>
    simp only
    cases Settings.ofSources [] environment (terminal.workspace.fileBindings environment) with
    | error fault => exact h
    | ok settings =>
      obtain ⟨htables, hsupply, -⟩ :=
        Workspace.serve_answers h.tables h.supply settings request
      exact ⟨htables, hsupply⟩

/-- Command lines keep the terminal sound. -/
theorem IsSound.afterAll (h : terminal.IsSound) (lines : List (Environment × List Text)) :
    (terminal.afterAll lines).IsSound := by
  induction lines generalizing terminal with
  | nil => exact h
  | cons line rest ih => exact ih (h.enter line.1 line.2)

/-- **When a command line is answered.** After any command lines, with any settings, let a command
line be read as a request and let the settings be valid. Then its exit code is 0 or 1, and no fault
escapes, exactly if three things hold. The words are those of a command that fits: no switch has the
mark as its value, a size is an integer of 64 bits and the texts of a new record are strings. The
kind of the settings is a string, if the store is asked. The directories of the settings can be made
and their table can be opened. -/
theorem answered_iff (hreached : terminal.IsReached) {environment : Environment}
    {words : List Text} {request : Request} {settings : Settings}
    (hread : Request.ofWords words = .ok request)
    (hsettings : Settings.ofSources [] environment
      (terminal.workspace.fileBindings environment) = .ok settings) :
    (terminal.enter environment words).1.outcome = .ok 0 ∨
        (terminal.enter environment words).1.outcome = .ok 1 ↔
      (∃ command : Command, command.IsRead words ∧
          (command.AsksStore → settings.entityKind.IsString)) ∧
        terminal.workspace.Admits settings := by
  obtain ⟨initial, lines, hinitial, rfl⟩ := hreached
  have hsound := hinitial.isSound.afterAll lines
  generalize initial.afterAll lines = terminal at *
  obtain ⟨-, -, hanswered⟩ :=
    Workspace.serve_answers hsound.tables hsound.supply settings request
  have hcommand : (∃ command : Command, command.IsRead words ∧
      (command.AsksStore → settings.entityKind.IsString)) ↔
        ∃ command : Command, request = command.request ∧ command.Fits ∧
          (command.AsksStore → settings.entityKind.IsString) := by
    simp only [Command.IsRead, hread, Except.ok.injEq, and_assoc]
  have henter : (terminal.enter environment words).1 =
      (terminal.workspace.serve settings request terminal.supply).1 := by
    simp only [Terminal.enter, Workspace.answer, hread, hsettings]
  rw [henter, hcommand]
  exact hanswered

/-- A terminal in a directory without a table, which draws one identifier all the time. -/
def endlessTerminal : Terminal :=
  ⟨.fresh ⟨.root, ["work"]⟩ none,
    .start (fun _ => some sampleTime) fun _ => some (.uuid sampleKey)⟩

theorem isInitial_endlessTerminal : endlessTerminal.IsInitial where
  tables _ := rfl
  supply := ⟨fun _ => ⟨sampleKey, rfl⟩, fun _ => ⟨sampleTime, rfl, rfl⟩⟩

/-- The line that creates a record of a size. -/
def creation (size : String) : List Text :=
  ["create", "--size", size, "--store", "store", "--record", "record"]

theorem answered_after_creation :
    let terminal := endlessTerminal.afterAll [([], creation "4"), ([], creation "4")]
    (terminal.enter [] ["fail", sampleKey.text]).1.outcome = .ok 0 ∨
      (terminal.enter [] ["fail", sampleKey.text]).1.outcome = .ok 1 := by
  intro terminal
  have hreached : terminal.IsReached := ⟨_, _, isInitial_endlessTerminal, rfl⟩
  have hread : Request.ofWords ["fail", sampleKey.text] =
      .ok (.manage (.move .fail) sampleKey.text) := by with_unfolding_all rfl
  have hsettings : Settings.ofSources [] [] (terminal.workspace.fileBindings []) =
      .ok sampleSettings := by with_unfolding_all rfl
  have hadmits : terminal.workspace.Admits sampleSettings :=
    ⟨by with_unfolding_all rfl, .inl (by with_unfolding_all rfl), .inl (by with_unfolding_all rfl),
      by with_unfolding_all rfl, by with_unfolding_all rfl⟩
  have hcommand : (Command.manage (.move .fail) sampleKey.text).IsRead ["fail", sampleKey.text] :=
    ⟨hread, trivial⟩
  have hkind : sampleSettings.entityKind.IsString := Text.isString_ofString _
  exact (answered_iff hreached hread hsettings).2 ⟨⟨_, hcommand, fun _ => hkind⟩, hadmits⟩

/-- A size that is read but is no integer of 64 bits makes a fault escape. -/
theorem escapes_oversized :
    endlessTerminal.IsInitial ∧
    Request.ofWords (creation "9223372036854775808") =
      .ok (.create (some 9223372036854775808) (some "store") (some "record")) ∧
    (endlessTerminal.enter [] (creation "9223372036854775808")).1.outcome =
      .error .outOfRange :=
  ⟨isInitial_endlessTerminal, by with_unfolding_all rfl, by with_unfolding_all rfl⟩

end Terminal

end BlobCatalog
