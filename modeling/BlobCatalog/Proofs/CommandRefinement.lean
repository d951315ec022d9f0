import BlobCatalog.Command.Reply
import BlobCatalog.Proofs.CatalogService
import BlobCatalog.Proofs.LedgerTable
import BlobCatalog.Proofs.PreparedWorkspace

/-!
# Command lines do what the lifecycle machine does

Command lines that run one after another in one workspace, with a table that is empty at first,
answer as the lifecycle machine does, and their table holds the records of the machine
(`Terminal.refines_machine`). One request keeps this (`Machine.Agrees.serve`): a creation inserts a
row, a loaded record is the one of the machine because its stamps are settled, and a move that is
saved prints the signature that the row then carries. One command line keeps it, because the
workspace stays prepared and the settings are the same (`Terminal.Runs.enter`), and the induction is
on the lines.
-/

namespace BlobCatalog

open Calendar (DateTime)
open EnvFile (Environment)

/-! ## Supplies with enough left -/

/-- There are two identifiers and a time for each of a number of commands, and no identifier comes
twice. The times have offsets, which are fixed and zero or at least a second. -/
structure Supply.Hands (supply : Supply) (count : Nat) (ids : Nat → Uuid)
    (times : Nat → DateTime) : Prop where
  distinct : supply.IsDistinct
  idAt_eq : ∀ draw, draw < 2 * count → supply.idAt (supply.drawn + draw) = some (.uuid (ids draw))
  timeAt_eq : ∀ tick, tick < count → supply.timeAt (supply.ticks + tick) = some (times tick)
  isAware : ∀ tick, tick < count → (times tick).isAware = true
  isFixed : ∀ tick, tick < count → (times tick).zone = none
  keepsOffset : ∀ tick, tick < count → (times tick).KeepsOffset

namespace Supply.Hands

variable {supply : Supply} {count : Nat} {ids : Nat → Uuid} {times : Nat → DateTime}

theorem weaken (h : supply.Hands (count + 1) ids times) : supply.Hands count ids times where
  distinct := h.distinct
  idAt_eq draw hdraw := h.idAt_eq draw (by omega)
  timeAt_eq tick htick := h.timeAt_eq tick (by omega)
  isAware tick htick := h.isAware tick (by omega)
  isFixed tick htick := h.isFixed tick (by omega)
  keepsOffset tick htick := h.keepsOffset tick (by omega)

/-- The next time is read as it is. -/
theorem recorded_eq (h : supply.Hands (count + 1) ids times) : (times 0).recorded = times 0 :=
  DateTime.recorded_eq_self (h.isFixed 0 (by omega)) (h.keepsOffset 0 (by omega))

/-- After a reading of the clock and at most two draws there is enough for one command less. -/
theorem advance (h : supply.Hands (count + 1) ids times) {drawn : Nat} (hdrawn : drawn ≤ 2) :
    ({ supply with ticks := supply.ticks + 1, drawn := supply.drawn + drawn } : Supply).Hands count
      (fun draw => ids (draw + drawn)) (fun tick => times (tick + 1)) where
  distinct := h.distinct.leadsTo ⟨rfl, Nat.le_add_right _ _⟩
  idAt_eq draw hdraw := by
    have hid := h.idAt_eq (draw + drawn) (by omega)
    rw [Nat.add_comm draw drawn, ← Nat.add_assoc] at hid
    rw [Nat.add_comm draw drawn]
    exact hid
  timeAt_eq tick htick := by
    have htime := h.timeAt_eq (tick + 1) (by omega)
    rw [Nat.add_comm tick 1, ← Nat.add_assoc] at htime
    rw [Nat.add_comm tick 1]
    exact htime
  isAware tick htick := h.isAware (tick + 1) (by omega)
  isFixed tick htick := h.isFixed (tick + 1) (by omega)
  keepsOffset tick htick := h.keepsOffset (tick + 1) (by omega)

end Supply.Hands

/-! ## Answers of a service -/

/-- A service comes to an answer: it prints its line, or it fails with a fault of the domain, which
is reported. -/
def Service.Gives (service : Service) (answer : Answer) : Prop :=
  (∃ line, service.outcome = .ok line ∧ answer = .printed line) ∨
    ∃ fault message, service.outcome = .error fault ∧ fault.isDomain = true ∧
      fault.message? = some message ∧ answer = .refused

/-- A reply has the exit code and the output of an answer. -/
def Reply.Gives (reply : Reply) (answer : Answer) : Prop :=
  reply.outcome = .ok answer.code ∧ reply.output = answer.output

theorem Service.Gives.reply {service : Service} {answer : Answer} (h : service.Gives answer)
    (request : Request) (level : LogLevel) :
    ((Reply.ofService request service).filtered level).Gives answer := by
  rcases h with ⟨line, houtcome, rfl⟩ | ⟨fault, message, houtcome, hdomain, hmessage, rfl⟩
  · simp only [Reply.ofService, houtcome]
    exact ⟨rfl, rfl⟩
  · simp only [Reply.ofService, houtcome, hdomain, hmessage]
    exact ⟨rfl, rfl⟩

/-! ## One request -/

namespace Machine

variable {machine : Machine} {catalog : Catalog} {kind : String} {count : Nat} {table : Table}
  {supply : Supply} {key : Uuid} {blob : Blob}

/-- A table and a supply are as the machine has it: the table holds the ledger, the supply hands out
what the machine has next, and the keys of the records are not drawn again. -/
structure Agrees (machine : Machine) (kind : String) (count : Nat) (table : Table)
    (supply : Supply) : Prop where
  holds : table.Holds kind machine.ledger
  hands : supply.Hands count machine.ids machine.times
  entries : ∀ key blob, machine.ledger.lookup key = some blob →
    blob.IsEntry key ∧ supply.IsSpent key

/-- A service agrees with what the machine answers and becomes. -/
def AgreesWith (result : Answer × Machine) (kind : String) (count : Nat) (service : Service) :
    Prop :=
  service.Gives result.1 ∧ result.2.Agrees kind count service.table service.supply

namespace Agrees

theorem weaken (h : machine.Agrees kind (count + 1) table supply) :
    machine.Agrees kind count table supply :=
  ⟨h.holds, h.hands.weaken, h.entries⟩

/-- After a record was put under a key, the machine still agrees. -/
theorem advance (h : machine.Agrees kind (count + 1) table supply) {changed : Table} {drawn : Nat}
    (hdrawn : drawn ≤ 2)
    (hholds : changed.Holds kind (machine.ledger.insert key blob)) (hentry : blob.IsEntry key)
    (hspent : ({ supply with
      ticks := supply.ticks + 1, drawn := supply.drawn + drawn } : Supply).IsSpent key) :
    (machine.advance (machine.ledger.insert key blob) drawn).Agrees kind count changed
      { supply with ticks := supply.ticks + 1, drawn := supply.drawn + drawn } where
  holds := hholds
  hands := h.hands.advance hdrawn
  entries other held hheld := by
    change (machine.ledger.insert key blob).lookup other = some held at hheld
    by_cases hsame : other = key
    · subst hsame
      rw [Finmap.lookup_insert, Option.some.injEq] at hheld
      rw [← hheld]
      exact ⟨hentry, hspent⟩
    · rw [Finmap.lookup_insert_of_ne _ hsame] at hheld
      obtain ⟨hold, hkey⟩ := h.entries other held hheld
      exact ⟨hold, hkey.leadsTo ⟨rfl, Nat.le_add_right _ _⟩⟩

/-- A request that is refused changes nothing. -/
theorem refuse (h : machine.Agrees kind count table supply) {fault : Fault} {message : Text}
    (hdomain : fault.isDomain = true) (hmessage : fault.message? = some message) :
    AgreesWith (.refused, machine) kind count
      (Catalog.unchanged (.error fault) table supply) :=
  ⟨.inr ⟨fault, message, rfl, hdomain, hmessage, rfl⟩, h⟩

/-- A creation adds the record of the machine, whose key is new. -/
theorem create (h : machine.Agrees kind (count + 1) table supply)
    (hstore : catalog.store = ⟨.text kind⟩) {size : Nat} (hsize : size < Nat.pow 2 63)
    {storeKey recordKey : Text} (hstoreKey : storeKey.IsString) (hrecordKey : recordKey.IsString) :
    AgreesWith (machine.serve catalog.locator (.create size storeKey recordKey)) kind count
      (catalog.create (some size) (some storeKey) (some recordKey) table supply) := by
  have hkey := h.hands.idAt_eq 0 (by omega)
  have hsignature := h.hands.idAt_eq 1 (by omega)
  have hnow := h.hands.timeAt_eq 0 (by omega)
  have hentry : (machine.created size storeKey recordKey).IsEntry (machine.ids 0) :=
    .of_created (h.hands.isAware 0 (by omega)) h.hands.recorded_eq _ _ _ hstoreKey hrecordKey
  have hnew : machine.ledger.lookup (machine.ids 0) = none := by
    -- The key of a record of the machine is spent, and this one is only drawn now.
    apply Option.eq_none_iff_forall_ne_some.2
    intro blob hlookup
    exact (h.entries _ blob hlookup).2 _ (Nat.le_refl _) hkey
  obtain ⟨changed, hinsert, hholds⟩ :=
    h.holds.insert hnew (machine.created size storeKey recordKey)
  obtain ⟨log, hcreated⟩ :=
    Catalog.create_of_supply hstore hkey hnow hsignature hentry.aware hsize hstoreKey hrecordKey
      hinsert
  rw [hcreated]
  refine ⟨.inl ⟨_, rfl, rfl⟩, h.advance (Nat.le_refl 2) hholds hentry ?_⟩
  have hdrawn : supply.drawn + 0 < supply.afterCreation.drawn :=
    Nat.lt_add_of_pos_right Nat.two_pos
  exact h.hands.distinct.isSpent hkey supply.leadsTo_afterCreation hdrawn

/-- A text is loaded as the record of the machine under the key that it stands for. -/
theorem load_eq (h : machine.Agrees kind count table supply)
    (hstore : catalog.store = ⟨.text kind⟩) {text : Text}
    (htext : Uuid.ofText? text = some key) :
    catalog.load text table =
      match machine.ledger.lookup key with
      | none => .error (.notFound (.uuid key))
      | some blob => .ok ⟨key, blob⟩ := by
  rw [Catalog.load_eq hstore, htext]
  simp only [h.holds.rowOf_eq]
  cases hlookup : machine.ledger.lookup key with
  | none => rfl
  | some blob =>
    obtain ⟨hentry, -⟩ := h.entries key blob hlookup
    -- Reading settles the stamps, and those of the machine are read as they are and settled.
    have hread := Row.toBlob_ofBlob kind key hentry.aware hentry.encodable
    rw [hentry.recorded.recorded_eq, hentry.settle_eq, ← hentry.key_eq] at hread
    simp only [Option.map_some, hread]
    rfl

/-- A move is saved along an edge, because nobody has changed the row in between. -/
theorem move (h : machine.Agrees kind (count + 1) table supply)
    (hstore : catalog.store = ⟨.text kind⟩) (hlookup : machine.ledger.lookup key = some blob)
    (chosen : Move) :
    AgreesWith (machine.act catalog.locator (.move chosen) key blob) kind count
      (catalog.move chosen ⟨key, blob⟩ table supply) := by
  obtain ⟨hentry, hspent⟩ := h.entries key blob hlookup
  by_cases hedge : blob.status.Edge chosen.target
  · have hrow : table.rowOf kind key = some (Row.ofBlob kind key blob) := by
      rw [h.holds.rowOf_eq, hlookup]
      rfl
    have hid := h.hands.idAt_eq 0 (by omega)
    have hnow := h.hands.timeAt_eq 0 (by omega)
    have hnowAware := h.hands.isAware 0 (by omega)
    have hkey : (⟨key, blob⟩ : Loaded).blob.key = some key := hentry.key_eq
    obtain ⟨changed, log, hupdate, hmoved⟩ := Catalog.move_of_edge hstore h.holds.keyed hkey
      hentry.aware hedge hnow hnowAware hid hrow rfl
    rw [hmoved, act, if_pos hedge]
    refine ⟨.inl ⟨_, rfl, rfl⟩, h.advance (by omega) (h.holds.update hlookup hupdate) ?_ ?_⟩
    · exact hentry.moved hnowAware h.hands.recorded_eq chosen.target (machine.ids 0)
    · exact hspent.leadsTo ⟨rfl, Nat.le_add_right _ _⟩
  · rw [Catalog.move_of_not_edge hedge, act, if_neg hedge]
    exact h.weaken.refuse rfl rfl

/-- A purge removes a record that awaits deletion. -/
theorem purge (h : machine.Agrees kind count table supply)
    (hstore : catalog.store = ⟨.text kind⟩) (key : Uuid) (blob : Blob) :
    AgreesWith (machine.act catalog.locator .purge key blob) kind count
      (catalog.purge ⟨key, blob⟩ table supply) := by
  rw [Catalog.purge_eq hstore, act]
  by_cases hpending : blob.status = .pendingDeletion
  · rw [if_pos hpending, if_pos hpending]
    refine ⟨.inl ⟨_, rfl, rfl⟩, h.holds.erase key, h.hands, ?_⟩
    intro other held hheld
    by_cases hsame : other = key
    · subst hsame
      exact absurd ((Finmap.lookup_erase other machine.ledger).symm.trans hheld) (by simp)
    · exact h.entries other held ((Finmap.lookup_erase_ne hsame).symm.trans hheld)
  · rw [if_neg hpending, if_neg hpending]
    exact h.refuse rfl rfl

/-- A record of the machine is printed as it is. -/
theorem inspect (h : machine.Agrees kind count table supply)
    (hlookup : machine.ledger.lookup key = some blob) :
    AgreesWith (machine.act catalog.locator .inspect key blob) kind count
      (catalog.act .inspect ⟨key, blob⟩ table supply) := by
  obtain ⟨hentry, -⟩ := h.entries key blob hlookup
  refine ⟨.inl ⟨blob.line key catalog.locator, ?_, rfl⟩, h⟩
  exact Blob.printed_toRecord hentry.key_eq catalog.locator

/-- An action on the record of a text does what the machine does, if it does so on every record of
the machine. -/
theorem manage (h : machine.Agrees kind count table supply)
    (hstore : catalog.store = ⟨.text kind⟩) {action : Action} (text : Text)
    (hact : ∀ key blob, machine.ledger.lookup key = some blob →
      AgreesWith (machine.act catalog.locator action key blob) kind count
        (catalog.act action ⟨key, blob⟩ table supply)) :
    AgreesWith (machine.serve catalog.locator (.manage action text)) kind count
      (catalog.serve (.manage action text) table supply) := by
  rw [Catalog.serve]
  cases htext : Uuid.ofText? text with
  | none =>
    have hload : catalog.load text table = .error (.unreadableKey (.text text)) := by
      rw [Catalog.load_eq hstore, htext]
    simp only [Machine.serve, htext, hload]
    exact h.refuse rfl rfl
  | some key =>
    have hload := h.load_eq hstore htext
    cases hlookup : machine.ledger.lookup key with
    | none =>
      rw [hlookup] at hload
      simp only [Machine.serve, htext, hlookup, hload]
      exact h.refuse rfl rfl
    | some blob =>
      rw [hlookup] at hload
      simp only [Machine.serve, htext, hlookup, hload]
      exact hact key blob hlookup

/-- **A request does what the machine does.** -/
theorem serve (h : machine.Agrees kind (count + 1) table supply)
    (hstore : catalog.store = ⟨.text kind⟩) (command : Command) (hfits : command.Fits) :
    AgreesWith (machine.serve catalog.locator command) kind count
      (catalog.serve command.request table supply) := by
  cases command with
  | create size storeKey recordKey =>
    obtain ⟨hsize, hstoreKey, hrecordKey⟩ := hfits
    exact h.create hstore hsize hstoreKey hrecordKey
  | manage action text =>
    apply h.weaken.manage hstore text
    intro key blob hlookup
    cases action with
    | inspect => exact h.weaken.inspect hlookup
    | move chosen => exact h.move hstore hlookup chosen
    | purge => exact h.weaken.purge hstore key blob

end Agrees

end Machine

/-! ## Command lines one after another -/

/-- Words are read as the request of a command. -/
def Command.IsRead (words : List Text) (command : Command) : Prop :=
  Request.ofWords words = .ok command.request ∧ command.Fits

/-- Where command lines are entered: a workspace, with the times and identifiers to come. -/
structure Terminal where
  workspace : Workspace
  supply : Supply

namespace Terminal

/-- The reply to a command line, and the terminal after it. -/
def enter (terminal : Terminal) (environment : Environment) (words : List Text) :
    Reply × Terminal :=
  let (reply, workspace, supply) := terminal.workspace.answer environment words terminal.supply
  (reply, ⟨workspace, supply⟩)

/-- The terminal after some command lines. -/
def after (terminal : Terminal) (environment : Environment) (lines : List (List Text)) :
    Terminal :=
  lines.foldl (fun terminal words => (terminal.enter environment words).2) terminal

/-- The place of the objects under the settings. -/
def locator (terminal : Terminal) (settings : Settings) : Locator :=
  ⟨settings.objectPath terminal.workspace.directory⟩

theorem locator_eq {terminal other : Terminal}
    (h : other.workspace.directory = terminal.workspace.directory) (settings : Settings) :
    other.locator settings = terminal.locator settings := by
  rw [locator, locator, h]

theorem store_catalog {settings : Settings} (hkind : settings.entityKind.IsString)
    (directory : Path) :
    (settings.catalog directory).store = ⟨.text settings.entityKind.string⟩ :=
  congrArg (fun kind => Store.mk (.text kind)) (Text.isString_iff.1 hkind)

/-- The table of the settings holds the records of a machine. -/
def Shows (terminal : Terminal) (settings : Settings) (machine : Machine) : Prop :=
  ∃ table, terminal.workspace.tables.lookup
      (settings.tablePath terminal.workspace.directory) = some table ∧
    table.Holds settings.entityKind.string machine.ledger

/-- The next command line finds the settings and a table that agrees with a machine. -/
structure Runs (terminal : Terminal) (environment : Environment) (settings : Settings)
    (machine : Machine) (count : Nat) : Prop where
  settings_eq : Settings.ofSources [] environment
    (terminal.workspace.fileBindings environment) = .ok settings
  kind : settings.entityKind.IsString
  agrees : ∃ table made, terminal.workspace.prepare settings = (.ok table, made) ∧
    machine.Agrees settings.entityKind.string count table terminal.supply

variable {terminal : Terminal} {environment : Environment} {settings : Settings}
  {machine : Machine} {count left : Nat} {words : List Text} {command : Command}

/-- A command line whose request does what a machine does gives the answer of the machine, and the
next one finds the table as this one has left it. -/
theorem Runs.enter_of_serve (h : terminal.Runs environment settings machine count)
    {request : Request} (hread : Request.ofWords words = .ok request)
    {result : Answer × Machine}
    (hserve : ∀ table, machine.Agrees settings.entityKind.string count table terminal.supply →
      Machine.AgreesWith result settings.entityKind.string left
        ((settings.catalog terminal.workspace.directory).serve request table terminal.supply)) :
    (terminal.enter environment words).1.Gives result.1 ∧
      (terminal.enter environment words).2.Runs environment settings result.2 left ∧
      (terminal.enter environment words).2.Shows settings result.2 ∧
      (terminal.enter environment words).2.workspace.directory =
        terminal.workspace.directory := by
  obtain ⟨table, made, hprepare, hagrees⟩ := h.agrees
  obtain ⟨hprepared, hdirectory, hfile, -⟩ := Workspace.isPrepared_of_prepare hprepare
  obtain ⟨hgives, hnext⟩ := hserve table hagrees
  rw [← hdirectory] at hgives hnext
  have henter : terminal.enter environment words =
      ((Reply.ofService request ((settings.catalog made.directory).serve request table
          terminal.supply)).filtered settings.logLevel,
        ⟨made.putTable (settings.tablePath made.directory)
            ((settings.catalog made.directory).serve request table terminal.supply).table,
          ((settings.catalog made.directory).serve request table terminal.supply).supply⟩) := by
    simp only [Terminal.enter, Workspace.answer, hread, h.settings_eq, Workspace.serve, hprepare]
  rw [henter]
  refine ⟨hgives.reply request settings.logLevel, ⟨?_, h.kind, ?_⟩, ?_, hdirectory⟩
  · -- The file of settings is the same, so the settings are.
    have hbindings : made.fileBindings environment =
        terminal.workspace.fileBindings environment := by
      rw [Workspace.fileBindings, Workspace.fileBindings, hfile]
    rw [← h.settings_eq, ← hbindings]
    rfl
  · exact ⟨_, _, (hprepared.putTable _).prepare_eq, hnext⟩
  · exact ⟨_, Workspace.lookup_putTable made _ _, hnext.holds⟩

/-- **A command line does what the machine does.** -/
theorem Runs.enter (h : terminal.Runs environment settings machine (count + 1))
    (hread : command.IsRead words) :
    (terminal.enter environment words).1.Gives
        (machine.serve (terminal.locator settings) command).1 ∧
      (terminal.enter environment words).2.Runs environment settings
        (machine.serve (terminal.locator settings) command).2 count ∧
      (terminal.enter environment words).2.Shows settings
        (machine.serve (terminal.locator settings) command).2 ∧
      (terminal.enter environment words).2.workspace.directory =
        terminal.workspace.directory := by
  apply h.enter_of_serve hread.1
  intro table hagrees
  exact hagrees.serve (store_catalog h.kind _) command hread.2

/-- Command lines keep the terminal in agreement with the machine, as long as the supply lasts. -/
theorem Runs.after {lines : List (List Text)} {commands : List Command}
    (hlines : List.Forall₂ (fun words command => Command.IsRead words command) lines commands)
    (h : terminal.Runs environment settings machine (lines.length + count)) :
    (terminal.after environment lines).Runs environment settings
        (machine.run (terminal.locator settings) commands) count ∧
      (terminal.after environment lines).workspace.directory = terminal.workspace.directory := by
  -- The induction is on the lines from the front, for all terminals and machines at once.
  induction hlines generalizing terminal machine with
  | nil =>
    rw [List.length_nil, Nat.zero_add] at h
    exact ⟨h, rfl⟩
  | cons hread _ ih =>
    rw [List.length_cons, Nat.add_right_comm] at h
    obtain ⟨-, hnext, -, hdirectory⟩ := h.enter hread
    obtain ⟨hlast, hsame⟩ := ih hnext
    rw [locator_eq hdirectory] at hlast
    exact ⟨hlast, hsame.trans hdirectory⟩

/-- **Command lines refine the lifecycle machine.** Let the settings be valid with a kind that is a
string, let their table be empty or be made, and let the supply hand out enough identifiers, no two
of them alike, and times with fixed offsets, which are zero or at least a second. Then after any
command lines that are read as requests, the next one has the exit code and the output of the
machine, and the table it leaves holds exactly the records of the machine. If it has made or moved a
record, showing that record right afterwards prints the same output. -/
theorem refines_machine (terminal : Terminal) (environment : Environment) (settings : Settings)
    (ids : Nat → Uuid) (times : Nat → DateTime) (lines : List (List Text))
    (commands : List Command) (words : List Text) (command : Command)
    (hsettings : Settings.ofSources [] environment
      (terminal.workspace.fileBindings environment) = .ok settings)
    (hkind : settings.entityKind.IsString)
    (hempty : (terminal.workspace.prepare settings).1 = .ok .empty)
    (hsupply : terminal.supply.Hands (lines.length + 1) ids times)
    (hlines : List.Forall₂ Command.IsRead lines commands) (hread : command.IsRead words) :
    let machine := (Machine.start ids times).run (terminal.locator settings) commands
    let served := machine.serve (terminal.locator settings) command
    let entered := (terminal.after environment lines).enter environment words
    entered.1.outcome = .ok served.1.code ∧ entered.1.output = served.1.output ∧
      entered.2.Shows settings served.2 ∧
      ∀ key text again, machine.target? command = some key → served.1.code = 0 →
        Uuid.ofText? text = some key → Request.ofWords again = .ok (.manage .inspect text) →
        (entered.2.enter environment again).1.outcome = .ok 0 ∧
          (entered.2.enter environment again).1.output = entered.1.output := by
  intro machine served entered
  have hstart : terminal.Runs environment settings (.start ids times) (lines.length + 1) := by
    refine ⟨hsettings, hkind, .empty, (terminal.workspace.prepare settings).2, ?_, ?_⟩
    · rw [← hempty]
    · refine ⟨Table.holds_empty _, hsupply, ?_⟩
      intro key blob hlookup
      exact absurd ((Finmap.lookup_empty key).symm.trans hlookup) (by simp)
  obtain ⟨hbefore, hdirectory⟩ := hstart.after hlines
  obtain ⟨⟨houtcome, houtput⟩, hnext, hshows, hsame⟩ := hbefore.enter hread
  rw [locator_eq hdirectory] at houtcome houtput hnext hshows
  refine ⟨houtcome, houtput, hshows, ?_⟩
  intro key text again htarget hcode htext hagain
  -- Showing draws nothing, so that nothing more need be left of the supply.
  obtain ⟨⟨hshown, hline⟩, -⟩ := hnext.enter_of_serve hagain fun table hagrees =>
    hagrees.manage (store_catalog hkind _) text fun key blob hlookup =>
      hagrees.inspect hlookup
  -- The directory is the one of the start, so objects are located as by the machine.
  have hplace : (settings.catalog entered.2.workspace.directory).locator =
      terminal.locator settings := locator_eq (hsame.trans hdirectory) settings
  have hagain := Machine.serve_inspect htarget hcode htext
  rw [hplace, hagain] at hshown hline
  exact ⟨hshown.trans (congrArg Except.ok hcode), hline.trans houtput.symm⟩

/-! A record is created and made ready in a directory without settings, and then it is marked for
deletion and shown. -/

/-- A terminal in a directory without a table. -/
def sampleTerminal : Terminal := ⟨.fresh ⟨.root, ["work"]⟩ none, sampleSupply⟩

/-- The settings where nothing is set. -/
def sampleSettings : Settings := ⟨"./data", Key.defaultKind, .info⟩

/-- The identifiers 1, 2, 3, …, as long as there are any. -/
def sampleIds (draw : Nat) : Uuid := (Uuid.ofNat? (draw + 1)).getD sampleKey

/-- The commands before the last one. -/
def sampleCommands : List Command :=
  [.create 4 "store" "record", .manage (.move .ready) sampleKey.text]

/-- The lines of these commands. -/
def sampleLines : List (List Text) :=
  [["create", "--size", "4", "--store=store", "--record", "record"], ["ready", sampleKey.text]]

theorem hands_sampleTerminal : sampleTerminal.supply.Hands 3 sampleIds fun _ => sampleTime where
  distinct := Supply.isDistinct_numbered _
  idAt_eq draw hdraw := by
    have hsmall : draw + 1 < Nat.pow 2 128 :=
      Nat.lt_trans (by omega : draw + 1 < 8) (by decide)
    have hid : Uuid.ofNat? (draw + 1) = some ⟨draw + 1, hsmall⟩ := dif_pos hsmall
    have hplace : sampleTerminal.supply.drawn + draw = draw := Nat.zero_add draw
    rw [hplace, sampleIds, hid]
    exact congrArg (Option.map Value.uuid) hid
  timeAt_eq _ _ := rfl
  isAware _ _ := rfl
  isFixed _ _ := rfl
  keepsOffset _ _ := by
    rintro _ ⟨⟩ -
    decide

theorem output_after_sampleLines :
    let entered :=
      (sampleTerminal.after [] sampleLines).enter [] ["mark-for-deletion", sampleKey.text]
    entered.1.outcome = .ok 0 ∧
      (entered.2.enter [] ["show", sampleKey.text]).1.output = entered.1.output := by
  intro entered
  have hfits : (Command.create 4 "store" "record").Fits :=
    ⟨by decide, Text.isString_ofString _, Text.isString_ofString _⟩
  have hlines : List.Forall₂ Command.IsRead sampleLines sampleCommands :=
    .cons ⟨by decide +kernel, hfits⟩ (.cons ⟨by decide +kernel, trivial⟩ .nil)
  have hread : (Command.manage (.move .markForDeletion) sampleKey.text).IsRead
      ["mark-for-deletion", sampleKey.text] := ⟨by decide +kernel, trivial⟩
  obtain ⟨houtcome, -, -, hshow⟩ :=
    refines_machine sampleTerminal [] sampleSettings sampleIds (fun _ => sampleTime) sampleLines
      sampleCommands _ _ (by with_unfolding_all rfl) (Text.isString_ofString _)
      (by with_unfolding_all rfl) hands_sampleTerminal hlines hread
  have hcode : (((Machine.start sampleIds fun _ => sampleTime).run
      (sampleTerminal.locator sampleSettings) sampleCommands).serve
        (sampleTerminal.locator sampleSettings)
        (.manage (.move .markForDeletion) sampleKey.text)).1.code = 0 := by
    decide +kernel
  refine ⟨houtcome.trans (congrArg Except.ok hcode), ?_⟩
  exact (hshow sampleKey sampleKey.text ["show", sampleKey.text] (Uuid.ofText?_text sampleKey) hcode
    (Uuid.ofText?_text sampleKey) (by decide +kernel)).2

/-- The words of a creation whose store is a surrogate. -/
def surrogateWords : List Text :=
  ["create", "--size", "1", "--store", sampleSurrogate, "--record", "record"]

/-- The command that these words stand for. -/
def surrogateCommand : Command := .create 1 sampleSurrogate "record"

/-- A text with a surrogate is read and can be stored by the machine, but not in a row. -/
theorem enter_surrogateWords :
    Request.ofWords surrogateWords = .ok surrogateCommand.request ∧
      (sampleTerminal.enter [] surrogateWords).1.outcome = .error .unencodable ∧
      ((Machine.start sampleIds fun _ => sampleTime).serve
        (sampleTerminal.locator sampleSettings) surrogateCommand).1.code = 0 := by
  refine ⟨by decide +kernel, ?_, rfl⟩
  with_unfolding_all rfl

end Terminal

end BlobCatalog
