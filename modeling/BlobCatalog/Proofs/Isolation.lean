import BlobCatalog.Proofs.StoreCalls

/-!
# Isolation of places

Records of different kinds, and records of one kind under different keys, do not see each other.
Two calls of stores at different places can be made in either order: they give back the same and
leave the same rows (`Place.call_comm`). In a run of many operations on many records, each of which
is used with the stores of one kind, what happens at one place is what would happen there if the
operations elsewhere were left out (`Registry.run_sameAt`). `Registry.isolation` is the whole.
-/

namespace BlobCatalog

/-! ## Two calls -/

namespace Table

variable {table : Table} {row : Row} {place : Place}

/-- No row of a keyed table is there twice. -/
theorem IsKeyed.nodup (hkeyed : table.IsKeyed) : table.rows.Nodup := by
  refine List.Pairwise.imp ?_ hkeyed
  rintro left _ hne rfl
  exact hne ⟨rfl, rfl⟩

/-- The row at a place of a keyed table is the one that a look-up finds. -/
theorem IsKeyed.rowAt_eq_some_iff (hkeyed : table.IsKeyed) :
    table.rowAt place = some row ↔ row ∈ table.rows ∧ row.IsOf place := by
  constructor
  · exact fun hrow => mem_of_rowOf hrow
  · rintro ⟨hmem, hplace⟩
    exact hkeyed.find?_of_mem hmem (Row.isAt_iff_isOf.2 hplace)

end Table

/-- A row is at one place only, since the texts of different identifiers differ. -/
theorem Row.IsOf.eq {row : Row} {left right : Place} (hleft : row.IsOf left)
    (hright : row.IsOf right) : left = right := by
  obtain ⟨kind, key⟩ := left
  obtain ⟨otherKind, other⟩ := right
  have hkind := hleft.1.symm.trans hright.1
  have hname := hleft.2.symm.trans hright.2
  simp only [Cell.text.injEq, Uuid.text_inj] at hkind hname
  rw [hkind, hname]

namespace Place

variable {first second : Place} {call other : Call} {table : Table}

/-- A call gives back the same after a call at another place. -/
theorem result_call_call (hne : first ≠ second) (hcall : call.IsAbout first.key)
    (hother : other.IsAbout second.key) (hkeyed : table.IsKeyed) :
    (second.call other (first.call call table).2).1 = (second.call other table).1 ∧
      (second.call other (first.call call table).2).2.rowAt second =
        (second.call other table).2.rowAt second :=
  call_congr hother (isKeyed_call hcall hkeyed) hkeyed (rowAt_call_of_ne hcall hne)

/-- The rows after two calls at different places are those after the calls in the other order. -/
theorem mem_call_call (hne : first ≠ second) (hcall : call.IsAbout first.key)
    (hother : other.IsAbout second.key) (hkeyed : table.IsKeyed) {row : Row}
    (hmem : row ∈ (second.call other (first.call call table).2).2.rows) :
    row ∈ (first.call call (second.call other table).2).2.rows := by
  have hfirst := isKeyed_call hcall hkeyed
  have hsecond := isKeyed_call hother hkeyed
  by_cases hat : row.IsOf second
  · -- The row is at the second place, where the first call changes nothing.
    have hrow := (isKeyed_call hother hfirst).rowAt_eq_some_iff.2 ⟨hmem, hat⟩
    rw [(result_call_call hne hcall hother hkeyed).2, hsecond.rowAt_eq_some_iff] at hrow
    have helsewhere : ¬row.IsOf first := fun hat' => hne (Row.IsOf.eq hat' hat)
    exact (mem_call_iff hcall helsewhere).2 hrow.1
  · rw [mem_call_iff hother hat] at hmem
    by_cases hat' : row.IsOf first
    · have hrow := hfirst.rowAt_eq_some_iff.2 ⟨hmem, hat'⟩
      rw [← (result_call_call hne.symm hother hcall hkeyed).2,
        (isKeyed_call hcall hsecond).rowAt_eq_some_iff] at hrow
      exact hrow.1
    · rw [mem_call_iff hcall hat'] at hmem
      exact (mem_call_iff hcall hat').2 ((mem_call_iff hother hat).2 hmem)

/-- **Calls at different places commute.** In either order both give back the same, and the rows
afterwards are the same. Only the order in which the rows were added may differ, and no call of a
keyed table sees that. -/
theorem call_comm (hne : first ≠ second) (hcall : call.IsAbout first.key)
    (hother : other.IsAbout second.key) (hkeyed : table.IsKeyed) :
    (first.call call (second.call other table).2).1 = (first.call call table).1 ∧
      (second.call other (first.call call table).2).1 = (second.call other table).1 ∧
      (second.call other (first.call call table).2).2.rows.Perm
        (first.call call (second.call other table).2).2.rows := by
  refine ⟨(result_call_call hne.symm hother hcall hkeyed).1,
    (result_call_call hne hcall hother hkeyed).1, ?_⟩
  have hleft := (isKeyed_call hother (isKeyed_call hcall hkeyed)).nodup
  have hright := (isKeyed_call hcall (isKeyed_call hother hkeyed)).nodup
  refine (List.perm_ext_iff_of_nodup hleft hright).2 fun row => ⟨?_, ?_⟩
  · exact mem_call_call hne hcall hother hkeyed
  · exact mem_call_call hne.symm hother hcall hkeyed

end Place

/-! ## Runs of operations -/

/-- A change that the caller makes to a record by hand. The key of a record is fixed. -/
structure Revision where
  apply : Record → Record
  key_apply : ∀ record, (apply record).key = record.key

/-- What is done at a place with a numbered record object. -/
inductive Task where
  | insert (object : Nat)
  | fetch (object : Nat)
  | update (object : Nat) (supply : Supply)
  | delete
  | revise (object : Nat) (revision : Revision)

/-- A task with the place it is done at. -/
structure Operation where
  place : Place
  task : Task

/-- The table and the record objects, by their numbers. -/
structure Registry where
  table : Table
  held : Nat → Option Record

namespace Task

/-- The record object of a task. -/
def object? : Task → Option Nat
  | insert object => some object
  | fetch object => some object
  | update object _ => some object
  | delete => none
  | revise object _ => some object

/-- The call that a task makes with the record object it finds. -/
def call? (task : Task) (key : Uuid) (held : Option Record) : Option Call :=
  match task with
  | insert _ => held.map .insert
  | fetch _ => some (.fetch key)
  | update _ supply => held.map fun record => .update record supply
  | delete => some (.delete key)
  | revise _ _ => none

/-- The record object after a task. What is fetched becomes the object, and an update may sign
it. -/
def after (task : Task) (result : Option Call.Result) (held : Option Record) : Option Record :=
  match task with
  | insert _ => held
  | fetch _ =>
    match result.map Call.Result.outcome with
    | some (.ok found) => found
    | _ => held
  | update _ _ => result.bind Call.Result.record
  | delete => held
  | revise _ revision => held.map revision.apply

end Task

namespace Operation

/-- The record object that an operation finds. -/
def found (operation : Operation) (registry : Registry) : Option Record :=
  operation.task.object?.bind registry.held

/-- The operation is done where its record object belongs. A record has one key, so that its object
belongs to one place if it is used with the stores of one kind only. -/
def IsOwn (home : Nat → Place) (operation : Operation) : Prop :=
  ∀ object ∈ operation.task.object?, home object = operation.place

instance (home : Nat → Place) (operation : Operation) : Decidable (operation.IsOwn home) :=
  inferInstanceAs (Decidable (∀ object ∈ operation.task.object?, home object = operation.place))

end Operation

namespace Registry

/-- One operation: what its call gives back, if it makes one, and the table and objects after it. -/
def step (registry : Registry) (operation : Operation) : Option Call.Result × Registry :=
  let found := operation.found registry
  let done := (operation.task.call? operation.place.key found).map fun call =>
    operation.place.call call registry.table
  let result := done.map (·.1)
  let held := fun object =>
    if operation.task.object? = some object then operation.task.after result found
    else registry.held object
  (result, ⟨(done.map (·.2)).getD registry.table, held⟩)

/-- A run of operations: what each gives back, with its place, and the table and objects after
all. -/
def run (registry : Registry) : List Operation → List (Place × Option Call.Result) × Registry
  | [] => ([], registry)
  | operation :: rest =>
    let (result, after) := registry.step operation
    let (results, last) := after.run rest
    ((operation.place, result) :: results, last)

/-- The table is keyed, and every record object has the key of the place it belongs to. -/
structure IsSound (home : Nat → Place) (registry : Registry) : Prop where
  isKeyed : registry.table.IsKeyed
  key_eq : ∀ object record, registry.held object = some record →
    record.key = .uuid (home object).key

/-- Two registries look the same at a place. -/
structure SameAt (home : Nat → Place) (place : Place) (left right : Registry) : Prop where
  rowAt_eq : left.table.rowAt place = right.table.rowAt place
  held_eq : ∀ object, home object = place → left.held object = right.held object

variable {home : Nat → Place} {place : Place} {registry left right : Registry}
  {operation : Operation}

/-- A record object that an operation finds has the key of its place. -/
theorem key_found (hown : operation.IsOwn home) (hsound : registry.IsSound home) {record : Record}
    (h : operation.found registry = some record) : record.key = .uuid operation.place.key := by
  obtain ⟨object, hobject, hheld⟩ := Option.bind_eq_some_iff.1 h
  rw [hsound.key_eq object record hheld, hown object hobject]

/-- The call of an operation is about the key of its place. -/
theorem isAbout_call (hown : operation.IsOwn home) (hsound : registry.IsSound home) {call : Call}
    (h : operation.task.call? operation.place.key (operation.found registry) = some call) :
    call.IsAbout operation.place.key := by
  cases htask : operation.task with
  | insert object =>
    rw [htask] at h
    obtain ⟨record, hfound, rfl⟩ := Option.map_eq_some_iff.1 h
    exact key_found hown hsound hfound
  | fetch object =>
    rw [htask] at h
    obtain rfl := Option.some.inj h
    rfl
  | update object supply =>
    rw [htask] at h
    obtain ⟨record, hfound, rfl⟩ := Option.map_eq_some_iff.1 h
    exact key_found hown hsound hfound
  | delete =>
    rw [htask] at h
    obtain rfl := Option.some.inj h
    rfl
  | revise object revision =>
    rw [htask] at h
    exact absurd h (by simp [Task.call?])

/-- An operation leaves the table keyed and its row to its place. -/
theorem table_step (hown : operation.IsOwn home) (hsound : registry.IsSound home) :
    (registry.step operation).2.table.IsKeyed ∧ ∀ place, operation.place ≠ place →
      (registry.step operation).2.table.rowAt place = registry.table.rowAt place := by
  cases hcall : operation.task.call? operation.place.key (operation.found registry) with
  | none =>
    simp only [step, hcall]
    exact ⟨hsound.isKeyed, fun _ _ => rfl⟩
  | some call =>
    have habout := isAbout_call hown hsound hcall
    simp only [step, hcall]
    exact ⟨Place.isKeyed_call habout hsound.isKeyed, fun _ hne => Place.rowAt_call_of_ne habout hne⟩

/-- The record object of a task keeps the key of its place. -/
theorem key_after (hown : operation.IsOwn home) (hsound : registry.IsSound home)
    {record : Record}
    (h : operation.task.after (registry.step operation).1 (operation.found registry) =
      some record) : record.key = .uuid operation.place.key := by
  have hkept : operation.found registry = some record → record.key = .uuid operation.place.key :=
    key_found hown hsound
  -- Only a look-up and an update give a record that was not held before.
  cases htask : operation.task with
  | insert object =>
    rw [htask] at h
    exact hkept h
  | fetch object =>
    have hresult : (registry.step operation).1 =
        some (operation.place.call (.fetch operation.place.key) registry.table).1 := by
      simp only [step, htask, Task.call?, Option.map_some]
    rw [htask, hresult] at h
    cases houtcome : (operation.place.call (.fetch operation.place.key)
        registry.table).1.outcome with
    | error fault =>
      simp only [Task.after, Option.map_some, houtcome] at h
      exact hkept h
    | ok found =>
      simp only [Task.after, Option.map_some, houtcome] at h
      rw [h] at houtcome
      exact Place.key_of_call_fetch houtcome
  | update object supply =>
    cases hfound : operation.found registry with
    | none =>
      simp [step, htask, hfound, Task.call?, Task.after] at h
    | some held =>
      simp only [step, htask, hfound, Task.call?, Task.after, Option.map_some,
        Option.bind_some] at h
      rw [Place.key_of_call_update h]
      exact key_found hown hsound hfound
  | delete =>
    rw [htask] at h
    exact hkept h
  | revise object revision =>
    rw [htask] at h
    obtain ⟨held, hfound, rfl⟩ := Option.map_eq_some_iff.1 h
    rw [revision.key_apply]
    exact key_found hown hsound hfound

theorem IsSound.step (hsound : registry.IsSound home) (hown : operation.IsOwn home) :
    (registry.step operation).2.IsSound home := by
  refine ⟨(table_step hown hsound).1, fun object record hheld => ?_⟩
  simp only [Registry.step] at hheld
  split at hheld
  · next hobject =>
    rw [hown object hobject]
    exact key_after hown hsound hheld
  · exact hsound.key_eq object record hheld

/-- An operation elsewhere does not show at a place. -/
theorem step_sameAt_of_ne (hsound : registry.IsSound home) (hown : operation.IsOwn home)
    (hne : operation.place ≠ place) : SameAt home place (registry.step operation).2 registry := by
  refine ⟨(table_step hown hsound).2 place hne, fun object hobject => ?_⟩
  simp only [Registry.step]
  split
  · next hown' => exact absurd ((hown object hown').symm.trans hobject) hne
  · rfl

/-- An operation at a place does the same in registries that look the same there. -/
theorem step_congr (hleft : left.IsSound home) (hright : right.IsSound home)
    (hown : operation.IsOwn home) (h : SameAt home operation.place left right) :
    (left.step operation).1 = (right.step operation).1 ∧
      SameAt home operation.place (left.step operation).2 (right.step operation).2 := by
  have hfound : operation.found left = operation.found right := by
    cases hobject : operation.task.object? with
    | none => simp only [Operation.found, hobject, Option.bind_none]
    | some object =>
      simp only [Operation.found, hobject, Option.bind_some]
      exact h.held_eq object (hown object hobject)
  -- The call is the same, so is what it gives back, and so is what it leaves at the place.
  have hdone : (left.step operation).1 = (right.step operation).1 ∧
      (left.step operation).2.table.rowAt operation.place =
        (right.step operation).2.table.rowAt operation.place := by
    cases hcall : operation.task.call? operation.place.key (operation.found left) with
    | none =>
      simp only [step, ← hfound, hcall]
      exact ⟨rfl, h.rowAt_eq⟩
    | some call =>
      have hsame := Place.call_congr (isAbout_call hown hleft hcall) hleft.isKeyed hright.isKeyed
        h.rowAt_eq
      simp only [step, ← hfound, hcall]
      exact ⟨congrArg some hsame.1, hsame.2⟩
  refine ⟨hdone.1, hdone.2, fun object hobject => ?_⟩
  have hheld : ∀ registry : Registry, (registry.step operation).2.held object =
      if operation.task.object? = some object then
        operation.task.after (registry.step operation).1 (operation.found registry)
      else registry.held object := fun registry => rfl
  rw [hheld, hheld, hdone.1, hfound, h.held_eq object hobject]

/-! ## The run at one place -/

/-- **Operations elsewhere can be left out of a run.** Registries that look the same at a place do
so after a run of one and a run of the other with the operations at that place alone, and those
operations give back the same. -/
theorem run_sameAt (hleft : left.IsSound home) (hright : right.IsSound home)
    {operations : List Operation} (hown : ∀ operation ∈ operations, operation.IsOwn home)
    (h : SameAt home place left right) :
    (left.run operations).1.filter (·.1 = place) =
        (right.run (operations.filter (·.place = place))).1 ∧
      SameAt home place (left.run operations).2
        (right.run (operations.filter (·.place = place))).2 := by
  induction operations generalizing left right with
  | nil => exact ⟨rfl, h⟩
  | cons operation rest ih =>
    have hfirst := hown operation List.mem_cons_self
    have hrest : ∀ later ∈ rest, later.IsOwn home := fun later hlater =>
      hown later (List.mem_cons_of_mem _ hlater)
    by_cases hplace : operation.place = place
    · -- Both runs do the operation, and look the same at its place afterwards.
      subst hplace
      obtain ⟨hresult, hafter⟩ := step_congr hleft hright hfirst h
      obtain ⟨hresults, hlast⟩ := ih (hleft.step hfirst) (hright.step hfirst) hrest hafter
      simp only [run, List.filter_cons_of_pos, decide_true, hresult, hresults, true_and]
      exact hlast
    · -- Only the whole run does the operation, which does not show at the place.
      have helsewhere := step_sameAt_of_ne hleft hfirst hplace
      have hafter : SameAt home place (left.step operation).2 right :=
        ⟨helsewhere.rowAt_eq.trans h.rowAt_eq, fun object hobject =>
          (helsewhere.held_eq object hobject).trans (h.held_eq object hobject)⟩
      obtain ⟨hresults, hlast⟩ := ih (hleft.step hfirst) hright hrest hafter
      simp only [run]
      rw [List.filter_cons_of_neg (by simpa using hplace),
        List.filter_cons_of_neg (by simpa using hplace)]
      exact ⟨hresults, hlast⟩

end Registry

/-! ## Isolation -/

/-- **Places are isolated.** A call leaves every row but the one at its place as it is, and what it
gives back and leaves there depends on its own row and its record only. Two calls at different
places give back the same in either order and leave the same rows. In a run in which every record
object is used at one place, what happens at a place is what happens there if the operations at all
other places are left out. -/
theorem isolation {first second : Place} (hne : first ≠ second) {call other : Call}
    (hcall : call.IsAbout first.key) (hother : other.IsAbout second.key) {table : Table}
    (hkeyed : table.IsKeyed) {home : Nat → Place} {registry : Registry}
    (hsound : registry.IsSound home) {operations : List Operation}
    (hown : ∀ operation ∈ operations, operation.IsOwn home) :
    ((first.call call table).2.without first = table.without first ∧
      ∀ elsewhere : Table, elsewhere.IsKeyed → elsewhere.rowAt first = table.rowAt first →
        (first.call call elsewhere).1 = (first.call call table).1 ∧
          (first.call call elsewhere).2.rowAt first = (first.call call table).2.rowAt first) ∧
    ((first.call call (second.call other table).2).1 = (first.call call table).1 ∧
      (second.call other (first.call call table).2).1 = (second.call other table).1 ∧
      (second.call other (first.call call table).2).2.rows.Perm
        (first.call call (second.call other table).2).2.rows) ∧
    ∀ place,
      (registry.run operations).1.filter (·.1 = place) =
          (registry.run (operations.filter (·.place = place))).1 ∧
        Registry.SameAt home place (registry.run operations).2
          (registry.run (operations.filter (·.place = place))).2 := by
  refine ⟨⟨Place.without_call hcall table, fun elsewhere hkeyed' hrow => ?_⟩,
    Place.call_comm hne hcall hother hkeyed, fun place => ?_⟩
  · exact Place.call_congr hcall hkeyed' hkeyed hrow
  · have hself : Registry.SameAt home place registry registry := ⟨rfl, fun _ _ => rfl⟩
    exact Registry.run_sameAt hsound hsound hown hself

/-! Two records with the same key under different kinds. -/

/-- The place of a record. -/
def samplePlace : Place := ⟨"blob", sampleKey⟩

/-- The place of a record of another kind with the same key. -/
def otherPlace : Place := ⟨"note", sampleKey⟩

/-- The first record object belongs to the first place and the others to the other place. -/
def sampleHome (object : Nat) : Place := if object = 0 then samplePlace else otherPlace

/-- An empty table and the same record held twice. -/
def sampleRegistry : Registry :=
  ⟨.empty, fun object => if object < 2 then some sampleBlob.toRecord else none⟩

/-- Both records are added, the one is updated and the other is removed. -/
def sampleOperations : List Operation :=
  [⟨samplePlace, .insert 0⟩, ⟨otherPlace, .insert 1⟩, ⟨samplePlace, .update 0 sampleSupply⟩,
    ⟨otherPlace, .delete⟩, ⟨samplePlace, .fetch 0⟩]

theorem isolation_sampleOperations :
    (sampleRegistry.run sampleOperations).1.filter (·.1 = samplePlace) =
        (sampleRegistry.run [⟨samplePlace, .insert 0⟩, ⟨samplePlace, .update 0 sampleSupply⟩,
          ⟨samplePlace, .fetch 0⟩]).1 ∧
      ((sampleRegistry.run sampleOperations).2.table.rowAt samplePlace).isSome = true := by
  have hne : samplePlace ≠ otherPlace := by decide
  have hsound : sampleRegistry.IsSound sampleHome := by
    refine ⟨Table.isKeyed_empty, fun object record hheld => ?_⟩
    simp only [sampleRegistry] at hheld
    split at hheld
    · obtain rfl := Option.some.inj hheld
      unfold sampleHome
      split <;> rfl
    · exact absurd hheld (by simp)
  have hown : ∀ operation ∈ sampleOperations, operation.IsOwn sampleHome := by
    decide
  have hcall : (Call.insert sampleBlob.toRecord).IsAbout samplePlace.key := rfl
  have hother : (Call.delete sampleKey).IsAbout otherPlace.key := rfl
  obtain ⟨-, -, hrun⟩ := isolation hne hcall hother Table.isKeyed_empty hsound hown
  obtain ⟨hresults, hlast⟩ := hrun samplePlace
  refine ⟨hresults, ?_⟩
  rw [hlast.rowAt_eq]
  decide +kernel

end BlobCatalog
