import BlobCatalog.Table

/-!
# Looking up rows after a change

A table is a list of rows in which no two rows share kind and name (`Table.IsKeyed`), as its primary
key has it. The three changes of a table are described here by the rows that look-ups find
afterwards: an added row is found under its own kind and name and every other look-up is as before
(`find?_insert?`), an update changes the row it expects and no other (`find?_update?`,
`exists_split_of_update?`), and a removed row is no longer found (`find?_erase`). All three keep the
table keyed.
-/

namespace BlobCatalog

namespace Cell

@[simp] theorem asText_asText (cell : Cell) : cell.asText.asText = cell.asText := by
  cases cell <;> rfl

@[simp] theorem asText_text (content : String) : (text content).asText = .text content :=
  rfl

@[simp] theorem asInteger_integer (value : Int) :
    (integer value).asInteger = .integer value := rfl

@[simp] theorem asText_ofString? (content : Option String) :
    (ofString? content).asText = ofString? content := by
  cases content <;> rfl

/-- What a text is bound to is a text. -/
theorem asText_of_ofText {given : Text} {cell : Cell} (h : ofText given = .ok cell) :
    cell.asText = cell := by
  unfold ofText at h
  split at h
  · rw [← Except.ok.inj h, asText_text]
  · cases h

theorem asText_of_ofText? {given : Option Text} {cell : Cell} (h : ofText? given = .ok cell) :
    cell.asText = cell := by
  cases given with
  | none =>
    rw [← Except.ok.inj h]
    rfl
  | some content => exact asText_of_ofText h

end Cell

namespace Row

/-- Two rows have the same kind and name. -/
def SamePlace (left right : Row) : Prop := left.kind = right.kind ∧ left.name = right.name

theorem SamePlace.symm {left right : Row} (h : left.SamePlace right) : right.SamePlace left :=
  ⟨h.1.symm, h.2.symm⟩

theorem isAt_iff {row : Row} {kind name : Cell} :
    row.isAt kind name = true ↔
      (kind ≠ .null ∧ name ≠ .null) ∧ row.kind = kind ∧ row.name = name := by
  simp [isAt, and_assoc]

/-- Rows at one place are at the same place. -/
theorem SamePlace.of_isAt {left right : Row} {kind name : Cell}
    (hleft : left.isAt kind name = true) (hright : right.isAt kind name = true) :
    left.SamePlace right := by
  obtain ⟨-, hkind, hname⟩ := isAt_iff.1 hleft
  obtain ⟨-, hkind', hname'⟩ := isAt_iff.1 hright
  exact ⟨hkind.trans hkind'.symm, hname.trans hname'.symm⟩

end Row

namespace Table

variable {table changed : Table} {row : Row} {kind name signature : Cell} {change : Change}

/-! ## Tables with a key -/

/-- No two rows share kind and name. -/
def IsKeyed (table : Table) : Prop :=
  table.rows.Pairwise fun left right => ¬left.SamePlace right

theorem isKeyed_empty : empty.IsKeyed := List.Pairwise.nil

/-- A row of a keyed table with the rows before and after it, none of which is at its place. -/
theorem IsKeyed.exists_split (hkeyed : table.IsKeyed) (hmem : row ∈ table.rows) :
    ∃ before after, table.rows = before ++ row :: after ∧
      ∀ other ∈ before ++ after, ¬row.SamePlace other := by
  obtain ⟨before, after, hrows⟩ := List.append_of_mem hmem
  refine ⟨before, after, hrows, ?_⟩
  rw [IsKeyed, hrows, List.pairwise_append, List.pairwise_cons] at hkeyed
  obtain ⟨-, ⟨hafter, -⟩, hbefore⟩ := hkeyed
  intro other hother
  rcases List.mem_append.1 hother with hother | hother
  · exact fun hsame => hbefore other hother row List.mem_cons_self hsame.symm
  · exact hafter other hother

/-! ## Look-ups -/

/-- A look-up finds a row at the place asked for. -/
theorem isAt_of_find? (h : table.find? kind name = some row) :
    row.isAt kind.asText name.asText = true := by
  simpa using List.find?_some h

theorem mem_of_find? (h : table.find? kind name = some row) : row ∈ table.rows :=
  List.mem_of_find?_eq_some h

theorem find?_eq_none_iff : table.find? kind name = none ↔
    ∀ row ∈ table.rows, row.isAt kind.asText name.asText = false := by
  simp [find?]

/-- In a keyed table a row is the one found at its place. -/
theorem IsKeyed.find?_of_mem (hkeyed : table.IsKeyed) (hmem : row ∈ table.rows)
    (hat : row.isAt kind.asText name.asText = true) : table.find? kind name = some row := by
  obtain ⟨before, after, hrows, hothers⟩ := hkeyed.exists_split hmem
  -- A row before it at the same place would be a second row with its kind and name.
  have hbefore : before.find? (fun other => other.isAt kind.asText name.asText) = none := by
    refine List.find?_eq_none.2 fun other hother hotherAt => ?_
    exact hothers other (List.mem_append_left _ hother) (Row.SamePlace.of_isAt hat hotherAt)
  rw [find?, hrows, List.find?_append, hbefore]
  simp [hat]

/-! ## Adding a row -/

/-- A complete row is added exactly when no row is found at its place. -/
theorem insert?_eq (hstored : row.stored = row) (hcomplete : row.isComplete = true) :
    table.insert? row =
      if table.find? row.kind row.name = none then some ⟨table.rows ++ [row]⟩ else none := by
  have hkind : row.kind.asText = row.kind := congrArg Row.kind hstored
  have hname : row.name.asText = row.name := congrArg Row.name hstored
  have hfree : (table.rows.all fun other => !other.isAt row.kind row.name) = true ↔
      table.find? row.kind row.name = none := by
    rw [find?_eq_none_iff, hkind, hname]
    simp
  simp only [insert?, hstored, hcomplete, Bool.true_and]
  by_cases hfound : table.find? row.kind row.name = none
  · rw [if_pos hfound, if_pos (hfree.2 hfound)]
  · rw [if_neg hfound, if_neg (mt hfree.1 hfound)]

/-- After a row is added, a look-up at its place finds it and the others are as before. -/
theorem find?_insert? (hstored : row.stored = row) (hcomplete : row.isComplete = true)
    (h : table.insert? row = some changed) :
    changed.find? kind name =
      if row.isAt kind.asText name.asText then some row else table.find? kind name := by
  rw [insert?_eq hstored hcomplete] at h
  split at h
  · next hfree =>
    obtain rfl := Option.some.inj h
    rw [find?, List.find?_append]
    by_cases hat : row.isAt kind.asText name.asText = true
    · obtain ⟨-, hkind, hname⟩ := Row.isAt_iff.1 hat
      have hnone : table.rows.find? (fun other => other.isAt kind.asText name.asText) = none := by
        rw [find?, hkind, hname, Cell.asText_asText, Cell.asText_asText] at hfree
        exact hfree
      simp [hat, hnone]
    · simp [hat, find?]
  · exact absurd h (by simp)

theorem IsKeyed.insert? (hkeyed : table.IsKeyed) (h : table.insert? row = some changed) :
    changed.IsKeyed := by
  simp only [Table.insert?] at h
  split at h
  · next hfree =>
    obtain rfl := Option.some.inj h
    obtain ⟨hcomplete, hfree⟩ := Bool.and_eq_true_iff.1 hfree
    refine List.pairwise_append.2 ⟨hkeyed, List.pairwise_singleton _ _, ?_⟩
    intro other hother added hadded hsame
    obtain rfl := List.mem_singleton.1 hadded
    have hat := List.all_eq_true.1 hfree other hother
    have hnull : row.stored.kind ≠ .null ∧ row.stored.name ≠ .null := by
      simp [Row.isComplete] at hcomplete
      exact ⟨hcomplete.1, hcomplete.2.1⟩
    rw [Row.isAt_iff.2 ⟨hnull, hsame⟩] at hat
    exact absurd hat (by decide)
  · exact absurd h (by simp)

/-! ## Changing a row -/

@[simp] theorem Change.isAt_apply (change : Change) (row : Row) (kind name : Cell) :
    (change.apply row).isAt kind name = row.isAt kind name := rfl

theorem update?_eq_none_iff : table.update? kind name signature change = none ↔
    ∀ row ∈ table.rows, isExpected kind name signature row = false := by
  simp [update?]

theorem rows_of_update? (h : table.update? kind name signature change = some changed) :
    changed.rows = table.rows.map fun row =>
      if isExpected kind name signature row then change.apply row else row := by
  unfold update? at h
  split at h
  · obtain rfl := Option.some.inj h
    rfl
  · exact absurd h (by simp)

/-- After an update a look-up finds the row it found before, changed if the update expected it. -/
theorem find?_update? (h : table.update? kind name signature change = some changed)
    (otherKind otherName : Cell) :
    changed.find? otherKind otherName = (table.find? otherKind otherName).map fun row =>
      if isExpected kind name signature row then change.apply row else row := by
  rw [find?, rows_of_update? h, List.find?_map]
  -- A change keeps kind and name, so rows are found where they were found before.
  have hplace : ((fun row : Row => row.isAt otherKind.asText otherName.asText) ∘ fun row =>
      if isExpected kind name signature row then change.apply row else row) =
        fun row => row.isAt otherKind.asText otherName.asText := by
    funext row
    simp only [Function.comp]
    split
    · exact Change.isAt_apply change row _ _
    · rfl
  rw [hplace]
  rfl

theorem IsKeyed.update? (hkeyed : table.IsKeyed)
    (h : table.update? kind name signature change = some changed) : changed.IsKeyed := by
  rw [IsKeyed, rows_of_update? h, List.pairwise_map]
  refine List.Pairwise.imp ?_ hkeyed
  intro left right hne
  split <;> split <;> exact hne

/-- **A successful update changes exactly one row of a keyed table**, the one it expects. -/
theorem IsKeyed.exists_split_of_update? (hkeyed : table.IsKeyed)
    (h : table.update? kind name signature change = some changed) :
    ∃ before row after, table.rows = before ++ row :: after ∧
      isExpected kind name signature row = true ∧
      changed.rows = before ++ change.apply row :: after := by
  have hsome : table.update? kind name signature change ≠ none := by simp [h]
  obtain ⟨row, hmem, hexpected⟩ :
      ∃ row ∈ table.rows, isExpected kind name signature row = true := by
    simpa [update?_eq_none_iff] using hsome
  obtain ⟨before, after, hrows, hothers⟩ := hkeyed.exists_split hmem
  refine ⟨before, row, after, hrows, hexpected, ?_⟩
  -- The other rows are at other places, so the update does not expect them.
  have hsame : ∀ other ∈ before ++ after, (if isExpected kind name signature other then
      change.apply other else other) = other := by
    intro other hother
    refine if_neg fun hotherExpected => hothers other hother ?_
    rw [isExpected, Bool.and_eq_true_iff] at hexpected hotherExpected
    exact Row.SamePlace.of_isAt hexpected.1 hotherExpected.1
  rw [rows_of_update? h, hrows, List.map_append, List.map_cons, if_pos hexpected,
    List.map_congr_left fun other hother => hsame other (List.mem_append_left _ hother),
    List.map_congr_left fun other hother => hsame other (List.mem_append_right _ hother)]
  simp

/-- In a keyed table an update succeeds exactly when the row at the place carries the expected
signature. -/
theorem IsKeyed.update?_isSome_iff (hkeyed : table.IsKeyed) :
    (table.update? kind name signature change).isSome = true ↔
      ∃ row, table.find? kind name = some row ∧ row.signature = signature.asText := by
  constructor
  · intro hsome
    obtain ⟨row, hmem, hexpected⟩ : ∃ row ∈ table.rows,
        isExpected kind name signature row = true := by
      simpa [Table.update?] using hsome
    rw [isExpected, Bool.and_eq_true_iff, beq_iff_eq] at hexpected
    exact ⟨row, hkeyed.find?_of_mem hmem hexpected.1, hexpected.2⟩
  · rintro ⟨row, hfound, hsignature⟩
    have hexpected : isExpected kind name signature row = true := by
      simp [isExpected, isAt_of_find? hfound, hsignature]
    have hany : table.rows.any (isExpected kind name signature) = true :=
      List.any_eq_true.2 ⟨row, mem_of_find? hfound, hexpected⟩
    simp [Table.update?, hany]

/-! ## Removing a row -/

/-- After a removal a look-up finds what it found before, unless the removed place is asked for. -/
theorem find?_erase (otherKind otherName : Cell) :
    (table.erase kind name).find? otherKind otherName =
      if (kind.asText = otherKind.asText ∧ name.asText = otherName.asText)
      then none else table.find? otherKind otherName := by
  rw [find?, erase, List.find?_filter]
  split
  · next hsame =>
    obtain ⟨hkind, hname⟩ := hsame
    simp [hkind, hname]
  · next hne =>
    refine congrArg (table.rows.find? ·) (funext fun row => ?_)
    by_cases hother : row.isAt otherKind.asText otherName.asText = true
    · have hnot : row.isAt kind.asText name.asText = false := by
        refine Bool.eq_false_iff.2 fun hat => hne ?_
        obtain ⟨-, hkind, hname⟩ := Row.isAt_iff.1 hat
        obtain ⟨-, hkind', hname'⟩ := Row.isAt_iff.1 hother
        exact ⟨hkind.symm.trans hkind', hname.symm.trans hname'⟩
      simp [hother, hnot]
    · simp [hother]

theorem IsKeyed.erase (hkeyed : table.IsKeyed) : (table.erase kind name).IsKeyed :=
  List.Pairwise.sublist List.filter_sublist hkeyed

end Table

end BlobCatalog
