import BlobCatalog.Workspace

/-!
# Workspaces that are prepared

Preparing a workspace makes the directories of the settings and opens their table. Afterwards the
workspace is prepared (`Workspace.isPrepared_of_prepare`): preparing it again changes nothing and
opens the table that was put there last (`Workspace.IsPrepared.prepare_eq`). So command lines that
run one after another under the same settings find the table as the one before left it. A workspace
can be prepared exactly if it admits the settings (`Workspace.prepare_isOk_iff`): no file stands
where a directory is needed and no directory where the table is, and the system bars neither what is
missing nor the table.
-/

namespace BlobCatalog

namespace Workspace

variable {workspace made : Workspace} {settings : Settings} {path folder : Path} {table : Table}

/-- A table can be opened at the path: no directory stands there, and the system does not bar it. -/
def Opens (workspace : Workspace) (path : Path) : Prop :=
  workspace.isFolder path = false ∧ workspace.barsTable path = false

/-- The directories of the settings are there, and the table is at its place. -/
structure IsPrepared (workspace : Workspace) (settings : Settings) (table : Table) : Prop where
  place : settings.checkPlace = .ok ()
  dataDir : workspace.isFolder (settings.dataDir workspace.directory) = true
  objectPath : workspace.isFolder (settings.objectPath workspace.directory) = true
  tablePath : workspace.Opens (settings.tablePath workspace.directory)
  lookup_eq : workspace.tables.lookup (settings.tablePath workspace.directory) = some table

/-- Two workspaces that differ in their directories and tables only. -/
structure IsAlike (workspace other : Workspace) : Prop where
  directory_eq : other.directory = workspace.directory
  settingsFile_eq : other.settingsFile = workspace.settingsFile
  barsFolder_eq : other.barsFolder = workspace.barsFolder
  barsTable_eq : other.barsTable = workspace.barsTable

theorem IsAlike.refl (workspace : Workspace) : workspace.IsAlike workspace := ⟨rfl, rfl, rfl, rfl⟩

theorem IsAlike.trans {first second third : Workspace} (h : first.IsAlike second)
    (hnext : second.IsAlike third) : first.IsAlike third :=
  ⟨hnext.1.trans h.1, hnext.2.trans h.2, hnext.3.trans h.3, hnext.4.trans h.4⟩

/-! ## Directories -/

theorem isFolder_eq_true_iff :
    workspace.isFolder path = true ↔ path.segments = [] ∨ path ∈ workspace.folders := by
  simp [isFolder]

theorem mem_ancestors_self (h : path.segments ≠ []) : path ∈ path.ancestors := by
  have hlength : 0 < path.segments.length := List.length_pos_iff.2 h
  refine List.mem_map.2 ⟨path.segments.length - 1, List.mem_range.2 (by omega), ?_⟩
  rw [Nat.sub_add_cancel hlength, List.take_length]

/-- A directory can be made at the path itself: no file stands there, and the system does not bar
it. -/
def IsFree (workspace : Workspace) (path : Path) : Prop :=
  workspace.isFile path = false ∧ workspace.barsFolder path = false

/-- What making directories leaves alone, whether it succeeds or not, and what it adds: directories
at paths that are free. -/
structure Extends (workspace made : Workspace) (paths : List Path) : Prop where
  tables_eq : made.tables = workspace.tables
  isAlike : workspace.IsAlike made
  isFolder : ∀ folder, workspace.isFolder folder = true → made.isFolder folder = true
  cases : ∀ folder, made.isFolder folder = true →
    workspace.isFolder folder = true ∨ folder ∈ paths ∧ workspace.IsFree folder

theorem Extends.refl (workspace : Workspace) (paths : List Path) :
    workspace.Extends workspace paths :=
  ⟨rfl, .refl workspace, fun _ hold => hold, fun _ hold => .inl hold⟩

/-- Making directories makes no file. -/
theorem Extends.isFile_eq {paths : List Path} (h : workspace.Extends made paths) (path : Path) :
    made.isFile path = workspace.isFile path := by
  rw [isFile, isFile, h.tables_eq, h.isAlike.settingsFile_eq, settingsPath, settingsPath,
    h.isAlike.directory_eq]

/-- Making directories makes no path free and none taken. -/
theorem Extends.isFree_iff {paths : List Path} (h : workspace.Extends made paths) (path : Path) :
    made.IsFree path ↔ workspace.IsFree path := by
  rw [IsFree, IsFree, h.isFile_eq, h.isAlike.barsFolder_eq]

/-- One more directory at a free path. -/
theorem extends_folder (hfree : workspace.IsFree folder) :
    workspace.Extends { workspace with folders := workspace.folders ++ [folder] } [folder] := by
  refine ⟨rfl, ⟨rfl, rfl, rfl, rfl⟩, fun other hold => ?_, fun other hmade => ?_⟩
  · rw [isFolder_eq_true_iff] at hold ⊢
    exact hold.imp_right (List.mem_append_left _)
  · rw [isFolder_eq_true_iff] at hmade ⊢
    rcases hmade with hroot | hmem
    · exact .inl (.inl hroot)
    · rcases List.mem_append.1 hmem with hold | hnew
      · exact .inl (.inr hold)
      · obtain rfl := List.mem_singleton.1 hnew
        exact .inr ⟨hnew, hfree⟩

theorem Extends.trans {first second third : Workspace} {head rest : List Path}
    (h : first.Extends second head) (hnext : second.Extends third rest) :
    first.Extends third (head ++ rest) where
  tables_eq := hnext.tables_eq.trans h.tables_eq
  isAlike := h.isAlike.trans hnext.isAlike
  isFolder folder hold := hnext.isFolder folder (h.isFolder folder hold)
  cases folder hmade := by
    rcases hnext.cases folder hmade with hsecond | ⟨hmem, hfree⟩
    · rcases h.cases folder hsecond with hold | ⟨hmem, hfree⟩
      · exact .inl hold
      · exact .inr ⟨List.mem_append_left _ hmem, hfree⟩
    · exact .inr ⟨List.mem_append_right _ hmem, (h.isFree_iff folder).1 hfree⟩

/-- A path is there or free in a workspace with more directories exactly if it was before. -/
theorem Extends.isFolder_or_isFree {paths : List Path} (h : workspace.Extends made paths)
    (path : Path) :
    made.isFolder path = true ∨ made.IsFree path ↔
      workspace.isFolder path = true ∨ workspace.IsFree path := by
  rw [h.isFree_iff]
  constructor
  · rintro (hmade | hfree)
    · exact (h.cases path hmade).imp_right And.right
    · exact .inr hfree
  · exact Or.imp_left (h.isFolder path)

theorem makeFolders_extends (workspace : Workspace) (paths : List Path) :
    workspace.Extends (workspace.makeFolders paths).2 paths := by
  -- The induction is on the paths, for all workspaces at once.
  induction paths generalizing workspace with
  | nil => exact .refl workspace []
  | cons folder rest ih =>
    unfold makeFolders
    split
    · exact (Extends.refl workspace [folder]).trans (ih workspace)
    · split
      · exact .refl workspace _
      · next hfile =>
        split
        · exact .refl workspace _
        · next hbar =>
          exact (extends_folder ⟨by simpa using hfile, by simpa using hbar⟩).trans (ih _)

/-- Directories are made exactly if each of their paths is one already or free, and then they all
are there. -/
theorem makeFolders_isOk_iff (workspace : Workspace) (paths : List Path) :
    ((workspace.makeFolders paths).1 = .ok () ↔
      ∀ path ∈ paths, workspace.isFolder path = true ∨ workspace.IsFree path) ∧
    ((workspace.makeFolders paths).1 = .ok () →
      ∀ path ∈ paths, (workspace.makeFolders paths).2.isFolder path = true) := by
  -- A directory that is made may be one that a later path leads through, so the induction is on the
  -- paths for every workspace at once.
  induction paths generalizing workspace with
  | nil => simp [makeFolders]
  | cons folder rest ih =>
    unfold makeFolders
    split
    · next hfolder =>
      obtain ⟨hiff, hall⟩ := ih workspace
      refine ⟨by simp [hiff, hfolder], fun hok path hmem => ?_⟩
      rcases List.mem_cons.1 hmem with rfl | hrest
      · exact (makeFolders_extends workspace rest).isFolder _ hfolder
      · exact hall hok path hrest
    · next hfolder =>
      split
      · next hfile => simp [hfolder, hfile, IsFree]
      · next hfile =>
        split
        · next hbar => simp [hfolder, hbar, IsFree]
        · next hbar =>
          have hfree : workspace.IsFree folder := ⟨by simpa using hfile, by simpa using hbar⟩
          have hmore := extends_folder hfree
          obtain ⟨hiff, hall⟩ := ih { workspace with folders := workspace.folders ++ [folder] }
          simp only [hmore.isFolder_or_isFree] at hiff
          refine ⟨by simp [hiff, hfree], fun hok path hmem => ?_⟩
          rcases List.mem_cons.1 hmem with rfl | hrest
          · exact (makeFolders_extends _ rest).isFolder _
              (isFolder_eq_true_iff.2 (.inr (by simp)))
          · exact hall hok path hrest

theorem makeFolder_extends (workspace : Workspace) (path : Path) :
    workspace.Extends (workspace.makeFolder path).2 path.ancestors := by
  unfold makeFolder
  split
  · exact .refl workspace _
  · exact makeFolders_extends workspace _

/-- A directory that is made is there. -/
theorem isFolder_makeFolder (h : (workspace.makeFolder path).1 = .ok ()) :
    (workspace.makeFolder path).2.isFolder path = true := by
  unfold makeFolder at h ⊢
  split at h
  · next hfolder =>
    rw [if_pos hfolder]
    exact hfolder
  · next hfolder =>
    have hsegments : path.segments ≠ [] := fun hnil =>
      hfolder (isFolder_eq_true_iff.2 (.inl hnil))
    rw [if_neg hfolder]
    exact (makeFolders_isOk_iff workspace path.ancestors).2 h path (mem_ancestors_self hsegments)

/-- A directory that is there is not made again. -/
theorem makeFolder_of_isFolder (h : workspace.isFolder path = true) :
    workspace.makeFolder path = (.ok (), workspace) := by
  rw [makeFolder, if_pos h]

/-! ## Tables -/

/-- The table that was put at a path is found there. -/
theorem lookup_putTable (workspace : Workspace) (path : Path) (table : Table) :
    (workspace.putTable path table).tables.lookup path = some table := by
  -- The table that was there before is taken out, so the one at the end is found.
  have hothers : (workspace.tables.filter fun entry => entry.1 != path).lookup path = none := by
    apply List.lookup_eq_none_iff.2
    intro entry hentry
    obtain ⟨-, hne⟩ := List.mem_filter.1 hentry
    simpa only [bne_iff_ne] using Ne.symm (bne_iff_ne.1 hne)
  rw [putTable, List.lookup_append, hothers]
  simp

/-- Opening a table that is no directory: the table is at its place afterwards. -/
theorem openTable_spec (h : workspace.openTable path = .ok (table, made)) :
    workspace.Opens path ∧ made.tables.lookup path = some table ∧
      made.folders = workspace.folders ∧ workspace.IsAlike made := by
  unfold openTable at h
  split at h
  · exact absurd h (by simp)
  · next hplace =>
    have hopens : workspace.Opens path := by simpa [Opens] using hplace
    split at h
    · next found hfound =>
      obtain ⟨rfl, rfl⟩ := Prod.mk.inj (Except.ok.inj h)
      exact ⟨hopens, hfound, rfl, .refl _⟩
    · obtain ⟨rfl, rfl⟩ := Prod.mk.inj (Except.ok.inj h)
      exact ⟨hopens, lookup_putTable workspace path .empty, rfl, rfl, rfl, rfl, rfl⟩

/-- A table is opened exactly where it can be. -/
theorem openTable_isOk_iff :
    (∃ opened, workspace.openTable path = .ok opened) ↔ workspace.Opens path := by
  unfold openTable Opens
  cases workspace.isFolder path <;> cases workspace.barsTable path <;>
    cases workspace.tables.lookup path <;> simp

/-! ## Preparing -/

/-- The directories of the settings are made in two steps, if the settings name a place. -/
theorem makePlace_cases (workspace : Workspace) (settings : Settings) :
    (∃ fault, settings.checkPlace = .error fault ∧
      workspace.makePlace settings = (.error fault, workspace)) ∨
    settings.checkPlace = .ok () ∧
      let first := workspace.makeFolder (settings.dataDir workspace.directory)
      let second := first.2.makeFolder (settings.objectPath workspace.directory)
      workspace.makePlace settings =
        match first.1 with
        | .error fault => (.error fault, first.2)
        | .ok () => second := by
  unfold makePlace
  cases settings.checkPlace with
  | error fault => exact .inl ⟨fault, rfl, rfl⟩
  | ok =>
    refine .inr ⟨rfl, ?_⟩
    have hsame := (makeFolder_extends workspace
      (settings.dataDir workspace.directory)).isAlike.directory_eq
    rcases hfirst : workspace.makeFolder (settings.dataDir workspace.directory) with
      ⟨fault | ⟨⟩, first⟩
    · rfl
    · rw [hfirst] at hsame
      exact congrArg (fun directory => first.makeFolder (settings.objectPath directory)) hsame

/-- Making the directories of the settings adds directories that lead to the objects. -/
theorem makePlace_extends (workspace : Workspace) (settings : Settings) :
    workspace.Extends (workspace.makePlace settings).2
      ((settings.dataDir workspace.directory).ancestors ++
        (settings.objectPath workspace.directory).ancestors) := by
  rcases makePlace_cases workspace settings with ⟨fault, -, heq⟩ | ⟨-, heq⟩
  · rw [heq]
    exact .refl workspace _
  · have hdata := makeFolder_extends workspace (settings.dataDir workspace.directory)
    rw [heq]
    split
    · exact hdata.trans (.refl _ _)
    · exact hdata.trans (makeFolder_extends _ _)

/-- The directories of the settings are there once they are made. -/
theorem isFolder_makePlace (h : (workspace.makePlace settings).1 = .ok ()) :
    settings.checkPlace = .ok () ∧
      (workspace.makePlace settings).2.isFolder (settings.dataDir workspace.directory) = true ∧
      (workspace.makePlace settings).2.isFolder (settings.objectPath workspace.directory) =
        true := by
  rcases makePlace_cases workspace settings with ⟨fault, -, heq⟩ | ⟨hplace, heq⟩
  · rw [heq] at h
    exact absurd h (by simp)
  · rw [heq] at h ⊢
    cases hdata : (workspace.makeFolder (settings.dataDir workspace.directory)).1 with
    | error fault => simp [hdata] at h
    | ok =>
      simp only [hdata] at h ⊢
      exact ⟨hplace, (makeFolder_extends _ _).isFolder _ (isFolder_makeFolder hdata),
        isFolder_makeFolder h⟩

/-- A workspace is prepared once it was prepared. -/
theorem isPrepared_of_prepare (h : workspace.prepare settings = (.ok table, made)) :
    made.IsPrepared settings table ∧ workspace.IsAlike made := by
  have hextends := makePlace_extends workspace settings
  unfold prepare at h
  rcases hmade : workspace.makePlace settings with ⟨fault | ⟨⟩, second⟩
  · simp [hmade] at h
  · obtain ⟨hplace, hdataDir, hobjectPath⟩ :=
      isFolder_makePlace (congrArg Prod.fst hmade : (workspace.makePlace settings).1 = .ok ())
    rw [hmade] at hextends hdataDir hobjectPath
    have hdirectory : second.directory = workspace.directory := hextends.isAlike.directory_eq
    cases hopen : second.openTable (settings.tablePath second.directory) with
    | error fault => simp [hmade, hopen] at h
    | ok opened =>
      obtain ⟨found, last⟩ := opened
      simp only [hmade, hopen, Prod.mk.injEq, Except.ok.injEq] at h
      obtain ⟨rfl, rfl⟩ := h
      obtain ⟨htablePath, hlookup, hfolders, halike⟩ := openTable_spec hopen
      -- All steps keep the working directory, so the paths are those of the settings.
      have hsame : ∀ folder, last.isFolder folder = second.isFolder folder := by
        intro folder
        rw [isFolder, isFolder, hfolders]
      have hall : last.directory = workspace.directory := halike.directory_eq.trans hdirectory
      rw [hdirectory] at htablePath hlookup
      refine ⟨⟨hplace, ?_, ?_, ?_, ?_⟩, hextends.isAlike.trans halike⟩
      · rw [hall, hsame]
        exact hdataDir
      · rw [hall, hsame]
        exact hobjectPath
      · rw [hall, Opens, hsame, halike.barsTable_eq]
        exact htablePath
      · rw [hall]
        exact hlookup

/-- Preparing a prepared workspace opens its table and changes nothing. -/
theorem IsPrepared.prepare_eq (h : workspace.IsPrepared settings table) :
    workspace.prepare settings = (.ok table, workspace) := by
  have hmade : workspace.makePlace settings = (.ok (), workspace) := by
    simp only [makePlace, h.place, makeFolder_of_isFolder h.dataDir,
      makeFolder_of_isFolder h.objectPath]
  have hopen : workspace.openTable (settings.tablePath workspace.directory) =
      .ok (table, workspace) := by
    simp [openTable, h.tablePath.1, h.tablePath.2, h.lookup_eq]
  simp only [prepare, hmade, hopen]

/-- A prepared workspace stays prepared when another table is put in place of the one it has. -/
theorem IsPrepared.putTable (h : workspace.IsPrepared settings table) (other : Table) :
    (workspace.putTable (settings.tablePath workspace.directory) other).IsPrepared settings
      other where
  place := h.place
  dataDir := h.dataDir
  objectPath := h.objectPath
  tablePath := h.tablePath
  lookup_eq := lookup_putTable workspace _ other

/-! ## Workspaces that admit settings -/

section Admitting

/-- A directory is at a path or can be made there: each path that leads to it is a directory or
free. -/
def Offers (workspace : Workspace) (path : Path) : Prop :=
  workspace.isFolder path = true ∨
    ∀ folder ∈ path.ancestors, workspace.isFolder folder = true ∨ workspace.IsFree folder

/-- The directories of the settings are there or can be made, and the table can be opened. -/
structure Admits (workspace : Workspace) (settings : Settings) : Prop where
  place : settings.checkPlace = .ok ()
  dataDir : workspace.Offers (settings.dataDir workspace.directory)
  objectPath : workspace.Offers (settings.objectPath workspace.directory)
  tablePath : workspace.Opens (settings.tablePath workspace.directory)

/-- A directory is made exactly where one is offered. -/
theorem makeFolder_isOk_iff :
    (workspace.makeFolder path).1 = .ok () ↔ workspace.Offers path := by
  unfold makeFolder Offers
  split
  · next hfolder => simp [hfolder]
  · next hfolder => simp [hfolder, (makeFolders_isOk_iff workspace path.ancestors).1]

theorem length_le_of_mem_ancestors (h : folder ∈ path.ancestors) :
    folder.segments.length ≤ path.segments.length := by
  obtain ⟨count, -, rfl⟩ := List.mem_map.1 h
  exact List.length_take_le' _ _

/-- An ancestor as long as the path is the path. -/
theorem eq_of_mem_ancestors (h : folder ∈ path.ancestors)
    (hlength : folder.segments.length = path.segments.length) : folder = path := by
  obtain ⟨count, -, rfl⟩ := List.mem_map.1 h
  rw [List.length_take] at hlength
  rw [List.take_of_length_le (by omega)]

/-- Whether a longer path is offered does not depend on a directory that was made before. -/
theorem offers_makeFolder (hlonger : path.segments.length < folder.segments.length) :
    (workspace.makeFolder path).2.Offers folder ↔ workspace.Offers folder := by
  have hextends := makeFolder_extends workspace path
  have hfolder : (workspace.makeFolder path).2.isFolder folder = true ↔
      workspace.isFolder folder = true := by
    refine ⟨fun hmade => ?_, hextends.isFolder folder⟩
    rcases hextends.cases folder hmade with hold | ⟨hnew, -⟩
    · exact hold
    · exact absurd (length_le_of_mem_ancestors hnew) (by omega)
  simp only [Offers, hfolder, hextends.isFolder_or_isFree]

/-- The directories of the settings are made exactly where they are offered. -/
theorem makePlace_isOk_iff :
    (workspace.makePlace settings).1 = .ok () ↔
      settings.checkPlace = .ok () ∧ workspace.Offers (settings.dataDir workspace.directory) ∧
        workspace.Offers (settings.objectPath workspace.directory) := by
  have hlonger : (settings.dataDir workspace.directory).segments.length <
      (settings.objectPath workspace.directory).segments.length := by
    simp [Settings.objectPath, Path.child]
  rcases makePlace_cases workspace settings with ⟨fault, hplace, heq⟩ | ⟨hplace, heq⟩
  · simp [heq, hplace]
  · rw [heq, ← makeFolder_isOk_iff, ← offers_makeFolder hlonger, ← makeFolder_isOk_iff]
    cases (workspace.makeFolder (settings.dataDir workspace.directory)).1 <;> simp [hplace]

/-- The directories of the settings are made without one at the place of the table. -/
theorem opens_makePlace :
    (workspace.makePlace settings).2.Opens (settings.tablePath workspace.directory) ↔
      workspace.Opens (settings.tablePath workspace.directory) := by
  have hextends := makePlace_extends workspace settings
  have hfolder : (workspace.makePlace settings).2.isFolder
      (settings.tablePath workspace.directory) = true ↔
        workspace.isFolder (settings.tablePath workspace.directory) = true := by
    refine ⟨fun hmade => ?_, hextends.isFolder _⟩
    rcases hextends.cases _ hmade with hold | ⟨hnew, -⟩
    · exact hold
    · rcases List.mem_append.1 hnew with hdata | hobjects
      · have hlength := length_le_of_mem_ancestors hdata
        simp only [Settings.tablePath, Path.child, List.length_append,
          List.length_singleton] at hlength
        omega
      · have hsame : settings.tablePath workspace.directory =
            settings.objectPath workspace.directory :=
          eq_of_mem_ancestors hobjects
            (by simp [Settings.tablePath, Settings.objectPath, Path.child])
        simp [Settings.tablePath, Settings.objectPath, Path.child] at hsame
  rw [Opens, Opens, hextends.isAlike.barsTable_eq, ← Bool.not_eq_true, hfolder, Bool.not_eq_true]

/-- **A workspace is prepared exactly if it admits the settings.** -/
theorem prepare_isOk_iff :
    (∃ table made, workspace.prepare settings = (.ok table, made)) ↔ workspace.Admits settings := by
  have hsame := (makePlace_extends workspace settings).isAlike.directory_eq
  have hadmits : workspace.Admits settings ↔ (workspace.makePlace settings).1 = .ok () ∧
      (workspace.makePlace settings).2.Opens (settings.tablePath workspace.directory) := by
    rw [makePlace_isOk_iff, opens_makePlace]
    exact ⟨fun ⟨hplace, hdata, hobjects, htable⟩ => ⟨⟨hplace, hdata, hobjects⟩, htable⟩,
      fun ⟨⟨hplace, hdata, hobjects⟩, htable⟩ => ⟨hplace, hdata, hobjects, htable⟩⟩
  rw [hadmits, ← openTable_isOk_iff, prepare, ← hsame]
  rcases workspace.makePlace settings with ⟨fault | ⟨⟩, second⟩
  · simp
  · cases hopen : second.openTable (settings.tablePath second.directory) <;> simp [hopen]

end Admitting

end Workspace

end BlobCatalog
