import BlobCatalog.Command.Reply
import BlobCatalog.Proofs.PrintedLine
import BlobCatalog.Proofs.StoreRoundTrip

/-!
# Objects have places of their own

The text of a path is read as that path (`Path.ofText_text_of_isProper`), if its segments are names:
not empty, not a single point, and without a slash. Every text gives such a path, resolving keeps it
so and leaves no `..` in it (`Path.isResolved_resolve`), and a resolved path is resolved to itself
(`Path.resolve_of_isResolved`).

So a locator puts objects right below its directory, two of them at one place only if they have one
key (`Locator.separates`), and none of them where the table or the directory itself is
(`Settings.objects_are_apart`).
-/

namespace BlobCatalog

/-! ## Texts cut and joined again -/

namespace Text

variable {α : Type} [DecidableEq α]

/-- A piece before a mark is cut off. -/
theorem pieces_append {mark : α} {piece : List α} (h : mark ∉ piece) (rest : List α) :
    pieces mark (piece ++ mark :: rest) = piece :: pieces mark rest := by
  induction piece with
  | nil => rw [List.nil_append, pieces, if_pos rfl]
  | cons c piece ih =>
    have hc : c ≠ mark := fun hsame => h (hsame ▸ List.mem_cons_self)
    rw [List.cons_append, pieces, if_neg hc, ih fun hmem => h (List.mem_cons_of_mem _ hmem)]
    rfl

/-- Pieces without the mark are what their joined text is cut into. -/
theorem pieces_intercalate {mark : α} {first : List α} {others : List (List α)}
    (h : ∀ piece ∈ first :: others, mark ∉ piece) :
    pieces mark ([mark].intercalate (first :: others)) = first :: others := by
  induction others generalizing first with
  | nil =>
    rw [List.intercalate_singleton]
    exact pieces_of_not_mem (h first List.mem_cons_self)
  | cons second others ih =>
    rw [List.intercalate_cons_cons, List.append_assoc, List.singleton_append,
      pieces_append (h first List.mem_cons_self),
      ih fun piece hpiece => h piece (List.mem_cons_of_mem _ hpiece)]

/-- The pieces of a list hold everything in it but the mark. -/
theorem exists_mem_pieces_iff {mark : α} {text : List α} {item : α} :
    (∃ piece ∈ pieces mark text, item ∈ piece) ↔ item ∈ text ∧ item ≠ mark := by
  induction text with
  | nil => simp [pieces]
  | cons c rest ih =>
    by_cases hc : c = mark
    · subst hc
      rw [pieces, if_pos rfl]
      simp only [List.mem_cons, exists_eq_or_imp, List.not_mem_nil, false_or, ih]
      constructor
      · exact fun h => ⟨.inr h.1, h.2⟩
      · exact fun h => ⟨h.1.resolve_left h.2, h.2⟩
    · rw [pieces, if_neg hc]
      -- the item is put in front of the first piece, if there is one
      have hfirst : (∃ piece ∈ addToFirst c (pieces mark rest), item ∈ piece) ↔
          item = c ∨ ∃ piece ∈ pieces mark rest, item ∈ piece := by
        cases pieces mark rest <;> simp [addToFirst, or_assoc]
      rw [hfirst, ih, List.mem_cons]
      constructor
      · rintro (rfl | h)
        · exact ⟨.inl rfl, hc⟩
        · exact ⟨.inr h.1, h.2⟩
      · exact fun h => h.1.imp_right fun hrest => ⟨hrest, h.2⟩

end Text

/-! ## Paths and their texts -/

namespace Path

/-- A name that a directory may have an entry under, `..` included. -/
structure IsName (segment : Text) : Prop where
  ne_empty : segment ≠ ""
  ne_point : segment ≠ "."
  slash_not_mem : .char '/' ∉ segment.points

/-- All segments of a path are names. -/
def IsProper (path : Path) : Prop := ∀ segment ∈ path.segments, IsName segment

/-- The path is absolute, and no segment of it is empty, a point or `..`. -/
structure IsResolved (path : Path) : Prop where
  start_eq : path.start = .root
  isProper : path.IsProper
  not_mem_climb : Text.ofString ".." ∉ path.segments

variable {path directory : Path}

theorem isName_iff {segment : Text} :
    IsName segment ↔ isSegment segment.points = true ∧ .char '/' ∉ segment.points := by
  have hempty : segment.points = [] ↔ segment = "" :=
    ⟨fun h => Text.ext h, fun h => congrArg Text.points h⟩
  have hpoint : segment.points = [.char '.'] ↔ segment = "." :=
    ⟨fun h => Text.ext h, fun h => congrArg Text.points h⟩
  have hsegment : isSegment segment.points = true ↔ segment ≠ "" ∧ segment ≠ "." := by
    simp only [isSegment, Bool.and_eq_true, bne_iff_ne, ne_eq, hempty, hpoint]
  rw [hsegment]
  exact ⟨fun h => ⟨⟨h.1, h.2⟩, h.3⟩, fun h => ⟨h.1.1, h.1.2, h.2⟩⟩

/-- The path of a text is proper. -/
theorem isProper_ofText (text : Text) : (ofText text).IsProper := by
  intro segment hsegment
  obtain ⟨piece, hpiece, rfl⟩ := List.mem_map.1 hsegment
  obtain ⟨hcut, hkept⟩ := List.mem_filter.1 hpiece
  exact isName_iff.2 ⟨hkept, Text.not_mem_of_mem_pieces hcut⟩

/-- The text of an identifier is a name. -/
theorem isName_text (key : Uuid) : IsName key.text :=
  isName_iff.2 ⟨key.isSegment_points, key.slash_not_mem_points⟩

/-- The text of an identifier has a hyphen, so it is not `..`. -/
theorem text_ne_climb (key : Uuid) : Text.ofString key.text ≠ ".." := by
  intro hsame
  have hchars : key.chars = ['.', '.'] := by
    simpa [Uuid.text] using congrArg String.toList (Text.ofString_inj.1 hsame)
  exact absurd (hchars ▸ key.hyphen_mem_chars) (by decide)

theorem IsProper.child (h : path.IsProper) {segment : Text} (hname : IsName segment) :
    (path.child segment).IsProper := by
  intro other hother
  rcases List.mem_append.1 hother with hold | hnew
  · exact h other hold
  · exact List.mem_singleton.1 hnew ▸ hname

/-- A resolved path is not changed by one more name but `..` becoming its last segment. -/
theorem IsResolved.child (h : path.IsResolved) {segment : Text} (hname : IsName segment)
    (hclimb : segment ≠ "..") : (path.child segment).IsResolved where
  start_eq := h.start_eq
  isProper := h.isProper.child hname
  not_mem_climb := by
    intro hmem
    rcases List.mem_append.1 hmem with hold | hnew
    · exact h.not_mem_climb hold
    · exact hclimb (List.mem_singleton.1 hnew).symm

/-! ### The text of a path names it -/

theorem isSegment_nil : isSegment [] = false := rfl

/-- Where a path starts that begins with a name. -/
theorem startOf_of_head {first : Point} (h : first ≠ .char '/') (rest : List Point) :
    startOf (first :: rest) = .here ∧ startOf (.char '/' :: first :: rest) = .root ∧
      startOf (.char '/' :: .char '/' :: first :: rest) = .doubleRoot := by
  simp [startOf, h]

/-- The code points of joined segments. -/
theorem points_intercalate (segments : List Text) :
    (Text.intercalate "/" segments).points =
      [Point.char '/'].intercalate (segments.map Text.points) := rfl

/-- The code points of joined segments: those of the first one and then more. -/
theorem exists_points_intercalate (first : Text) (others : List Text) :
    ∃ more, (Text.intercalate "/" (first :: others)).points = first.points ++ more := by
  rw [points_intercalate]
  cases others with
  | nil => exact ⟨[], by simp [List.intercalate_singleton]⟩
  | cons second others =>
    exact ⟨_, by rw [List.map_cons, List.map_cons, List.intercalate_cons_cons, List.append_assoc]⟩

/-- Joined names are cut at the slashes into the names. -/
theorem pieces_intercalate {first : Text} {others : List Text}
    (h : ∀ segment ∈ first :: others, IsName segment) :
    Text.pieces (.char '/') (Text.intercalate "/" (first :: others)).points =
      (first :: others).map Text.points := by
  rw [points_intercalate, List.map_cons]
  refine Text.pieces_intercalate fun piece hpiece => ?_
  obtain ⟨segment, hsegment, rfl⟩ := List.mem_map.1 (List.map_cons .. ▸ hpiece)
  exact (h segment hsegment).slash_not_mem

/-- The names among pieces of text are kept as segments. -/
theorem filter_isSegment {segments : List Text} (h : ∀ segment ∈ segments, IsName segment) :
    ((segments.map Text.points).filter isSegment).map Text.mk = segments := by
  have hkept : (segments.map Text.points).filter isSegment = segments.map Text.points := by
    refine List.filter_eq_self.2 fun piece hpiece => ?_
    obtain ⟨segment, hsegment, rfl⟩ := List.mem_map.1 hpiece
    exact (isName_iff.1 (h segment hsegment)).1
  rw [hkept, List.map_map]
  exact List.map_id'' (fun _ => rfl) segments

/-- **The text of a proper path names that path.** -/
theorem ofText_text_of_isProper (h : path.IsProper) : ofText path.text = path := by
  obtain ⟨start, segments⟩ := path
  cases segments with
  | nil => cases start <;> rfl
  | cons first others =>
    have hnames : ∀ segment ∈ first :: others, IsName segment := h
    have hfirst := hnames first List.mem_cons_self
    obtain ⟨c, rest, hpoints⟩ : ∃ c rest, first.points = c :: rest :=
      List.exists_cons_of_ne_nil fun hnil => hfirst.ne_empty (Text.ext hnil)
    have hslash : c ≠ .char '/' := fun hsame =>
      hfirst.slash_not_mem (hpoints ▸ hsame ▸ List.mem_cons_self)
    obtain ⟨more, hmore⟩ := exists_points_intercalate first others
    have hpieces := pieces_intercalate hnames
    have hsegments := filter_isSegment hnames
    rw [← hpieces] at hsegments
    generalize hbody : Text.intercalate "/" (first :: others) = body at *
    have hstart := startOf_of_head hslash (rest ++ more)
    rw [← List.cons_append, ← hpoints, ← hmore] at hstart
    have hone : (Text.ofString "/" ++ body).points = .char '/' :: body.points := rfl
    have htwo : (Text.ofString "//" ++ body).points = .char '/' :: .char '/' :: body.points := rfl
    -- a slash in front of the text adds an empty piece, which is no segment
    cases start with
    | here => simp [ofText, text, hbody, hstart, hsegments]
    | root => simp [ofText, text, hbody, hone, Text.pieces, isSegment_nil, hstart, hsegments]
    | doubleRoot =>
      simp [ofText, text, hbody, htwo, Text.pieces, isSegment_nil, hstart, hsegments]

/-- Proper paths that differ have different texts. -/
theorem text_ne_of_isProper {left right : Path} (hleft : left.IsProper) (hright : right.IsProper)
    (h : left ≠ right) : left.text ≠ right.text := by
  intro hsame
  have hnamed := congrArg ofText hsame
  rw [ofText_text_of_isProper hleft, ofText_text_of_isProper hright] at hnamed
  exact h hnamed

/-! ### Resolved paths -/

/-- A segment that a climb leaves was there or is the one that is added. -/
theorem mem_climb {reversed : List Text} {added segment : Text}
    (h : segment ∈ climb reversed added) : segment ∈ reversed ∨ segment = added ∧ added ≠ ".." := by
  unfold climb at h
  split at h
  · exact .inl (List.mem_of_mem_drop h)
  case isFalse hclimb =>
    rcases List.mem_cons.1 h with hnew | hold
    · exact .inr ⟨hnew, hclimb⟩
    · exact .inl hold

/-- A segment that climbs leave was there or is one of those that are added, and not `..`. -/
theorem mem_foldl_climb {segments reversed : List Text} {segment : Text}
    (h : segment ∈ segments.foldl climb reversed) :
    segment ∈ reversed ∨ segment ∈ segments ∧ segment ≠ ".." := by
  induction segments generalizing reversed with
  | nil => exact .inl h
  | cons first rest ih =>
    rcases ih h with hclimbed | ⟨hrest, hclimb⟩
    · rcases mem_climb hclimbed with hold | ⟨rfl, hclimb⟩
      · exact .inl hold
      · exact .inr ⟨List.mem_cons_self, hclimb⟩
    · exact .inr ⟨List.mem_cons_of_mem _ hrest, hclimb⟩

/-- Without `..`, climbs only add. -/
theorem foldl_climb_of_not_mem {segments : List Text} (h : Text.ofString ".." ∉ segments)
    (reversed : List Text) : segments.foldl climb reversed = segments.reverse ++ reversed := by
  induction segments generalizing reversed with
  | nil => rfl
  | cons first rest ih =>
    have hfirst : first ≠ ".." := fun hsame => h (hsame ▸ List.mem_cons_self)
    have hrest : Text.ofString ".." ∉ rest := fun hmem => h (List.mem_cons_of_mem _ hmem)
    rw [List.foldl_cons, climb, if_neg hfirst, ih hrest, List.reverse_cons, List.append_assoc,
      List.singleton_append]

theorem IsProper.join (hdirectory : directory.IsProper) (hpath : path.IsProper) :
    (directory.join path).IsProper := by
  unfold Path.join
  split
  · intro segment hsegment
    exact (List.mem_append.1 hsegment).elim (hdirectory segment) (hpath segment)
  · exact hpath

/-- **Resolving gives a resolved path.** -/
theorem isResolved_resolve (hdirectory : directory.IsProper) (hpath : path.IsProper) :
    (directory.resolve path).IsResolved := by
  have hmem : ∀ segment ∈ (directory.resolve path).segments,
      segment ∈ (directory.join path).segments ∧ segment ≠ ".." := by
    intro segment hsegment
    exact (mem_foldl_climb (List.mem_reverse.1 hsegment)).resolve_left List.not_mem_nil
  exact ⟨rfl, fun segment hsegment => hdirectory.join hpath segment (hmem segment hsegment).1,
    fun hclimb => (hmem _ hclimb).2 rfl⟩

/-- **A resolved path is resolved to itself.** -/
theorem resolve_of_isResolved (h : path.IsResolved) (directory : Path) :
    directory.resolve path = path := by
  obtain ⟨start, segments⟩ := path
  obtain rfl : start = .root := h.start_eq
  rw [resolve, join, foldl_climb_of_not_mem h.not_mem_climb, List.append_nil, List.reverse_reverse]

/-- Resolving the text of a resolved path gives the path. -/
theorem resolve_ofText_text (h : path.IsResolved) (directory : Path) :
    directory.resolve (ofText path.text) = path := by
  rw [ofText_text_of_isProper h.isProper, resolve_of_isResolved h]

end Path

/-! ## The places of objects -/

namespace Locator

/-- The locator gives each record under an identifier a place, right below a directory and under one
more segment, and gives two of them one place exactly if they have one key. -/
def Separates (locator : Locator) (directory : Path) : Prop :=
  ∀ (left right : Record) (leftKey rightKey : Uuid),
    left.key = .uuid leftKey → right.key = .uuid rightKey →
      ∃ leftPlace rightPlace : Text,
        locator.locate left = .ok leftPlace ∧ locator.locate right = .ok rightPlace ∧
        Path.ofText leftPlace = directory.child leftKey.text ∧
        Path.ofText rightPlace = directory.child rightKey.text ∧
        (leftPlace = rightPlace ↔ leftKey = rightKey)

variable {directory : Path}

/-- The text of the place under a key names that place. -/
theorem ofText_place (h : directory.IsProper) (key : Uuid) :
    Path.ofText (directory.child key.text).text = directory.child key.text :=
  Path.ofText_text_of_isProper (h.child (Path.isName_text key))

/-- Places below one directory are the same only under one key. -/
theorem child_text_inj {left right : Uuid} :
    directory.child left.text = directory.child right.text ↔ left = right := by
  simp [Path.child, Uuid.text_inj]

/-- **A locator separates the objects of different keys.** -/
theorem separates (h : directory.IsProper) : (Locator.mk directory).Separates directory := by
  intro left right leftKey rightKey hleft hright
  have hleftPlace := ofText_place h leftKey
  have hrightPlace := ofText_place h rightKey
  refine ⟨_, _, locate_of_key hleft _, locate_of_key hright _, hleftPlace, hrightPlace, ?_⟩
  constructor
  · intro hsame
    have hpaths := congrArg Path.ofText hsame
    rw [hleftPlace, hrightPlace] at hpaths
    exact child_text_inj.1 hpaths
  · rintro rfl
    rfl

end Locator

namespace Settings

/-! ## The places of the settings -/

variable (settings : Settings)

theorem isResolved_dataDir (working : Text) :
    (settings.dataDir (.ofText working)).IsResolved :=
  Path.isResolved_resolve (Path.isProper_ofText working) (Path.isProper_ofText _)

theorem isResolved_objectPath (working : Text) :
    (settings.objectPath (.ofText working)).IsResolved :=
  (settings.isResolved_dataDir working).child (Path.isName_iff.2 (by decide)) (by decide)

theorem isResolved_tablePath (working : Text) :
    (settings.tablePath (.ofText working)).IsResolved :=
  (settings.isResolved_dataDir working).child (Path.isName_iff.2 (by decide)) (by decide)

/-- The place of an object is further down than the table and the directory of the objects. -/
theorem place_ne (directory : Path) (key : Uuid) :
    (settings.objectPath directory).child key.text ≠ settings.tablePath directory ∧
      (settings.objectPath directory).child key.text ≠ settings.objectPath directory := by
  have hlength : ∀ path : Path, ∀ segment : Text,
      (path.child segment).segments.length = path.segments.length + 1 := by
    intro path segment
    simp [Path.child]
  constructor <;> intro hsame
  all_goals
    have hsegments := congrArg (fun path => path.segments.length) hsame
    simp [objectPath, tablePath, hlength] at hsegments

/-- What a name may hold: characters but the one of code 0, and surrogates that stand for bytes. -/
def IsNamePoint (point : Point) : Prop := isEncodable point = true ∧ point ≠ .char (Char.ofNat 0)

theorem nameFault?_eq_none_iff {name : Text} :
    nameFault? name = none ↔ ∀ point ∈ name.points, IsNamePoint point := by
  unfold nameFault? IsNamePoint
  split
  · next hencodable =>
    obtain ⟨point, hpoint, hother⟩ : ∃ point ∈ name.points, isEncodable point = false := by
      simpa using hencodable
    simp only [reduceCtorEq, false_iff]
    exact fun hall => absurd (hother.symm.trans (hall point hpoint).1) (by simp)
  · next hencodable =>
    have hencodable : ∀ point ∈ name.points, isEncodable point = true := by simpa using hencodable
    split
    · next hzero =>
      simp only [reduceCtorEq, false_iff]
      exact fun hall => (hall _ (List.contains_iff_mem.1 hzero)).2 rfl
    · next hzero =>
      simp only [true_iff]
      exact fun point hpoint => ⟨hencodable point hpoint, fun hsame =>
        hzero (List.contains_iff_mem.2 (hsame ▸ hpoint))⟩

/-- The directory is found exactly if its text holds only what names may hold. -/
theorem checkPlace_eq_ok_iff :
    settings.checkPlace = .ok () ↔ ∀ point ∈ settings.appDataDir.points, IsNamePoint point := by
  have hcheck : settings.checkPlace = .ok () ↔
      ∀ segment ∈ (Path.ofText settings.appDataDir).segments, nameFault? segment = none := by
    unfold checkPlace
    rw [← List.findSome?_eq_none_iff]
    cases (Path.ofText settings.appDataDir).segments.findSome? nameFault? <;> simp
  simp only [hcheck, nameFault?_eq_none_iff]
  constructor
  · intro hall point hpoint
    by_cases hslash : point = .char '/'
    · subst hslash
      exact ⟨rfl, by decide⟩
    · obtain ⟨piece, hpiece, hmem⟩ := Text.exists_mem_pieces_iff.2 ⟨hpoint, hslash⟩
      by_cases hsegment : Path.isSegment piece = true
      · exact hall ⟨piece⟩ (List.mem_map_of_mem (List.mem_filter.2 ⟨hpiece, hsegment⟩)) point hmem
      · -- a piece that is no segment holds at most a full stop
        obtain rfl | rfl : piece = [] ∨ piece = [.char '.'] := by
          simpa [Path.isSegment, Classical.or_iff_not_imp_left] using hsegment
        · exact absurd hmem List.not_mem_nil
        · obtain rfl := List.mem_singleton.1 hmem
          exact ⟨rfl, by decide⟩
  · intro hall segment hsegment point hpoint
    obtain ⟨piece, hpiece, rfl⟩ := List.mem_map.1 hsegment
    exact hall point (Text.exists_mem_pieces_iff.1
      ⟨piece, (List.mem_filter.1 hpiece).1, hpoint⟩).1

/-- **The objects of the settings are apart.** Whatever the directory setting and the working
directory are, the directory of the data is found exactly if the text of the setting holds only what
names may hold. It is resolved, and from every working directory its text names it again. The
locator of the catalog, which reads its directory from a text, separates the objects of different
keys; it puts each of them at a resolved place, which is neither that of the table nor the directory
of the objects. The locator of any base text separates them too. -/
theorem objects_are_apart (working : Text) :
    (settings.checkPlace = .ok () ↔ ∀ point ∈ settings.appDataDir.points, IsNamePoint point) ∧
    (settings.dataDir (.ofText working)).IsResolved ∧
    (∀ again : Text,
      (Path.ofText again).resolve (.ofText (settings.dataDir (.ofText working)).text) =
        settings.dataDir (.ofText working)) ∧
    Locator.mk (.ofText (settings.objectPath (.ofText working)).text) =
      (settings.catalog (.ofText working)).locator ∧
    (settings.catalog (.ofText working)).locator.Separates
      ((settings.dataDir (.ofText working)).child "objects") ∧
    (∀ (record : Record) (key : Uuid), record.key = .uuid key →
      ∃ place : Text,
        (settings.catalog (.ofText working)).locator.locate record = .ok place ∧
        (Path.ofText place).IsResolved ∧
        place ≠ (settings.tablePath (.ofText working)).text ∧
        place ≠ (settings.objectPath (.ofText working)).text) ∧
    ∀ base : Text, (Locator.mk (.ofText base)).Separates (.ofText base) := by
  have hdata := settings.isResolved_dataDir working
  have hobjects := settings.isResolved_objectPath working
  have htable := settings.isResolved_tablePath working
  refine ⟨settings.checkPlace_eq_ok_iff, hdata, ?again, ?locator, ?separates, ?places, ?bases⟩
  case again => exact fun again => Path.resolve_ofText_text hdata (.ofText again)
  case locator => rw [Path.ofText_text_of_isProper hobjects.isProper, catalog]
  case separates => exact Locator.separates hobjects.isProper
  case bases => exact fun base => Locator.separates (Path.isProper_ofText base)
  case places =>
    intro record key hkey
    have hplace := hobjects.child (Path.isName_text key) (Path.text_ne_climb key)
    obtain ⟨hneTable, hneObjects⟩ := settings.place_ne (.ofText working) key
    refine ⟨_, Locator.locate_of_key hkey _, ?_,
      Path.text_ne_of_isProper hplace.isProper htable.isProper hneTable,
      Path.text_ne_of_isProper hplace.isProper hobjects.isProper hneObjects⟩
    exact (Path.ofText_text_of_isProper hplace.isProper).symm ▸ hplace

/-- Settings whose directory lies beside the working directory. -/
def besideSettings : Settings := ⟨"../shop//./data/", Key.defaultKind, .info⟩

/-- A record whose key is the signature of the sample. -/
def besideBlob : Blob := { Blob.empty with key := some sampleSignature }

theorem objects_are_apart_besideSettings :
    besideSettings.dataDir (.ofText "/srv/app") = ⟨.root, ["srv", "shop", "data"]⟩ ∧
    ∃ place otherPlace : Text,
      (besideSettings.catalog (.ofText "/srv/app")).locator.locate sampleBlob.toRecord = .ok place ∧
      (besideSettings.catalog (.ofText "/srv/app")).locator.locate besideBlob.toRecord =
        .ok otherPlace ∧
      Path.ofText place = ⟨.root, ["srv", "shop", "data", "objects", sampleKey.text]⟩ ∧
      place ≠ otherPlace := by
  have hdata : besideSettings.dataDir (.ofText "/srv/app") = ⟨.root, ["srv", "shop", "data"]⟩ := by
    decide +kernel
  obtain ⟨-, -, -, -, hseparates, -, -⟩ := besideSettings.objects_are_apart "/srv/app"
  obtain ⟨place, otherPlace, hplace, hother, hpath, -, hkeys⟩ :=
    hseparates sampleBlob.toRecord besideBlob.toRecord sampleKey sampleSignature rfl rfl
  rw [hdata] at hpath
  exact ⟨hdata, place, otherPlace, hplace, hother, hpath, fun hsame =>
    absurd (hkeys.1 hsame) (by decide)⟩

/-- Settings whose directory is a surrogate that stands for no byte. -/
def surrogateSettings : Settings :=
  ⟨⟨[.surrogate ⟨0, by decide⟩]⟩, Key.defaultKind, .info⟩

/-- A text without the character of code 0 that names no directory. -/
theorem checkPlace_surrogateSettings :
    .char (Char.ofNat 0) ∉ surrogateSettings.appDataDir.points ∧
      surrogateSettings.checkPlace = .error .unencodable :=
  ⟨by decide, rfl⟩

end Settings

end BlobCatalog
