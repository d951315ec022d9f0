/-!
# Texts

A `Text` is a sequence of code points. Among these are the surrogates, which are no characters: the
words of a command line and the values of an environment hold them where their bytes encode none. A
text without surrogates is a string (`Text.string?`), and only such a text can be encoded. Every
string is a text, by a coercion.
-/

namespace BlobCatalog

/-- A code point: a character, or a surrogate by its place among the surrogates. -/
inductive Point where
  | char (c : Char)
  | surrogate (place : Fin 0x800)
deriving DecidableEq, Repr

namespace Point

/-- The number of a code point. -/
def code : Point → Nat
  | char c => c.toNat
  | surrogate place => 0xd800 + place.val

/-- The bytes that a code point takes in a name, where a surrogate stands for one. -/
def size : Point → Nat
  | char c => c.utf8Size
  | surrogate _ => 1

/-- The code point is a character of a class. -/
def isCharIn (class_ : Char → Bool) : Point → Bool
  | char c => class_ c
  | surrogate _ => false

end Point

/-- A sequence of code points. -/
structure Text where
  points : List Point
deriving DecidableEq, Repr

namespace Text

/-- Characters as a text. -/
def ofChars (chars : List Char) : Text := ⟨chars.map .char⟩

/-- A string as a text. -/
def ofString (content : String) : Text := ofChars content.toList

instance : Coe String Text := ⟨ofString⟩

instance : Append Text := ⟨fun left right => ⟨left.points ++ right.points⟩⟩

/-- The characters that code points are, if no surrogate is among them. -/
def charsOf? : List Point → Option (List Char)
  | [] => some []
  | .char c :: rest => (charsOf? rest).map (c :: ·)
  | .surrogate _ :: _ => none

/-- The characters of a text without surrogates. -/
def chars? (text : Text) : Option (List Char) := charsOf? text.points

/-- The string that a text without surrogates is. -/
def string? (text : Text) : Option String := text.chars?.map String.ofList

/-- The characters of a text, without its surrogates. -/
def string (text : Text) : String :=
  String.ofList (text.points.filterMap fun
    | .char c => some c
    | .surrogate _ => none)

/-- The text is a string. -/
def IsString (text : Text) : Prop := text.string?.isSome = true

instance (text : Text) : Decidable text.IsString := inferInstanceAs (Decidable (_ = true))

/-- The text has no code points. -/
def isEmpty (text : Text) : Bool := text.points.isEmpty

/-- The bytes that a text takes in a name. -/
def size (text : Text) : Nat := text.points.foldl (fun size point => size + point.size) 0

/-- Texts joined by a mark. -/
def intercalate (mark : Text) (texts : List Text) : Text :=
  ⟨mark.points.intercalate (texts.map Text.points)⟩

/-! ## Strings among texts -/

theorem points_ofString (content : String) :
    (ofString content).points = content.toList.map .char := rfl

@[ext] theorem ext {left right : Text} (same : left.points = right.points) : left = right := by
  cases left
  cases right
  exact congrArg mk same

@[simp] theorem charsOf?_map (chars : List Char) : charsOf? (chars.map .char) = some chars := by
  induction chars with
  | nil => rfl
  | cons c rest ih => simp [charsOf?, ih]

@[simp] theorem chars?_ofString (content : String) :
    (ofString content).chars? = some content.toList := charsOf?_map content.toList

@[simp] theorem string?_ofString (content : String) :
    (ofString content).string? = some content := by
  simp [string?]

/-- Code points that are characters are just these characters. -/
theorem eq_map_of_charsOf? {points : List Point} {chars : List Char}
    (found : charsOf? points = some chars) : points = chars.map .char := by
  induction points generalizing chars with
  | nil => simp_all [charsOf?]
  | cons point rest ih =>
    cases point with
    | char c =>
      obtain ⟨others, read, rfl⟩ := Option.map_eq_some_iff.mp found
      simp [ih read]
    | surrogate place => simp [charsOf?] at found

/-- A text is a string exactly if it is the text of that string. -/
theorem string?_eq_some_iff {text : Text} {content : String} :
    text.string? = some content ↔ text = content := by
  constructor
  · intro found
    obtain ⟨chars, read, rfl⟩ := Option.map_eq_some_iff.mp found
    ext1
    rw [eq_map_of_charsOf? read, points_ofString, String.toList_ofList]
  · rintro rfl
    exact string?_ofString content

@[simp] theorem isString_ofString (content : String) : (ofString content).IsString := by
  simp [IsString]

@[simp] theorem string_ofString (content : String) : (ofString content).string = content := by
  rw [string, points_ofString, List.filterMap_map]
  exact (congrArg String.ofList List.filterMap_some).trans String.ofList_toList

/-- A text is a string exactly if it is the text of its characters. -/
theorem isString_iff {text : Text} : text.IsString ↔ text = text.string := by
  constructor
  · intro found
    obtain ⟨content, read⟩ := Option.isSome_iff_exists.mp found
    obtain rfl := string?_eq_some_iff.mp read
    rw [string_ofString]
  · intro same
    rw [same]
    exact isString_ofString _

theorem string?_of_isString {text : Text} (found : text.IsString) :
    text.string? = some text.string :=
  string?_eq_some_iff.mpr (isString_iff.mp found)

theorem string?_of_not_isString {text : Text} (lacking : ¬text.IsString) : text.string? = none := by
  simpa [IsString] using lacking

/-- Strings that are one text are one string. -/
@[simp] theorem ofString_inj {left right : String} :
    ofString left = ofString right ↔ left = right := by
  constructor
  · intro same
    simpa using congrArg string? same
  · rintro rfl
    rfl

end Text

end BlobCatalog
