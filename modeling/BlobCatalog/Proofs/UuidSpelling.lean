import BlobCatalog.Proofs.StoredRow
import BlobCatalog.Proofs.UuidText
import Mathlib.Data.List.Induction
import Mathlib.Data.List.TakeWhile

/-!
# Spellings of an identifier

A person may write an identifier in many ways: digits in either case, hyphens anywhere between
them, braces around them, a mark before it all. A `Uuid.Spelling` is one such way, and the reader of
record names takes each of them for the identifier that it spells (`Uuid.Spelling.ofText?_text`).

The reader takes other texts too, because the number that is left may have blanks, a sign, a mark
of base sixteen, underscores and digits of any script. Whatever it takes, the number is below
`16 ^ 32` (`Text.readHex?_lt`), so that the range of identifiers refuses nothing
(`Uuid.ofChars?_eq_none_iff`), and writing and reading the identifier again gives it back
(`Key.identifier_undoes_writing`).
-/

namespace BlobCatalog

/-! ## Digits in either case -/

namespace Text

/-- A character is a hexadecimal digit as it is written, or the same digit as a capital. -/
def IsCaseOf (c digit : Char) : Prop := c = digit ∨ c = digit.toUpper

instance (c digit : Char) : Decidable (IsCaseOf c digit) := inferInstanceAs (Decidable (_ ∨ _))

/-- The character is read as a value, and no step of the reader drops it. -/
def IsPlainDigit (value : Nat) (c : Char) : Prop :=
  hexValue? c = some value ∧ isBlank c = false ∧ Uuid.isBrace c = false ∧
    c ≠ '_' ∧ c ≠ '+' ∧ c ≠ 'x' ∧ c ≠ 'X' ∧ c ≠ 'u'

instance (value : Nat) (c : Char) : Decidable (IsPlainDigit value c) :=
  inferInstanceAs (Decidable (_ ∧ _))

theorem isPlainDigit_hexDigit : ∀ value < 16, IsPlainDigit value (hexDigit value) := by
  decide

theorem isPlainDigit_toUpper : ∀ value < 16, IsPlainDigit value (hexDigit value).toUpper := by
  decide

/-- A digit in either case has its value, and no step of the reader drops it. -/
theorem IsCaseOf.isPlainDigit {value : Nat} (hvalue : value < 16) {c : Char}
    (h : IsCaseOf c (hexDigit value)) : IsPlainDigit value c := by
  rcases h with rfl | rfl
  · exact isPlainDigit_hexDigit value hvalue
  · exact isPlainDigit_toUpper value hvalue

/-- The characters of a padded hexadecimal in either case are digits in either case. -/
theorem exists_isCaseOf {width number : Nat} {text : List Char}
    (h : List.Forall₂ IsCaseOf text (paddedHex width number)) {c : Char} (hc : c ∈ text) :
    ∃ value < 16, IsCaseOf c (hexDigit value) := by
  have hdigit : ∀ digit ∈ paddedHex width number, ∃ value < 16, hexDigit value = digit :=
    fun _ hdigit => exists_of_mem_paddedHex hdigit
  generalize paddedHex width number = digits at h hdigit
  induction h with
  | nil => exact absurd hc List.not_mem_nil
  | cons hcase _ ih =>
    rcases List.mem_cons.1 hc with rfl | hrest
    · obtain ⟨value, hvalue, rfl⟩ := hdigit _ List.mem_cons_self
      exact ⟨value, hvalue, hcase⟩
    · exact ih hrest fun digit hmem => hdigit digit (List.mem_cons_of_mem _ hmem)

/-- A padded hexadecimal in either case is read as the number it was written for. -/
theorem readHex?_of_forall₂ {width number : Nat} (hwidth : 0 < width)
    (hsmall : number < Nat.pow 16 width) {text : List Char}
    (h : List.Forall₂ IsCaseOf text (paddedHex width number)) : readHex? text = some number := by
  have hlt : ∀ digit ∈ fixedDigits 16 width number, digit < 16 :=
    fun _ hdigit => lt_of_mem_fixedDigits (by decide) hdigit
  have hsome : fixedDigits 16 width number ≠ [] :=
    List.ne_nil_of_length_pos (by simpa using hwidth)
  have hcases : List.Forall₂ (fun digit c => digit < 16 ∧ IsCaseOf c (hexDigit digit))
      (fixedDigits 16 width number) text :=
    (List.forall₂_and_left _ _).2 ⟨hlt, (List.forall₂_map_right_iff.1 h).flip⟩
  have hdigits : List.Forall₂ (fun c digit => hexValue? c = some digit ∧ c ≠ '_') text
      (fixedDigits 16 width number) := by
    refine (hcases.imp fun digit c hcase => ?_).flip
    obtain ⟨hvalue, -, -, hplain, -⟩ := hcase.2.isPlainDigit hcase.1
    exact ⟨hvalue, hplain⟩
  have hplain : ∀ c ∈ text, isBlank c = false ∧ c ≠ '+' ∧ c ≠ 'x' ∧ c ≠ 'X' := by
    intro c hc
    obtain ⟨value, hvalue, hcase⟩ := exists_isCaseOf h hc
    obtain ⟨-, hblank, -, -, hsign, hmark, hcapital, -⟩ := hcase.isPlainDigit hvalue
    exact ⟨hblank, hsign, hmark, hcapital⟩
  rw [readHex?_of_plain hplain (groupedDigits?_of_forall₂ hsome hdigits),
    ofDigits_fixedDigits 16 width number hsmall]

end Text

/-! ## What the reader drops -/

namespace Uuid

theorem afterMark?_append (mark text : List Char) : afterMark? mark (mark ++ text) = some text := by
  induction mark with
  | nil => rfl
  | cons wanted mark ih => rw [List.cons_append, afterMark?, if_pos rfl, ih]

/-- A mark at the front is dropped. -/
theorem dropMark_append {mark : List Char} (hsome : mark ≠ []) (text : List Char) :
    dropMark mark (mark ++ text) = dropMark mark text := by
  obtain ⟨wanted, rest, rfl⟩ := List.exists_cons_of_ne_nil hsome
  rw [List.cons_append, dropMark]
  have hfound := afterMark?_append (wanted :: rest) text
  rw [List.cons_append] at hfound
  split
  · next after hafter =>
    obtain rfl := Option.some.inj (hfound.symm.trans hafter)
    rw [dif_neg hsome]
  · next hnone => exact absurd (hfound.symm.trans hnone) (by simp)

/-- A character at which no mark begins is kept. -/
theorem dropMark_cons {mark text : List Char} {c : Char} (h : afterMark? mark (c :: text) = none) :
    dropMark mark (c :: text) = c :: dropMark mark text := by
  rw [dropMark]
  split
  · next hfound => exact absurd (h.symm.trans hfound) (by simp)
  · rfl

/-- Both marks are dropped from the front of a text in which neither begins. -/
theorem dropMarks_append {text : List Char} (h : 'u' ∉ text) :
    dropMark "uuid:".toList (dropMark "urn:".toList ("urn:uuid:".toList ++ text)) = text := by
  have hurn : dropMark "urn:".toList ("urn:".toList ++ ("uuid:".toList ++ text)) =
      dropMark "urn:".toList ("uuid:".toList ++ text) := dropMark_append (by decide) _
  have hnone : dropMark "urn:".toList text = text := dropMark_eq_self h
  -- The second mark has the first letter of the first one, but not the second.
  have hkept : dropMark "urn:".toList ('u' :: 'u' :: 'i' :: 'd' :: ':' :: text) =
      'u' :: 'u' :: 'i' :: 'd' :: ':' :: text := by
    rw [dropMark_cons rfl, dropMark_cons rfl, dropMark_cons rfl, dropMark_cons rfl,
      dropMark_cons rfl, hnone]
  have huuid : dropMark "uuid:".toList ("uuid:".toList ++ text) = text := by
    rw [dropMark_append (by decide)]
    exact dropMark_eq_self h
  calc dropMark "uuid:".toList (dropMark "urn:".toList ("urn:uuid:".toList ++ text))
      = dropMark "uuid:".toList (dropMark "urn:".toList ("uuid:".toList ++ text)) :=
        congrArg _ hurn
    _ = dropMark "uuid:".toList ("uuid:".toList ++ text) := congrArg _ hkept
    _ = text := huuid

end Uuid

/-- A text without characters of a class, between characters of the class, is all that is left. -/
theorem Text.trim_append {blank : Char → Bool} {front text back : List Char}
    (hfront : ∀ c ∈ front, blank c = true) (htext : ∀ c ∈ text, blank c = false)
    (hback : ∀ c ∈ back, blank c = true) : trim blank (front ++ (text ++ back)) = text := by
  have hdrop : (front ++ (text ++ back)).dropWhile blank = (text ++ back).dropWhile blank :=
    List.dropWhile_append_of_pos hfront
  have hend : trimEnd blank (text ++ back) = text := by
    rw [trimEnd, List.reverse_append, List.dropWhile_append_of_pos fun c hc =>
      hback c (List.mem_reverse.1 hc)]
    exact trimEnd_eq_self htext
  rw [trim, hdrop]
  cases text with
  | nil =>
    -- Nothing but characters of the class is there, and all of them are dropped.
    have hnil : back.dropWhile blank = [] := List.dropWhile_eq_nil_iff.2 hback
    rw [List.nil_append, hnil]
    rfl
  | cons first rest =>
    have hfirst : blank first = false := htext first List.mem_cons_self
    rw [List.cons_append, List.dropWhile_cons_of_neg (by simp [hfirst]), ← List.cons_append, hend]

/-! ## Spellings -/

/-- A way to write an identifier: its 32 digits, each in either case, with hyphens between them, in
any braces, and after the mark `urn:uuid:` or without it. -/
structure Uuid.Spelling (uuid : Uuid) where
  isMarked : Bool
  front : List Char
  body : List Char
  back : List Char
  isBrace_front : ∀ c ∈ front, Uuid.isBrace c = true
  isBrace_back : ∀ c ∈ back, Uuid.isBrace c = true
  isCaseOf_digits : List.Forall₂ Text.IsCaseOf (body.filter (· != '-')) uuid.digits

namespace Uuid.Spelling

variable {uuid : Uuid}

/-- The digits with all that surrounds them. -/
def inBraces (spelling : uuid.Spelling) : List Char :=
  spelling.front ++ (spelling.body ++ spelling.back)

/-- The characters of a spelling. -/
def chars (spelling : uuid.Spelling) : List Char :=
  if spelling.isMarked then "urn:uuid:".toList ++ spelling.inBraces else spelling.inBraces

/-- The text of a spelling. -/
def text (spelling : uuid.Spelling) : String := String.ofList spelling.chars

/-- The body of a spelling has digits and hyphens only. -/
theorem plain_of_mem_body (spelling : uuid.Spelling) {c : Char} (h : c ∈ spelling.body) :
    isBrace c = false ∧ c ≠ 'u' := by
  by_cases hhyphen : c = '-'
  · subst hhyphen
    decide
  · have hkept : c ∈ spelling.body.filter (· != '-') :=
      List.mem_filter.2 ⟨h, by simpa using hhyphen⟩
    obtain ⟨value, hvalue, hcase⟩ := Text.exists_isCaseOf spelling.isCaseOf_digits hkept
    obtain ⟨-, -, hbrace, -, -, -, -, hletter⟩ := hcase.isPlainDigit hvalue
    exact ⟨hbrace, hletter⟩

/-- Without the mark a spelling has no letter that begins one. -/
theorem not_mem_inBraces (spelling : uuid.Spelling) : 'u' ∉ spelling.inBraces := by
  have hbrace : isBrace 'u' ≠ true := by decide
  intro h
  rcases List.mem_append.1 h with hfront | hrest
  · exact hbrace (spelling.isBrace_front _ hfront)
  · rcases List.mem_append.1 hrest with hbody | hback
    · exact (spelling.plain_of_mem_body hbody).2 rfl
    · exact hbrace (spelling.isBrace_back _ hback)

/-- What the reader keeps of a spelling is its digits. -/
theorem bare_chars (spelling : uuid.Spelling) :
    bare spelling.chars = spelling.body.filter (· != '-') := by
  have hletter := spelling.not_mem_inBraces
  have hunmarked : dropMark "uuid:".toList (dropMark "urn:".toList spelling.chars) =
      spelling.inBraces := by
    rw [chars]
    split
    · exact dropMarks_append hletter
    · rw [show dropMark "urn:".toList spelling.inBraces = spelling.inBraces from
        dropMark_eq_self hletter]
      exact dropMark_eq_self hletter
  have htrim : Text.trim isBrace spelling.inBraces = spelling.body :=
    Text.trim_append spelling.isBrace_front (fun c hc => (spelling.plain_of_mem_body hc).1)
      spelling.isBrace_back
  rw [bare, hunmarked, htrim]

/-- **Every spelling of an identifier is read as that identifier.** -/
theorem ofText?_text (spelling : uuid.Spelling) : ofText? spelling.text = some uuid := by
  have hlength : (spelling.body.filter (· != '-')).length = 32 := by
    rw [spelling.isCaseOf_digits.length_eq]
    exact Text.length_paddedHex 32 uuid.value
  have hread : Text.readHex? (spelling.body.filter (· != '-')) = some uuid.value :=
    Text.readHex?_of_forall₂ (by decide) uuid.small spelling.isCaseOf_digits
  have hnat : ofNat? uuid.value = some uuid := by simp [ofNat?, uuid.small]
  rw [ofText?, Text.chars?_ofString, text, String.toList_ofList, Option.bind_some]
  simp only [ofChars?, bare_chars, hlength, if_true, hread]
  exact hnat

end Uuid.Spelling

/-! ## The range of identifiers -/

namespace Text

/-- A number is below the power of the base that has as many places as it has digits. -/
theorem ofDigits_lt {base : Nat} (digits : List Nat) (h : ∀ digit ∈ digits, digit < base) :
    ofDigits base digits < Nat.pow base digits.length := by
  -- The induction adds a digit at the end, where the reader adds it.
  induction digits using List.reverseRecOn with
  | nil => exact Nat.one_pos
  | append_singleton digits last ih =>
    have hinit : ofDigits base digits < Nat.pow base digits.length :=
      ih fun digit hdigit => h digit (List.mem_append_left _ hdigit)
    have hlast : last < base := h last (by simp)
    rw [ofDigits_append, List.length_append, List.length_singleton, Nat.mul_comm]
    calc ofDigits base digits * base + last
        < ofDigits base digits * base + base := Nat.add_lt_add_left hlast _
      _ = (ofDigits base digits + 1) * base := (Nat.succ_mul _ _).symm
      _ ≤ Nat.pow base digits.length * base := Nat.mul_le_mul_right _ hinit

theorem decimalValue?_lt {c : Char} {value : Nat} (h : decimalValue? c = some value) :
    value < 10 := by
  unfold decimalValue? at h
  split at h
  · next start hfound =>
    have hrange := List.find?_some hfound
    simp only [Bool.and_eq_true, decide_eq_true_eq] at hrange
    obtain rfl := Option.some.inj h
    omega
  · exact absurd h (by simp)

theorem hexValue?_lt {c : Char} {value : Nat} (h : hexValue? c = some value) : value < 16 := by
  have hcode : ∀ {d : Char}, c ≤ d → c.toNat ≤ d.toNat := fun hle => hle
  unfold hexValue? at h
  split at h
  · next hletter =>
    obtain rfl := Option.some.inj h
    have hlast : c.toNat ≤ 102 := hcode hletter.2
    omega
  · split at h
    · next hletter =>
      obtain rfl := Option.some.inj h
      have hlast : c.toNat ≤ 70 := hcode hletter.2
      omega
    · exact Nat.lt_trans (decimalValue?_lt h) (by decide)

/-- Grouping gives no more digits than there are characters, and each of them is a character's. -/
theorem groupedDigits?_spec {digit? : Char → Option Nat} {text : List Char} {digits : List Nat}
    (h : groupedDigits? digit? text = some digits) :
    digits.length ≤ text.length ∧ ∀ digit ∈ digits, ∃ c, digit? c = some digit := by
  fun_induction groupedDigits? digit? text generalizing digits with
  | case1 => exact absurd h (by simp)
  | case2 c =>
    obtain ⟨digit, hdigit, rfl⟩ := Option.map_eq_some_iff.1 h
    refine ⟨Nat.le_refl 1, fun other hother => ?_⟩
    obtain rfl := List.mem_singleton.1 hother
    exact ⟨c, hdigit⟩
  | case3 c rest ih | case4 c rest _ _ ih =>
    obtain ⟨digit, hdigit, hrest⟩ := Option.bind_eq_some_iff.1 h
    obtain ⟨others, hothers, hall⟩ := Option.bind_eq_some_iff.1 hrest
    obtain rfl : digit :: others = digits := Option.some.inj hall
    obtain ⟨hlength, hread⟩ := ih hothers
    refine ⟨by simp only [List.length_cons]; omega, fun other hother => ?_⟩
    rcases List.mem_cons.1 hother with rfl | hmem
    · exact ⟨c, hdigit⟩
    · exact hread other hmem

theorem length_trim_le (blank : Char → Bool) (text : List Char) :
    (trim blank text).length ≤ text.length := by
  have hend := List.length_dropWhile_le blank (text.dropWhile blank).reverse
  have hfront := List.length_dropWhile_le blank text
  simp only [trim, trimEnd, List.length_reverse] at hend ⊢
  omega

theorem length_dropHexMark_le (text : List Char) : (dropHexMark text).length ≤ text.length := by
  unfold dropHexMark
  split
  · split
    · split <;> simp only [List.length_cons] <;> omega
    · exact Nat.le_refl _
  · exact Nat.le_refl _

/-- A number that is read in base sixteen is below the power that has a place for each
character. -/
theorem readHex?_lt {text : List Char} {number : Nat} (h : readHex? text = some number) :
    number < Nat.pow 16 text.length := by
  -- Blanks, a sign and a mark are dropped, so no more digits are left than characters were there.
  obtain ⟨body, hbody, hread⟩ : ∃ body : List Char, body.length ≤ text.length ∧
      ((groupedDigits? hexValue? (dropHexMark body)).bind fun digits =>
        some (ofDigits 16 digits)) = some number := by
    refine ⟨_, ?_, h⟩
    have htrim := length_trim_le isBlank text
    split
    · next rest hsign =>
      rw [hsign, List.length_cons] at htrim
      omega
    · exact htrim
  obtain ⟨digits, hdigits, hnumber⟩ := Option.bind_eq_some_iff.1 hread
  obtain rfl := Option.some.inj hnumber
  obtain ⟨hlength, hvalues⟩ := groupedDigits?_spec hdigits
  have hmark := length_dropHexMark_le body
  have hsmall : ∀ digit ∈ digits, digit < 16 := by
    intro digit hdigit
    obtain ⟨c, hc⟩ := hvalues digit hdigit
    exact hexValue?_lt hc
  calc ofDigits 16 digits
      < Nat.pow 16 digits.length := ofDigits_lt digits hsmall
    _ ≤ Nat.pow 16 text.length := Nat.pow_le_pow_right (by decide) (by omega)

end Text

namespace Uuid

/-- A text is read as an identifier exactly if 32 characters are left of it and they are read as
the number of the identifier. -/
theorem ofChars?_eq_some_iff {text : List Char} {uuid : Uuid} :
    ofChars? text = some uuid ↔
      (bare text).length = 32 ∧ Text.readHex? (bare text) = some uuid.value := by
  simp only [ofChars?]
  split
  · next hlength =>
    constructor
    · intro h
      obtain ⟨number, hread, hnumber⟩ := Option.bind_eq_some_iff.1 h
      unfold ofNat? at hnumber
      split at hnumber
      · obtain rfl := Option.some.inj hnumber
        exact ⟨hlength, hread⟩
      · exact absurd hnumber (by simp)
    · rintro ⟨-, hread⟩
      rw [hread]
      exact dif_pos uuid.small
  · next hlength => exact ⟨fun h => absurd h (by simp), fun h => absurd h.1 hlength⟩

/-- A text is refused exactly if what is left of it has another length or is no number: the number
is never too large. -/
theorem ofChars?_eq_none_iff {text : List Char} :
    ofChars? text = none ↔
      ∀ number, Text.readHex? (bare text) = some number → (bare text).length ≠ 32 := by
  constructor
  · intro h number hread hlength
    have hsmall : number < Nat.pow 2 128 := by
      have hlt := Text.readHex?_lt hread
      rw [hlength] at hlt
      exact hlt
    have hsome : ofChars? text = some ⟨number, hsmall⟩ :=
      ofChars?_eq_some_iff.2 ⟨hlength, hread⟩
    exact absurd (h.symm.trans hsome) (by simp)
  · intro h
    refine Option.eq_none_iff_forall_ne_some.2 fun uuid hsome => ?_
    obtain ⟨hlength, hread⟩ := ofChars?_eq_some_iff.1 hsome
    exact h _ hread hlength

end Uuid

/-! ## Names of records -/

namespace Key

/-- The name of a record is read as an identifier or is no key. -/
theorem identifier_eq (key : Key) :
    key.identifier =
      match Uuid.ofText? key.name with
      | some uuid => .ok uuid
      | none => .error (.unreadableKey (.text key.name)) := by
  cases htext : Uuid.ofText? key.name <;> simp only [identifier, identifierOf, htext]

/-- **Reading a key undoes writing it.** Whatever the kind, every spelling of an identifier is read
as that identifier, the key that a record is stored under among them. Any other name is read as the
number that is left of it, and the text of that identifier is read as the identifier again; or else
it is refused as no key, which happens only if it holds a surrogate or there is no such number. -/
theorem identifier_undoes_writing :
    (∀ (uuid : Uuid) (spelling : uuid.Spelling) (kind : Text),
      (⟨kind, spelling.text⟩ : Key).identifier = .ok uuid) ∧
    (∀ (record : Record) (uuid : Uuid) (kind : Text), record.key = .uuid uuid →
      ∃ key, record.storageKey (.text kind) = .ok key ∧ key.kind = kind ∧
        key.identifier = .ok uuid) ∧
    ∀ key : Key,
      (∃ uuid : Uuid, key.identifier = .ok uuid ∧ uuid.value < Nat.pow 2 128 ∧
        (∃ chars, key.name.chars? = some chars ∧
          Text.readHex? (Uuid.bare chars) = some uuid.value) ∧
        ∀ kind, (⟨kind, uuid.text⟩ : Key).identifier = .ok uuid) ∨
      (key.identifier = .error (.unreadableKey (.text key.name)) ∧
        ∀ chars number, key.name.chars? = some chars →
          Text.readHex? (Uuid.bare chars) = some number → (Uuid.bare chars).length ≠ 32) := by
  refine ⟨fun uuid spelling kind => ?_, fun record uuid kind hkey => ?_, fun key => ?_⟩
  · simp only [identifier_eq, spelling.ofText?_text]
  · refine ⟨_, Record.storageKey_of_key hkey kind, rfl, ?_⟩
    simp only [identifier_eq, Uuid.ofText?_text]
  · rw [identifier_eq]
    cases hread : Uuid.ofText? key.name with
    | some uuid =>
      obtain ⟨chars, hchars, hplain⟩ := Option.bind_eq_some_iff.1 hread
      obtain ⟨-, hnumber⟩ := Uuid.ofChars?_eq_some_iff.1 hplain
      refine .inl ⟨uuid, rfl, uuid.small, ⟨chars, hchars, hnumber⟩, fun kind => ?_⟩
      simp only [identifier_eq, Uuid.ofText?_text]
    | none =>
      refine .inr ⟨rfl, fun chars number hchars => ?_⟩
      rw [Uuid.ofText?, hchars, Option.bind_some] at hread
      exact Uuid.ofChars?_eq_none_iff.1 hread number

/-- An identifier with letters among its digits. -/
def letteredUuid : Uuid := ⟨0x00a1b2c3d4e5f60718293a4b5c6d7e8f, by decide⟩

/-- The identifier in capitals but for some letters, with odd hyphens, in braces and after the
mark. -/
def letteredSpelling : letteredUuid.Spelling where
  isMarked := true
  front := "\x7b\x7b".toList
  body := "00A1-b2C3D4E5F6-07--18293A4b5C6D7E8F".toList
  back := "\x7d".toList
  isBrace_front := List.all_eq_true.1 (by decide)
  isBrace_back := List.all_eq_true.1 (by decide)
  isCaseOf_digits := by decide +kernel

/-- A record with that identifier as its key and nothing else. -/
def letteredBlob : Blob := { Blob.empty with key := some letteredUuid }

theorem identifier_letteredSpelling :
    letteredSpelling.text = "urn:uuid:\x7b\x7b00A1-b2C3D4E5F6-07--18293A4b5C6D7E8F\x7d" ∧
    (⟨"blob", letteredSpelling.text⟩ : Key).identifier = .ok letteredUuid ∧
    ∃ key, letteredBlob.toRecord.storageKey (.text "blob") = .ok key ∧ key.kind = "blob" ∧
      key.identifier = .ok letteredUuid := by
  obtain ⟨hspelled, hstored, -⟩ := identifier_undoes_writing
  exact ⟨by decide, hspelled letteredUuid letteredSpelling "blob",
    hstored letteredBlob.toRecord letteredUuid "blob" rfl⟩

end Key

end BlobCatalog
