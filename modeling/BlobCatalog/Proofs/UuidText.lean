import BlobCatalog.Proofs.FixedDigits
import BlobCatalog.Uuid

/-!
# Reading the text of an identifier

The name of a stored record is the text of its key, and a signature is stored as text too. Reading
such a text gives the identifier back (`Uuid.ofText?_text`), although the reader is liberal: the
written form holds no mark, no brace, no blank and no sign that the reader would drop. Two different
identifiers therefore have different texts (`Uuid.text_injective`).
-/

namespace BlobCatalog

open Text (hexDigit trim)

/-! ## Steps of the reader that leave a text as it is -/

namespace Text

theorem trimEnd_eq_self {blank : Char → Bool} {text : List Char}
    (h : ∀ c ∈ text, blank c = false) : trimEnd blank text = text := by
  have hrev : text.reverse.dropWhile blank = text.reverse := by
    cases hr : text.reverse with
    | nil => rfl
    | cons c rest =>
      have hc : c ∈ text := List.mem_reverse.1 (hr ▸ List.mem_cons_self)
      rw [List.dropWhile_cons_of_neg (by simp [h c hc])]
  rw [trimEnd, hrev, List.reverse_reverse]

/-- A text without characters of a class is not trimmed. -/
theorem trim_eq_self {blank : Char → Bool} {text : List Char}
    (h : ∀ c ∈ text, blank c = false) : trim blank text = text := by
  have hfront : text.dropWhile blank = text := by
    cases text with
    | nil => rfl
    | cons c rest => rw [List.dropWhile_cons_of_neg (by simp [h c List.mem_cons_self])]
  rw [trim, hfront, trimEnd_eq_self h]

/-- A text whose second character is no `x` carries no mark of base sixteen. -/
theorem dropHexMark_eq_self {text : List Char} (h : ∀ c ∈ text, c ≠ 'x' ∧ c ≠ 'X') :
    dropHexMark text = text := by
  match text with
  | [] => rfl
  | [_] => rfl
  | first :: mark :: rest =>
    have hmark := h mark (by simp)
    simp [dropHexMark, hmark.1, hmark.2]

theorem hexDigit_plain : ∀ value < 16, isBlank (hexDigit value) = false ∧
    hexDigit value ≠ '+' ∧ hexDigit value ≠ 'x' ∧ hexDigit value ≠ 'X' := by
  decide

/-- Digits without blanks, signs and marks of base sixteen are read as their number. -/
theorem readHex?_of_plain {text : List Char} {digits : List Nat}
    (hplain : ∀ c ∈ text, isBlank c = false ∧ c ≠ '+' ∧ c ≠ 'x' ∧ c ≠ 'X')
    (h : groupedDigits? hexValue? text = some digits) :
    readHex? text = some (ofDigits 16 digits) := by
  have htrim : trim isBlank text = text := trim_eq_self fun c hc => (hplain c hc).1
  have hmark : dropHexMark text = text := dropHexMark_eq_self fun c hc => (hplain c hc).2.2
  unfold readHex?
  rw [htrim]
  -- The sign is looked for at the front, where a digit stands.
  split
  · next rest => exact absurd rfl (hplain '+' List.mem_cons_self).2.1
  · simp [hmark, h]

/-- A padded hexadecimal is read as the number it was written for. -/
theorem readHex?_paddedHex {width number : Nat} (hwidth : 0 < width)
    (h : number < Nat.pow 16 width) : readHex? (paddedHex width number) = some number := by
  have hplain : ∀ c ∈ paddedHex width number,
      isBlank c = false ∧ c ≠ '+' ∧ c ≠ 'x' ∧ c ≠ 'X' := by
    intro c hc
    obtain ⟨value, hvalue, rfl⟩ := exists_of_mem_paddedHex hc
    exact hexDigit_plain value hvalue
  rw [readHex?_of_plain hplain (groupedDigits?_paddedHex hwidth),
    ofDigits_fixedDigits 16 width number h]

end Text

namespace Uuid

theorem afterMark?_eq_none {wanted c : Char} {mark text : List Char} (h : c ≠ wanted) :
    afterMark? (wanted :: mark) (c :: text) = none := by
  simp [afterMark?, h]

/-- A mark is not dropped from a text without its first character. -/
theorem dropMark_eq_self {wanted : Char} {mark text : List Char} (h : wanted ∉ text) :
    dropMark (wanted :: mark) text = text := by
  induction text with
  | nil => rw [dropMark]
  | cons c rest ih =>
    have hc : c ≠ wanted := fun hc => h (hc ▸ List.mem_cons_self)
    have hrest : wanted ∉ rest := fun hr => h (List.mem_cons_of_mem _ hr)
    rw [dropMark]
    split
    · next hfound => simp [afterMark?_eq_none hc] at hfound
    · rw [ih hrest]

/-! ## The written form -/

theorem mem_hyphenated {digits : List Char} {c : Char} (h : c ∈ hyphenated digits) :
    c ∈ digits ∨ c = '-' := by
  have hdrop : ∀ {count : Nat}, c ∈ digits.drop count → c ∈ digits := List.mem_of_mem_drop
  simp only [hyphenated, List.mem_append, List.mem_cons] at h
  rcases h with h | h | h | h | h | h | h | h | h
  · exact .inl (List.mem_of_mem_take h)
  · exact .inr h
  · exact .inl (hdrop (List.mem_of_mem_take h))
  · exact .inr h
  · exact .inl (hdrop (List.mem_of_mem_take h))
  · exact .inr h
  · exact .inl (hdrop (List.mem_of_mem_take h))
  · exact .inr h
  · exact .inl (hdrop h)

/-- The hyphens of the written form are all that is added to the digits. -/
theorem filter_hyphenated {digits : List Char} (h : '-' ∉ digits) :
    (hyphenated digits).filter (· != '-') = digits := by
  have hkeep : ∀ piece : List Char, (∀ c ∈ piece, c ∈ digits) →
      piece.filter (· != '-') = piece := by
    intro piece hpiece
    refine List.filter_eq_self.2 fun c hc => ?_
    simpa using fun hdash : c = '-' => h (hdash ▸ hpiece c hc)
  have htake : ∀ {start count : Nat} (c : Char), c ∈ (digits.drop start).take count →
      c ∈ digits := fun _ hc => List.mem_of_mem_drop (List.mem_of_mem_take hc)
  -- The five groups put together are all the digits.
  have hsplit : digits.take 8 ++ ((digits.drop 8).take 4 ++ ((digits.drop 12).take 4 ++
      ((digits.drop 16).take 4 ++ digits.drop 20))) = digits := by
    have h16 := List.take_append_drop 4 (digits.drop 16)
    have h12 := List.take_append_drop 4 (digits.drop 12)
    have h8 := List.take_append_drop 4 (digits.drop 8)
    rw [List.drop_drop] at h16 h12 h8
    rw [h16, h12, h8, List.take_append_drop]
  simp only [hyphenated, List.filter_append, List.filter_cons, bne_self_eq_false,
    Bool.false_eq_true, if_false]
  rw [hkeep _ fun c hc => List.mem_of_mem_take hc, hkeep _ htake, hkeep _ htake, hkeep _ htake,
    hkeep _ fun c hc => List.mem_of_mem_drop hc, hsplit]

theorem hexDigit_unmarked : ∀ value < 16, hexDigit value ≠ '-' ∧ hexDigit value ≠ 'u' ∧
    isBrace (hexDigit value) = false := by
  decide

/-- The characters of an identifier's text are digits and hyphens: none of them is a brace or
begins a mark. -/
theorem plain_of_mem_chars {uuid : Uuid} {c : Char} (h : c ∈ uuid.chars) :
    c ≠ 'u' ∧ isBrace c = false := by
  rcases mem_hyphenated h with h | rfl
  · obtain ⟨value, hvalue, rfl⟩ := Text.exists_of_mem_paddedHex h
    exact (hexDigit_unmarked value hvalue).2
  · decide

/-- What the reader keeps of an identifier's text is its digits. -/
theorem bare_chars (uuid : Uuid) : bare uuid.chars = uuid.digits := by
  have hu : 'u' ∉ uuid.chars := fun h => (plain_of_mem_chars h).1 rfl
  have hdash : '-' ∉ uuid.digits := by
    intro h
    obtain ⟨value, hvalue, heq⟩ := Text.exists_of_mem_paddedHex h
    exact (hexDigit_unmarked value hvalue).1 heq
  -- Both marks begin with a letter that is no hexadecimal digit.
  have hurn : dropMark "urn:".toList uuid.chars = uuid.chars := dropMark_eq_self hu
  have huuid : dropMark "uuid:".toList uuid.chars = uuid.chars := dropMark_eq_self hu
  have htrim : trim isBrace uuid.chars = uuid.chars :=
    Text.trim_eq_self fun c hc => (plain_of_mem_chars hc).2
  simp only [bare, hurn, huuid, htrim]
  exact filter_hyphenated hdash

/-- **The text of an identifier is read as that identifier.** -/
theorem ofText?_text (uuid : Uuid) : ofText? uuid.text = some uuid := by
  have hread : Text.readHex? uuid.digits = some uuid.value :=
    Text.readHex?_paddedHex (by decide) uuid.small
  have hnat : ofNat? uuid.value = some uuid := by simp [ofNat?, uuid.small]
  have hlength : uuid.digits.length = 32 := Text.length_paddedHex 32 uuid.value
  rw [ofText?, Text.chars?_ofString, text, String.toList_ofList, Option.bind_some]
  simp only [ofChars?, bare_chars, hlength, if_true, hread]
  exact hnat

/-- Different identifiers have different texts. -/
theorem text_injective : Function.Injective text := by
  intro left right h
  have hread := ofText?_text left
  rw [h, ofText?_text right] at hread
  exact (Option.some.inj hread).symm

@[simp] theorem text_inj {left right : Uuid} : left.text = right.text ↔ left = right :=
  ⟨fun h => text_injective h, fun h => h ▸ rfl⟩

end Uuid

end BlobCatalog
