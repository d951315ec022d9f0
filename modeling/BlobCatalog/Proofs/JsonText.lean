import BlobCatalog.Proofs.UuidText
import BlobCatalog.Text.Json
import Mathlib.Data.Bool.AllAny

/-!
# What the text of a tree tells

A tree without numbers that are kept as text is `Json.IsExact`. Its text has printable ASCII
characters only (`Json.IsExact.isAscii`), so it stands on one line. It shows a character beyond the
basic plane as two surrogates and so leaves open which of the two a text holds: two such trees have
one text exactly if they are the same in units of sixteen bits (`Json.chars_inj`). Texts that are
strings are the same in units only if they are the same (`Text.inUnits_ofString`).

The text is read back with a rest behind it: the rest, too, is determined
(`Json.IsExact.determines`), so that a part of a text cannot reach into the next one. A unit
in a string is read back from its escape (`Json.readPoint?_stringPoint`), a string ends at the first
quote that is not escaped, and an integer ends before the first character that is neither a digit
nor a sign, which every rest inside a tree begins with.
-/

namespace BlobCatalog

/-! ## Units of sixteen bits -/

namespace Point

/-- A code point in units of sixteen bits: a character beyond the basic plane is two surrogates. -/
def inUnits : Point → List Point
  | char c =>
    if c.toNat < 0x10000 then [char c]
    else
      let rest := c.toNat - 0x10000
      [surrogate (Fin.ofNat 0x800 (rest / 0x400)),
        surrogate (Fin.ofNat 0x800 (0x400 + rest % 0x400))]
  | surrogate place => [surrogate place]

/-- The code point with a number. -/
def ofCode (code : Nat) : Point :=
  if 0xd800 ≤ code ∧ code < 0xe000 then surrogate (Fin.ofNat 0x800 (code - 0xd800))
  else char (Char.ofNat code)

theorem ofCode_code (point : Point) : ofCode point.code = point := by
  cases point with
  | char c =>
    have hvalid : c.toNat < 0xd800 ∨ 0xdfff < c.toNat ∧ c.toNat < 0x110000 := c.valid
    rw [ofCode, code, if_neg (by omega), Char.ofNat_toNat]
  | surrogate place =>
    have hplace := place.isLt
    rw [ofCode, code, if_pos (by omega), Nat.add_sub_cancel_left]
    exact congrArg surrogate (Fin.ofNat_val_eq_self place)

/-- The number of a unit has sixteen bits. -/
theorem code_lt_of_mem_inUnits {point unit : Point} (h : unit ∈ point.inUnits) :
    unit.code < 0x10000 := by
  cases point with
  | char c =>
    rw [inUnits] at h
    split at h
    · rwa [List.mem_singleton.1 h]
    · rcases List.mem_cons.1 h with rfl | hsecond
      · exact Nat.lt_trans (Nat.add_lt_add_left (Fin.isLt _) _) (by decide)
      · rw [List.mem_singleton.1 hsecond]
        exact Nat.lt_trans (Nat.add_lt_add_left (Fin.isLt _) _) (by decide)
  | surrogate place =>
    rw [List.mem_singleton.1 h]
    exact Nat.lt_trans (Nat.add_lt_add_left place.isLt _) (by decide)

/-- The units of a character at the front determine it. -/
theorem inUnits_append_inj {left right : Char} {leftRest rightRest : List Point}
    (h : (char left).inUnits ++ leftRest = (char right).inUnits ++ rightRest) :
    left = right ∧ leftRest = rightRest := by
  have hleft : left.toNat < 0xd800 ∨ 0xdfff < left.toNat ∧ left.toNat < 0x110000 := left.valid
  have hright : right.toNat < 0xd800 ∨ 0xdfff < right.toNat ∧ right.toNat < 0x110000 := right.valid
  simp only [inUnits] at h
  split at h <;> split at h
  · simpa using h
  · simp at h
  · simp at h
  · simp only [List.cons_append, List.nil_append, List.cons.injEq, surrogate.injEq, Fin.ext_iff,
      Fin.val_ofNat] at h
    obtain ⟨hhigh, hlow, hrest⟩ := h
    exact ⟨Char.toNat_inj.1 (by omega), hrest⟩

end Point

namespace Text

/-- A text in units of sixteen bits. -/
def inUnits (text : Text) : Text := ⟨text.points.flatMap Point.inUnits⟩

/-- Strings are the same in units only if they are the same. -/
@[simp] theorem inUnits_ofString {left right : String} :
    (ofString left).inUnits = (ofString right).inUnits ↔ left = right := by
  refine ⟨fun hsame => ?_, fun hsame => by rw [hsame]⟩
  have hunits := congrArg points hsame
  simp only [inUnits, points_ofString] at hunits
  rw [← String.toList_inj]
  generalize left.toList = first at hunits
  generalize right.toList = second at hunits
  have hne : ∀ c : Char, (Point.char c).inUnits ≠ [] := by
    intro c
    simp only [Point.inUnits]
    split <;> exact List.cons_ne_nil _ _
  induction first generalizing second with
  | nil =>
    cases second with
    | nil => rfl
    | cons d second => simp [hne] at hunits
  | cons c first ih =>
    cases second with
    | nil => simp [hne] at hunits
    | cons d second =>
      obtain ⟨rfl, hrest⟩ := Point.inUnits_append_inj hunits
      rw [ih second hrest]

/-! ## Integers -/

/-- The digits of a number stand for it. -/
theorem ofDigits_digitsOf (base number : Nat) : ofDigits base (digitsOf base number) = number := by
  fun_induction digitsOf base number with
  | case1 number _ => simp [ofDigits]
  | case2 number _ ih => rw [ofDigits_append, ih, Nat.div_add_mod]

theorem lt_of_mem_digitsOf {base number digit : Nat} (hbase : 1 < base)
    (h : digit ∈ digitsOf base number) : digit < base := by
  fun_induction digitsOf base number with
  | case1 number hstop => simp at h; omega
  | case2 number _ ih =>
    rcases List.mem_append.1 h with hfront | hlast
    · exact ih hfront
    · exact List.mem_singleton.1 hlast ▸ Nat.mod_lt _ (by omega)

theorem decimalChars_injective : Function.Injective decimalChars := by
  intro left right hsame
  have hread : ∀ number, ofDigits 10 ((decimalChars number).filterMap asciiDigit?) = number := by
    intro number
    rw [decimalChars, filterMap_asciiDigit?_map fun _ h => lt_of_mem_digitsOf (by decide) h,
      ofDigits_digitsOf]
  rw [← hread left, hsame, hread]

/-- A decimal has digits only. -/
theorem isDigit_of_mem_decimalChars {number : Nat} {c : Char} (h : c ∈ decimalChars number) :
    c.isDigit = true := by
  obtain ⟨digit, hdigit, rfl⟩ := List.mem_map.1 h
  exact isDigit_hexDigit digit (lt_of_mem_digitsOf (by decide) hdigit)

theorem decimalChars_ne_nil (number : Nat) : decimalChars number ≠ [] := by
  unfold decimalChars digitsOf
  split <;> simp

/-- The characters of a written integer: those of a decimal, or a sign before them. -/
theorem toList_integerText (value : Int) :
    (integerText value).toList =
      (if value < 0 then ['-'] else []) ++ decimalChars value.natAbs := by
  cases value with
  | ofNat number => simp [integerText, decimalText]
  | negSucc number => simp [integerText, decimalText, Int.negSucc_lt_zero]

/-- A character that a written integer may have. -/
def isNumeral (c : Char) : Bool := c.isDigit || c == '-'

theorem isNumeral_of_mem_integerText {value : Int} {c : Char}
    (h : c ∈ (integerText value).toList) : isNumeral c = true := by
  rw [toList_integerText] at h
  rcases List.mem_append.1 h with hsign | hdigit
  · have hminus : c = '-' := by
      split at hsign
      · exact List.mem_singleton.1 hsign
      · exact absurd hsign List.not_mem_nil
    simp [isNumeral, hminus]
  · simp [isNumeral, isDigit_of_mem_decimalChars hdigit]

theorem integerText_ne_nil (value : Int) : (integerText value).toList ≠ [] := by
  rw [toList_integerText]
  exact List.append_ne_nil_of_right_ne_nil _ (decimalChars_ne_nil _)

/-- Different integers have different texts. -/
theorem toList_integerText_injective :
    Function.Injective fun value => (integerText value).toList := by
  intro left right hsame
  simp only [toList_integerText] at hsame
  have hminus : ∀ number, '-' ∉ decimalChars number := fun number hmem =>
    absurd (isDigit_of_mem_decimalChars hmem) (by decide)
  -- the sign is the only character that is no digit, so both texts have it or neither has
  have hsign : left < 0 ↔ right < 0 := by
    have hmem := congrArg ('-' ∈ ·) hsame
    simpa [hminus] using hmem
  have hdigits : decimalChars left.natAbs = decimalChars right.natAbs := by
    simpa [hsign] using hsame
  have hsize := decimalChars_injective hdigits
  omega

/-- The rest begins with no character of an integer. -/
def EndsInteger (rest : List Char) : Prop := ∀ c ∈ rest.head?, isNumeral c = false

/-- The text of an integer determines it and the rest, if the rest does not go on with it. -/
theorem integerText_append_inj {left right : Int} {leftRest rightRest : List Char}
    (hleft : EndsInteger leftRest) (hright : EndsInteger rightRest)
    (h : (integerText left).toList ++ leftRest = (integerText right).toList ++ rightRest) :
    left = right ∧ leftRest = rightRest := by
  have hfront : ∀ (value : Int) {rest : List Char}, EndsInteger rest →
      ((integerText value).toList ++ rest).takeWhile isNumeral = (integerText value).toList :=
    fun _ _ hrest => takeWhile_append_of_head (fun _ hc => isNumeral_of_mem_integerText hc) hrest
  have hsame := congrArg (List.takeWhile isNumeral) h
  rw [hfront left hleft, hfront right hright] at hsame
  obtain rfl := toList_integerText_injective hsame
  exact ⟨rfl, List.append_cancel_left h⟩

namespace Json

/-! ## Strings -/

/-- The character that is written after a backslash, without the escapes of units. -/
def unescaped (c : Char) : Char :=
  if c = 'n' then '\n'
  else if c = 'r' then '\r'
  else if c = 't' then '\t'
  else if c = 'b' then Char.ofNat 0x8
  else if c = 'f' then Char.ofNat 0xc
  else c

/-- The unit that four digits at the front of a text write. -/
def readUnit (digits : List Char) : Nat := (readHex? (digits.take 4)).getD 0

/-- The first unit of the content of a string, and what follows its escape. -/
def readPoint? : List Char → Option (Point × List Char)
  | '\\' :: 'u' :: rest => some (.ofCode (readUnit rest), rest.drop 4)
  | '\\' :: c :: rest => some (.char (unescaped c), rest)
  | c :: rest => some (.char c, rest)
  | [] => none

theorem readUnit_paddedHex {unit : Nat} (h : unit < 0x10000) (rest : List Char) :
    readUnit (paddedHex 4 unit ++ rest) = unit := by
  rw [readUnit, List.take_left' (length_paddedHex 4 unit), readHex?_paddedHex (by decide) h,
    Option.getD_some]

/-- An escaped unit is read back. -/
theorem readPoint?_escapeUnit {point : Point} (h : point.code < 0x10000) (rest : List Char) :
    readPoint? (escapeUnit point.code ++ rest) = some (point, rest) := by
  rw [escapeUnit, List.cons_append, List.cons_append, readPoint?, readUnit_paddedHex h,
    List.drop_left' (length_paddedHex 4 point.code), Point.ofCode_code]

/-- A character that is no backslash is read as it stands. -/
theorem readPoint?_of_ne {c : Char} (h : c ≠ '\\') (rest : List Char) :
    readPoint? (c :: rest) = some (.char c, rest) := by
  unfold readPoint?
  split
  · next heq => exact absurd (List.cons.inj heq).1 h
  · next heq => exact absurd (List.cons.inj heq).1 h
  · next heq =>
    obtain ⟨rfl, rfl⟩ := List.cons.inj heq
    rfl
  · next heq => exact absurd heq (List.cons_ne_nil _ _)

theorem readPoint?_stringChar {c : Char} (h : c.toNat < 0x10000) (rest : List Char) :
    readPoint? (stringChar c ++ rest) = some (.char c, rest) := by
  have hcode : ∀ {code : Nat}, c.toNat = code → c = Char.ofNat code := fun h =>
    h ▸ (Char.ofNat_toNat c).symm
  unfold stringChar
  split_ifs with hquote hbackslash hline hreturn htab hbackspace hfeed hplain
  · rw [hquote]; rfl
  · rw [hbackslash]; rfl
  · rw [hline]; rfl
  · rw [hreturn]; rfl
  · rw [htab]; rfl
  · rw [hcode hbackspace]; rfl
  · rw [hcode hfeed]; rfl
  · exact readPoint?_of_ne hbackslash rest
  · have hunit : (Point.char c).code < 0x10000 := h
    rw [escapeCode, if_pos h]
    exact readPoint?_escapeUnit hunit rest

/-- **A unit is read back from how a string shows it.** -/
theorem readPoint?_stringPoint {point : Point} (h : point.code < 0x10000) (rest : List Char) :
    readPoint? (stringPoint point ++ rest) = some (point, rest) := by
  cases point with
  | char c => exact readPoint?_stringChar h rest
  | surrogate place => exact readPoint?_escapeUnit h rest

theorem stringPoint_append_inj {left right : Point} {leftRest rightRest : List Char}
    (hleft : left.code < 0x10000) (hright : right.code < 0x10000)
    (h : stringPoint left ++ leftRest = stringPoint right ++ rightRest) :
    left = right ∧ leftRest = rightRest := by
  have hread := congrArg readPoint? h
  rw [readPoint?_stringPoint hleft, readPoint?_stringPoint hright] at hread
  exact Prod.mk.inj (Option.some.inj hread)

/-- What a string shows of a unit does not begin with a quote. -/
theorem quote_ne_stringPoint {point : Point} (h : point.code < 0x10000) {rest more : List Char} :
    '"' :: rest ≠ stringPoint point ++ more := by
  intro hsame
  have hread := congrArg readPoint? hsame
  rw [readPoint?_of_ne (by decide), readPoint?_stringPoint h] at hread
  obtain rfl : .char '"' = point := (Prod.mk.inj (Option.some.inj hread)).1
  simp [stringPoint, stringChar] at hsame

/-- The content of a string in units ends at its quote. -/
theorem content_append_inj {left right : List Point} {leftRest rightRest : List Char}
    (hleft : ∀ unit ∈ left, unit.code < 0x10000) (hright : ∀ unit ∈ right, unit.code < 0x10000)
    (h : left.flatMap stringPoint ++ '"' :: leftRest =
      right.flatMap stringPoint ++ '"' :: rightRest) :
    left = right ∧ leftRest = rightRest := by
  induction left generalizing right with
  | nil =>
    cases right with
    | nil => exact ⟨rfl, (List.cons.inj h).2⟩
    | cons other right =>
      rw [List.flatMap_cons, List.append_assoc] at h
      exact absurd h (quote_ne_stringPoint (hright other List.mem_cons_self))
  | cons unit left ih =>
    rw [List.flatMap_cons, List.append_assoc] at h
    cases right with
    | nil => exact absurd h.symm (quote_ne_stringPoint (hleft unit List.mem_cons_self))
    | cons other right =>
      rw [List.flatMap_cons, List.append_assoc] at h
      obtain ⟨rfl, hrest⟩ := stringPoint_append_inj (hleft unit List.mem_cons_self)
        (hright other List.mem_cons_self) h
      obtain ⟨rfl, hends⟩ := ih (fun unit hunit => hleft unit (List.mem_cons_of_mem _ hunit))
        (fun unit hunit => hright unit (List.mem_cons_of_mem _ hunit)) hrest
      exact ⟨rfl, hends⟩

/-- A string shows a code point as it shows its units. -/
theorem flatMap_stringPoint_inUnits (point : Point) :
    point.inUnits.flatMap stringPoint = stringPoint point := by
  cases point with
  | surrogate place => simp [Point.inUnits]
  | char c =>
    rw [Point.inUnits]
    split
    · simp
    · next hplane =>
      have hvalid : c.toNat < 0xd800 ∨ 0xdfff < c.toNat ∧ c.toNat < 0x110000 := c.valid
      have hshown : stringChar c = escapeCode c.toNat := by
        have hne : ∀ d : Char, d.toNat < 0x10000 → c ≠ d := by
          rintro _ hsmall rfl
          exact hplane hsmall
        simp only [stringChar, hne '"' (by decide), hne '\\' (by decide), hne '\n' (by decide),
          hne '\r' (by decide), hne '\t' (by decide), if_false]
        rw [if_neg (by omega), if_neg (by omega), if_neg (by omega)]
      have hhigh : (c.toNat - 0x10000) / 0x400 % 0x800 = (c.toNat - 0x10000) / 0x400 := by omega
      have hlow : 0xd800 + (0x400 + (c.toNat - 0x10000) % 0x400) % 0x800 =
          0xdc00 + (c.toNat - 0x10000) % 0x400 := by omega
      simp only [List.flatMap_cons, List.flatMap_nil, List.append_nil, stringPoint, Point.code,
        Fin.val_ofNat, hhigh, hlow, hshown, escapeCode, if_neg hplane]

/-- A string shows a text as it shows its units. -/
theorem stringChars_inUnits (content : Text) :
    stringChars content.inUnits = stringChars content := by
  simp only [stringChars, inUnits, List.flatMap_assoc, flatMap_stringPoint_inUnits]

/-- The text of a string determines its units and the rest. -/
theorem stringChars_append_inj {left right : Text} {leftRest rightRest : List Char}
    (h : stringChars left ++ leftRest = stringChars right ++ rightRest) :
    left.inUnits = right.inUnits ∧ leftRest = rightRest := by
  rw [← stringChars_inUnits left, ← stringChars_inUnits right] at h
  simp only [stringChars, List.cons_append, List.append_assoc, List.nil_append, List.cons.injEq,
    true_and] at h
  have hunits : ∀ text : Text, ∀ unit ∈ text.inUnits.points, unit.code < 0x10000 := by
    intro text unit hunit
    obtain ⟨point, -, hmem⟩ := List.mem_flatMap.1 hunit
    exact Point.code_lt_of_mem_inUnits hmem
  obtain ⟨hcontent, hrest⟩ := content_append_inj (hunits left) (hunits right) h
  exact ⟨Text.ext hcontent, hrest⟩

/-! ## Joined texts -/

theorem joined_cons (first : List Char) (rest : List (List Char)) :
    joined (first :: rest) = first ++ rest.flatMap fun shown => ',' :: ' ' :: shown := by
  induction rest generalizing first with
  | nil => simp [joined]
  | cons second rest ih => simp [joined, ih]

/-- The text of a value determines a view of it among the good ones, and the rest with it. -/
def Determines {α : Type} (write : α → List Char) (view : α → α) (good : α → Prop) (left : α) :
    Prop :=
  ∀ right, good right → ∀ leftRest rightRest, EndsInteger leftRest → EndsInteger rightRest →
    write left ++ leftRest = write right ++ rightRest →
      view left = view right ∧ leftRest = rightRest

section Joined

variable {α : Type} {write : α → List Char} {view : α → α} {good : α → Prop} {close : Char}

theorem endsInteger_cons {c : Char} (h : isNumeral c = false) (rest : List Char) :
    EndsInteger (c :: rest) := by
  intro d hd
  exact Option.some.inj hd ▸ h

/-- Behind an item stands a comma or the closing mark. -/
theorem endsInteger_items (hclose : isNumeral close = false) (items : List α) (rest : List Char) :
    EndsInteger
      ((items.map write).flatMap (fun shown => ',' :: ' ' :: shown) ++ close :: rest) := by
  cases items with
  | nil => exact endsInteger_cons hclose rest
  | cons item items => exact endsInteger_cons (by decide) _

/-- Items behind a first one end at the closing mark. -/
theorem items_append_inj {left right : List α} {leftRest rightRest : List Char}
    (hclose : isNumeral close = false) (hcomma : close ≠ ',')
    (hleft : ∀ item ∈ left, Determines write view good item) (hright : ∀ item ∈ right, good item)
    (h : (left.map write).flatMap (fun shown => ',' :: ' ' :: shown) ++ close :: leftRest =
      (right.map write).flatMap (fun shown => ',' :: ' ' :: shown) ++ close :: rightRest) :
    left.map view = right.map view ∧ leftRest = rightRest := by
  induction left generalizing right with
  | nil =>
    cases right with
    | nil => exact ⟨rfl, (List.cons.inj h).2⟩
    | cons item right => exact absurd (List.cons.inj h).1 hcomma
  | cons item left ih =>
    cases right with
    | nil => exact absurd (List.cons.inj h).1.symm hcomma
    | cons other right =>
      simp only [List.map_cons, List.flatMap_cons, List.cons_append, List.append_assoc,
        List.cons.injEq, true_and] at h
      obtain ⟨hitem, hrest⟩ := hleft item List.mem_cons_self other (hright other List.mem_cons_self)
        _ _ (endsInteger_items hclose left leftRest) (endsInteger_items hclose right rightRest) h
      obtain ⟨hitems, hends⟩ := ih (fun item hitem => hleft item (List.mem_cons_of_mem _ hitem))
        (fun item hitem => hright item (List.mem_cons_of_mem _ hitem)) hrest
      exact ⟨by rw [List.map_cons, List.map_cons, hitem, hitems], hends⟩

/-- Joined items end at the closing mark. -/
theorem joined_append_inj {left right : List α} {leftRest rightRest : List Char}
    (hclose : isNumeral close = false) (hcomma : close ≠ ',')
    (hitem : ∀ item, good item → ∀ rest more, close :: rest ≠ write item ++ more)
    (hgood : ∀ item ∈ left, good item) (hleft : ∀ item ∈ left, Determines write view good item)
    (hright : ∀ item ∈ right, good item)
    (h : joined (left.map write) ++ close :: leftRest =
      joined (right.map write) ++ close :: rightRest) :
    left.map view = right.map view ∧ leftRest = rightRest := by
  cases left with
  | nil =>
    cases right with
    | nil => exact ⟨rfl, (List.cons.inj h).2⟩
    | cons other right =>
      rw [List.map_cons, joined_cons, List.append_assoc] at h
      exact absurd h (hitem other (hright other List.mem_cons_self) _ _)
  | cons item left =>
    rw [List.map_cons, joined_cons, List.append_assoc] at h
    cases right with
    | nil => exact absurd h.symm (hitem item (hgood item List.mem_cons_self) _ _)
    | cons other right =>
      rw [List.map_cons, joined_cons, List.append_assoc] at h
      obtain ⟨hsame, hrest⟩ := hleft item List.mem_cons_self other (hright other List.mem_cons_self)
        _ _ (endsInteger_items hclose left leftRest) (endsInteger_items hclose right rightRest) h
      obtain ⟨hitems, hends⟩ := items_append_inj hclose hcomma
        (fun item hitem => hleft item (List.mem_cons_of_mem _ hitem))
        (fun item hitem => hright item (List.mem_cons_of_mem _ hitem)) hrest
      exact ⟨by rw [List.map_cons, List.map_cons, hsame, hitems], hends⟩

end Joined

/-! ## Trees -/

/-- A tree without numbers that are kept as text. -/
inductive IsExact : Json → Prop where
  | null : IsExact null
  | boolean (value : Bool) : IsExact (boolean value)
  | integer (value : Int) : IsExact (integer value)
  | text (content : Text) : IsExact (text content)
  | array {items : List Json} (h : ∀ item ∈ items, IsExact item) : IsExact (array items)
  | object {members : List (String × Json)} (h : ∀ member ∈ members, IsExact member.2) :
    IsExact (object members)

/-- The text of a member of an object. -/
def memberText (member : String × Json) : List Char :=
  stringChars member.1 ++ ':' :: ' ' :: member.2.chars

theorem itemChars_eq_map (items : List Json) : itemChars items = items.map chars := by
  induction items with
  | nil => rfl
  | cons item items ih => rw [itemChars, ih, List.map_cons]

theorem memberChars_eq_map (members : List (String × Json)) :
    memberChars members = members.map memberText := by
  induction members with
  | nil => rfl
  | cons member members ih => rw [memberChars, ih, List.map_cons, memberText]

mutual

/-- A tree with its texts in units of sixteen bits. -/
def inUnits : Json → Json
  | text content => text content.inUnits
  | array items => array (itemsInUnits items)
  | object members => object (membersInUnits members)
  | null => null
  | boolean value => boolean value
  | integer value => integer value
  | number shown => number shown

/-- The items of an array with their texts in units. -/
def itemsInUnits : List Json → List Json
  | [] => []
  | item :: rest => item.inUnits :: itemsInUnits rest

/-- The members of an object with the texts of their values in units. -/
def membersInUnits : List (String × Json) → List (String × Json)
  | [] => []
  | (name, value) :: rest => (name, value.inUnits) :: membersInUnits rest

end

theorem itemsInUnits_eq_map (items : List Json) : itemsInUnits items = items.map inUnits := by
  induction items with
  | nil => rfl
  | cons item items ih => rw [itemsInUnits, ih, List.map_cons]

/-- A member of an object with the texts of its value in units. -/
def memberInUnits (member : String × Json) : String × Json := (member.1, member.2.inUnits)

theorem membersInUnits_eq_map (members : List (String × Json)) :
    membersInUnits members = members.map memberInUnits := by
  induction members with
  | nil => rfl
  | cons member members ih => rw [membersInUnits, ih, List.map_cons, memberInUnits]

/-- The character that the text of a tree begins with, a zero for all integers. -/
def mark : Json → Char
  | null => 'n'
  | boolean value => if value then 't' else 'f'
  | integer _ => '0'
  | number _ => '0'
  | text _ => '"'
  | array _ => '['
  | object _ => '{'

/-- A first character as a mark. -/
def markOf (c : Char) : Char := if isNumeral c then '0' else c

/-- The text of a tree begins with its mark. -/
theorem IsExact.exists_chars {tree : Json} (h : tree.IsExact) :
    ∃ first rest, tree.chars = first :: rest ∧ markOf first = tree.mark := by
  cases h with
  | null => exact ⟨'n', _, by rw [chars]; rfl, rfl⟩
  | boolean value =>
    cases value with
    | true => exact ⟨'t', _, by rw [chars]; rfl, rfl⟩
    | false => exact ⟨'f', _, by rw [chars]; rfl, rfl⟩
  | integer value =>
    obtain ⟨first, rest, hcons⟩ := List.exists_cons_of_ne_nil (integerText_ne_nil value)
    have hnumeral : isNumeral first = true :=
      isNumeral_of_mem_integerText (hcons ▸ List.mem_cons_self)
    exact ⟨first, rest, by rw [chars, hcons], by rw [markOf, hnumeral, if_pos rfl, mark]⟩
  | text content => exact ⟨'"', _, by rw [chars, stringChars], rfl⟩
  | array hitems => exact ⟨'[', _, by rw [chars], rfl⟩
  | object hmembers => exact ⟨'{', _, by rw [chars], rfl⟩

/-- The closing mark of an array begins no text of a tree. -/
theorem IsExact.close_ne {tree : Json} (h : tree.IsExact) (rest more : List Char) :
    ']' :: rest ≠ tree.chars ++ more := by
  intro hsame
  obtain ⟨first, shown, hchars, hmark⟩ := h.exists_chars
  rw [hchars] at hsame
  obtain rfl : ']' = first := (List.cons.inj hsame).1
  have hne : tree.mark ≠ ']' := by
    cases tree with
    | boolean value => cases value <;> simp [mark]
    | _ => simp [mark]
  exact hne hmark.symm

/-- Two trees of one constructor, which is one truth value for truth values. -/
inductive SameKind : Json → Json → Prop where
  | null : SameKind null null
  | boolean (value : Bool) : SameKind (boolean value) (boolean value)
  | integer (value other : Int) : SameKind (integer value) (integer other)
  | text (content other : Text) : SameKind (text content) (text other)
  | array (items others : List Json) : SameKind (array items) (array others)
  | object (members others : List (String × Json)) : SameKind (object members) (object others)

/-- Trees whose texts begin alike are of one kind. -/
theorem IsExact.sameKind {left right : Json} {leftRest rightRest : List Char} (hleft : left.IsExact)
    (hright : right.IsExact) (h : left.chars ++ leftRest = right.chars ++ rightRest) :
    SameKind left right := by
  obtain ⟨first, rest, hchars, hmark⟩ := hleft.exists_chars
  obtain ⟨other, more, hcharsOther, hmarkOther⟩ := hright.exists_chars
  rw [hchars, hcharsOther] at h
  obtain rfl : first = other := (List.cons.inj h).1
  have hsame : left.mark = right.mark := hmark.symm.trans hmarkOther
  clear hchars hcharsOther hmark hmarkOther h
  -- the marks of two kinds differ, and so do those of the two truth values
  cases hleft with
  | boolean value =>
    cases hright with
    | boolean other =>
      obtain rfl : value = other := by cases value <;> cases other <;> simp [mark] at hsame ⊢
      exact .boolean value
    | _ => cases value <;> simp [mark] at hsame
  | _ =>
    cases hright with
    | boolean other => cases other <;> simp [mark] at hsame
    | _ => first | constructor | simp [mark] at hsame

/-- The text of a member determines it, if that of its value does. -/
theorem determines_memberText {member : String × Json}
    (h : Determines chars inUnits IsExact member.2) :
    Determines memberText memberInUnits (fun other => other.2.IsExact) member := by
  intro other hother leftRest rightRest hleft hright hsame
  simp only [memberText, List.append_assoc] at hsame
  obtain ⟨hname, hvalue⟩ := stringChars_append_inj hsame
  simp only [List.cons_append, List.cons.injEq, true_and] at hvalue
  obtain ⟨hsameValue, hrest⟩ := h other.2 hother leftRest rightRest hleft hright hvalue
  exact ⟨Prod.ext (inUnits_ofString.1 hname) hsameValue, hrest⟩

/-- **The text of a tree determines it in units, and the rest.** -/
theorem IsExact.determines {tree : Json} (h : tree.IsExact) :
    Determines chars inUnits IsExact tree := by
  -- The first character tells the constructor, and the parts tell where the text ends.
  induction h with
  | null =>
    intro right hright leftRest rightRest _ _ hsame
    cases IsExact.null.sameKind hright hsame
    exact ⟨rfl, List.append_cancel_left hsame⟩
  | boolean value =>
    intro right hright leftRest rightRest _ _ hsame
    cases (IsExact.boolean value).sameKind hright hsame
    exact ⟨rfl, List.append_cancel_left hsame⟩
  | integer value =>
    intro right hright leftRest rightRest hleftRest hrightRest hsame
    cases (IsExact.integer value).sameKind hright hsame
    simp only [chars] at hsame
    obtain ⟨rfl, hrest⟩ := integerText_append_inj hleftRest hrightRest hsame
    exact ⟨rfl, hrest⟩
  | text content =>
    intro right hright leftRest rightRest _ _ hsame
    cases (IsExact.text content).sameKind hright hsame
    simp only [chars] at hsame
    obtain ⟨hunits, hrest⟩ := stringChars_append_inj hsame
    exact ⟨by rw [inUnits, inUnits, hunits], hrest⟩
  | @array items hitems ih =>
    intro right hright leftRest rightRest _ _ hsame
    cases (IsExact.array hitems).sameKind hright hsame
    cases hright with
    | array hothers =>
      simp only [chars, itemChars_eq_map, List.cons_append, List.append_assoc, List.nil_append,
        List.cons.injEq, true_and] at hsame
      obtain ⟨hunits, hrest⟩ := joined_append_inj (by decide) (by decide)
        (fun item hitem => hitem.close_ne) hitems ih hothers hsame
      exact ⟨by simp only [inUnits, itemsInUnits_eq_map, hunits], hrest⟩
  | @object members hmembers ih =>
    intro right hright leftRest rightRest _ _ hsame
    cases (IsExact.object hmembers).sameKind hright hsame
    cases hright with
    | object hothers =>
      simp only [chars, memberChars_eq_map, List.cons_append, List.append_assoc, List.nil_append,
        List.cons.injEq, true_and] at hsame
      have hbrace : ∀ member : String × Json, ∀ rest more,
          '}' :: rest ≠ memberText member ++ more := by
        intro member rest more hclose
        simp [memberText, stringChars] at hclose
      obtain ⟨hunits, hrest⟩ := joined_append_inj (by decide) (by decide)
        (fun member _ => hbrace member) hmembers
        (fun member hmember => determines_memberText (ih member hmember)) hothers hsame
      exact ⟨by simp only [inUnits, membersInUnits_eq_map, hunits], hrest⟩

/-- A tree in units has the text of the tree. -/
theorem IsExact.chars_inUnits {tree : Json} (h : tree.IsExact) :
    tree.inUnits.chars = tree.chars := by
  induction h with
  | null => rfl
  | boolean value => rfl
  | integer value => rfl
  | text content => simp only [inUnits, chars, stringChars_inUnits]
  | @array items _ ih =>
    have hitems : items.map (chars ∘ inUnits) = items.map chars := List.map_congr_left ih
    simp only [inUnits, chars, itemChars_eq_map, itemsInUnits_eq_map, List.map_map, hitems]
  | @object members _ ih =>
    have hmembers : members.map (memberText ∘ memberInUnits) = members.map memberText := by
      refine List.map_congr_left fun member hmember => ?_
      simp only [Function.comp_apply, memberText, memberInUnits, ih member hmember]
    simp only [inUnits, chars, memberChars_eq_map, membersInUnits_eq_map, List.map_map, hmembers]

/-- **Trees have one text exactly if they are the same in units.** -/
theorem chars_inj {left right : Json} (hleft : left.IsExact) (hright : right.IsExact) :
    left.chars = right.chars ↔ left.inUnits = right.inUnits := by
  have hnil : EndsInteger [] := fun c hc => by simp at hc
  constructor
  · intro hsame
    exact (hleft.determines right hright [] [] hnil hnil (by rw [hsame])).1
  · intro hsame
    rw [← hleft.chars_inUnits, hsame, hright.chars_inUnits]

theorem render_inj {left right : Json} (hleft : left.IsExact) (hright : right.IsExact) :
    left.render = right.render ↔ left.inUnits = right.inUnits := by
  rw [render, render, String.ofList_inj, chars_inj hleft hright]

/-! ## Printable characters -/

/-- The character is printable and in ASCII. -/
def IsAscii (c : Char) : Prop := 0x20 ≤ c.toNat ∧ c.toNat < 0x7f

instance (c : Char) : Decidable (IsAscii c) := inferInstanceAs (Decidable (_ ∧ _))

theorem isAscii_hexDigit : ∀ value < 16, IsAscii (hexDigit value) := by
  decide

theorem isAscii_of_isNumeral {c : Char} (h : isNumeral c = true) : IsAscii c := by
  simp only [isNumeral, Bool.or_eq_true, beq_iff_eq] at h
  rcases h with hdigit | rfl
  · simp only [Char.isDigit, Bool.and_eq_true, decide_eq_true_eq, ge_iff_le,
      UInt32.le_iff_toNat_le] at hdigit
    exact ⟨Nat.le_trans (by decide) hdigit.1, Nat.lt_of_le_of_lt hdigit.2 (by decide)⟩
  · decide

theorem isAscii_of_mem_escapeUnit {unit : Nat} {c : Char} (h : c ∈ escapeUnit unit) :
    IsAscii c := by
  rcases List.mem_cons.1 h with rfl | hmark
  · decide
  · rcases List.mem_cons.1 hmark with rfl | hdigits
    · decide
    · obtain ⟨value, hvalue, rfl⟩ := exists_of_mem_paddedHex hdigits
      exact isAscii_hexDigit value hvalue

/-- A backslash and a letter. -/
theorem isAscii_of_mem_pair {letter c : Char} (hletter : IsAscii letter) (h : c ∈ ['\\', letter]) :
    IsAscii c := by
  rcases List.mem_cons.1 h with rfl | hlast
  · decide
  · exact List.mem_singleton.1 hlast ▸ hletter

/-- A string shows each character in printable ones. -/
theorem isAscii_of_mem_stringChar {c shown : Char} (h : shown ∈ stringChar c) : IsAscii shown := by
  unfold stringChar at h
  split_ifs at h with hquote hbackslash hline hreturn htab hbackspace hfeed hplain
  · exact isAscii_of_mem_pair (by decide) h
  · exact isAscii_of_mem_pair (by decide) h
  · exact isAscii_of_mem_pair (by decide) h
  · exact isAscii_of_mem_pair (by decide) h
  · exact isAscii_of_mem_pair (by decide) h
  · exact isAscii_of_mem_pair (by decide) h
  · exact isAscii_of_mem_pair (by decide) h
  · exact List.mem_singleton.1 h ▸ hplain
  · unfold escapeCode at h
    split at h
    · exact isAscii_of_mem_escapeUnit h
    · exact (List.mem_append.1 h).elim isAscii_of_mem_escapeUnit isAscii_of_mem_escapeUnit

theorem isAscii_of_mem_stringPoint {point : Point} {shown : Char} (h : shown ∈ stringPoint point) :
    IsAscii shown := by
  cases point with
  | char c => exact isAscii_of_mem_stringChar h
  | surrogate place => exact isAscii_of_mem_escapeUnit h

theorem isAscii_of_mem_stringChars {content : Text} {c : Char} (h : c ∈ stringChars content) :
    IsAscii c := by
  simp only [stringChars, List.mem_cons, List.mem_append, List.mem_flatMap, List.not_mem_nil,
    or_false] at h
  rcases h with rfl | ⟨shown, _, hmem⟩ | rfl
  · decide
  · exact isAscii_of_mem_stringPoint hmem
  · decide

/-- Joining adds commas and blanks only. -/
theorem isAscii_of_mem_joined {texts : List (List Char)} {c : Char}
    (htexts : ∀ shown ∈ texts, c ∈ shown → IsAscii c) (h : c ∈ joined texts) : IsAscii c := by
  cases texts with
  | nil => exact absurd h List.not_mem_nil
  | cons first rest =>
    rw [joined_cons] at h
    simp only [List.mem_append, List.mem_flatMap, List.mem_cons] at h
    rcases h with hfirst | ⟨shown, hshown, rfl | rfl | hmem⟩
    · exact htexts first List.mem_cons_self hfirst
    · decide
    · decide
    · exact htexts shown (List.mem_cons_of_mem _ hshown) hmem

/-- **The text of a tree has printable ASCII characters only.** -/
theorem IsExact.isAscii {tree : Json} (h : tree.IsExact) : ∀ c ∈ tree.chars, IsAscii c := by
  -- An array or an object adds marks to the characters of its parts.
  induction h with
  | null =>
    rw [chars]
    exact List.all_iff_forall_prop.1 (by decide)
  | boolean value =>
    cases value <;> rw [chars] <;> exact List.all_iff_forall_prop.1 (by decide)
  | integer value =>
    intro c hc
    rw [chars] at hc
    exact isAscii_of_isNumeral (isNumeral_of_mem_integerText hc)
  | text content =>
    intro c hc
    rw [chars] at hc
    exact isAscii_of_mem_stringChars hc
  | @array items _ ih =>
    intro c hc
    simp only [chars, itemChars_eq_map, List.mem_cons, List.mem_append, List.not_mem_nil,
      or_false] at hc
    rcases hc with rfl | hitems | rfl
    · decide
    · refine isAscii_of_mem_joined (fun shown hshown hmem => ?_) hitems
      obtain ⟨item, hitem, rfl⟩ := List.mem_map.1 hshown
      exact ih item hitem c hmem
    · decide
  | @object members _ ih =>
    intro c hc
    simp only [chars, memberChars_eq_map, List.mem_cons, List.mem_append, List.not_mem_nil,
      or_false] at hc
    rcases hc with rfl | hmembers | rfl
    · decide
    · refine isAscii_of_mem_joined (fun shown hshown hmem => ?_) hmembers
      obtain ⟨member, hmember, rfl⟩ := List.mem_map.1 hshown
      simp only [memberText, List.mem_append, List.mem_cons] at hmem
      rcases hmem with hname | rfl | rfl | hvalue
      · exact isAscii_of_mem_stringChars hname
      · decide
      · decide
      · exact ih member hmember c hvalue
    · decide

theorem IsExact.isAscii_render {tree : Json} (h : tree.IsExact) :
    ∀ c ∈ tree.render.toList, IsAscii c := by
  rw [render, String.toList_ofList]
  exact h.isAscii

end Json

end BlobCatalog.Text
