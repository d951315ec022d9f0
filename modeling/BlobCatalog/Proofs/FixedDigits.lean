import BlobCatalog.Calendar.Iso
import Mathlib.Data.List.Forall2

/-!
# Reading digits of a fixed width

`Text.padded` and `Text.paddedHex` write a number with a fixed number of digits. This module reads
them back. `takeNumber?_padded` takes a decimal of known width off the front of a text, and
`groupedDigits?_paddedHex` gives the digits of a hexadecimal. Both need that the number is below the
power of the base, which is what the width can hold. A part of a text that ends where its characters
do is taken off by `takeWhile_append_of_head`.
-/

namespace BlobCatalog.Text

/-! ## The digits themselves -/

theorem ofDigits_append (base : Nat) (digits : List Nat) (digit : Nat) :
    ofDigits base (digits ++ [digit]) = base * ofDigits base digits + digit := by
  simp [ofDigits]

/-- Zeros behind the digits of a number multiply it by a power of the base. -/
theorem ofDigits_append_replicate (base : Nat) (digits : List Nat) (count : Nat) :
    ofDigits base (digits ++ List.replicate count 0) =
      ofDigits base digits * Nat.pow base count := by
  induction count with
  | zero => simp
  | succ count ih =>
    -- The last zero is taken off, as the number is read from the front.
    rw [List.replicate_succ', ← List.append_assoc, ofDigits_append, ih, Nat.pow_eq, Nat.pow_eq,
      Nat.pow_succ, Nat.add_zero, Nat.mul_left_comm, Nat.mul_comm base]

/-- Every digit of a number is below the base. -/
theorem lt_of_mem_fixedDigits {base : Nat} (hbase : 0 < base) {width number digit : Nat}
    (h : digit ∈ fixedDigits base width number) : digit < base := by
  induction width generalizing number with
  | zero => simp [fixedDigits] at h
  | succ width ih =>
    simp only [fixedDigits, List.mem_append, List.mem_singleton] at h
    rcases h with h | rfl
    · exact ih h
    · exact Nat.mod_lt _ hbase

theorem isDigit_hexDigit : ∀ value < 10, (hexDigit value).isDigit = true := by
  decide

theorem asciiDigit?_hexDigit : ∀ value < 10, asciiDigit? (hexDigit value) = some value := by
  decide

/-- The width of a padded decimal. -/
@[simp] theorem length_padded (width number : Nat) : (padded width number).length = width := by
  simp [padded]

/-- The width of a padded hexadecimal. -/
@[simp] theorem length_paddedHex (width number : Nat) :
    (paddedHex width number).length = width := by
  simp [paddedHex]

/-- Written decimal digits are decimal digits. -/
theorem isDigit_of_mem_map {digits : List Nat} (h : ∀ digit ∈ digits, digit < 10) {c : Char}
    (hc : c ∈ digits.map hexDigit) : c.isDigit = true := by
  obtain ⟨digit, hdigit, rfl⟩ := List.mem_map.1 hc
  exact isDigit_hexDigit digit (h digit hdigit)

/-- A padded decimal has decimal digits only. -/
theorem isDigit_of_mem_padded {width number : Nat} {c : Char} (h : c ∈ padded width number) :
    c.isDigit = true :=
  isDigit_of_mem_map (fun _ hdigit => lt_of_mem_fixedDigits (by decide) hdigit) h

/-- A padded hexadecimal has written digits below sixteen only. -/
theorem exists_of_mem_paddedHex {width number : Nat} {c : Char} (h : c ∈ paddedHex width number) :
    ∃ value < 16, hexDigit value = c := by
  obtain ⟨digit, hdigit, rfl⟩ := List.mem_map.1 h
  exact ⟨digit, lt_of_mem_fixedDigits (by decide) hdigit, rfl⟩

/-- The characters of a class at the front of a text, if the rest begins with none of them. -/
theorem takeWhile_append_of_head {inside : Char → Bool} {front rest : List Char}
    (hfront : ∀ c ∈ front, inside c = true) (hrest : ∀ c ∈ rest.head?, inside c = false) :
    (front ++ rest).takeWhile inside = front := by
  rw [List.takeWhile_append_of_pos hfront]
  cases rest with
  | nil => simp
  | cons c rest => rw [List.takeWhile_cons_of_neg (by simp [hrest c rfl]), List.append_nil]

/-! ## Decimals -/

/-- The digits of written decimal digits. -/
theorem filterMap_asciiDigit?_map {digits : List Nat} (h : ∀ digit ∈ digits, digit < 10) :
    (digits.map hexDigit).filterMap asciiDigit? = digits := by
  induction digits with
  | nil => rfl
  | cons digit digits ih =>
    have hhead := asciiDigit?_hexDigit digit (h digit List.mem_cons_self)
    have htail := ih fun other hother => h other (List.mem_cons_of_mem _ hother)
    rw [List.map_cons, List.filterMap_cons_some hhead, htail]

/-- Written digits are read off the front of a text as the number that they stand for. -/
theorem takeNumber?_map {digits : List Nat} (h : ∀ digit ∈ digits, digit < 10)
    (rest : List Char) :
    Calendar.takeNumber? digits.length (digits.map hexDigit ++ rest) =
      some (ofDigits 10 digits, rest) := by
  -- The reader takes as many characters as there are digits, which is all of them.
  have htake : (digits.map hexDigit ++ rest).take digits.length = digits.map hexDigit := by
    rw [List.take_append_of_le_length (by simp), List.take_of_length_le (by simp)]
  have hdrop : (digits.map hexDigit ++ rest).drop digits.length = rest := by
    rw [List.drop_append_of_le_length (by simp), List.drop_of_length_le (by simp),
      List.nil_append]
  have hall : (digits.map hexDigit).all Char.isDigit = true :=
    List.all_eq_true.2 fun _ hc => isDigit_of_mem_map h hc
  simp only [Calendar.takeNumber?, htake, hdrop, List.length_map, hall,
    filterMap_asciiDigit?_map h, and_self, if_true]

/-- A number written with `width` digits is read off the front of a text. -/
theorem takeNumber?_padded {width number : Nat} (h : number < Nat.pow 10 width)
    (rest : List Char) :
    Calendar.takeNumber? width (padded width number ++ rest) = some (number, rest) := by
  have hsmall : ∀ digit ∈ fixedDigits 10 width number, digit < 10 :=
    fun _ hdigit => lt_of_mem_fixedDigits (by decide) hdigit
  have hread := takeNumber?_map hsmall rest
  rwa [length_fixedDigits, ofDigits_fixedDigits 10 width number h] at hread

/-- A text that is nothing but a number of `width` digits. -/
theorem takeNumber?_padded_all {width number : Nat} (h : number < Nat.pow 10 width) :
    Calendar.takeNumber? width (padded width number) = some (number, []) := by
  simpa using takeNumber?_padded h []

/-! ## Hexadecimals -/

/-- Characters that are read as digits and are no underscores are grouped as they stand. -/
theorem groupedDigits?_of_forall₂ {digit? : Char → Option Nat} {text : List Char}
    {digits : List Nat} (hsome : digits ≠ [])
    (h : List.Forall₂ (fun c digit => digit? c = some digit ∧ c ≠ '_') text digits) :
    groupedDigits? digit? text = some digits := by
  induction h with
  | nil => exact absurd rfl hsome
  | @cons first digit rest digits hfirst hrest ih =>
    cases hrest with
    | nil => simp [groupedDigits?, hfirst.1]
    | @cons second next rest digits hsecond hrest =>
      -- The reader looks one character ahead for an underscore and finds a digit.
      have htail := ih (by simp)
      rw [groupedDigits?.eq_4 digit? first _ (by simp) (by simp [hsecond.2])]
      simp [hfirst.1, htail]

/-- Digits without underscores are grouped as they stand. -/
theorem groupedDigits?_map {digit? : Char → Option Nat} {write : Nat → Char} {digits : List Nat}
    (hsome : digits ≠ []) (hread : ∀ digit ∈ digits, digit? (write digit) = some digit)
    (hplain : ∀ digit ∈ digits, write digit ≠ '_') :
    groupedDigits? digit? (digits.map write) = some digits := by
  refine groupedDigits?_of_forall₂ hsome (List.forall₂_map_left_iff.2 ?_)
  exact List.forall₂_same.2 fun digit hdigit => ⟨hread digit hdigit, hplain digit hdigit⟩

theorem hexDigit_ne_underscore : ∀ value < 16, hexDigit value ≠ '_' := by
  decide

/-- The digits of a padded hexadecimal. -/
theorem groupedDigits?_paddedHex {width number : Nat} (hwidth : 0 < width) :
    groupedDigits? hexValue? (paddedHex width number) = some (fixedDigits 16 width number) := by
  have hlt : ∀ digit ∈ fixedDigits 16 width number, digit < 16 :=
    fun _ hdigit => lt_of_mem_fixedDigits (by decide) hdigit
  refine groupedDigits?_map ?_ (fun digit hd => hexValue?_hexDigit digit (hlt digit hd))
    fun digit hd => hexDigit_ne_underscore digit (hlt digit hd)
  exact List.ne_nil_of_length_pos (by simpa using hwidth)

end BlobCatalog.Text
