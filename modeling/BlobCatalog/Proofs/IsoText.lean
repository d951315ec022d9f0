import BlobCatalog.Proofs.TimeSpelling

/-!
# Reading the text of a time

A time is stored as text that leaves out zero microseconds and the zero seconds of an offset, and is
read back by a reader that also accepts basic forms, week dates and partial times of day. The stored
text is one of the spellings that the reader takes for the time (`isSpelledBy_isoText`), so every
time is read back with all of its parts, its offset included (`readTime?_isoText`), except that the
reader takes an offset of less than a second for zero (`PlainTime.recorded`). The length of the text
tells which parts are left out (`length_isoText`).
-/

namespace BlobCatalog.Calendar

open BlobCatalog.Text

/-! ## The date -/

@[simp] theorem length_isoChars (date : Date) : date.isoChars.length = 10 := by
  simp [Date.isoChars]

/-- The written date is in extended form, by month and day. -/
theorem isSpelledBy_isoChars (date : Date) : date.IsSpelledBy date.isoChars := .day true

/-- A written date is read back. -/
theorem readDate?_isoChars (date : Date) : readDate? date.isoChars = some date :=
  readDate?_of_isSpelledBy (isSpelledBy_isoChars date)

/-! ## The time of day -/

/-- Six digits write the microseconds in full. -/
theorem microsOf_fixedDigits {micro : Nat} (h : micro < secondMicros) :
    microsOf (fixedDigits 10 6 micro) = micro := by
  have hall : (fixedDigits 10 6 micro).take 6 = fixedDigits 10 6 micro :=
    List.take_of_length_le (by simp)
  rw [microsOf_eq, hall, ofDigits_fixedDigits 10 6 micro h, length_fixedDigits]
  exact Nat.mul_one micro

/-- The written time of day is in extended form, and has a fraction if there are microseconds. -/
theorem isSpelledBy_clockChars (time : PlainTime) : time.clock.IsSpelledBy time.clockChars := by
  obtain ⟨-, -, -, hmicro⟩ := time.isClock
  by_cases hzero : time.micro = 0
  · rw [PlainTime.clock, PlainTime.clockChars, fractionChars, if_pos hzero, hzero, List.append_nil]
    exact .second true
  · have hdigits : fixedDigits 10 6 time.micro ≠ [] := List.ne_nil_of_length_pos (by simp)
    have hclock : time.clock = ⟨time.hour, time.minute, time.second,
        microsOf (fixedDigits 10 6 time.micro), false⟩ := by
      rw [PlainTime.clock, microsOf_fixedDigits hmicro]
    rw [hclock, PlainTime.clockChars, fractionChars, if_neg hzero]
    exact .fraction true (.inl rfl) hdigits fun _ hdigit => lt_of_mem_fixedDigits (by decide) hdigit

/-- A written time of day is read back. -/
theorem readClock?_clockChars (time : PlainTime) :
    readClock? time.clockChars = some ⟨time.hour, time.minute, time.second, time.micro, false⟩ :=
  readClock?_of_isSpelledBy (isSpelledBy_clockChars time) time.isClock

/-- No character of a written time of day starts an offset. -/
theorem not_startsOffset_of_mem_clockChars {time : PlainTime} {c : Char}
    (h : c ∈ time.clockChars) : startsOffset c = false :=
  not_startsOffset_of_isSpelledBy (isSpelledBy_clockChars time) c h

/-! ## The offset -/

theorem signChar_ne_utc (offset : Int) : signChar offset ≠ 'Z' := by
  unfold signChar
  split <;> decide

theorem startsOffset_signChar (offset : Int) : startsOffset (signChar offset) = true := by
  unfold signChar
  split <;> rfl

/-- The written size of an offset stops at the minutes if there is nothing more, and at the seconds
if there are no microseconds. -/
theorem isSpelledBy_ofMicros (size : Nat) :
    (ClockReading.ofMicros size).IsSpelledBy
      (padded 2 (size / secondMicros / 3600) ++ ':' :: (padded 2 (size / secondMicros / 60 % 60) ++
        (if size / secondMicros % 60 = 0 ∧ size % secondMicros = 0 then []
          else ':' :: (padded 2 (size / secondMicros % 60) ++
            fractionChars (size % secondMicros))))) := by
  rw [ClockReading.ofMicros]
  by_cases hmicro : size % secondMicros = 0
  · by_cases hzero : size / secondMicros % 60 = 0
    · rw [if_pos ⟨hzero, hmicro⟩, hzero, hmicro, List.append_nil]
      exact .minute true
    · rw [if_neg fun h => hzero h.1, hmicro, fractionChars, if_pos rfl, List.append_nil]
      exact .second true
  · have hdigits : fixedDigits 10 6 (size % secondMicros) ≠ [] :=
      List.ne_nil_of_length_pos (by simp)
    have hmicros := microsOf_fixedDigits (Nat.mod_lt size (by decide : 0 < secondMicros))
    rw [if_neg fun h => hmicro h.2, fractionChars, if_neg hmicro]
    conv_lhs => rw [← hmicros]
    exact .fraction true (.inl rfl) hdigits fun _ hdigit => lt_of_mem_fixedDigits (by decide) hdigit

/-- An offset as it is read back: less than a second does not count. -/
def countedOffset (micros : Int) : Int := if micros.natAbs < secondMicros then 0 else micros

/-- The written offset has the sign of the offset. -/
theorem isOffsetSpelledBy_offsetChars {micros : Int}
    (h : micros.natAbs < daySeconds * secondMicros) :
    IsOffsetSpelledBy (some (countedOffset micros)) (offsetChars micros) := by
  have hsize := isSpelledBy_ofMicros micros.natAbs
  by_cases hneg : micros < 0
  · have hvalue : countedOffset micros = -(counted micros.natAbs : Int) := by
      unfold countedOffset counted
      split <;> omega
    have hwest := IsOffsetSpelledBy.west h hsize
    rw [← hvalue] at hwest
    rwa [offsetChars, signChar, if_pos hneg]
  · have hvalue : countedOffset micros = (counted micros.natAbs : Int) := by
      unfold countedOffset counted
      split <;> omega
    have heast := IsOffsetSpelledBy.east h hsize
    rw [← hvalue] at heast
    rwa [offsetChars, signChar, if_neg hneg]

/-! ## Times -/

/-- The time that the text of a time is read as: an offset of less than a second does not count. -/
def PlainTime.recorded (time : PlainTime) : PlainTime :=
  { time with
    offset := time.offset.map countedOffset
    isOffset := by
      intro micros hmicros
      obtain ⟨offset, hoffset, rfl⟩ := Option.map_eq_some_iff.1 hmicros
      unfold countedOffset
      split
      · exact Nat.mul_pos (by decide) (by decide)
      · exact time.isOffset offset hoffset }

/-- A time is read as it is unless its offset is less than a second. -/
theorem PlainTime.recorded_eq {time : PlainTime} (h : time.KeepsOffset) : time.recorded = time := by
  have hoffset : time.offset.map countedOffset = time.offset := by
    unfold KeepsOffset at h
    cases hvalue : time.offset with
    | none => rfl
    | some micros =>
      have hkept := h micros hvalue
      have hsame : countedOffset micros = micros := by
        unfold countedOffset
        split <;> omega
      rw [Option.map_some, hsame]
  cases time
  simp only [recorded, hoffset]

theorem PlainTime.keepsOffset_recorded (time : PlainTime) : time.recorded.KeepsOffset := by
  intro micros hmicros hne
  obtain ⟨offset, -, rfl⟩ := Option.map_eq_some_iff.1 hmicros
  unfold countedOffset at hne ⊢
  split at hne
  · exact absurd rfl hne
  · next hlong => rwa [if_neg hlong, ← Nat.not_lt]

/-- The stored text of a time is a spelling of the time that it is read as. -/
theorem isSpelledBy_isoText (time : PlainTime) :
    time.recorded.IsSpelledBy time.isoText.toList := by
  have hoffset : IsOffsetSpelledBy (time.offset.map countedOffset)
      ((time.offset.map offsetChars).getD []) := by
    have hshort := time.isOffset
    generalize time.offset = offset at hshort
    cases offset with
    | none => exact .none
    | some micros => exact isOffsetSpelledBy_offsetChars (hshort micros rfl)
  rw [PlainTime.isoText, String.toList_ofList]
  exact .clock (isSpelledBy_isoChars time.date) (by decide) (isSpelledBy_clockChars time) hoffset

/-- **The text of a time is read as that time, with its offset.** -/
theorem readTime?_isoText (time : PlainTime) : readTime? time.isoText = some time.recorded :=
  readTime?_of_isSpelledBy (isSpelledBy_isoText time)

theorem length_fractionChars (micro : Nat) :
    (fractionChars micro).length = if micro = 0 then 0 else 7 := by
  unfold fractionChars
  split <;> simp

/-- The number of characters of an offset. -/
def offsetWidth (micros : Int) : Nat :=
  if micros % (60 * secondMicros) = 0 then 6 else if micros % secondMicros = 0 then 9 else 16

theorem length_offsetChars (micros : Int) : (offsetChars micros).length = offsetWidth micros := by
  have hminute : (micros.natAbs / secondMicros % 60 = 0 ∧ micros.natAbs % secondMicros = 0) ↔
      micros % (60 * secondMicros) = 0 := by
    unfold secondMicros
    omega
  have hwhole : micros.natAbs % secondMicros = 0 ↔ micros % secondMicros = 0 := by
    unfold secondMicros
    omega
  simp only [offsetChars, hminute, offsetWidth]
  split
  · simp
  · simp only [List.length_cons, List.length_append, length_padded, length_fractionChars, hwhole]
    split <;> rfl

/-- The text of a time has 19 characters for the date and the time of day, seven more for
microseconds, and six more for an offset, nine if the offset has seconds or sixteen if it has
microseconds. -/
theorem length_isoText (time : PlainTime) :
    time.isoText.length = 19 + (if time.micro = 0 then 0 else 7) +
      (match time.offset with
        | none => 0
        | some micros => offsetWidth micros) := by
  have hclock : time.clockChars.length = 8 + if time.micro = 0 then 0 else 7 := by
    simp [PlainTime.clockChars, length_fractionChars]
    omega
  rw [PlainTime.isoText, String.length_ofList, PlainTime.chars]
  cases time.offset with
  | none => simp [hclock]; omega
  | some micros => simp [hclock, length_offsetChars]; omega

end BlobCatalog.Calendar
