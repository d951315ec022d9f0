import BlobCatalog.Proofs.StoreRoundTrip

/-!
# Times in the columns of a row

The columns of a row keep times as text, which has no zone. What is written there is read as the
time that was written, with a fixed offset (`Row.readTime_undoes_writing`), and so is every other
spelling of a time that a column may hold (`Row.readTime_of_isSpelledBy`).
-/

namespace BlobCatalog

open Calendar (DateTime PlainTime)

/-- A column that holds a spelling of a time is read as that time. -/
theorem Row.readTime_of_isSpelledBy {time : PlainTime} {text : String}
    (h : time.IsSpelledBy text.toList) : readTime (.text text) = .ok (.dateTime time) := by
  have hread := Calendar.readTime?_of_isSpelledBy h
  simp only [readTime, hread]

/-- **Reading a stored time undoes writing it.** The column of a time whose offset is zero or at
least a second is read as the time itself with a fixed offset: its date, its time of day to the
microsecond and its offset, which is missing if the time has none. The text in the column is a
spelling of the time that leaves out microseconds and seconds of the offset if they are zero, and
nothing else. The reader takes the other spellings too, in basic form, by weeks, with another
separator or with parts that are zero left out, and reads each of them as the time that it
spells. -/
theorem Row.readTime_undoes_writing (time : DateTime) (hkept : time.KeepsOffset) :
    readTime (timeCell (some time)) = .ok (.dateTime time.fixed) ∧
    (∃ text : String, timeCell (some time) = .text text ∧
      time.toPlainTime.IsSpelledBy text.toList ∧
      text.length = 19 + (if time.micro = 0 then 0 else 7) +
        (match time.offset with
          | none => 0
          | some micros => Calendar.offsetWidth micros)) ∧
    ∀ text : String, time.toPlainTime.IsSpelledBy text.toList →
      readTime (.text text) = .ok (.dateTime time.fixed) := by
  have hcell : timeCell (some time) = .text time.isoText := rfl
  have hspelled := Calendar.isSpelledBy_isoText time.toPlainTime
  rw [PlainTime.recorded_eq hkept] at hspelled
  refine ⟨?_, ⟨time.isoText, hcell, hspelled, Calendar.length_isoText time.toPlainTime⟩, ?_⟩
  · rw [hcell]
    exact readTime_of_isSpelledBy hspelled
  · intro text htext
    exact readTime_of_isSpelledBy htext

/-- The sample time by week and weekday, in basic form, with more digits behind a comma than the
reader keeps. -/
theorem isSpelledBy_sampleTime :
    sampleTime.toPlainTime.IsSpelledBy "2024W094 030405,000006789-010203".toList := by
  have hweek : Calendar.Date.ofWeek? 2024 9 4 = some sampleTime.date := by decide +kernel
  have hdate : sampleTime.date.IsSpelledBy "2024W094".toList := .weekday false (by decide) hweek
  have hdigits : ∀ digit ∈ [0, 0, 0, 0, 0, 6, 7, 8, 9], digit < 10 := by decide
  have hclock : sampleTime.clock.IsSpelledBy "030405,000006789".toList :=
    .fraction false (.inr rfl) (List.cons_ne_nil _ _) hdigits
  have hsize : (Calendar.ClockReading.ofMicros 3723000000).IsSpelledBy "010203".toList :=
    .second false
  have hoffset : Calendar.IsOffsetSpelledBy sampleTime.offset "-010203".toList :=
    .west (by decide) hsize
  have hblank : Calendar.IsSeparator ' ' := by decide
  exact .clock hdate hblank hclock hoffset

theorem Row.readTime_sampleTime :
    timeCell (some sampleTime) = .text "2024-02-29T03:04:05.000006-01:02:03" ∧
    readTime (timeCell (some sampleTime)) = .ok (.dateTime sampleTime) ∧
    sampleTime.toPlainTime.IsSpelledBy "2024W094 030405,000006789-010203".toList ∧
    readTime (.text "2024W094 030405,000006789-010203") = .ok (.dateTime sampleTime) := by
  have hkept : sampleTime.KeepsOffset := by
    rintro _ ⟨⟩ -
    decide
  obtain ⟨hread, -, hspellings⟩ := readTime_undoes_writing sampleTime hkept
  have htext : sampleTime.isoText = "2024-02-29T03:04:05.000006-01:02:03" := by decide
  exact ⟨congrArg Cell.text htext, hread, isSpelledBy_sampleTime,
    hspellings _ isSpelledBy_sampleTime⟩

end BlobCatalog
