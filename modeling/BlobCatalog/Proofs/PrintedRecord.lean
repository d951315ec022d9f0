import BlobCatalog.Proofs.IsoText
import BlobCatalog.Proofs.JsonText
import BlobCatalog.Proofs.PrintedLine
import BlobCatalog.Proofs.StoreRoundTrip
import Mathlib.Data.Option.Defs

/-!
# What a printed line tells

The line of a record shows its times with their offsets rounded to seconds and cut to minutes
(`PlainTime.shortText_inj`), its texts in units of sixteen bits (`Text.inUnits`) and all other
fields in full. So two records are printed as one line exactly if they are alike in this
(`Blob.printed_eq_iff`), which for offsets of whole minutes and texts that are strings means that
they are the same but for the zones of their times. The line, whatever the texts of the record hold,
has printable ASCII characters only.
-/

namespace BlobCatalog

open BlobCatalog.Text

namespace Calendar

/-! ## Times to the minute -/

/-- Two offsets in seconds are shown alike: both are zero or neither is, they have one sign, and
they agree to the minute. -/
structure OffsetAlike (left right : Int) : Prop where
  zero_iff : left = 0 ↔ right = 0
  neg_iff : left < 0 ↔ right < 0
  minutes_eq : left.natAbs / 60 = right.natAbs / 60

/-- Two times are shown alike: they differ in the seconds and microseconds of their offsets at
most. -/
structure PlainTime.ShownAlike (left right : PlainTime) : Prop where
  date_eq : left.date = right.date
  hour_eq : left.hour = right.hour
  minute_eq : left.minute = right.minute
  second_eq : left.second = right.second
  micro_eq : left.micro = right.micro
  offset : Option.Rel OffsetAlike (left.offset.map roundedSeconds)
    (right.offset.map roundedSeconds)

theorem padded_inj {width left right : Nat} (hleft : left < Nat.pow 10 width)
    (hright : right < Nat.pow 10 width) :
    padded width left = padded width right ↔ left = right := by
  refine ⟨fun hsame => ?_, congrArg _⟩
  have hread := congrArg (takeNumber? width) hsame
  rw [takeNumber?_padded_all hleft, takeNumber?_padded_all hright] at hread
  exact (Prod.mk.inj (Option.some.inj hread)).1

theorem signChar_inj {left right : Int} :
    signChar left = signChar right ↔ (left < 0 ↔ right < 0) := by
  unfold signChar
  by_cases hleft : left < 0 <;> by_cases hright : right < 0 <;> simp [hleft, hright]

theorem shortOffsetChars_of_ne {seconds : Int} (h : seconds ≠ 0) :
    shortOffsetChars seconds = signChar seconds :: (padded 2 (seconds.natAbs / 3600) ++
      ':' :: padded 2 (seconds.natAbs / 60 % 60)) := by
  rw [shortOffsetChars, if_neg h]

/-- The mark of universal time is not the text of an offset. -/
theorem utc_ne_shortOffsetChars {seconds : Int} (h : seconds ≠ 0) :
    shortOffsetChars 0 ≠ shortOffsetChars seconds := by
  rw [shortOffsetChars_of_ne h]
  exact fun hsame => signChar_ne_utc seconds (List.cons.inj hsame).1.symm

/-- Offsets have one short text exactly if they are shown alike. -/
theorem shortOffsetChars_inj {left right : Int} (hleft : left.natAbs ≤ daySeconds)
    (hright : right.natAbs ≤ daySeconds) :
    shortOffsetChars left = shortOffsetChars right ↔ OffsetAlike left right := by
  have hday : daySeconds = 86400 := rfl
  have htwo : Nat.pow 10 2 = 100 := rfl
  constructor
  · intro hsame
    by_cases hzero : left = 0
    · subst hzero
      by_cases hother : right = 0
      · subst hother
        exact ⟨Iff.rfl, Iff.rfl, rfl⟩
      · exact absurd hsame (utc_ne_shortOffsetChars hother)
    · by_cases hother : right = 0
      · subst hother
        exact absurd hsame.symm (utc_ne_shortOffsetChars hzero)
      · rw [shortOffsetChars_of_ne hzero, shortOffsetChars_of_ne hother] at hsame
        obtain ⟨hsign, hrest⟩ := List.cons.inj hsame
        obtain ⟨hhours, hrest⟩ := List.append_inj hrest (by simp)
        have hhour := (padded_inj (by omega) (by omega)).1 hhours
        have hminute := (padded_inj (by omega) (by omega)).1 (List.cons.inj hrest).2
        exact ⟨by simp [hzero, hother], signChar_inj.1 hsign, by omega⟩
  · rintro ⟨hzero, hneg, hminutes⟩
    by_cases hleftZero : left = 0
    · rw [hleftZero, hzero.1 hleftZero]
    · have hhour : left.natAbs / 3600 = right.natAbs / 3600 := by omega
      rw [shortOffsetChars_of_ne hleftZero, shortOffsetChars_of_ne (mt hzero.2 hleftZero),
        signChar_inj.2 hneg, hhour, hminutes]

theorem startsOffset_of_mem_head {seconds : Int} {c : Char}
    (h : c ∈ (shortOffsetChars seconds).head?) : startsOffset c = true := by
  by_cases hzero : seconds = 0
  · rw [hzero] at h
    obtain rfl : 'Z' = c := Option.some.inj h
    rfl
  · rw [shortOffsetChars_of_ne hzero] at h
    exact Option.some.inj h ▸ startsOffset_signChar seconds

/-- An offset of less than a day is rounded to a day at most. -/
theorem natAbs_roundedSeconds_le {offset : Option Int} (h : IsOffset offset) (seconds : Int)
    (hseconds : seconds ∈ offset.map roundedSeconds) : seconds.natAbs ≤ daySeconds := by
  obtain ⟨micros, hmicros, rfl⟩ := Option.map_eq_some_iff.1 hseconds
  have hshort := h micros hmicros
  have hround : (micros.natAbs + secondMicros / 2) / secondMicros ≤ daySeconds := by
    unfold secondMicros daySeconds at *
    omega
  rw [roundedSeconds, Int.natAbs_mul, Int.natAbs_natCast, Int.natAbs_sign]
  split
  · omega
  · omega

/-- An offset of whole seconds is not changed by rounding. -/
theorem roundedSeconds_mul (micros : Int) (h : micros.natAbs % secondMicros = 0) :
    roundedSeconds micros * secondMicros = micros := by
  have hround : (micros.natAbs + secondMicros / 2) / secondMicros * secondMicros =
      micros.natAbs := by
    unfold secondMicros at *
    omega
  rw [roundedSeconds, Int.mul_assoc, ← Int.natCast_mul, hround, Int.sign_mul_natAbs]

namespace PlainTime

/-- The text of a time of day ends before the offset. -/
theorem takeWhile_clockChars (time : PlainTime) {rest : List Char}
    (h : ∀ c ∈ rest.head?, startsOffset c = true) :
    (time.clockChars ++ rest).takeWhile (fun c => !startsOffset c) = time.clockChars :=
  takeWhile_append_of_head (fun c hc => by simp [not_startsOffset_of_mem_clockChars hc])
    fun c hc => by simp [h c hc]

/-- The short text of an offset, if there is one. -/
def offsetPart (time : PlainTime) : List Char :=
  ((time.offset.map roundedSeconds).map shortOffsetChars).getD []

theorem startsOffset_of_mem_offsetPart {time : PlainTime} {c : Char}
    (h : c ∈ time.offsetPart.head?) : startsOffset c = true := by
  unfold offsetPart at h
  cases hoffset : time.offset with
  | none => simp [hoffset] at h
  | some micros => exact startsOffset_of_mem_head (by simpa [hoffset] using h)

/-- Optional offsets have one short text exactly if they are shown alike or both missing. -/
theorem offsetPart_inj {left right : PlainTime} :
    left.offsetPart = right.offsetPart ↔
      Option.Rel OffsetAlike (left.offset.map roundedSeconds)
        (right.offset.map roundedSeconds) := by
  have hsome : ∀ seconds, shortOffsetChars seconds ≠ [] := by
    intro seconds
    unfold shortOffsetChars
    split <;> exact List.cons_ne_nil _ _
  have hleft := fun seconds => natAbs_roundedSeconds_le left.isOffset seconds
  have hright := fun seconds => natAbs_roundedSeconds_le right.isOffset seconds
  unfold offsetPart
  generalize left.offset.map roundedSeconds = offset at hleft ⊢
  generalize right.offset.map roundedSeconds = other at hright ⊢
  cases offset with
  | none =>
    cases other with
    | none => simp
    | some second => simp [(hsome second).symm]
  | some first =>
    cases other with
    | none => simp [hsome first]
    | some second => simp [shortOffsetChars_inj (hleft first rfl) (hright second rfl)]

/-- **Times have one short text exactly if they are shown alike.** -/
theorem shortText_inj {left right : PlainTime} :
    left.shortText = right.shortText ↔ left.ShownAlike right := by
  have hshape : ∀ time : PlainTime, time.shortText =
      String.ofList (time.date.isoChars ++ 'T' :: (time.clockChars ++ time.offsetPart)) := by
    intro time
    rw [shortText, chars, offsetPart, Option.map_map]
    rfl
  rw [hshape, hshape, String.ofList_inj]
  constructor
  · intro hsame
    obtain ⟨hdates, hrest⟩ := List.append_inj hsame (by simp)
    have hclocks := congrArg (List.takeWhile fun c => !startsOffset c) (List.cons.inj hrest).2
    rw [takeWhile_clockChars left fun _ => startsOffset_of_mem_offsetPart,
      takeWhile_clockChars right fun _ => startsOffset_of_mem_offsetPart] at hclocks
    have hoffsets : left.offsetPart = right.offsetPart := by
      have hafter := (List.cons.inj hrest).2
      rw [hclocks] at hafter
      exact List.append_cancel_left hafter
    -- the readers of dates and of times of day tell what the texts stand for
    have hdate := congrArg readDate? hdates
    have hclock := congrArg readClock? hclocks
    rw [readDate?_isoChars, readDate?_isoChars, Option.some.injEq] at hdate
    rw [readClock?_clockChars, readClock?_clockChars, Option.some.injEq,
      ClockReading.mk.injEq] at hclock
    exact ⟨hdate, hclock.1, hclock.2.1, hclock.2.2.1, hclock.2.2.2.1, offsetPart_inj.1 hoffsets⟩
  · rintro ⟨hdate, hhour, hminute, hsecond, hmicro, hoffset⟩
    rw [offsetPart_inj.2 hoffset, hdate, clockChars, clockChars, hhour, hminute, hsecond, hmicro]

/-- The offset, if there is one, is a whole number of minutes. -/
def IsToTheMinute (time : PlainTime) : Prop :=
  ∀ micros ∈ time.offset, micros.natAbs % (60 * secondMicros) = 0

theorem ShownAlike.refl (time : PlainTime) : time.ShownAlike time := by
  refine ⟨rfl, rfl, rfl, rfl, rfl, ?_⟩
  cases time.offset.map roundedSeconds with
  | none => exact .none
  | some seconds => exact .some ⟨Iff.rfl, Iff.rfl, rfl⟩

/-- Offsets of whole minutes are rounded alike only if they are the same. -/
theorem offset_eq_of_alike {first second : Int}
    (h : OffsetAlike (roundedSeconds first) (roundedSeconds second))
    (hfirst : first.natAbs % (60 * secondMicros) = 0)
    (hsecond : second.natAbs % (60 * secondMicros) = 0) : first = second := by
  obtain ⟨-, hneg, hminutes⟩ := h
  have hone := roundedSeconds_mul first (by unfold secondMicros at *; omega)
  have htwo := roundedSeconds_mul second (by unfold secondMicros at *; omega)
  unfold secondMicros at *
  omega

/-- Times with offsets of whole minutes are shown alike only if they are the same. -/
theorem ShownAlike.eq {left right : PlainTime} (h : left.ShownAlike right)
    (hleft : left.IsToTheMinute) (hright : right.IsToTheMinute) : left = right := by
  obtain ⟨hdate, hhour, hminute, hsecond, hmicro, hoffset⟩ := h
  have hsame : left.offset = right.offset := by
    unfold IsToTheMinute at hleft hright
    generalize left.offset = offset at hleft hoffset ⊢
    generalize right.offset = other at hright hoffset ⊢
    cases offset with
    | none =>
      cases other with
      | none => rfl
      | some second => exact nomatch hoffset
    | some first =>
      cases other with
      | none => exact nomatch hoffset
      | some second =>
        exact congrArg some (offset_eq_of_alike (Option.rel_some_some.1 hoffset) (hleft first rfl)
          (hright second rfl))
  cases left
  cases right
  simp_all

end PlainTime

/-- Two times are shown alike, whatever zones they stand in. -/
def DateTime.ShownAlike (left right : DateTime) : Prop :=
  left.toPlainTime.ShownAlike right.toPlainTime

end Calendar

/-! ## Records -/

theorem timeJson_inj {left right : Option Calendar.DateTime} :
    (timeJson left).inUnits = (timeJson right).inUnits ↔
      Option.Rel Calendar.DateTime.ShownAlike left right := by
  cases left <;> cases right <;>
    simp [timeJson, Json.inUnits, Calendar.PlainTime.shortText_inj, Calendar.DateTime.ShownAlike]

theorem idJson_inj {left right : Option Uuid} :
    (idJson left).inUnits = (idJson right).inUnits ↔ left = right := by
  cases left <;> cases right <;> simp [idJson, Json.inUnits]

theorem Status.name_inj {left right : Status} : left.name = right.name ↔ left = right := by
  cases left <;> cases right <;> decide

namespace Blob

open Calendar (DateTime PlainTime)

/-- Two records are shown alike: they differ at most in the seconds and microseconds of offsets, in
zones, and in what two surrogates of a text are. -/
structure ShownAlike (left right : Blob) : Prop where
  key_eq : left.key = right.key
  size_eq : left.size = right.size
  status_eq : left.status = right.status
  storeKey_eq : left.storeKey.inUnits = right.storeKey.inUnits
  recordKey_eq : left.recordKey.inUnits = right.recordKey.inUnits
  createdAt : Option.Rel DateTime.ShownAlike left.stamps.createdAt right.stamps.createdAt
  updatedAt : Option.Rel DateTime.ShownAlike left.stamps.updatedAt right.stamps.updatedAt
  signature_eq : left.stamps.signature = right.stamps.signature

/-- The offsets of the times of a record are whole numbers of minutes. -/
def IsToTheMinute (blob : Blob) : Prop :=
  (∀ time ∈ blob.stamps.createdAt, time.IsToTheMinute) ∧
    ∀ time ∈ blob.stamps.updatedAt, time.IsToTheMinute

variable {left right : Blob}

theorem isExact_timeJson (time : Option DateTime) : (timeJson time).IsExact := by
  cases time with
  | none => exact .null
  | some held => exact .text _

theorem isExact_idJson (id : Option Uuid) : (idJson id).IsExact := by
  cases id with
  | none => exact .null
  | some held => exact .text _

/-- The JSON of a record has no number but its size. -/
theorem isExact_json (blob : Blob) (key : Uuid) (locator : Locator) :
    (blob.json key locator).IsExact := by
  have hstamps : ∀ member ∈ [("created_at", timeJson blob.stamps.createdAt),
      ("updated_at", timeJson blob.stamps.updatedAt),
      ("signature", idJson blob.stamps.signature)], member.2.IsExact := by
    simp [isExact_timeJson, isExact_idJson]
  refine .object ?_
  simp [Json.IsExact.text, Json.IsExact.integer, Json.IsExact.object hstamps]

/-- The JSON of two records is the same in units exactly if they are shown alike. -/
theorem json_inj {leftKey rightKey : Uuid} (hleft : left.key = some leftKey)
    (hright : right.key = some rightKey) (locator : Locator) :
    (left.json leftKey locator).inUnits = (right.json rightKey locator).inUnits ↔
      left.ShownAlike right := by
  constructor
  · intro hsame
    simp only [json, Json.inUnits, Json.membersInUnits, Json.object.injEq, List.cons.injEq,
      Prod.mk.injEq, Json.text.injEq, Json.integer.injEq, timeJson_inj, idJson_inj,
      inUnits_ofString, Status.name_inj, Uuid.text_inj, true_and, and_true,
      Int.natCast_inj] at hsame
    obtain ⟨hkey, hsize, hstatus, hstoreKey, hrecordKey, ⟨hcreated, hupdated, hsignature⟩, -⟩ :=
      hsame
    exact ⟨by rw [hleft, hright, hkey], hsize, hstatus, hstoreKey, hrecordKey, hcreated, hupdated,
      hsignature⟩
  · rintro ⟨hkey, hsize, hstatus, hstoreKey, hrecordKey, hcreated, hupdated, hsignature⟩
    obtain rfl : leftKey = rightKey := Option.some.inj (hleft ▸ hright ▸ hkey)
    simp only [json, Json.inUnits, Json.membersInUnits, hsize, hstatus, hstoreKey, hrecordKey,
      timeJson_inj.2 hcreated, timeJson_inj.2 hupdated, hsignature]

/-- Two records have one line exactly if they are shown alike. -/
theorem line_eq_iff {leftKey rightKey : Uuid} (hleft : left.key = some leftKey)
    (hright : right.key = some rightKey) (locator : Locator) :
    left.line leftKey locator = right.line rightKey locator ↔ left.ShownAlike right := by
  rw [line, line, Json.render_inj (left.isExact_json _ _) (right.isExact_json _ _),
    json_inj hleft hright]

/-- Times of whole minutes are shown alike only if they are the same but for their zones. -/
theorem fixed_eq_of_rel {left right : Option DateTime}
    (h : Option.Rel DateTime.ShownAlike left right) (hleft : ∀ time ∈ left, time.IsToTheMinute)
    (hright : ∀ time ∈ right, time.IsToTheMinute) :
    left.map DateTime.fixed = right.map DateTime.fixed := by
  cases h with
  | none => rfl
  | some halike =>
    have hsame := PlainTime.ShownAlike.eq halike (hleft _ rfl) (hright _ rfl)
    exact congrArg (fun plain : PlainTime => some (plain : DateTime)) hsame

/-- Texts that are strings are the same in units only if they are the same. -/
theorem eq_of_inUnits {left right : Text} (h : left.inUnits = right.inUnits) (hleft : left.IsString)
    (hright : right.IsString) : left = right := by
  rw [isString_iff] at hleft hright
  rw [hleft, hright] at h ⊢
  rw [inUnits_ofString.1 h]

/-- A record with fixed offsets. -/
def fixed (blob : Blob) : Blob := { blob with stamps := blob.stamps.fixed }

theorem ShownAlike.fixed_eq (h : left.ShownAlike right) (hleft : left.IsToTheMinute)
    (hright : right.IsToTheMinute) (hleftTexts : left.IsEncodable)
    (hrightTexts : right.IsEncodable) : left.fixed = right.fixed := by
  obtain ⟨hkey, hsize, hstatus, hstore, hrecord, hcreated, hupdated, hsignature⟩ := h
  have hstoreKey := eq_of_inUnits hstore hleftTexts.1 hrightTexts.1
  have hrecordKey := eq_of_inUnits hrecord hleftTexts.2 hrightTexts.2
  have hcreatedAt := fixed_eq_of_rel hcreated hleft.1 hright.1
  have hupdatedAt := fixed_eq_of_rel hupdated hleft.2 hright.2
  simp only [fixed, Stamps.fixed, hkey, hsize, hstatus, hstoreKey, hrecordKey, hcreatedAt,
    hupdatedAt, hsignature]

/-- Times that are the same but for zones are shown alike. -/
theorem rel_of_fixed {left right : Option DateTime}
    (h : left.map DateTime.fixed = right.map DateTime.fixed) :
    Option.Rel DateTime.ShownAlike left right := by
  cases left with
  | none =>
    cases right with
    | none => exact .none
    | some _ => exact nomatch h
  | some first =>
    cases right with
    | none => exact nomatch h
    | some second =>
      have hfixed : first.fixed = second.fixed := Option.some.inj h
      have hplain : first.fixed.toPlainTime = second.fixed.toPlainTime := by rw [hfixed]
      change first.toPlainTime = second.toPlainTime at hplain
      exact .some (show PlainTime.ShownAlike _ _ from hplain ▸ PlainTime.ShownAlike.refl _)

/-- Records that are the same but for zones are shown alike. -/
theorem shownAlike_of_fixed (h : left.fixed = right.fixed) : left.ShownAlike right := by
  obtain ⟨hkey, hsize, hstatus, hstore, hrecord, hstamps⟩ := Blob.mk.inj h
  obtain ⟨hcreated, hupdated, hsignature⟩ := Stamps.mk.inj hstamps
  exact ⟨hkey, hsize, hstatus, congrArg _ hstore, congrArg _ hrecord, rel_of_fixed hcreated,
    rel_of_fixed hupdated, hsignature⟩

/-- **What a printed line tells.** A record with a key is always printed, on one line of printable
ASCII characters. Under one base directory two such records have one line exactly if they are shown
alike; where all offsets are whole minutes and the texts are strings, only if they are the same but
for the zones of their times. -/
theorem printed_eq_iff (base : Text) {left right : Blob} {leftKey rightKey : Uuid}
    (hleft : left.key = some leftKey) (hright : right.key = some rightKey) :
    ∃ leftLine rightLine : String,
      left.toRecord.printed ⟨.ofText base⟩ = .ok leftLine ∧
      right.toRecord.printed ⟨.ofText base⟩ = .ok rightLine ∧
      (∀ c ∈ leftLine.toList, Json.IsAscii c) ∧
      (leftLine = rightLine ↔ left.ShownAlike right) ∧
      (left.IsToTheMinute → right.IsToTheMinute → left.IsEncodable → right.IsEncodable →
        (leftLine = rightLine ↔ left.fixed = right.fixed)) := by
  have halike := line_eq_iff hleft hright ⟨.ofText base⟩
  refine ⟨_, _, printed_toRecord hleft _, printed_toRecord hright _,
    (left.isExact_json _ _).isAscii_render, halike,
    fun hleftMinute hrightMinute hleftTexts hrightTexts => ?_⟩
  constructor
  · exact fun hsame => (halike.1 hsame).fixed_eq hleftMinute hrightMinute hleftTexts hrightTexts
  · exact fun hsame => halike.2 (shownAlike_of_fixed hsame)

/-- The sample record, with other offsets of its creation and last update. -/
def shifted (offset : Int) (h : offset.natAbs < Calendar.daySeconds * Calendar.secondMicros)
    (storeKey : Text) : Blob :=
  { sampleBlob with
    storeKey := storeKey
    stamps := ⟨some (sampleTimeAt offset h), some (sampleTimeAt offset h), none⟩ }

theorem printed_shifted :
    ∃ line otherLine : String,
      (shifted 3600000000 (by decide) "7").toRecord.printed ⟨.ofText "objects"⟩ = .ok line ∧
      (shifted 3600000000 (by decide) "7\n").toRecord.printed ⟨.ofText "objects"⟩ = .ok otherLine ∧
      (∀ c ∈ line.toList, Json.IsAscii c) ∧ line ≠ otherLine := by
  have hminute : ∀ storeKey, (shifted 3600000000 (by decide) storeKey).IsToTheMinute := by
    intro storeKey
    constructor <;>
    · rintro _ ⟨⟩ _ ⟨⟩
      rfl
  have hkey : ∀ storeKey, (shifted 3600000000 (by decide) storeKey).key = some sampleKey :=
    fun _ => rfl
  obtain ⟨line, otherLine, hline, hother, hascii, -, hsame⟩ :=
    printed_eq_iff "objects" (hkey "7") (hkey "7\n")
  refine ⟨line, otherLine, hline, hother, hascii, fun heq => ?_⟩
  have hblobs := (hsame (hminute _) (hminute _) (by decide) (by decide)).1 heq
  exact absurd (congrArg Blob.storeKey hblobs) (by decide)

/-- The seconds of an offset are not printed. -/
theorem printed_shifted_seconds :
    (shifted 3630000000 (by decide) "7").toRecord.printed ⟨.ofText "objects"⟩ =
      (shifted 3600000000 (by decide) "7").toRecord.printed ⟨.ofText "objects"⟩ ∧
    (shifted 3630000000 (by decide) "7").stamps.createdAt ≠
      (shifted 3600000000 (by decide) "7").stamps.createdAt := by
  have halike : (shifted 3630000000 (by decide) "7").ShownAlike
      (shifted 3600000000 (by decide) "7") := by
    have hoffset : Calendar.OffsetAlike 3630 3600 := ⟨by decide, by decide, by decide⟩
    have htime : Option.Rel DateTime.ShownAlike
        (shifted 3630000000 (by decide) "7").stamps.createdAt
        (shifted 3600000000 (by decide) "7").stamps.createdAt :=
      .some ⟨rfl, rfl, rfl, rfl, rfl, .some hoffset⟩
    exact ⟨rfl, rfl, rfl, rfl, rfl, htime, htime, rfl⟩
  constructor
  · rw [printed_toRecord rfl, printed_toRecord rfl, (line_eq_iff rfl rfl _).2 halike]
  · decide

/-- Two surrogates are printed as the character that they write. -/
theorem printed_shifted_surrogates :
    (shifted 3600000000 (by decide) ⟨[.surrogate 0x3d, .surrogate 0x600]⟩).toRecord.printed
        ⟨.ofText "objects"⟩ =
      (shifted 3600000000 (by decide) "😀").toRecord.printed ⟨.ofText "objects"⟩ ∧
    (⟨[.surrogate 0x3d, .surrogate 0x600]⟩ : Text) ≠ "😀" := by
  have halike : (shifted 3600000000 (by decide) ⟨[.surrogate 0x3d, .surrogate 0x600]⟩).ShownAlike
      (shifted 3600000000 (by decide) "😀") := by
    have hoffset : Calendar.OffsetAlike 3600 3600 := ⟨Iff.rfl, Iff.rfl, rfl⟩
    have htime : Option.Rel DateTime.ShownAlike
        (shifted 3600000000 (by decide) "😀").stamps.createdAt
        (shifted 3600000000 (by decide) "😀").stamps.createdAt :=
      .some ⟨rfl, rfl, rfl, rfl, rfl, .some hoffset⟩
    exact ⟨rfl, rfl, rfl, by decide, rfl, htime, htime, rfl⟩
  constructor
  · rw [printed_toRecord rfl, printed_toRecord rfl, (line_eq_iff rfl rfl _).2 halike]
  · decide

end Blob

end BlobCatalog
