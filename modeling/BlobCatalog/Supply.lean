import BlobCatalog.Fault

/-!
# Clock and identifiers

A `Supply` hands out times and identifiers. What it hands out is given beforehand as two sequences,
and two counters say how much of them is used up, so that every operation which reads the clock or
draws an identifier is a function from supply to supply. A reading or a draw counts even when the
sequence has nothing at its place.
-/

namespace BlobCatalog

open Calendar (DateTime)

/-- The times and identifiers that operations are given, and how many of each are used. -/
structure Supply where
  timeAt : Nat → Option DateTime
  idAt : Nat → Option Value
  ticks : Nat
  drawn : Nat

namespace Supply

/-- Times a second apart. -/
def secondsFrom (start : DateTime) (tick : Nat) : Option DateTime := start.later? tick

/-- The identifiers 1, 2, 3, …. -/
def numbered (draw : Nat) : Option Value := (Uuid.ofNat? (draw + 1)).map Value.uuid

/-- The identifiers of a list. -/
def listed (ids : List Value) (draw : Nat) : Option Value := ids[draw]?

/-- A fresh supply. -/
def start (timeAt : Nat → Option DateTime) (idAt : Nat → Option Value) : Supply :=
  ⟨timeAt, idAt, 0, 0⟩

/-- A supply whose clock starts again. -/
def restart (supply : Supply) (timeAt : Nat → Option DateTime) : Supply :=
  { supply with timeAt, ticks := 0 }

/-- The time now. A clock past the end of the calendar has none. -/
def readClock (supply : Supply) : Except Fault DateTime × Supply :=
  let time := match supply.timeAt supply.ticks with
    | some time => .ok time
    | none => .error .outOfRange
  (time, { supply with ticks := supply.ticks + 1 })

/-- The next identifier. -/
def drawId (supply : Supply) : Except Fault Value × Supply :=
  let id := match supply.idAt supply.drawn with
    | some id => .ok id
    | none => .error .exhausted
  (id, { supply with drawn := supply.drawn + 1 })

end Supply

end BlobCatalog
