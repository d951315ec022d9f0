import BlobCatalog.Proofs.PropertyRoundTrip
import BlobCatalog.Proofs.RecordRun

/-!
# Reloading does not show in the lifecycle

A record may be written as properties and read again between any two of its moves. A move reads the
status and the time of creation, which a reload keeps, and overwrites the last update, which is all
that a reload may change. So the run of a record with reloads (`Record.replay`) and the run without
them stay alike (`Blob.IsLike`): the two records have the same settled form at every moment, every
move is accepted or refused alike, and one last reload makes the two records equal
(`Record.replay_moves`). Nothing is asked of the order of the two times.
-/

namespace BlobCatalog

open Calendar (DateTime)

/-! ## Stages of a record -/

/-- What happens to a record: a move at a given time with an offset, whatever the clock shows, or a
reload. -/
inductive Stage where
  | move (chosen : Move) (time : DateTime) (aware : time.isAware = true) (supply : Supply)
  | reload

/-- The stage is a move. -/
def Stage.isMove : Stage → Bool
  | move _ _ _ _ => true
  | reload => false

namespace Record

/-- The record after some stages, with the outcome of each move in their order. A refused move
leaves the record as it was; a record that cannot be reloaded ends the run with that fault. -/
def replay (record : Record) : List Stage → Except Fault (Record × List (Except Fault Unit))
  | [] => .ok (record, [])
  | .move chosen time _ supply :: rest => do
    let moved := (record.transition chosen.target (.dateTime time) supply).1
    let (last, outcomes) ← replay (record.orChanged moved) rest
    return (last, moved.map (fun _ => ()) :: outcomes)
  | .reload :: rest => do
    let read ← record.reload
    replay read.toRecord rest

/-- At a given time with an offset a typed record moves along the edges of the lifecycle only. -/
theorem transition_at {blob : Blob} {time : DateTime} (haware : time.isAware = true)
    (target : Status) (supply : Supply) :
    (blob.toRecord.transition target (.dateTime time) supply).1 =
      if blob.status.Edge target then .ok (blob.moved target time).toRecord
      else .error (.forbidden (.status blob.status) (.status target)) := by
  by_cases hedge : blob.status.Edge target
  · have hallowed : blob.toRecord.canTransition (.status target) = .ok true :=
      (canTransition_iff rfl).2 hedge
    have hcreated : blob.toRecord.createdAt? = .ok (.ofTime? blob.stamps.createdAt) := rfl
    have hgiven : (Value.dateTime time).isGiven = true := rfl
    rw [if_pos hedge]
    simp only [transition, hallowed, hcreated, hgiven, if_true,
      refreshedWithin_of_isAware haware]
    rfl
  · rw [if_neg hedge, transition_of_not_edge hedge]

end Record

/-! ## Settled records -/

namespace Blob

variable {blob left right : Blob}

/-- The record with its stamps settled. -/
def settled (blob : Blob) : Blob := { blob with stamps := blob.stamps.settle }

/-- A reload settles the record and changes nothing else. -/
theorem reload_toRecord (h : blob.stamps.AreAware) :
    blob.toRecord.reload = .ok blob.settled := by
  rw [Record.reload, Record.toProperties, content_toRecord h]
  exact ofItems_toProperties h blob.key

theorem settled_settled (h : blob.stamps.AreAware) : blob.settled.settled = blob.settled := by
  have hordered : ¬blob.stamps.settle.IsReversed := Stamps.not_isReversed_settle h
  have hstamps : blob.stamps.settle.settle = blob.stamps.settle :=
    Stamps.settle_of_not_isReversed hordered
  rw [settled, settled, hstamps]

/-- Two records that one reload makes equal. -/
structure IsLike (left right : Blob) : Prop where
  left_aware : left.stamps.AreAware
  right_aware : right.stamps.AreAware
  settled_eq : left.settled = right.settled

namespace IsLike

theorem refl (h : blob.stamps.AreAware) : blob.IsLike blob := ⟨h, h, rfl⟩

theorem status_eq (h : left.IsLike right) : left.status = right.status := by
  have hstatus : left.settled.status = right.settled.status := by rw [h.settled_eq]
  exact hstatus

/-- Records that are alike become the same record by a move, which overwrites the last update. -/
theorem moved_eq (h : left.IsLike right) (target : Status) (time : DateTime) :
    left.moved target time = right.moved target time := by
  calc left.moved target time = left.settled.moved target time := rfl
    _ = right.settled.moved target time := by rw [h.settled_eq]
    _ = right.moved target time := rfl

/-- A reload of one of two records that are alike leaves them alike. -/
theorem reloaded (h : left.IsLike right) : left.settled.IsLike right :=
  ⟨h.left_aware.settle, h.right_aware, (settled_settled h.left_aware).trans h.settled_eq⟩

end IsLike

end Blob

/-! ## Runs with and without reloads -/

/-- A move is accepted, or the lifecycle does not allow it. -/
def IsVerdict (outcome : Except Fault Unit) : Prop :=
  outcome = .ok () ∨
    ∃ current target : Status, outcome = .error (.forbidden (.status current) (.status target))

namespace Record

/-- **Runs of records that are alike stay alike**, if the reloads are left out of one of them. -/
theorem replay_of_isLike {left right : Blob} (h : left.IsLike right) (stages : List Stage) :
    ∃ (last plain : Blob) (outcomes : List (Except Fault Unit)),
      left.toRecord.replay stages = .ok (last.toRecord, outcomes) ∧
      right.toRecord.replay (stages.filter Stage.isMove) = .ok (plain.toRecord, outcomes) ∧
      last.IsLike plain ∧ ∀ outcome ∈ outcomes, IsVerdict outcome := by
  -- The induction is on the stages from the front, for all records that are alike at once.
  induction stages generalizing left right with
  | nil => exact ⟨left, right, [], rfl, rfl, h, by simp⟩
  | cons stage rest ih =>
    cases stage with
    | reload =>
      -- The run without reloads stands still.
      obtain ⟨last, plain, outcomes, hleft, hright, hlike, hverdicts⟩ := ih h.reloaded
      refine ⟨last, plain, outcomes, ?_, hright, hlike, hverdicts⟩
      simp only [replay, Blob.reload_toRecord h.left_aware, bind, Except.bind]
      exact hleft
    | move chosen time aware supply =>
      have hkept : (Stage.move chosen time aware supply :: rest).filter Stage.isMove =
          .move chosen time aware supply :: rest.filter Stage.isMove := rfl
      rw [hkept]
      by_cases hedge : left.status.Edge chosen.target
      · -- Both records move, and to the same record.
        have hedge' : right.status.Edge chosen.target := h.status_eq ▸ hedge
        have hmoved := Blob.areAware_moved h.left_aware aware chosen.target
        obtain ⟨last, plain, outcomes, hleft, hright, hlike, hverdicts⟩ := ih (.refl hmoved)
        refine ⟨last, plain, .ok () :: outcomes, ?_, ?_, hlike, ?_⟩
        · simp only [replay, transition_at aware, if_pos hedge, orChanged, hleft, bind, Except.bind,
            pure, Except.pure, Except.map]
        · rw [h.moved_eq] at hright
          simp only [replay, transition_at aware, if_pos hedge', orChanged, hright, bind,
            Except.bind, pure, Except.pure, Except.map]
        · intro outcome houtcome
          rcases List.mem_cons.1 houtcome with rfl | hlater
          · exact .inl rfl
          · exact hverdicts outcome hlater
      · -- Both moves are refused for the same reason, and both records stay.
        have hedge' : ¬right.status.Edge chosen.target := h.status_eq ▸ hedge
        obtain ⟨last, plain, outcomes, hleft, hright, hlike, hverdicts⟩ := ih h
        refine ⟨last, plain, .error (.forbidden (.status left.status) (.status chosen.target)) ::
          outcomes, ?_, ?_, hlike, ?_⟩
        · simp only [replay, transition_at aware, if_neg hedge, orChanged, hleft, bind, Except.bind,
            pure, Except.pure, Except.map]
        · rw [h.status_eq]
          simp only [replay, transition_at aware, if_neg hedge', orChanged, hright, bind,
            Except.bind, pure, Except.pure, Except.map]
        · intro outcome houtcome
          rcases List.mem_cons.1 houtcome with rfl | hlater
          · exact .inr ⟨left.status, chosen.target, rfl⟩
          · exact hverdicts outcome hlater

/-- **Reloading does not show in the lifecycle.** Let the times of a typed record have offsets, in
whatever order they are. Then every reload in a run of moves and reloads succeeds, the outcomes of
the moves are those of the run without the reloads, each move being accepted or forbidden, and the
two records at the end are reloaded as one and the same record. -/
theorem replay_moves (blob : Blob) (haware : blob.stamps.AreAware) (stages : List Stage) :
    ∃ (last plain : Record) (outcomes : List (Except Fault Unit)) (final : Blob),
      blob.toRecord.replay stages = .ok (last, outcomes) ∧
      blob.toRecord.replay (stages.filter Stage.isMove) = .ok (plain, outcomes) ∧
      (∀ outcome ∈ outcomes, IsVerdict outcome) ∧
      last.reload = .ok final ∧ plain.reload = .ok final := by
  obtain ⟨last, plain, outcomes, hlast, hplain, hlike, hverdicts⟩ :=
    replay_of_isLike (.refl haware) stages
  refine ⟨last.toRecord, plain.toRecord, outcomes, last.settled, hlast, hplain, hverdicts, ?_, ?_⟩
  · exact Blob.reload_toRecord hlike.left_aware
  · rw [hlike.settled_eq]
    exact Blob.reload_toRecord hlike.right_aware

/-! The sample record is ready and was last updated before its creation. It is reloaded before and
after a move that is refused and one that is not. -/

/-- Some stages of the sample record. -/
def sampleStages : List Stage :=
  [.reload, .move .ready sampleTime rfl sampleSupply, .reload, .reload,
    .move .markForDeletion (sampleTimeAt 7200000000 (by decide)) rfl sampleSupply]

theorem replay_sampleStages :
    ∃ last plain final,
      sampleBlob.toRecord.replay sampleStages =
        .ok (last, [.error (.forbidden (.status .ready) (.status .ready)), .ok ()]) ∧
      sampleBlob.toRecord.replay (sampleStages.filter Stage.isMove) =
        .ok (plain, [.error (.forbidden (.status .ready) (.status .ready)), .ok ()]) ∧
      last.reload = .ok final ∧ plain.reload = .ok final := by
  obtain ⟨last, plain, outcomes, final, hlast, hplain, -, hfinal, hsame⟩ :=
    replay_moves sampleBlob areAware_sampleBlob sampleStages
  -- The outcomes are computed without the reloads.
  have hmoves : (sampleBlob.toRecord.replay (sampleStages.filter Stage.isMove)).map Prod.snd =
      .ok [.error (.forbidden (.status .ready) (.status .ready)), .ok ()] := by
    with_unfolding_all rfl
  rw [hplain] at hmoves
  obtain rfl := Except.ok.inj hmoves
  exact ⟨last, plain, final, hlast, hplain, hfinal, hsame⟩

end Record

end BlobCatalog
