import Depot.Service.Request
import Mathlib.Tactic.SplitIfs

/-!
# Records are finished drafts

Whatever the form in which a record is written, and in whatever order its members stand, reading it
ends by finishing a draft.  So what every finished draft has, every record that is read has.
-/

set_option autoImplicit false

namespace Depot.Json.RecordShape

variable {σ β : Type} {shape : RecordShape σ β}

/-- A record that is read is what some draft is finished to. -/
def Finishes (shape : RecordShape σ β) (result : Except ReadFault (β × List Char)) : Prop :=
  ∀ value rest, result = .ok (value, rest) → ∃ draft, shape.finish draft = some value

theorem finishes_error (fault : ReadFault) : shape.Finishes (.error fault) := by
  intro value rest read
  cases read

theorem finishes_close (draft : σ) (cs : List Char) : shape.Finishes (shape.close draft cs) := by
  intro value rest read
  unfold close at read
  cases finished : shape.finish draft with
  | none => simp [finished] at read
  | some other =>
    rw [finished] at read
    obtain ⟨rfl, -⟩ := Prod.mk.inj (Except.ok.inj read)
    exact ⟨draft, finished⟩

theorem finishes_members (fuel : Nat) (draft : σ) (cs : List Char) :
    shape.Finishes (shape.members fuel draft cs) := by
  induction fuel generalizing draft cs with
  | zero => exact finishes_error _
  | succ fuel ih =>
    rw [members]
    cases shape.member draft cs with
    | error fault => exact finishes_error _
    | ok read =>
      dsimp only
      split
      · exact finishes_close _ _
      · exact ih _ _
      · exact finishes_error _

theorem finishes_items (positions : List Nat) (first : Bool) (draft : σ) (cs : List Char) :
    shape.Finishes (shape.items positions first draft cs) := by
  induction positions generalizing first draft cs with
  | nil =>
    rw [items]
    have closed : shape.Finishes (shape.close draft cs) := finishes_close draft cs
    cases closing : shape.close draft cs with
    | error fault => exact finishes_error _
    | ok read =>
      dsimp only
      split
      · intro value rest same
        obtain ⟨rfl, -⟩ := Prod.mk.inj (Except.ok.inj same)
        exact closed _ _ closing
      · exact finishes_error _
  | cons position rest ih =>
    rw [items]
    split
    · split
      · exact finishes_error _
      · exact finishes_close _ _
    · exact finishes_error _
    · dsimp only
      split
      · exact finishes_error _
      · exact finishes_error _
      · exact finishes_error _
      · split
        · exact finishes_error _
        · exact ih _ _ _

theorem finishes_reader (cs : List Char) : shape.Finishes (shape.reader cs) := by
  unfold reader
  split
  · exact finishes_items _ _ _ _
  · split
    · exact finishes_close _ _
    · exact finishes_members _ _ _
  · exact finishes_error _

end Depot.Json.RecordShape

namespace Depot.Service

open Json

theorem of_readBytes {α : Type} {read : Reader α} {bytes : ByteArray} {value : α}
    (whole : readBytes read bytes = .ok value) : ∃ cs rest, read cs = .ok (value, rest) := by
  unfold readBytes readAll at whole
  cases ran : read (Text.leadingText bytes) with
  | error fault =>
    rw [ran] at whole
    cases whole
  | ok result =>
    obtain ⟨other, rest⟩ := result
    rw [ran] at whole
    dsimp only at whole
    split_ifs at whole
    · obtain rfl := Except.ok.inj whole
      exact ⟨_, rest, ran⟩

theorem of_readBody {α : Type} {maxBytes : Nat} {read : Reader α} {request : Request} {body : α}
    (whole : readBody maxBytes read request = .ok body) : ∃ cs rest, read cs = .ok (body, rest) := by
  unfold readBody at whole
  split_ifs at whole
  split at whole
  · rename_i other ran
    obtain rfl := Except.ok.inj whole
    exact of_readBytes ran
  · cases whole
  · cases whole

theorem changeReader_user {maxBytes : Nat} {user : Uuid} {request : Request}
    {body : Accounts.Change} (read : readBody maxBytes (changeReader user) request = .ok body) :
    body.user = user := by
  obtain ⟨cs, rest, read⟩ := of_readBody read
  obtain ⟨draft, finished⟩ := RecordShape.finishes_reader cs _ _ read
  exact congrArg Accounts.Change.user (Option.some.inj finished).symm

end Depot.Service
