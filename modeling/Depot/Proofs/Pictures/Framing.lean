import Depot.Proofs.Pictures.Fitting

/-!
# Margins

Where a picture is to stay within its box and the box is filled up, the margins are what is left of
the sides of the box when those of the picture are taken off.  Scaling leaves a point of every side,
so nothing is left of a box that has no points, and taking a point off it goes below nothing.  With
points in the box there always are margins, whatever the two shapes are.

The plan is carried out either way: in words of 32 bits the room starts over from the top, and no
point of the picture is shown.  It is the writing that fails, since no format has pictures without
points.
-/

set_option autoImplicit false

namespace Depot.Pictures

/-- What a plan lays on a canvas is no longer on either side than the canvas. -/
def Plan.HasMargins : Plan → Prop
  | resampleAndFrame picture canvas => picture.Within canvas
  | keep | resample _ | resampleAndCut _ _ => True

/-- A picture is to stay within a box without points, and the box is to be filled up. -/
def Transform.FramesNothing (request : Transform) : Prop :=
  request.fit = .contain ∧ ∃ width height, request.width = some width ∧
    request.height = some height ∧ (width = 0 ∨ height = 0)

theorem word_sub_add {taken whole : Nat} (le : taken ≤ whole) (short : whole < 2 ^ 32) :
    (whole.toUInt32 - taken.toUInt32).toNat + taken = whole := by
  have whole_word : whole.toUInt32.toNat = whole := UInt32.toNat_ofNat_of_lt short
  have taken_word : taken.toUInt32.toNat = taken := UInt32.toNat_ofNat_of_lt (le.trans_lt short)
  have words : taken.toUInt32 ≤ whole.toUInt32 := by
    rw [UInt32.le_iff_toNat_le, whole_word, taken_word]
    exact le
  rw [UInt32.toNat_sub_of_le _ _ words, whole_word, taken_word]
  exact Nat.sub_add_cancel le

namespace Plan

variable {s : Scaling} {longest : Nat} {source box : Sides} {request : Transform}

/-- In words of 32 bits, the room and the picture make up the canvas just where nothing goes below
nothing. -/
theorem room_adds_up_iff {picture canvas : Sides} (wide : canvas.width < 2 ^ 32)
    (high : canvas.height < 2 ^ 32) :
    ((room picture canvas).width + picture.width = canvas.width ∧
        (room picture canvas).height + picture.height = canvas.height) ↔ picture.Within canvas := by
  constructor
  · rintro ⟨width, height⟩
    exact ⟨width ▸ Nat.le_add_left _ _, height ▸ Nat.le_add_left _ _⟩
  · intro within
    exact ⟨word_sub_add within.width wide, word_sub_add within.height high⟩

theorem fitted_hasMargins_iff (lawful : s.Lawful longest) (short : source.Within ⟨longest, longest⟩)
    (inside : box.Within source) (fit : Fit) :
    (fitted s source box fit).HasMargins ↔ (fit = .contain → box.Filled) := by
  cases fit with
  | contain =>
    constructor
    · intro margins _
      -- there is a point of the picture on either side, for which there has to be room
      exact ⟨(Scaling.one_le_scaled _ _).trans margins.width,
        (Scaling.one_le_scaled _ _).trans margins.height⟩
    · intro filled
      exact (lawful.within_meets ⟨filled rfl, inside, short⟩).2.1
  | cover | fill | inside | outside => exact iff_of_true trivial (by rintro ⟨⟩)

theorem filled_clamped_iff (filled : source.Filled) (wide high : UInt32) :
    Sides.Filled ⟨min wide.toNat source.width, min high.toNat source.height⟩ ↔
      wide ≠ 0 ∧ high ≠ 0 := by
  have points (n : UInt32) : 1 ≤ n.toNat ↔ n ≠ 0 := by
    rw [Nat.one_le_iff_ne_zero, ne_eq, ne_eq, ← UInt32.toNat_inj]
    rfl
  rw [← points, ← points]
  constructor
  · intro box
    exact ⟨box.width.trans (Nat.min_le_left _ _), box.height.trans (Nat.min_le_left _ _)⟩
  · rintro ⟨some_wide, some_high⟩
    exact ⟨Nat.le_min.2 ⟨some_wide, filled.width⟩, Nat.le_min.2 ⟨some_high, filled.height⟩⟩

theorem make_hasMargins_iff (lawful : s.Lawful longest) (filled : source.Filled)
    (short : source.Within ⟨longest, longest⟩) :
    (make s source request).HasMargins ↔ ¬ request.FramesNothing := by
  cases width : request.width with
  | none =>
    have free : ¬ request.FramesNothing := by
      rintro ⟨-, wide, high, given, -⟩
      rw [width] at given
      cases given
    cases height : request.height <;> simp only [make, width, height] <;>
      exact iff_of_true trivial free
  | some wide =>
    cases height : request.height with
    | none =>
      simp only [make, width, height]
      refine iff_of_true trivial ?_
      rintro ⟨-, -, high, -, given, -⟩
      rw [height] at given
      cases given
    | some high =>
      have inside : Sides.Within ⟨min wide.toNat source.width, min high.toNat source.height⟩ source :=
        ⟨Nat.min_le_right _ _, Nat.min_le_right _ _⟩
      have frames : request.FramesNothing ↔ request.fit = .contain ∧ (wide = 0 ∨ high = 0) := by
        constructor
        · rintro ⟨fit, _, _, given, other, empty⟩
          rw [width, Option.some_inj] at given
          rw [height, Option.some_inj] at other
          exact ⟨fit, given ▸ other ▸ empty⟩
        · rintro ⟨fit, empty⟩
          exact ⟨fit, wide, high, width, height, empty⟩
      simp only [make, width, height]
      rw [fitted_hasMargins_iff lawful short inside, filled_clamped_iff filled, frames, not_and,
        not_or]

theorem canvas_short {picture canvas : Sides}
    (planned : make s source request = .resampleAndFrame picture canvas) :
    canvas.width < 2 ^ 32 ∧ canvas.height < 2 ^ 32 := by
  unfold make at planned
  split at planned
  · cases planned
  · cases planned
  · cases planned
  · rename_i wide high _ _
    cases fit : request.fit <;> rw [fit] at planned <;> cases planned
    exact ⟨(Nat.min_le_left _ _).trans_lt wide.toNat_lt, (Nat.min_le_left _ _).trans_lt high.toNat_lt⟩

theorem make_isEmpty (frames : request.FramesNothing) :
    ((make s source request).sides source).isEmpty = true := by
  obtain ⟨fit, wide, high, width, height, empty⟩ := frames
  simp only [make, width, height, fit, fitted, sides, Sides.isEmpty]
  rcases empty with rfl | rfl <;> simp

end Plan

/-- No format can write a picture without points. -/
theorem Drawing.make_isEmpty (words : Unworkable → String) {raster : Raster}
    (empty : raster.sides.isEmpty = true) (format : Format) (quality : UInt8) :
    Drawing.make words raster format quality =
      .error (.picture (words (.sides format raster.sides))) := by
  have refused : canWrite format raster.sides = false := by rw [canWrite, empty]; rfl
  rw [Drawing.make, refused]
  rfl

/-- A picture of thirty-two bits on either side has margins in every box that is to be filled up,
unless a box without points is to be filled up; so the 32-bit subtractions give what is left of the
canvas in just these cases.  In the others the result cannot be written, whatever the format. -/
theorem margins_left_iff {s : Scaling} (chosen : s = .exact ∨ s = .double) (r : Raster)
    (filled : r.sides.Filled) (short : r.sides.Within ⟨2 ^ 32, 2 ^ 32⟩) (request : Transform) :
    ((Plan.make s r.sides request).HasMargins ↔ ¬ request.FramesNothing) ∧
      (∀ picture canvas, Plan.make s r.sides request = .resampleAndFrame picture canvas →
        (((Plan.room picture canvas).width + picture.width = canvas.width ∧
          (Plan.room picture canvas).height + picture.height = canvas.height) ↔
            ¬ request.FramesNothing)) ∧
      (request.FramesNothing → ∀ words bytes, load words bytes = .ok r →
        ∃ cause, transform words s bytes request = .error (.picture cause)) := by
  have lawful : s.Lawful (2 ^ 32) := by
    rcases chosen with rfl | rfl
    · exact Scaling.exact_lawful _
    · exact Scaling.double_lawful
  have margins : (Plan.make s r.sides request).HasMargins ↔ ¬ request.FramesNothing :=
    Plan.make_hasMargins_iff lawful filled short
  refine ⟨margins, ?_, ?_⟩
  · intro picture canvas planned
    obtain ⟨wide, high⟩ := Plan.canvas_short planned
    rw [planned] at margins
    exact (Plan.room_adds_up_iff wide high).trans margins
  · intro frames words bytes loaded
    have empty : (r.follow (.make s r.sides request)).sides.isEmpty = true := by
      rw [Raster.sides_follow]
      exact Plan.make_isEmpty frames
    rw [transform, loaded]
    exact ⟨_, Drawing.make_isEmpty words empty _ _⟩

def framing (width : UInt32) : Transform :=
  { width := some width, height := some 8, fit := .contain }

theorem margins_left_iff_framing :
    let r := Raster.ofFn ⟨20, 10⟩ fun _ _ => .clear
    r.sides.Filled ∧ r.sides.Within ⟨2 ^ 32, 2 ^ 32⟩ ∧
      Plan.make .double r.sides (framing 8) = .resampleAndFrame ⟨8, 4⟩ ⟨8, 8⟩ ∧
      (Plan.make .double r.sides (framing 8)).HasMargins ∧ Plan.room ⟨8, 4⟩ ⟨8, 8⟩ = ⟨0, 4⟩ := by
  intro r
  have filled : r.sides.Filled := ⟨by decide, by decide⟩
  have short : r.sides.Within ⟨2 ^ 32, 2 ^ 32⟩ := ⟨by decide, by decide⟩
  have free : ¬ (framing 8).FramesNothing := by
    rintro ⟨-, width, height, ⟨⟩, ⟨⟩, empty | empty⟩ <;> exact absurd empty (by decide)
  obtain ⟨margins, -, -⟩ := margins_left_iff (.inr rfl) r filled short (framing 8)
  exact ⟨filled, short, by decide +kernel, margins.2 free, by decide⟩

/-- A point of the picture is left, and the canvas has no width to take it off: the room starts over
from the top, and the canvas cannot be written. -/
theorem framing_lacks_margins :
    let r := Raster.ofFn ⟨20, 10⟩ fun _ _ => .clear
    r.sides.Filled ∧ Plan.make .double r.sides (framing 0) = .resampleAndFrame ⟨1, 1⟩ ⟨0, 8⟩ ∧
      ¬ (Plan.make .double r.sides (framing 0)).HasMargins ∧
      Plan.room ⟨1, 1⟩ ⟨0, 8⟩ = ⟨2 ^ 32 - 1, 7⟩ ∧
      ∀ words, ∃ cause, Drawing.make words (r.follow (.make .double r.sides (framing 0))) .png 80 =
        .error (.picture cause) := by
  intro r
  have planned : Plan.make .double r.sides (framing 0) = .resampleAndFrame ⟨1, 1⟩ ⟨0, 8⟩ := by
    decide +kernel
  rw [planned]
  refine ⟨⟨by decide, by decide⟩, rfl, fun margins => ?_, by decide, fun words =>
    ⟨_, Drawing.make_isEmpty words rfl _ _⟩⟩
  exact absurd margins.width (by decide)

end Depot.Pictures
