import Depot.Pictures.Drawing
import Depot.Proofs.Pictures.Scaling

/-!
# The sides of a picture that has been fitted

A request names a box, which is made as small as the picture first.  Whatever lawful way of scaling
is used, the picture that comes out has a point at least and is no longer on either side than the
one that went in; it fills the box, stays within it or covers it, as the fit says; what is cut out
lies within the picture that it is cut from, and a canvas has room for what is laid on it, so that
a request with points in its box is always carried out.
-/

set_option autoImplicit false

namespace Depot.Pictures

namespace Sides

/-- Neither side is longer than that of another picture. -/
structure Within (inner outer : Sides) : Prop where
  width : inner.width ≤ outer.width
  height : inner.height ≤ outer.height

/-- There is a point at least. -/
structure Filled (sides : Sides) : Prop where
  width : 1 ≤ sides.width
  height : 1 ≤ sides.height

theorem Within.refl (sides : Sides) : sides.Within sides := ⟨Nat.le_refl _, Nat.le_refl _⟩

theorem Within.trans {inner middle outer : Sides} (one : inner.Within middle)
    (other : middle.Within outer) : inner.Within outer :=
  ⟨Nat.le_trans one.width other.width, Nat.le_trans one.height other.height⟩

end Sides

/-- A picture meets a box in the way that a fit promises. -/
def Fit.Meets (box result : Sides) : Fit → Prop
  | cover | contain | fill => result = box
  | inside => result.Within box ∧ (result.width = box.width ∨ result.height = box.height)
  | outside => box.Within result

/-! ## Scaling into a box -/

namespace Scaling

variable {s : Scaling} {longest : Nat}

theorem one_le_scaled (r : s.Ratio) (length : Nat) : 1 ≤ s.scaled r length := Nat.le_max_right _ _

theorem Below.scaled_le {low high : s.Ratio} (below : s.Below low high) (length : Nat) :
    s.scaled low length ≤ s.scaled high length :=
  Nat.max_le.2 ⟨Nat.le_trans (below length) (Nat.le_max_left _ _), one_le_scaled high length⟩

section Lawful

variable {part whole length : Nat} (lawful : s.Lawful longest) (le : part ≤ whole)
  (short : whole ≤ longest)

include lawful le short

theorem Lawful.scaled_whole (some : 1 ≤ part) : s.scaled (s.ratio part whole) whole = part := by
  rw [scaled, lawful.restores le (Nat.le_trans some le) short]
  exact Nat.max_eq_left some

theorem Lawful.scaled_le (positive : 1 ≤ whole) (some : 1 ≤ length) (other : length ≤ longest) :
    s.scaled (s.ratio part whole) length ≤ length :=
  Nat.max_le.2 ⟨lawful.shrinks le positive short other, some⟩

theorem Lawful.scaled_bounded (positive : 1 ≤ whole) (other : length ≤ longest) :
    s.scaled (s.smaller (s.ratio part whole) (s.ratio 1 1)) length =
      s.scaled (s.ratio part whole) length := by
  rcases lawful.ordered part 1 positive Nat.one_pos with
    ⟨-, smaller, -⟩ | ⟨below, smaller, -⟩
  · rw [smaller]
  · have same : s.scale (s.ratio part whole) length = length := by
      refine Nat.le_antisymm (lawful.shrinks le positive short other) ?_
      have least := below length
      rwa [lawful.keeps other] at least
    rw [smaller, scaled, scaled, lawful.keeps other, same]

theorem Lawful.both_bounded (positive : 1 ≤ whole) {sides : Sides}
    (reached : sides.Within ⟨longest, longest⟩) :
    s.both (s.smaller (s.ratio part whole) (s.ratio 1 1)) sides =
      s.both (s.ratio part whole) sides := by
  rw [both, both, lawful.scaled_bounded le short positive reached.width,
    lawful.scaled_bounded le short positive reached.height]

end Lawful

/-- A box with a point at least within a picture whose sides can be scaled. -/
structure Boxed (longest : Nat) (source box : Sides) : Prop where
  filled : box.Filled
  inside : box.Within source
  short : source.Within ⟨longest, longest⟩

theorem Boxed.source_filled {source box : Sides} (boxed : Boxed longest source box) :
    source.Filled :=
  ⟨Nat.le_trans boxed.filled.width boxed.inside.width,
    Nat.le_trans boxed.filled.height boxed.inside.height⟩

/-- With the ratio of the widths, one side is that of the box and the other follows from the shape;
with the ratio of the heights, it is the other way round.  The one that stays within the box and the
one that covers it are told apart by the two ratios. -/
inductive Shapes (s : Scaling) (source box : Sides) (width height : Nat) : Prop
  | flat (low : height ≤ box.height) (wide : box.width ≤ width)
    (within : s.within source box = ⟨box.width, height⟩)
    (covering : s.covering source box = ⟨width, box.height⟩)
  | tall (high : box.height ≤ height) (narrow : width ≤ box.width)
    (within : s.within source box = ⟨width, box.height⟩)
    (covering : s.covering source box = ⟨box.width, height⟩)

section Box

variable {source box : Sides} (lawful : s.Lawful longest) (boxed : Boxed longest source box)

include lawful boxed

theorem Lawful.shapes :
    ∃ width height, 1 ≤ width ∧ width ≤ source.width ∧ 1 ≤ height ∧ height ≤ source.height ∧
      Shapes s source box width height := by
  have source_filled := boxed.source_filled
  have width := lawful.scaled_whole boxed.inside.width boxed.short.width boxed.filled.width
  have height := lawful.scaled_whole boxed.inside.height boxed.short.height boxed.filled.height
  have le_width := lawful.scaled_le boxed.inside.height boxed.short.height source_filled.height
    source_filled.width boxed.short.width
  have le_height := lawful.scaled_le boxed.inside.width boxed.short.width source_filled.width
    source_filled.height boxed.short.height
  refine ⟨_, _, one_le_scaled _ _, le_width, one_le_scaled _ _, le_height, ?_⟩
  rcases lawful.ordered box.width box.height source_filled.width source_filled.height with
    ⟨below, smaller, larger⟩ | ⟨below, smaller, larger⟩
  · have low := below.scaled_le source.height
    have wide := below.scaled_le source.width
    rw [height] at low
    rw [width] at wide
    exact .flat low wide (by rw [within, smaller, both, width]) (by rw [covering, larger, both, height])
  · have high := below.scaled_le source.height
    have narrow := below.scaled_le source.width
    rw [height] at high
    rw [width] at narrow
    exact .tall high narrow (by rw [within, smaller, both, height])
      (by rw [covering, larger, both, width])

theorem Lawful.within_meets :
    (s.within source box).Filled ∧ (s.within source box).Within box ∧
      ((s.within source box).width = box.width ∨ (s.within source box).height = box.height) := by
  obtain ⟨width, height, some_width, -, some_height, -, shapes⟩ := lawful.shapes boxed
  rcases shapes with ⟨low, -, within, -⟩ | ⟨-, narrow, within, -⟩
  · rw [within]
    exact ⟨⟨boxed.filled.width, some_height⟩, ⟨Nat.le_refl _, low⟩, .inl rfl⟩
  · rw [within]
    exact ⟨⟨some_width, boxed.filled.height⟩, ⟨narrow, Nat.le_refl _⟩, .inr rfl⟩

theorem Lawful.covering_meets :
    box.Within (s.covering source box) ∧ (s.covering source box).Within source := by
  obtain ⟨width, height, -, le_width, -, le_height, shapes⟩ := lawful.shapes boxed
  rcases shapes with ⟨-, wide, -, covering⟩ | ⟨high, -, -, covering⟩
  · rw [covering]
    exact ⟨⟨wide, Nat.le_refl _⟩, ⟨le_width, boxed.inside.height⟩⟩
  · rw [covering]
    exact ⟨⟨Nat.le_refl _, high⟩, ⟨boxed.inside.width, le_height⟩⟩

theorem Lawful.coveringWithin_eq : s.coveringWithin source box = s.covering source box := by
  have source_filled := boxed.source_filled
  rw [coveringWithin, covering]
  rcases lawful.ordered box.width box.height source_filled.width source_filled.height with
    ⟨-, -, larger⟩ | ⟨-, -, larger⟩
  · rw [larger]
    exact lawful.both_bounded boxed.inside.height boxed.short.height source_filled.height boxed.short
  · rw [larger]
    exact lawful.both_bounded boxed.inside.width boxed.short.width source_filled.width boxed.short

end Box

end Scaling

/-! ## Plans -/

namespace Plan

/-- What is cut out lies within its picture, and a canvas has room for what is laid on it. -/
def Sound : Plan → Prop
  | keep | resample _ => True
  | resampleAndCut sides middle => middle.Within sides
  | resampleAndFrame sides canvas => sides.Within canvas

variable {s : Scaling} {longest : Nat} {source box : Sides}

theorem fitted_sound (lawful : s.Lawful longest) (boxed : Scaling.Boxed longest source box)
    (fit : Fit) : (fitted s source box fit).Sound := by
  cases fit with
  | cover => exact (lawful.covering_meets boxed).1
  | contain => exact (lawful.within_meets boxed).2.1
  | fill | inside | outside => trivial

theorem fitted_meets (lawful : s.Lawful longest) (boxed : Scaling.Boxed longest source box)
    (fit : Fit) :
    ((fitted s source box fit).sides source).Filled ∧
      ((fitted s source box fit).sides source).Within source ∧
      fit.Meets box ((fitted s source box fit).sides source) := by
  cases fit with
  | cover | contain | fill => exact ⟨boxed.filled, boxed.inside, rfl⟩
  | inside =>
    obtain ⟨filled, within, touches⟩ := lawful.within_meets boxed
    exact ⟨filled, within.trans boxed.inside, within, touches⟩
  | outside =>
    obtain ⟨covers, within⟩ := lawful.covering_meets boxed
    simp only [fitted, sides, lawful.coveringWithin_eq boxed]
    exact ⟨⟨Nat.le_trans boxed.filled.width covers.width,
      Nat.le_trans boxed.filled.height covers.height⟩, within, covers⟩

end Plan

/-- The sides that are asked for have a point at least. -/
structure Transform.AsksForPoints (request : Transform) : Prop where
  width : ∀ width, request.width = some width → 1 ≤ width.toNat
  height : ∀ height, request.height = some height → 1 ≤ height.toNat

/-- What a request promises of the sides of a picture: those that are given are met, as far as the
picture reaches, and without any it stays as it is. -/
def Transform.Promises (request : Transform) (source result : Sides) : Prop :=
  match request.width, request.height with
  | none, none => result = source
  | some width, none => result.width = min width.toNat source.width
  | none, some height => result.height = min height.toNat source.height
  | some width, some height =>
    request.fit.Meets ⟨min width.toNat source.width, min height.toNat source.height⟩ result

/-- The sides of a picture that has been made of another one as a request says. -/
structure Fitted (request : Transform) (source result : Sides) : Prop where
  filled : result.Filled
  inside : result.Within source
  kept : request.Promises source result

namespace Plan

variable {s : Scaling} {longest : Nat} {source : Sides} {request : Transform}

theorem make_fitted (lawful : s.Lawful longest) (filled : source.Filled)
    (short : source.Within ⟨longest, longest⟩) (asks : request.AsksForPoints) :
    (make s source request).Sound ∧ Fitted request source ((make s source request).sides source) := by
  cases width : request.width with
  | none =>
    cases height : request.height with
    | none =>
      simp only [make, width, height]
      refine ⟨trivial, filled, .refl _, ?_⟩
      simp only [Transform.Promises, width, height, sides]
    | some high =>
      have some_high : 1 ≤ min high.toNat source.height :=
        Nat.le_min.2 ⟨asks.height high height, filled.height⟩
      have le := Nat.min_le_right high.toNat source.height
      simp only [make, width, height]
      refine ⟨trivial, ⟨Scaling.one_le_scaled _ _, some_high⟩,
        ⟨lawful.scaled_le le short.height filled.height filled.width short.width, le⟩, ?_⟩
      simp only [Transform.Promises, width, height, sides]
  | some wide =>
    have some_wide : 1 ≤ min wide.toNat source.width :=
      Nat.le_min.2 ⟨asks.width wide width, filled.width⟩
    have le := Nat.min_le_right wide.toNat source.width
    cases height : request.height with
    | none =>
      simp only [make, width, height]
      refine ⟨trivial, ⟨some_wide, Scaling.one_le_scaled _ _⟩,
        ⟨le, lawful.scaled_le le short.width filled.width filled.height short.height⟩, ?_⟩
      simp only [Transform.Promises, width, height, sides]
    | some high =>
      have some_high : 1 ≤ min high.toNat source.height :=
        Nat.le_min.2 ⟨asks.height high height, filled.height⟩
      have boxed : Scaling.Boxed longest source
          ⟨min wide.toNat source.width, min high.toNat source.height⟩ :=
        ⟨⟨some_wide, some_high⟩, ⟨le, Nat.min_le_right _ _⟩, short⟩
      obtain ⟨meets_filled, within, meets⟩ := fitted_meets lawful boxed request.fit
      simp only [make, width, height]
      refine ⟨fitted_sound lawful boxed request.fit, meets_filled, within, ?_⟩
      simp only [Transform.Promises, width, height]
      exact meets

end Plan

namespace Raster

theorem sides_resampled (r : Raster) (sides : Sides) : (r.resampled sides).sides = sides := by
  rw [resampled]
  split_ifs with same
  · exact same
  · rfl
  · rfl

theorem sides_follow (r : Raster) (plan : Plan) : (r.follow plan).sides = plan.sides r.sides := by
  cases plan with
  | resample sides => exact r.sides_resampled sides
  | keep | resampleAndCut _ _ | resampleAndFrame _ _ => rfl

/-- Every lawful way of scaling that reaches the sides of a picture fits it as requested. -/
theorem follow_lawful {s : Scaling} {longest : Nat} (lawful : s.Lawful longest) (r : Raster)
    (filled : r.sides.Filled) (short : r.sides.Within ⟨longest, longest⟩) {request : Transform}
    (asks : request.AsksForPoints) :
    (Plan.make s r.sides request).Sound ∧
      Fitted request r.sides (r.follow (.make s r.sides request)).sides := by
  rw [sides_follow]
  exact Plan.make_fitted lawful filled short asks

end Raster

/-- With ratios of 53 bits every picture that can be read is fitted as requested, if its sides have no
more than 32 bits; what can still fail is the writing. -/
theorem transform_double {words : Unworkable → String} {bytes : ByteArray} {raster : Raster}
    (loaded : load words bytes = .ok raster) (filled : raster.sides.Filled)
    (short : raster.sides.Within ⟨2 ^ 32, 2 ^ 32⟩) {request : Transform}
    (asks : request.AsksForPoints) :
    ∃ result, transform words .double bytes request =
        Drawing.make words result request.format request.quality ∧
      Fitted request raster.sides result.sides := by
  refine ⟨_, ?_, (raster.follow_lawful Scaling.double_lawful filled short asks).2⟩
  rw [transform, loaded]
  rfl

/-- A side that follows from the shape, as a rational number that is rounded. -/
theorem scaled_exact_eq (part whole length : Nat) (some : 0 < whole) :
    (Scaling.exact.scaled (Scaling.exact.ratio part whole) length : ℤ) =
      max 1 (round ((length * part : ℚ) / whole)) := by
  rw [Scaling.scaled, Nat.cast_max, Nat.cast_one, max_comm, ← Scaling.exact_scale_eq_round _ _ _ some]
  rfl

/-- With exact ratios every picture is fitted as requested; where one side is given, the other one is
the nearest to the same shape, a half going up; what is cut out lies within the picture that it is
cut from, and a canvas has room for what is laid on it. -/
theorem pictures_fitted (r : Raster) (filled : r.sides.Filled) (request : Transform)
    (asks : request.AsksForPoints) :
    let result := r.follow (.make .exact r.sides request)
    Fitted request r.sides result.sides ∧
      (∀ width, request.width = some width → request.height = none →
        (result.height : ℤ) =
          max 1 (round ((r.height * (min width.toNat r.width : ℕ) : ℚ) / r.width))) ∧
      (∀ height, request.width = none → request.height = some height →
        (result.width : ℤ) =
          max 1 (round ((r.width * (min height.toNat r.height : ℕ) : ℚ) / r.height))) ∧
      (Plan.make .exact r.sides request).Sound := by
  have short : r.sides.Within ⟨max r.width r.height, max r.width r.height⟩ :=
    ⟨Nat.le_max_left _ _, Nat.le_max_right _ _⟩
  have lawful := Scaling.exact_lawful (max r.width r.height)
  have sides := r.sides_follow (.make .exact r.sides request)
  obtain ⟨sound, fitted⟩ := r.follow_lawful lawful filled short asks
  intro result
  refine ⟨fitted, ?_, ?_, sound⟩
  · intro width given other
    have high : result.height = _ := congrArg Sides.height sides
    simp only [Plan.make, given, other, Plan.sides] at high
    rw [high]
    exact scaled_exact_eq _ _ _ filled.width
  · intro height other given
    have wide : result.width = _ := congrArg Sides.width sides
    simp only [Plan.make, given, other, Plan.sides] at wide
    rw [wide]
    exact scaled_exact_eq _ _ _ filled.height

/-- A picture of two hundred by one hundred at a width of seventy-five is half a point higher than
its shape. -/
theorem pictures_fitted_half :
    let r := Raster.ofFn ⟨200, 100⟩ fun _ _ => .clear
    let request : Transform := { width := some 75 }
    r.sides.Filled ∧ request.AsksForPoints ∧
      (r.follow (.make .exact r.sides request)).sides = ⟨75, 38⟩ := by
  intro r request
  have filled : r.sides.Filled := ⟨by decide, by decide⟩
  have asks : request.AsksForPoints := by
    constructor
    · rintro width ⟨⟩
      decide
    · rintro height ⟨⟩
  obtain ⟨fitted, high, -, -⟩ := pictures_fitted r filled request asks
  refine ⟨filled, asks, ?_⟩
  have width : (r.follow (.make .exact r.sides request)).width = 75 := fitted.kept
  have height : ((r.follow (.make .exact r.sides request)).height : ℤ) =
      max 1 (round (((100 : ℕ) * (75 : ℕ) : ℚ) / (200 : ℕ))) := high 75 rfl rfl
  have half : round (((100 : ℕ) * (75 : ℕ) : ℚ) / (200 : ℕ)) = 38 := by
    rw [round_eq]
    norm_num
  rw [half] at height
  exact congrArg₂ Sides.mk width (Int.ofNat_inj.1 height)

end Depot.Pictures
