/-! Raster images: samples row by row from the top, the channels of a pixel side by side. A page of
a document is opaque and has eight bits per sample, so `Raster.flattened` drops the alpha channel
and rounds deeper samples; colours are never blended. -/
namespace PagedReport

inductive SampleDepth where
  | eight
  | sixteen
  deriving DecidableEq

/-- The channels of a pixel: one gray or three colour samples, and one of alpha. -/
structure Layout where
  hasColour : Bool
  hasAlpha : Bool
  depth : SampleDepth
  deriving DecidableEq

namespace Layout

def colourChannels (l : Layout) : Nat := if l.hasColour then 3 else 1

def channels (l : Layout) : Nat := l.colourChannels + if l.hasAlpha then 1 else 0

def name (l : Layout) : String :=
  (match l.hasColour, l.hasAlpha with
    | false, false => "L"
    | false, true => "La"
    | true, false => "Rgb"
    | true, true => "Rgba") ++
  match l.depth with
    | .eight => "8"
    | .sixteen => "16"

def pixelBytes (l : Layout) : Nat :=
  l.channels * match l.depth with
    | .eight => 1
    | .sixteen => 2

def flat (l : Layout) : Layout := ⟨l.hasColour, false, .eight⟩

end Layout

structure Raster where
  layout : Layout
  width : Nat
  height : Nat
  samples : List UInt16
  complete : samples.length = width * height * layout.channels

namespace Raster

variable {α : Type}

def withoutEverySecond : List α → List α
  | gray :: _ :: rest => gray :: withoutEverySecond rest
  | _ => []

def withoutEveryFourth : List α → List α
  | red :: green :: blue :: _ :: rest => red :: green :: blue :: withoutEveryFourth rest
  | _ => []

theorem length_withoutEverySecond : ∀ samples : List α,
    (withoutEverySecond samples).length = samples.length / 2
  | [] | [_] => by simp [withoutEverySecond]
  | _ :: _ :: rest => by
    simp only [withoutEverySecond, List.length_cons, length_withoutEverySecond rest]; omega

theorem length_withoutEveryFourth : ∀ samples : List α,
    (withoutEveryFourth samples).length = samples.length / 4 * 3
  | [] | [_] | [_, _] | [_, _, _] => by simp [withoutEveryFourth]
  | _ :: _ :: _ :: _ :: rest => by
    simp only [withoutEveryFourth, List.length_cons, length_withoutEveryFourth rest]; omega

/-- The samples of a layout without those of alpha. -/
def colourSamples (l : Layout) (samples : List α) : List α :=
  match l.hasAlpha, l.hasColour with
  | false, _ => samples
  | true, false => withoutEverySecond samples
  | true, true => withoutEveryFourth samples

theorem length_colourSamples (l : Layout) {samples : List α} {pixels : Nat}
    (complete : samples.length = pixels * l.channels) :
    (colourSamples l samples).length = pixels * l.colourChannels := by
  obtain ⟨colour, alpha, depth⟩ := l
  cases colour <;> cases alpha <;>
    simp [colourSamples, Layout.channels, Layout.colourChannels, length_withoutEverySecond,
      length_withoutEveryFourth] at complete ⊢ <;> omega

/-- A sample rounded to eight bits: 257 steps of sixteen bits make one of eight. -/
def toEight (depth : SampleDepth) (sample : UInt16) : UInt16 :=
  match depth with
  | .eight => sample
  | .sixteen => .ofNat ((sample.toNat + 128) / 257)

def flattened (r : Raster) : Raster where
  layout := r.layout.flat
  width := r.width
  height := r.height
  samples := (colourSamples r.layout r.samples).map (toEight r.layout.depth)
  complete := by
    rw [List.length_map, length_colourSamples r.layout r.complete]; rfl

/-- An image of the given samples, if they are as many as it needs. -/
def ofSamples? (layout : Layout) (width height : Nat) (samples : List UInt16) : Option Raster :=
  if complete : samples.length = width * height * layout.channels then
    some ⟨layout, width, height, samples, complete⟩
  else none

/-- The first samples of a pattern repeated without end; an empty pattern is all zero. -/
def repeated (pattern : Array UInt16) (count : Nat) : List UInt16 :=
  (List.range count).map fun i => pattern[i % pattern.size]?.getD 0

/-- An image filled with a repeated pattern of samples, cut to the depth of the layout. -/
def ofPattern (layout : Layout) (width height : Nat) (pattern : Array UInt16) : Raster where
  layout := layout
  width := width
  height := height
  samples := (repeated pattern (width * height * layout.channels)).map fun sample =>
    match layout.depth with
    | .eight => sample % 256
    | .sixteen => sample
  complete := by simp [repeated]

end Raster

end PagedReport
