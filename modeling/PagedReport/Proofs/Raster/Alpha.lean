import Mathlib.Data.List.Forall2
import PagedReport.Proofs.Screenshots

/-! Alpha and the pages of an album. An image is flattened to its colour samples, each rounded by itself
(`sample?_flattened`), so two images of the same colours are one page, whatever alpha they have or do
not have. A list of screenshots becomes the same document as any other that shows the same colours. -/
namespace PagedReport

namespace Raster

variable {α : Type}

/-- The sample of a channel at a pixel, pixels counted row by row. -/
def sample? (r : Raster) (pixel channel : Nat) : Option UInt16 :=
  r.samples[pixel * r.layout.channels + channel]?

theorem getElem?_withoutEverySecond (samples : List α) (even : samples.length % 2 = 0) (pixel : Nat) :
    (withoutEverySecond samples)[pixel]? = samples[pixel * 2]? := by
  fun_induction withoutEverySecond samples generalizing pixel with
  | case1 gray alpha rest ih =>
    cases pixel with
    | zero => rfl
    | succ pixel =>
      have later := ih (by simp at even; omega) pixel
      rwa [List.getElem?_cons_succ, Nat.succ_mul]
  | case2 samples short =>
    match samples with
    | [] => simp
    | [gray] => simp at even
    | gray :: alpha :: rest => exact absurd rfl (short gray alpha rest)

theorem getElem?_withoutEveryFourth (samples : List α) (whole : samples.length % 4 = 0) (pixel : Nat)
    {channel : Nat} (colour : channel < 3) :
    (withoutEveryFourth samples)[pixel * 3 + channel]? = samples[pixel * 4 + channel]? := by
  fun_induction withoutEveryFourth samples generalizing pixel with
  | case1 red green blue alpha rest ih =>
    cases pixel with
    | zero =>
      match channel with
      | 0 | 1 | 2 => rfl
    | succ pixel =>
      have later := ih (by simp at whole; omega) pixel
      have three : (pixel + 1) * 3 + channel = pixel * 3 + channel + 3 := by omega
      have four : (pixel + 1) * 4 + channel = pixel * 4 + channel + 4 := by omega
      rw [three, four]
      exact later
  | case2 samples short =>
    match samples with
    | [] => simp
    | [_] | [_, _] | [_, _, _] => simp at whole
    | red :: green :: blue :: alpha :: rest => exact absurd rfl (short red green blue alpha rest)

theorem getElem?_colourSamples (l : Layout) {samples : List α} {pixels : Nat}
    (complete : samples.length = pixels * l.channels) (pixel : Nat) {channel : Nat}
    (inside : channel < l.colourChannels) :
    (colourSamples l samples)[pixel * l.colourChannels + channel]? =
      samples[pixel * l.channels + channel]? := by
  obtain ⟨colour, alpha, depth⟩ := l
  cases alpha with
  | false => rfl
  | true =>
    cases colour with
    | false =>
      obtain rfl : channel = 0 := Nat.lt_one_iff.1 inside
      have even : samples.length % 2 = 0 := by rw [complete]; exact Nat.mul_mod_left pixels 2
      have all := getElem?_withoutEverySecond samples even pixel
      simpa [colourSamples, Layout.colourChannels, Layout.channels] using all
    | true =>
      have whole : samples.length % 4 = 0 := by rw [complete]; exact Nat.mul_mod_left pixels 4
      exact getElem?_withoutEveryFourth samples whole pixel inside

theorem colourChannels_pos (l : Layout) : 0 < l.colourChannels := by
  rw [Layout.colourChannels]
  split <;> decide

/-- A flattened image has the colour samples of the image, each rounded to eight bits. -/
theorem sample?_flattened (r : Raster) (pixel : Nat) {channel : Nat}
    (inside : channel < r.layout.colourChannels) :
    r.flattened.sample? pixel channel = (r.sample? pixel channel).map (toEight r.layout.depth) := by
  have colours := getElem?_colourSamples r.layout r.complete pixel inside
  rw [sample?, sample?, ← colours]
  exact List.getElem?_map

theorem getElem?_samples_flattened (r : Raster) (i : Nat) : r.flattened.samples[i]? =
    (r.sample? (i / r.layout.colourChannels) (i % r.layout.colourChannels)).map
      (toEight r.layout.depth) := by
  have inside := Nat.mod_lt i (colourChannels_pos r.layout)
  have place : i / r.layout.colourChannels * r.flattened.layout.channels +
      i % r.layout.colourChannels = i := Nat.div_add_mod' i _
  rw [← sample?_flattened r _ inside, sample?, place]

/-- The same size and the same colours, with any alpha or none. -/
structure SameColours (a b : Raster) : Prop where
  width : a.width = b.width
  height : a.height = b.height
  hasColour : a.layout.hasColour = b.layout.hasColour
  depth : a.layout.depth = b.layout.depth
  samples : ∀ pixel < a.width * a.height, ∀ channel < a.layout.colourChannels,
    a.sample? pixel channel = b.sample? pixel channel

theorem eq_of_samples {a b : Raster} (layout : a.layout = b.layout) (width : a.width = b.width)
    (height : a.height = b.height) (samples : a.samples = b.samples) : a = b := by
  cases a
  cases b
  simp_all

theorem flattened_eq {a b : Raster} (same : SameColours a b) : a.flattened = b.flattened := by
  have layout : a.layout.flat = b.layout.flat := by rw [Layout.flat, Layout.flat, same.hasColour]
  have channels : a.layout.colourChannels = b.layout.colourChannels := by
    rw [Layout.colourChannels, Layout.colourChannels, same.hasColour]
  have pixels : a.width * a.height = b.width * b.height := by rw [same.width, same.height]
  apply eq_of_samples (a := a.flattened) (b := b.flattened) layout same.width same.height
  apply List.ext_getElem?
  intro i
  have inA := getElem?_samples_flattened a i
  have inB := getElem?_samples_flattened b i
  rw [← channels, ← same.depth] at inB
  by_cases inside : i / a.layout.colourChannels < a.width * a.height
  · have agree := same.samples _ inside _ (Nat.mod_lt i (colourChannels_pos a.layout))
    rw [inA, inB, agree]
  · have outside : a.width * a.height * a.layout.colourChannels ≤ i :=
      (Nat.le_div_iff_mul_le (colourChannels_pos a.layout)).1 (Nat.le_of_not_lt inside)
    have past (r : Raster) (length : r.flattened.samples.length ≤ i) :
        r.flattened.samples[i]? = none := List.getElem?_eq_none length
    rw [past a (a.flattened.complete ▸ outside), past b (b.flattened.complete ▸ ?_)]
    rw [pixels, channels] at outside
    exact outside

/-- An image with other samples of alpha, given pixel by pixel. -/
def withAlpha (r : Raster) (alpha : Nat → UInt16) : Raster :=
  { r with
    samples := r.samples.mapIdx fun i sample =>
      if i % r.layout.channels < r.layout.colourChannels then sample else alpha (i / r.layout.channels)
    complete := by rw [List.length_mapIdx, r.complete] }

theorem sameColours_withAlpha (r : Raster) (alpha : Nat → UInt16) :
    SameColours r (r.withAlpha alpha) := by
  refine ⟨rfl, rfl, rfl, rfl, ?_⟩
  intro pixel _ channel inside
  have below : channel < r.layout.channels := Nat.lt_of_lt_of_le inside (Nat.le_add_right _ _)
  have place : (pixel * r.layout.channels + channel) % r.layout.channels = channel :=
    Nat.mul_add_mod_of_lt below
  have kept : (r.withAlpha alpha).sample? pixel channel = (r.sample? pixel channel).map id := by
    rw [sample?, sample?]
    simp only [withAlpha, List.getElem?_mapIdx, place, if_pos inside]
    rfl
  rw [kept, Option.map_id]
  rfl

/-- An image without its alpha. -/
def withoutAlpha (r : Raster) : Raster where
  layout := { r.layout with hasAlpha := false }
  width := r.width
  height := r.height
  samples := colourSamples r.layout r.samples
  complete := length_colourSamples r.layout r.complete

theorem sameColours_withoutAlpha (r : Raster) : SameColours r r.withoutAlpha := by
  refine ⟨rfl, rfl, rfl, rfl, ?_⟩
  intro pixel _ channel inside
  exact (getElem?_colourSamples r.layout r.complete pixel inside).symm

end Raster

namespace Screenshots

variable {Source Picture : Type}

/-- Screenshots that are one, or images of the same colours. -/
def Alike (codec : Codec Source Picture) (x y : Source) : Prop :=
  x = y ∨ ∃ r s, codec.decode x = .ok r ∧ codec.decode y = .ok s ∧ Raster.SameColours r s

theorem decodeFrom_congr {codec : Codec Source Picture} {a b : List Source}
    (alike : List.Forall₂ (Alike codec) a b) (position : Nat) :
    (decodeFrom codec position a).value = (decodeFrom codec position b).value := by
  induction alike generalizing position with
  | nil => rfl
  | @cons x y a b first _ ih =>
    rcases first with rfl | ⟨r, s, readX, readY, same⟩
    · cases decoded : codec.decode x with
      | error reason => rw [decodeFrom_cons_failed _ a decoded, decodeFrom_cons_failed _ b decoded]
      | ok image =>
        rw [decodeFrom_cons_decoded _ a decoded, decodeFrom_cons_decoded _ b decoded, ih]
    · rw [decodeFrom_cons_decoded _ a readX, decodeFrom_cons_decoded _ b readY, ih,
        Raster.flattened_eq same]

theorem value_album (codec : Codec Source Picture) (sources : List Source) :
    (album codec sources).value = if sources.isEmpty then .error .noScreenshots
      else (decodeFrom codec 0 sources).value.bind (Pdf.Album.ofRasters codec.encode) := by
  cases empty : sources.isEmpty with
  | true => simp [album, empty]
  | false =>
    cases images : (decodeFrom codec 0 sources).value <;> simp [album, empty, images] <;> rfl

/-- No document depends on alpha: screenshots of the same colours, with other alpha or with none, become
the same document at any place of any list. A decoded screenshot keeps its size and its colours, which
are rounded to eight bits, and has no alpha. -/
theorem album_ignores_alpha (codec : Codec Source Picture) :
    (∀ a b : List Source, List.Forall₂ (Alike codec) a b →
      (album codec a).value = (album codec b).value ∧
        ∀ capabilities, (albumOn capabilities codec a).value = (albumOn capabilities codec b).value) ∧
    ∀ source image, codec.decode source = .ok image →
      ∃ page, (decodeOne codec source).value = .ok page ∧
        page.width = image.width ∧ page.height = image.height ∧
        page.layout = ⟨image.layout.hasColour, false, .eight⟩ ∧
        ∀ pixel < image.width * image.height, ∀ channel < image.layout.colourChannels,
          page.sample? pixel channel =
            (image.sample? pixel channel).map (Raster.toEight image.layout.depth) := by
  constructor
  · intro a b alike
    have empty : a.isEmpty = b.isEmpty := by cases alike <;> rfl
    have documents : (album codec a).value = (album codec b).value := by
      rw [value_album, value_album, decodeFrom_congr alike, empty]
    refine ⟨documents, ?_⟩
    intro capabilities
    cases decodes : capabilities.imageDecoder with
    | true => rw [albumOn_eq_album codec a decodes, albumOn_eq_album codec b decodes, documents]
    | false => simp [albumOn, decodes, empty]
  · intro source image decoded
    refine ⟨image.flattened, by rw [decodeOne_decoded decoded], rfl, rfl, rfl, ?_⟩
    intro pixel _ channel inside
    exact image.sample?_flattened pixel inside

/-- Images that are their own files, and their samples as pictures. -/
def uncompressed : Codec Raster (List UInt16) := ⟨.ok, fun image => .ok image.samples⟩

def translucent : Raster := .ofPattern ⟨true, true, .eight⟩ 4 3 #[200, 10, 10, 128]

theorem album_translucent :
    (album uncompressed [translucent]).value =
        (album uncompressed [translucent.withAlpha fun pixel => .ofNat pixel]).value ∧
      (album uncompressed [translucent]).value =
        (album uncompressed [translucent.withoutAlpha]).value ∧
      ∃ page, (decodeOne uncompressed translucent).value = .ok page ∧
        page.layout = ⟨true, false, .eight⟩ ∧ page.sample? 0 0 = some 200 := by
  obtain ⟨same, decoded⟩ := album_ignores_alpha uncompressed
  have alike {other : Raster} (colours : Raster.SameColours translucent other) :
      List.Forall₂ (Alike uncompressed) [translucent] [other] :=
    .cons (.inr ⟨translucent, other, rfl, rfl, colours⟩) .nil
  obtain ⟨page, answer, _, _, layout, samples⟩ := decoded translucent translucent rfl
  refine ⟨(same _ _ (alike (Raster.sameColours_withAlpha _ _))).1,
    (same _ _ (alike (Raster.sameColours_withoutAlpha _))).1, page, answer, layout, ?_⟩
  rw [samples 0 (by decide) 0 (by decide)]
  decide

end Screenshots

end PagedReport
