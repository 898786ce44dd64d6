import PagedReport.Raster.FileFormat

/-! What the file formats give back of an image that was saved in them. A GIF file has no half
transparent pixels and one transparent entry, so that all transparent pixels share a colour, that
of the first; a BMP file has no gray, and no sides of zero or beyond 16 bits. -/
namespace PagedReport.Raster

/-- Gray samples as colours. -/
def spreadGray (samples : List UInt16) : List UInt16 :=
  samples.flatMap fun gray => [gray, gray, gray]

def spreadGrayAlpha : List UInt16 → List UInt16
  | gray :: alpha :: rest => gray :: gray :: gray :: alpha :: spreadGrayAlpha rest
  | _ => []

def withOpaque : List UInt16 → List UInt16
  | red :: green :: blue :: rest => red :: green :: blue :: 255 :: withOpaque rest
  | _ => []

theorem length_spreadGray (samples : List UInt16) :
    (spreadGray samples).length = samples.length * 3 := by
  induction samples with
  | nil => rfl
  | cons gray rest ih =>
    simp only [spreadGray, List.flatMap_cons, List.length_append, List.length_cons] at ih ⊢
    simp only [ih, List.length_nil]; omega

theorem length_spreadGrayAlpha : ∀ samples : List UInt16,
    (spreadGrayAlpha samples).length = samples.length / 2 * 4
  | [] | [_] => by simp [spreadGrayAlpha]
  | _ :: _ :: rest => by
    simp only [spreadGrayAlpha, List.length_cons, length_spreadGrayAlpha rest]; omega

theorem length_withOpaque : ∀ samples : List UInt16,
    (withOpaque samples).length = samples.length / 3 * 4
  | [] | [_] | [_, _] => by simp [withOpaque]
  | _ :: _ :: _ :: rest => by
    simp only [withOpaque, List.length_cons, length_withOpaque rest]; omega

def inEight (r : Raster) : Raster where
  layout := { r.layout with depth := .eight }
  width := r.width
  height := r.height
  samples := r.samples.map (toEight r.layout.depth)
  complete := by simp [r.complete, Layout.channels, Layout.colourChannels]

/-- The samples of an image with gray spread over three colours. -/
def colouredSamples (r : Raster) : List UInt16 :=
  match r.layout.hasColour, r.layout.hasAlpha with
  | true, _ => r.samples
  | false, false => spreadGray r.samples
  | false, true => spreadGrayAlpha r.samples

theorem length_colouredSamples (r : Raster) :
    r.colouredSamples.length = r.width * r.height * (if r.layout.hasAlpha then 4 else 3) := by
  obtain ⟨⟨colour, alpha, depth⟩, width, height, samples, complete⟩ := r
  cases colour <;> cases alpha <;>
    simp [colouredSamples, Layout.channels, Layout.colourChannels, length_spreadGray,
      length_spreadGrayAlpha] at complete ⊢ <;> omega

def inColour (r : Raster) : Raster where
  layout := { r.layout with hasColour := true }
  width := r.width
  height := r.height
  samples := r.colouredSamples
  complete := by
    rw [length_colouredSamples]
    cases hasAlpha : r.layout.hasAlpha <;> simp [hasAlpha, Layout.channels, Layout.colourChannels]

/-- The image in colour with alpha, opaque if it had none. -/
def inColourAlpha (r : Raster) : Raster where
  layout := { r.layout with hasColour := true, hasAlpha := true }
  width := r.width
  height := r.height
  samples := if r.layout.hasAlpha then r.colouredSamples else withOpaque r.colouredSamples
  complete := by
    have length := length_colouredSamples r
    cases hasAlpha : r.layout.hasAlpha <;>
      simp [hasAlpha, length_withOpaque, Layout.channels, Layout.colourChannels] at length ⊢ <;>
      omega

/-- The colour of the first pixel that is transparent, of four samples to a pixel. -/
def clearColour? : List UInt16 → Option (UInt16 × UInt16 × UInt16)
  | red :: green :: blue :: alpha :: rest =>
    if alpha = 0 then some (red, green, blue) else clearColour? rest
  | _ => none

/-- Transparent pixels in one colour, and all others opaque. -/
def withOneClear (clear : UInt16 × UInt16 × UInt16) : List UInt16 → List UInt16
  | red :: green :: blue :: alpha :: rest =>
    (if alpha = 0 then [clear.1, clear.2.1, clear.2.2, 0] else [red, green, blue, 255]) ++
      withOneClear clear rest
  | rest => rest

theorem length_withOneClear (clear : UInt16 × UInt16 × UInt16) : ∀ samples : List UInt16,
    (withOneClear clear samples).length = samples.length
  | [] | [_] | [_, _] | [_, _, _] => rfl
  | _ :: _ :: _ :: alpha :: rest => by
    simp only [withOneClear, List.length_append, List.length_cons,
      length_withOneClear clear rest]
    split <;> simp <;> omega

def inOneClear (r : Raster) : Raster where
  layout := r.inColourAlpha.layout
  width := r.width
  height := r.height
  samples :=
    withOneClear ((clearColour? r.inColourAlpha.samples).getD (0, 0, 0)) r.inColourAlpha.samples
  complete := (length_withOneClear _ _).trans r.inColourAlpha.complete

/-- What a file of a format gives back of an image. A JPEG file keeps the layout but not the exact
samples, which nothing downstream of its size and layout depends on. -/
def savedAs (r : Raster) (format : FileFormat) : Except Fault Raster :=
  match format with
  | .gif =>
    if r.width = 0 ∨ r.height = 0 then .error (.malformed .gif) else .ok r.inEight.inOneClear
  | .webp => .ok r.inEight.inColour
  | .bmp =>
    if greatestBmpSide < r.width ∨ greatestBmpSide < r.height then .error (.malformed .bmp)
    else if r.width = 0 ∨ r.height = 0 then
      .error (.lacking .bmp (.dimensions r.width r.height))
    else .ok (if r.layout.hasColour then r.inEight else r.flattened.inColour)
  | _ => .ok r

end PagedReport.Raster
