import PagedReport.Screenshots
import PagedReport.Proofs.Pdf.Album

/-! What a list of screenshots comes to. `Outcome` names the four answers with what each of them
takes and the lines that are logged on the way; `album_outcome` says that every list has one of them.
Decoding goes first: whether the encoder would refuse an image does not matter while a later
screenshot is no image, and nothing after the first failure of a step matters at all. -/
namespace PagedReport.Screenshots

variable {Source Picture α β ε : Type}

/-- A function that can fail either answers on a whole list or fails first at one place of it. -/
theorem answers_or_fails (f : α → Except ε β) (xs : List α) :
    (∃ ys : List β, xs.map f = ys.map .ok) ∨
      ∃ before bad after, ∃ ys : List β, ∃ reason, xs = before ++ bad :: after ∧
        before.map f = ys.map .ok ∧ f bad = .error reason := by
  induction xs with
  | nil => exact .inl ⟨[], rfl⟩
  | cons x xs ih =>
    cases answer : f x with
    | error reason => exact .inr ⟨[], x, xs, [], reason, rfl, rfl, answer⟩
    | ok y =>
      rcases ih with ⟨ys, all⟩ | ⟨before, bad, after, ys, reason, rfl, all, failed⟩
      · exact .inl ⟨y :: ys, by simp [answer, all]⟩
      · exact .inr ⟨x :: before, bad, after, y :: ys, reason, rfl, by simp [answer, all], failed⟩

theorem accepts_of_map_eq {f : α → Except ε β} {xs : List α} {ys : List β}
    (all : xs.map f = ys.map .ok) : ∀ x ∈ xs, ∃ y, f x = .ok y := by
  intro x member
  have answer : f x ∈ ys.map Except.ok := all ▸ List.mem_map_of_mem member
  obtain ⟨y, -, same⟩ := List.mem_map.1 answer
  exact ⟨y, same.symm⟩

/-- A line of the log. -/
def line (event : Event) : Event.Level × String := (event.level, event.message)

/-- The lines about the images of a list that have an alpha channel. -/
def alphaLines (images : List Raster) : List (Event.Level × String) :=
  (images.filter (·.layout.hasAlpha)).map fun image =>
    (.debug, "Dropping alpha channel from " ++ image.layout.name ++ " screenshot")

def alphaEvents (images : List Raster) : List Event :=
  (images.filter (·.layout.hasAlpha)).map fun image => .alphaDropped image.layout.name

theorem map_line_alphaEvents (images : List Raster) :
    (alphaEvents images).map line = alphaLines images := by
  rw [alphaEvents, List.map_map]
  rfl

theorem alphaEvents_cons (image : Raster) (images : List Raster) :
    alphaEvents (image :: images) = alphaEvents [image] ++ alphaEvents images := by
  cases alpha : image.layout.hasAlpha <;> simp [alphaEvents, alpha]

theorem decodeOne_decoded {codec : Codec Source Picture} {source : Source} {image : Raster}
    (decoded : codec.decode source = .ok image) :
    decodeOne codec source = ⟨.ok image.flattened, alphaEvents [image]⟩ := by
  cases alpha : image.layout.hasAlpha <;> simp [decodeOne, decoded, alpha, alphaEvents] <;> rfl

theorem decodeOne_failed {codec : Codec Source Picture} {source : Source} {reason : String}
    (failed : codec.decode source = .error reason) :
    decodeOne codec source = ⟨.error reason, []⟩ := by
  rw [decodeOne, failed]
  rfl

theorem decodeFrom_cons_decoded {codec : Codec Source Picture} (position : Nat) {source : Source}
    (sources : List Source) {image : Raster} (decoded : codec.decode source = .ok image) :
    let rest := decodeFrom codec (position + 1) sources
    decodeFrom codec position (source :: sources) =
      ⟨rest.value.map (image.flattened :: ·), alphaEvents [image] ++ rest.events⟩ := by
  rw [decodeFrom, decodeOne_decoded decoded]
  ext1 <;> simp

theorem decodeFrom_cons_failed {codec : Codec Source Picture} (position : Nat) {source : Source}
    (sources : List Source) {reason : String} (failed : codec.decode source = .error reason) :
    decodeFrom codec position (source :: sources) = ⟨.error (.decode
      ("Failed decoding screenshot " ++ toString position ++ ": " ++ reason)), []⟩ := by
  rw [decodeFrom, decodeOne_failed failed]
  rfl

/-- A run over screenshots that are images goes on behind them with what they gave. -/
theorem decodeFrom_append {codec : Codec Source Picture} (position : Nat) {before : List Source}
    (rest : List Source) {images : List Raster}
    (decoded : before.map codec.decode = images.map .ok) :
    let later := decodeFrom codec (position + before.length) rest
    decodeFrom codec position (before ++ rest) =
      ⟨later.value.map (images.map Raster.flattened ++ ·), alphaEvents images ++ later.events⟩ := by
  induction before generalizing position images with
  | nil =>
    obtain rfl : images = [] := by simpa using decoded
    ext1
    · exact (id_map _).symm
    · rfl
  | cons source before ih =>
    cases images with
    | nil => simp at decoded
    | cons image images =>
      obtain ⟨first, others⟩ := List.cons.inj decoded
      have shifted : position + 1 + before.length = position + (before.length + 1) := by omega
      rw [List.cons_append, decodeFrom_cons_decoded position _ first, ih _ others,
        alphaEvents_cons image images, List.length_cons, shifted]
      ext1
      · cases (decodeFrom codec (position + (before.length + 1)) rest).value <;> rfl
      · exact (List.append_assoc _ _ _).symm

theorem decodeFrom_decoded {codec : Codec Source Picture} (position : Nat) {sources : List Source}
    {images : List Raster} (decoded : sources.map codec.decode = images.map .ok) :
    decodeFrom codec position sources =
      ⟨.ok (images.map Raster.flattened), alphaEvents images⟩ := by
  have run := decodeFrom_append position [] decoded
  simpa [decodeFrom, Except.map] using run

theorem decodeFrom_failed {codec : Codec Source Picture} (position : Nat) {before : List Source}
    (after : List Source) {bad : Source} {images : List Raster} {reason : String}
    (decoded : before.map codec.decode = images.map .ok) (failed : codec.decode bad = .error reason) :
    decodeFrom codec position (before ++ bad :: after) = ⟨.error (.decode
      ("Failed decoding screenshot " ++ toString (position + before.length) ++ ": " ++ reason)),
      alphaEvents images⟩ := by
  rw [decodeFrom_append position (bad :: after) decoded, decodeFrom_cons_failed _ after failed,
    List.append_nil]
  rfl

/-- The four things that a list of screenshots can come to, with the lines that are logged. -/
inductive Outcome (codec : Codec Source Picture) : List Source →
    Except Failure (Pdf.Document Picture) → List (Event.Level × String) → Prop where
  | nothing : Outcome codec [] (.error .noScreenshots) []
  /-- The first screenshot that is no image; what follows it is not looked at. -/
  | undecoded {before after : List Source} {bad : Source} {images : List Raster} {reason : String} :
      before.map codec.decode = images.map .ok → codec.decode bad = .error reason →
      Outcome codec (before ++ bad :: after)
        (.error (.decode
          ("Failed decoding screenshot " ++ toString before.length ++ ": " ++ reason)))
        (alphaLines images)
  /-- All screenshots are images, and the encoder refuses one of them first. -/
  | refused {sources : List Source} {before after : List Raster} {bad : Raster}
      {contents : List Picture} {reason : String} : sources ≠ [] →
      sources.map codec.decode = (before ++ bad :: after).map .ok →
      before.map (fun image => codec.encode image.flattened) = contents.map .ok →
      codec.encode bad.flattened = .error reason →
      Outcome codec sources
        (.error (.assembly ("Failed converting screenshots to pdf " ++ reason)))
        (alphaLines (before ++ bad :: after) ++
          [(.info, "building pdf from " ++ toString sources.length ++ " screenshots")])
  | made {sources : List Source} {images : List Raster} {d : Pdf.Document Picture} {pages : Nat}
      {leaves : List (Pdf.Album.Leaf Picture)} : sources ≠ [] →
      sources.map codec.decode = images.map .ok →
      d.pages = leaves.map Pdf.Album.Leaf.page →
      Pdf.Album.IsAlbum codec.encode (images.map Raster.flattened) d pages leaves →
      Outcome codec sources (.ok d)
        (alphaLines images ++
          [(.info, "building pdf from " ++ toString sources.length ++ " screenshots")])

theorem album_decoded {codec : Codec Source Picture} {sources : List Source} {images : List Raster}
    (nonempty : sources ≠ []) (decoded : sources.map codec.decode = images.map .ok) :
    album codec sources = ⟨Pdf.Album.ofRasters codec.encode (images.map Raster.flattened),
      alphaEvents images ++ [.screenshotsDecoded images.length]⟩ := by
  have full : sources.isEmpty = false := by simpa using nonempty
  have read := decodeFrom_decoded 0 decoded
  ext1 <;> simp [album, full, read]

theorem album_failed {codec : Codec Source Picture} {before : List Source} (after : List Source)
    {bad : Source} {images : List Raster} {reason : String}
    (decoded : before.map codec.decode = images.map .ok) (failed : codec.decode bad = .error reason) :
    album codec (before ++ bad :: after) = ⟨.error (.decode
      ("Failed decoding screenshot " ++ toString before.length ++ ": " ++ reason)),
      alphaEvents images⟩ := by
  have full : (before ++ bad :: after).isEmpty = false := by simp
  have read := decodeFrom_failed 0 after decoded failed
  ext1 <;> simp [album, full, read]

theorem lines_album {codec : Codec Source Picture} {sources : List Source} {images : List Raster}
    (nonempty : sources ≠ []) (decoded : sources.map codec.decode = images.map .ok) :
    (album codec sources).events.map line = alphaLines images ++
      [(.info, "building pdf from " ++ toString sources.length ++ " screenshots")] := by
  have asMany : sources.length = images.length := by simpa using congrArg List.length decoded
  rw [album_decoded nonempty decoded, List.map_append, map_line_alphaEvents, asMany]
  rfl

theorem outcome_refused {codec : Codec Source Picture} {sources : List Source}
    {before after : List Raster} {bad : Raster} {contents : List Picture} {reason : String}
    (nonempty : sources ≠ []) (decoded : sources.map codec.decode = (before ++ bad :: after).map .ok)
    (accepted : before.map (fun image => codec.encode image.flattened) = contents.map .ok)
    (refused : codec.encode bad.flattened = .error reason) :
    Outcome codec sources (album codec sources).value
      ((album codec sources).events.map line) := by
  have flat : ∀ image ∈ before.map Raster.flattened, ∃ content, codec.encode image = .ok content :=
    List.forall_mem_map.2 (accepts_of_map_eq accepted)
  have answer : (album codec sources).value =
      .error (.assembly ("Failed converting screenshots to pdf " ++ reason)) := by
    rw [album_decoded nonempty decoded, List.map_append, List.map_cons]
    exact Pdf.Album.ofRasters_refused flat refused
  rw [answer, lines_album nonempty decoded]
  exact .refused nonempty decoded accepted refused

theorem outcome_made {codec : Codec Source Picture} {sources : List Source} {images : List Raster}
    {contents : List Picture} (nonempty : sources ≠ [])
    (decoded : sources.map codec.decode = images.map .ok)
    (accepted : images.map (fun image => codec.encode image.flattened) = contents.map .ok) :
    Outcome codec sources (album codec sources).value
      ((album codec sources).events.map line) := by
  have flat : ∀ image ∈ images.map Raster.flattened, ∃ content, codec.encode image = .ok content :=
    List.forall_mem_map.2 (accepts_of_map_eq accepted)
  obtain ⟨leaves, root, shown, encoded, distinct, made⟩ := Pdf.Album.ofRasters_accepted flat
  have isAlbum := Pdf.Album.isAlbum_bound shown encoded distinct
  have answer : (album codec sources).value = .ok (Pdf.Album.bound 1 root leaves) := by
    rw [album_decoded nonempty decoded]
    exact made
  rw [answer, lines_album nonempty decoded]
  exact .made nonempty decoded isAlbum.pages_eq isAlbum

theorem albumOn_eq_album {capabilities : Capabilities} (codec : Codec Source Picture)
    (sources : List Source) (decodes : capabilities.imageDecoder = true) :
    albumOn capabilities codec sources = album codec sources := by
  cases sources with
  | nil => rfl
  | cons source sources => simp [albumOn, decodes]

theorem albumOn_detect (machine : Machine) (codec : Codec Source Picture) (sources : List Source) :
    albumOn (Capabilities.detect machine).value codec sources = album codec sources := by
  apply albumOn_eq_album
  unfold Capabilities.detect
  cases machine.installedBrowser <;> rfl

/-- What is noted when a machine is asked: the browser that was found, or why there is none. -/
def probed (machine : Machine) : Event :=
  match machine.installedBrowser with
  | .ok path => .browserFound path
  | .error reason => .browserMissing reason

theorem events_detect (machine : Machine) : (Capabilities.detect machine).events = [probed machine] := by
  unfold Capabilities.detect probed
  cases machine.installedBrowser <;> rfl

theorem albumAsking_eq (machine : Machine) (codec : Codec Source Picture) (sources : List Source) :
    albumAsking machine codec sources = ⟨(album codec sources).value,
      (if sources.isEmpty then [] else [probed machine]) ++ (album codec sources).events⟩ := by
  cases sources with
  | nil => rfl
  | cons source sources =>
    have asked : albumAsking machine codec (source :: sources) = (Capabilities.detect machine >>=
        fun capabilities => albumOn capabilities codec (source :: sources)) := rfl
    rw [asked]
    ext1
    · rw [Logged.value_bind, albumOn_detect]
    · rw [Logged.events_bind, albumOn_detect, events_detect]
      rfl

/-- Every list of screenshots has its outcome. Where the machine has been asked before, asking for what it
can do changes nothing; the first call of a process has the same answer, and the line that the machine's
answer is noted with before all others, unless there is nothing to decode. -/
theorem album_outcome (codec : Codec Source Picture) (sources : List Source) :
    Outcome codec sources (album codec sources).value ((album codec sources).events.map line) ∧
      ∀ machine, albumOn (Capabilities.detect machine).value codec sources = album codec sources ∧
        albumAsking machine codec sources = ⟨(album codec sources).value,
          (if sources.isEmpty then [] else [probed machine]) ++ (album codec sources).events⟩ := by
  refine ⟨?_, fun machine =>
    ⟨albumOn_detect machine codec sources, albumAsking_eq machine codec sources⟩⟩
  by_cases empty : sources = []
  · subst empty
    exact .nothing
  rcases answers_or_fails codec.decode sources with
    ⟨images, decoded⟩ | ⟨before, bad, after, images, reason, rfl, decoded, failed⟩
  · rcases answers_or_fails (fun image => codec.encode image.flattened) images with
      ⟨contents, accepted⟩ | ⟨before, bad, after, contents, reason, rfl, accepted, refused⟩
    · exact outcome_made empty decoded accepted
    · exact outcome_refused empty decoded accepted refused
  · rw [album_failed after decoded failed, map_line_alphaEvents]
    exact .undecoded decoded failed

end PagedReport.Screenshots
