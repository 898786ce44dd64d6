import PagedReport.Pdf.Album
import PagedReport.Proofs.Pdf.Graph

/-! The documents of albums. A page takes three numbers in a row, for its picture, its contents and
itself; `addPages_accepted` says what a run over accepted images adds, `addPages_refused` which image
ends it. The document is the node of pages, those triples and the catalog (`bound`), and its shape
gives the rest: a tree in which each page has its own picture and contents. -/
namespace PagedReport.Pdf.Album

variable {Picture : Type} {encode : Raster → Except String Picture}

/-- A page with the image that it shows and the numbers of its three objects. -/
structure Leaf (Picture : Type) where
  image : Raster
  content : Picture
  picture : Nat
  contents : Nat
  page : Nat

namespace Leaf

def numbers (leaf : Leaf Picture) : List Nat := [leaf.picture, leaf.contents, leaf.page]

def objects (pages : Nat) (leaf : Leaf Picture) : List (Nat × Object Picture) := [
  (leaf.picture, pictureObject leaf.image leaf.content),
  (leaf.contents, .contents (drawing leaf.image)),
  (leaf.page, pageObject leaf.image pages leaf.picture leaf.contents)]

/-- The page of an image whose numbers begin at the given one. -/
def startingAt (number : Nat) (image : Raster) (content : Picture) : Leaf Picture :=
  ⟨image, content, number, number + 1, number + 2⟩

end Leaf

theorem addPage_eq (d : Draft Picture) (pages : Nat) (image : Raster) (content : Picture) :
    let leaf := Leaf.startingAt d.next image content
    addPage d pages image content =
      (leaf.page, ⟨d.next + 3, d.objects ++ leaf.objects pages⟩) := by
  simp [addPage, Draft.add_eq, Leaf.startingAt, Leaf.objects]

theorem addPages_cons (pages : Nat) (d : Draft Picture) {image : Raster} (images : List Raster)
    {content : Picture} (encoded : encode image = .ok content) :
    let leaf := Leaf.startingAt d.next image content
    addPages encode pages d (image :: images) =
      (addPages encode pages ⟨d.next + 3, d.objects ++ leaf.objects pages⟩ images).map
        fun rest => (leaf.page :: rest.1, rest.2) := by
  simp only [addPages, encoded, addPage_eq]
  rfl

/-- The pages of accepted images are added in their order, with numbers that no other object has. -/
theorem addPages_accepted (pages : Nat) (d : Draft Picture) (images : List Raster)
    (accepted : ∀ image ∈ images, ∃ content, encode image = .ok content) :
    ∃ leaves : List (Leaf Picture), leaves.map Leaf.image = images ∧
      (∀ leaf ∈ leaves, encode leaf.image = .ok leaf.content) ∧
      leaves.flatMap Leaf.numbers = List.range' d.next (3 * images.length) ∧
      addPages encode pages d images = .ok (leaves.map Leaf.page,
        ⟨d.next + 3 * images.length, d.objects ++ leaves.flatMap (Leaf.objects pages)⟩) := by
  induction images generalizing d with
  | nil => exact ⟨[], rfl, by simp, rfl, by simp [addPages]⟩
  | cons image images ih =>
    obtain ⟨content, encoded⟩ := accepted image (by simp)
    let leaf := Leaf.startingAt d.next image content
    obtain ⟨leaves, shown, kept, numbers, run⟩ :=
      ih ⟨d.next + 3, d.objects ++ leaf.objects pages⟩ fun later member =>
        accepted later (by simp [member])
    refine ⟨leaf :: leaves, by simp [shown, leaf, Leaf.startingAt], ?_, ?_, ?_⟩
    · intro other member
      rcases List.mem_cons.1 member with rfl | later
      · exact encoded
      · exact kept other later
    · have triple : leaf.numbers = List.range' d.next 3 := rfl
      rw [List.flatMap_cons, numbers, triple, List.range'_append_1, List.length_cons]
      congr 1
      omega
    · have next : d.next + 3 + 3 * images.length = d.next + 3 * (images.length + 1) := by omega
      rw [addPages_cons pages d images encoded, run]
      simp [Except.map, next, leaf]

theorem addPages_refused (pages : Nat) (d : Draft Picture) {before after : List Raster}
    {image : Raster} {reason : String}
    (accepted : ∀ earlier ∈ before, ∃ content, encode earlier = .ok content)
    (refused : encode image = .error reason) :
    addPages encode pages d (before ++ image :: after) = .error (.ofAssembly reason) := by
  induction before generalizing d with
  | nil => simp [addPages, refused]
  | cons earlier before ih =>
    obtain ⟨content, encoded⟩ := accepted earlier (by simp)
    have rest := fun d => ih d fun other member => accepted other (by simp [member])
    rw [List.cons_append, addPages_cons pages d _ encoded, rest]
    rfl

def pagesNode (kids : List Nat) : Object Picture :=
  .dictionary [
    ("Type", .name "Pages"),
    ("Count", .integer kids.length),
    ("Kids", .array (kids.map .reference))]

def catalog (pages : Nat) : Object Picture :=
  .dictionary [("Type", .name "Catalog"), ("Pages", .reference pages)]

/-- The document of some pages, as its node of pages and its catalog are numbered. -/
def bound (pages root : Nat) (leaves : List (Leaf Picture)) : Document Picture where
  objects :=
    (pages, pagesNode (leaves.map Leaf.page)) :: leaves.flatMap (Leaf.objects pages) ++
      [(root, catalog pages)]
  root := root

theorem numbers_leaves (pages : Nat) (leaves : List (Leaf Picture)) :
    (leaves.flatMap (Leaf.objects pages)).map Prod.fst = leaves.flatMap Leaf.numbers := by
  rw [List.map_flatMap]
  rfl

theorem ofRasters_eq (images : List Raster) :
    ofRasters encode images = (addPages encode 1 ⟨2, []⟩ images).map fun run =>
      let made := (run.2.fill 1 (pagesNode run.1)).add (catalog 1)
      ⟨made.2.objects, made.1⟩ := by
  simp only [ofRasters, Draft.blank, Draft.reserve]
  cases addPages encode 1 ⟨2, []⟩ images <;> rfl

theorem range'_between (count : Nat) :
    1 :: List.range' 2 count ++ [2 + count] = List.range' 1 (count + 2) := by
  have last : 1 + 1 * (count + 1) = 2 + count := by omega
  rw [List.range'_concat, List.range'_succ, last]

/-- The document of accepted images. Its numbers run from 1 on, so that no two objects share one. -/
theorem ofRasters_accepted {images : List Raster}
    (accepted : ∀ image ∈ images, ∃ content, encode image = .ok content) :
    ∃ (leaves : List (Leaf Picture)) (root : Nat), leaves.map Leaf.image = images ∧
      (∀ leaf ∈ leaves, encode leaf.image = .ok leaf.content) ∧
      (1 :: leaves.flatMap Leaf.numbers ++ [root]).Nodup ∧
      ofRasters encode images = .ok (bound 1 root leaves) := by
  obtain ⟨leaves, shown, encoded, numbers, run⟩ := addPages_accepted 1 ⟨2, []⟩ images accepted
  refine ⟨leaves, 2 + 3 * images.length, shown, encoded, ?_, ?_⟩
  · rw [numbers, range'_between]
    exact List.nodup_range'
  · have least : ∀ entry ∈ leaves.flatMap (Leaf.objects 1), 1 < entry.1 := by
      intro entry member
      have taken := List.mem_map_of_mem (f := Prod.fst) member
      rw [numbers_leaves, numbers, List.mem_range'_1] at taken
      exact taken.1
    have filled := Draft.fill_least ⟨2 + 3 * images.length, leaves.flatMap (Leaf.objects 1)⟩ 1
      (pagesNode (leaves.map Leaf.page)) least
    rw [ofRasters_eq, run]
    simp [Except.map, filled, Draft.add_eq, bound]

theorem ofRasters_refused {before after : List Raster} {image : Raster} {reason : String}
    (accepted : ∀ earlier ∈ before, ∃ content, encode earlier = .ok content)
    (refused : encode image = .error reason) :
    ofRasters encode (before ++ image :: after) = .error (.ofAssembly reason) := by
  rw [ofRasters_eq, addPages_refused _ _ accepted refused]
  rfl

theorem mem_bound {pages root : Nat} {leaves : List (Leaf Picture)} {entry : Nat × Object Picture} :
    entry ∈ (bound pages root leaves).objects ↔ entry = (pages, pagesNode (leaves.map Leaf.page)) ∨
      (∃ leaf ∈ leaves, entry ∈ leaf.objects pages) ∨ entry = (root, catalog pages) := by
  simp [bound]

theorem numbers_bound (pages root : Nat) (leaves : List (Leaf Picture)) :
    (bound pages root leaves).numbers = pages :: leaves.flatMap Leaf.numbers ++ [root] := by
  simp [bound, Document.numbers, List.map_flatMap, Leaf.objects]
  rfl

theorem references_pagesNode (kids : List Nat) :
    (pagesNode kids : Object Picture).references = kids := by
  simp [pagesNode, Object.references, entryReferences]

theorem references_catalog (pages : Nat) :
    (catalog pages : Object Picture).references = [pages] := rfl

theorem references_pageObject (image : Raster) (pages picture contents : Nat) :
    (pageObject image pages picture contents : Object Picture).references =
      [pages, picture, contents] := rfl

theorem references_pictureObject (image : Raster) (content : Picture) :
    (pictureObject image content).references = [] := rfl

theorem closed_bound (pages root : Nat) (leaves : List (Leaf Picture)) :
    (bound pages root leaves).Closed := by
  intro entry member target refers
  rw [numbers_bound]
  have owned (leaf : Leaf Picture) (inside : leaf ∈ leaves) :
      ∀ number ∈ leaf.numbers, number ∈ pages :: leaves.flatMap Leaf.numbers ++ [root] :=
    fun number own => by
      have := List.mem_flatMap.2 ⟨leaf, inside, own⟩
      simp [this]
  rcases mem_bound.1 member with rfl | ⟨leaf, inside, inLeaf⟩ | rfl
  · rw [references_pagesNode] at refers
    obtain ⟨leaf, inside, rfl⟩ := List.mem_map.1 refers
    exact owned leaf inside _ (by simp [Leaf.numbers])
  · simp only [Leaf.objects, List.mem_cons, List.not_mem_nil, or_false] at inLeaf
    rcases inLeaf with rfl | rfl | rfl
    · simp [references_pictureObject] at refers
    · simp [Object.references] at refers
    · simp only [references_pageObject, List.mem_cons, List.not_mem_nil, or_false] at refers
      rcases refers with rfl | rfl | rfl
      · simp
      · exact owned leaf inside _ (by simp [Leaf.numbers])
      · exact owned leaf inside _ (by simp [Leaf.numbers])
  · simp only [references_catalog, List.mem_singleton] at refers
    simp [refers]

theorem reaches_bound (pages root : Nat) (leaves : List (Leaf Picture)) :
    ∀ entry ∈ (bound pages root leaves).objects, (bound pages root leaves).Reaches entry.1 := by
  have reachesPages : (bound pages root leaves).Reaches pages :=
    .follow .root (mem_bound.2 (.inr (.inr rfl))) (by simp [references_catalog])
  have reachesPage (leaf : Leaf Picture) (inside : leaf ∈ leaves) :
      (bound pages root leaves).Reaches leaf.page :=
    .follow reachesPages (mem_bound.2 (.inl rfl)) (by
      rw [references_pagesNode]
      exact List.mem_map_of_mem inside)
  have fromPage (leaf : Leaf Picture) (inside : leaf ∈ leaves) (number : Nat)
      (refers : number ∈ [pages, leaf.picture, leaf.contents]) :
      (bound pages root leaves).Reaches number :=
    have own : (leaf.page, pageObject leaf.image pages leaf.picture leaf.contents) ∈
        leaf.objects pages := by simp [Leaf.objects]
    .follow (reachesPage leaf inside) (mem_bound.2 (.inr (.inl ⟨leaf, inside, own⟩))) refers
  intro entry member
  rcases mem_bound.1 member with rfl | ⟨leaf, inside, inLeaf⟩ | rfl
  · exact reachesPages
  · simp only [Leaf.objects, List.mem_cons, List.not_mem_nil, or_false] at inLeaf
    rcases inLeaf with rfl | rfl | rfl
    · exact fromPage leaf inside _ (by simp)
    · exact fromPage leaf inside _ (by simp)
    · exact reachesPage leaf inside
  · exact .root

theorem text_drawing (image : Raster) : (drawing image).map Operation.text =
    ["q", toString image.width ++ " 0 0 " ++ toString image.height ++ " 0 0 cm", "/Im0 Do", "Q"] := by
  have natural (n : Nat) : toString (n : Int) = toString n := rfl
  simp only [drawing, List.map_cons, List.map_nil, Operation.text, natural,
    String.intercalate_cons_cons]
  simp [String.append_assoc, pictureName]
  rfl

/-- What makes a document the album of some images: a catalog and one node of pages over a page for
each image, in their order and as large as it is, each with its own picture and its own contents;
nothing else, nothing missing and nothing out of reach. -/
structure IsAlbum (encode : Raster → Except String Picture) (images : List Raster)
    (d : Document Picture) (pages : Nat) (leaves : List (Leaf Picture)) : Prop where
  count : d.objects.length = 3 * images.length + 2
  distinct : d.numbers.Nodup
  catalog : (d.root, .dictionary [("Type", .name "Catalog"), ("Pages", .reference pages)]) ∈ d.objects
  pagesNode : (pages, .dictionary [
    ("Type", .name "Pages"),
    ("Count", .integer images.length),
    ("Kids", .array (leaves.map fun leaf => .reference leaf.page))]) ∈ d.objects
  onlyPagesNode : ∀ entry ∈ d.objects, entry.2.field? "Type" = some (.name "Pages") → entry.1 = pages
  inOrder : leaves.map Leaf.image = images
  page : ∀ leaf ∈ leaves, (leaf.page, .dictionary [
    ("Type", .name "Page"),
    ("Parent", .reference pages),
    ("MediaBox", .array
      [.integer 0, .integer 0, .integer leaf.image.width, .integer leaf.image.height]),
    ("Resources", .dictionary [("XObject", .dictionary [("Im0", .reference leaf.picture)])]),
    ("Contents", .reference leaf.contents)]) ∈ d.objects
  picture : ∀ leaf ∈ leaves, encode leaf.image = .ok leaf.content ∧ (leaf.picture, .picture [
    ("Type", .name "XObject"),
    ("Subtype", .name "Image"),
    ("Width", .integer leaf.image.width),
    ("Height", .integer leaf.image.height),
    ("ColorSpace", .name (if leaf.image.layout.hasColour then "DeviceRGB" else "DeviceGray")),
    ("BitsPerComponent", .integer 8),
    ("Filter", .name "DCTDecode")] leaf.content) ∈ d.objects
  contents : ∀ leaf ∈ leaves, ∃ operations, (leaf.contents, .contents operations) ∈ d.objects ∧
    operations.map Operation.text = ["q",
      toString leaf.image.width ++ " 0 0 " ++ toString leaf.image.height ++ " 0 0 cm",
      "/Im0 Do", "Q"]
  apart : leaves.Pairwise fun a b => ∀ number ∈ a.numbers, number ∉ b.numbers
  closed : d.Closed
  reached : ∀ entry ∈ d.objects, d.Reaches entry.1

theorem isAlbum_bound {images : List Raster} {leaves : List (Leaf Picture)} {pages root : Nat}
    (shown : leaves.map Leaf.image = images)
    (encoded : ∀ leaf ∈ leaves, encode leaf.image = .ok leaf.content)
    (distinct : (pages :: leaves.flatMap Leaf.numbers ++ [root]).Nodup) :
    IsAlbum encode images (bound pages root leaves) pages leaves := by
  have inLeaf (leaf : Leaf Picture) (inside : leaf ∈ leaves) (entry : Nat × Object Picture)
      (own : entry ∈ leaf.objects pages) : entry ∈ (bound pages root leaves).objects :=
    mem_bound.2 (.inr (.inl ⟨leaf, inside, own⟩))
  have numbers := numbers_bound pages root leaves
  constructor
  case count =>
    have three : (leaves.flatMap Leaf.numbers).length = 3 * leaves.length := by
      simp [List.length_flatMap, Leaf.numbers, List.map_const', Nat.mul_comm]
    have size := congrArg List.length numbers
    rw [Document.numbers, List.length_map] at size
    simp [size, three, ← shown]
  case distinct => rw [numbers]; exact distinct
  case catalog => exact mem_bound.2 (.inr (.inr rfl))
  case pagesNode =>
    have node : Album.pagesNode (leaves.map Leaf.page) = (.dictionary [
        ("Type", .name "Pages"),
        ("Count", .integer images.length),
        ("Kids", .array (leaves.map fun leaf => .reference leaf.page))] : Object Picture) := by
      simp [Album.pagesNode, ← shown, Function.comp_def]
    rw [← node]
    exact mem_bound.2 (.inl rfl)
  case onlyPagesNode =>
    intro entry member isPages
    rcases mem_bound.1 member with rfl | ⟨leaf, inside, own⟩ | rfl
    · rfl
    · simp only [Leaf.objects, List.mem_cons, List.not_mem_nil, or_false] at own
      rcases own with rfl | rfl | rfl
      · simp [pictureObject, Object.field?] at isPages
      · simp [Object.field?] at isPages
      · simp [pageObject, Object.field?] at isPages
    · simp [Album.catalog, Object.field?] at isPages
  case inOrder => exact shown
  case page =>
    intro leaf inside
    exact inLeaf leaf inside _ (by simp [Leaf.objects, pageObject, pictureName])
  case picture =>
    intro leaf inside
    exact ⟨encoded leaf inside, inLeaf leaf inside _ (by simp [Leaf.objects, pictureObject])⟩
  case contents =>
    intro leaf inside
    have own : (leaf.contents, .contents (drawing leaf.image)) ∈ leaf.objects pages := by
      simp [Leaf.objects]
    exact ⟨_, inLeaf leaf inside _ own, text_drawing leaf.image⟩
  case apart =>
    have inside := (List.nodup_cons.1 (List.nodup_append.1 distinct).1).2
    rw [List.Nodup, List.pairwise_flatMap] at inside
    exact inside.2.imp fun apart number own other => apart number own number other rfl
  case closed => exact closed_bound pages root leaves
  case reached => exact reaches_bound pages root leaves

/-- The pages that are found through the catalog are those of the images, in their order. -/
theorem IsAlbum.pages_eq {images : List Raster} {d : Document Picture} {pages : Nat}
    {leaves : List (Leaf Picture)} (album : IsAlbum encode images d pages leaves) :
    d.pages = leaves.map Leaf.page := by
  have node : ((d.object? d.root).bind (·.field? "Pages")).bind Object.reference? = some pages := by
    rw [Document.object?_of_mem album.distinct album.catalog]
    rfl
  have kids : (d.object? pages).bind (·.field? "Kids") =
      some (.array (leaves.map fun leaf => .reference leaf.page)) := by
    rw [Document.object?_of_mem album.distinct album.pagesNode]
    rfl
  unfold Document.pages
  simp only [node, kids, List.filterMap_map]
  exact congrFun List.filterMap_eq_map leaves

/-- Images that the encoder accepts become their album, however many they are. -/
theorem ofRasters_isAlbum {images : List Raster}
    (accepted : ∀ image ∈ images, ∃ content, encode image = .ok content) :
    ∃ d pages leaves, ofRasters encode images = .ok d ∧ IsAlbum encode images d pages leaves := by
  obtain ⟨leaves, root, shown, encoded, distinct, made⟩ := ofRasters_accepted accepted
  exact ⟨bound 1 root leaves, 1, leaves, made, isAlbum_bound shown encoded distinct⟩

/-- One image in colour and a gray one. -/
def mixedImages : List Raster := [
  ⟨⟨true, false, .eight⟩, 2, 1, [255, 0, 0, 0, 0, 255], rfl⟩,
  ⟨⟨false, false, .eight⟩, 1, 2, [77, 78], rfl⟩]

theorem ofRasters_isAlbum_mixed :
    (∀ image ∈ mixedImages, ∃ content, JpegFrame.ofRaster image = .ok content) ∧
      ∃ d pages leaves, ofRasters JpegFrame.ofRaster mixedImages = .ok d ∧
        IsAlbum JpegFrame.ofRaster mixedImages d pages leaves :=
  have accepted : ∀ image ∈ mixedImages, ∃ content, JpegFrame.ofRaster image = .ok content := by
    intro image member
    simp only [mixedImages, List.mem_cons, List.not_mem_nil, or_false] at member
    rcases member with rfl | rfl
    · exact ⟨⟨2, 1, 3⟩, rfl⟩
    · exact ⟨⟨1, 2, 1⟩, rfl⟩
  ⟨accepted, ofRasters_isAlbum accepted⟩

end PagedReport.Pdf.Album
