/-! Documents handed to a browser as temporary files, which keeps long ones clear of any limit on
the length of an address. A file lasts until it is released. -/
namespace PagedReport

/-- A document in a temporary file; `tag` keeps the names of files apart. -/
structure TemporaryDocument where
  tag : String
  content : String
  deriving DecidableEq

namespace TemporaryDocument

def nameStart : String := "reportpdf-"
def nameEnd : String := ".html"

def fileName (d : TemporaryDocument) : String := nameStart ++ d.tag ++ nameEnd

/-- The kind of address under which a browser finds the file. -/
def scheme : String := "file"

def byteCount (d : TemporaryDocument) : Nat := d.content.utf8ByteSize

end TemporaryDocument

/-- The temporary files at hand: names and contents. -/
abbrev TemporaryFiles := List (String × String)

namespace TemporaryFiles

def write (files : TemporaryFiles) (d : TemporaryDocument) : TemporaryFiles :=
  (d.fileName, d.content) :: files

def release (files : TemporaryFiles) (d : TemporaryDocument) : TemporaryFiles :=
  files.filter fun (name, _) => name != d.fileName

def content? (files : TemporaryFiles) (d : TemporaryDocument) : Option String :=
  files.lookup d.fileName

end TemporaryFiles

end PagedReport
