import MonorepoCheck.Path.Relative
import MonorepoCheck.Text.Bytes

/-!
Paths of bytes. What a file system calls a path is bytes, which need not spell a text. Such a path is
written here with one character for each byte; it has the steps of any path, as `/` and `.` are bytes of
their own.
-/
namespace MonorepoCheck.Path

/-- The bytes that a path is in UTF-8. -/
def encoded (path : Path) : Path := ⟨String.ofList (Text.bytesOfText path.text)⟩

/-- The name of a path of bytes as seen from `root`. It is text, in which bytes that spell none are
replaced. -/
def nameOfBytes (root path : Path) : String :=
  let name := Text.joinText "/" ((stepsFrom root path).map fun step => Text.decode step.text.toList)
  if name.isEmpty then "." else name

end MonorepoCheck.Path
