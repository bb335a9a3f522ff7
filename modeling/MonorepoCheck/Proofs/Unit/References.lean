import MonorepoCheck.Proofs.Json.Documents
import MonorepoCheck.Unit.References

/-!
A build configuration may be decorated with comments, blanks and extra commas: the references that
are read from it stay what they are.
-/
namespace MonorepoCheck.References

open Json

/-- What is put into JSON is taken out again, and all else is left: the text itself where nothing
was put in, and the same references in any case. Every JSON text is the bare text of a document, and
the documents with that bare text are its decorations. -/
theorem decoration_undone {text : List Char} (valid : (parse? text).isSome = true) :
    plain text = text
      ∧ (∃ document : Json.Document, document.bare = text ∧ document.decorated = text)
      ∧ ∀ document : Json.Document, document.bare = text →
        plain document.decorated = document.cleaned
          ∧ ((∀ c blank, .trivia (.blank c blank) ∈ document.lexemes → isSpace c = true) →
            ∀ directory, read document.decorated directory = read text directory) := by
  have kept := plain_json valid
  obtain ⟨itself, bare, decorated, -⟩ := exists_document valid
  refine ⟨kept, ⟨itself, bare, decorated⟩, ?_⟩
  rintro document rfl
  refine ⟨plain_document document, fun spaced directory => ?_⟩
  rw [read, read, kept, plain_document, parse?_cleaned document spaced]

namespace Sample

/-- A string literal as it is printed. -/
def literal (text : List Char) : Literal where
  body := text.flatMap escapeChar
  pieces := text.map .char
  reads := readPieces_escaped text []

def reference : Json.Node :=
  .object (.last ⟨[], literal "path".toList, []⟩ [] (.literal (literal "../a//b".toList)) []
    (some [.block ", ]".toList (by decide)]))

def document : Json.Document where
  before := [.line " what \"a\" builds on".toList (by decide)]
  node := .object (.last ⟨[], literal "references".toList, []⟩ [.own ' ' rfl]
    (.array (.last [] reference [] (some [.line " all".toList (by decide), .blank '\t' rfl]))) []
    none)
  after := []
  ending := some " end".toList
  oneLine := by decide

theorem bare_valid : (parse? document.bare).isSome = true := by decide +kernel

theorem blanks_spaced :
    ∀ c blank, .trivia (.blank c blank) ∈ document.lexemes → isSpace c = true := by
  intro c blank member
  have tab : Trivia.blank c blank = .blank '\t' rfl := by
    simpa [document, reference, Json.Document.lexemes, Node.lexemes, Items.lexemes, Members.lexemes,
      Key.lexemes, between, extraComma] using member
  rw [(Trivia.blank.inj tab : c = '\t')]
  rfl

/-- A reference to a directory with a double slash in its path, which opens no comment there. -/
theorem references_kept :
    (parse? document.bare).isSome = true
      ∧ String.ofList document.cleaned
        = "\n\x7b\"references\": [\x7b\"path\":\"../a//b\"\x7d\n\t]\x7d"
      ∧ plain document.decorated = document.cleaned
      ∧ read document.decorated ⟨"/w/app"⟩ = read document.bare ⟨"/w/app"⟩
      ∧ read document.bare ⟨"/w/app"⟩ = [⟨"/w/a/b"⟩] := by
  obtain ⟨-, -, decorations⟩ := decoration_undone bare_valid
  obtain ⟨cleans, reads⟩ := decorations document rfl
  exact ⟨bare_valid, by decide +kernel, cleans, reads blanks_spaced ⟨"/w/app"⟩, by decide +kernel⟩

end Sample

end MonorepoCheck.References
