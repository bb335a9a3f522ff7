import MonorepoCheck.Text.Blank

/-!
JSON as people write it: comments and trailing commas are taken out, string literals are left as
they are. Comments go first, so that a comma before a comment and a closing bracket counts as
trailing.
-/
namespace MonorepoCheck.Json

/-- Where a scan of JSON text with comments stands. -/
inductive CommentState where
  | code
  /-- inside a string literal -/
  | literal
  /-- right after a backslash inside a string literal -/
  | escaped
  | lineComment
  | blockComment
  deriving DecidableEq, Repr

/-- Deletes comments. A line comment leaves its line feed; a block comment that is never closed
takes the rest of the text with it. -/
def stripCommentsFrom : CommentState → List Char → List Char
  | _, [] => []
  | .literal, '\\' :: rest => '\\' :: stripCommentsFrom .escaped rest
  | .literal, '"' :: rest => '"' :: stripCommentsFrom .code rest
  | .literal, c :: rest => c :: stripCommentsFrom .literal rest
  | .escaped, c :: rest => c :: stripCommentsFrom .literal rest
  | .lineComment, '\n' :: rest => '\n' :: stripCommentsFrom .code rest
  | .lineComment, _ :: rest => stripCommentsFrom .lineComment rest
  | .blockComment, '*' :: '/' :: rest => stripCommentsFrom .code rest
  | .blockComment, _ :: rest => stripCommentsFrom .blockComment rest
  | .code, '"' :: rest => '"' :: stripCommentsFrom .literal rest
  | .code, '/' :: '/' :: rest => stripCommentsFrom .lineComment rest
  | .code, '/' :: '*' :: rest => stripCommentsFrom .blockComment rest
  | .code, c :: rest => c :: stripCommentsFrom .code rest

def stripComments (text : List Char) : List Char := stripCommentsFrom .code text

/-- Whether the next character that is not blank closes an object or an array. -/
def closesNext (text : List Char) : Bool :=
  match Text.trimStart text with
  | '}' :: _ | ']' :: _ => true
  | _ => false

/-- Deletes commas that stand before a closing bracket. -/
def stripTrailingCommasFrom : CommentState → List Char → List Char
  | _, [] => []
  | .literal, '\\' :: rest => '\\' :: stripTrailingCommasFrom .escaped rest
  | .literal, '"' :: rest => '"' :: stripTrailingCommasFrom .code rest
  | .literal, c :: rest => c :: stripTrailingCommasFrom .literal rest
  | .escaped, c :: rest => c :: stripTrailingCommasFrom .literal rest
  | _, '"' :: rest => '"' :: stripTrailingCommasFrom .literal rest
  | _, ',' :: rest =>
    if closesNext rest then stripTrailingCommasFrom .code rest
    else ',' :: stripTrailingCommasFrom .code rest
  | _, c :: rest => c :: stripTrailingCommasFrom .code rest

def stripTrailingCommas (text : List Char) : List Char := stripTrailingCommasFrom .code text

/-- The JSON that a text with comments and trailing commas stands for. -/
def plain (text : List Char) : List Char := stripTrailingCommas (stripComments text)

end MonorepoCheck.Json
