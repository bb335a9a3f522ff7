/-!
Glob patterns: `?` is any character, `*` any run of characters, `[...]` and `[!...]` character
classes, and `**` as a whole step of a path any run of steps. `Pattern.parse?` refuses what is none
of these; `Pattern.accepts` says which texts a pattern matches.
-/
namespace MonorepoCheck.Glob

/-- A member of a character class. -/
inductive Member where
  | single (c : Char)
  | range (low high : Char)
  deriving DecidableEq, Repr

def Member.holds (c : Char) : Member → Bool
  | single member => c == member
  | range low high => low ≤ c && c ≤ high

inductive Token where
  | literal (c : Char)
  | anyChar
  | anyRun
  /-- any run of whole steps -/
  | anySteps
  | oneOf (members : List Member)
  | noneOf (members : List Member)
  deriving DecidableEq, Repr

/-- The members that the inside of a class spells. -/
def members : List Char → List Member
  | low :: '-' :: high :: rest => .range low high :: members rest
  | c :: rest => .single c :: members rest
  | [] => []

/-- Cuts a text at the first `]`. -/
def cutClass (text : List Char) : Option (List Char × List Char) :=
  match text.dropWhile (· != ']') with
  | [] => none
  | _ :: rest => some (text.takeWhile (· != ']'), rest)

/-- The class that follows a `[`, and what follows it. Its first member may be a `]`. -/
def readClass : List Char → Option (Token × List Char)
  | '!' :: first :: rest => do
    let (more, rest) ← cutClass rest
    pure (.noneOf (members (first :: more)), rest)
  | ['!'] => none
  | first :: rest => do
    let (more, rest) ← cutClass rest
    pure (.oneOf (members (first :: more)), rest)
  | [] => none

/-- Reads tokens, given the character before the text and what stands before it in the pattern. -/
def readTokens : Nat → Option Char → List Token → List Char → Option (List Token)
  | 0, _, _, _ => none
  | fuel + 1, before, tokens, text =>
    match text with
    | [] => some tokens
    | '?' :: rest => readTokens fuel (some '?') (tokens ++ [.anyChar]) rest
    | '*' :: '*' :: '*' :: _ => none
    | '*' :: '*' :: rest =>
      if before.isSome && before != some '/' then none
      else
        let tokens :=
          if 1 < tokens.length && tokens.getLast? == some .anySteps then tokens
          else tokens ++ [.anySteps]
        match rest with
        | [] => some tokens
        | '/' :: rest => readTokens fuel (some '/') tokens rest
        | _ => none
    | '*' :: rest => readTokens fuel (some '*') (tokens ++ [.anyRun]) rest
    | '[' :: rest =>
      match readClass rest with
      | some (token, rest) => readTokens fuel (some ']') (tokens ++ [token]) rest
      | none => none
    | c :: rest => readTokens fuel (some c) (tokens ++ [.literal c]) rest

/-- The tokens of a pattern. -/
def parse? (pattern : List Char) : Option (List Token) :=
  readTokens (pattern.length + 1) none [] pattern

def Token.acceptsChar (c : Char) : Token → Bool
  | literal expected => c == expected
  | anyChar => true
  | oneOf members => members.any (Member.holds c)
  | noneOf members => !members.any (Member.holds c)
  | anyRun | anySteps => false

/-- Whether some end of the text satisfies `p`. -/
def someEnd (p : List Char → Bool) : List Char → Bool
  | [] => p []
  | c :: rest => p (c :: rest) || someEnd p rest

/-- Whether `p` holds of the empty end of the text or of one right after a separator. -/
def someStep (p : List Char → Bool) : List Char → Bool
  | [] => p []
  | c :: rest => (c == '/' && p rest) || someStep p rest

/-- Whether the tokens match the whole text. -/
def accepts : List Token → List Char → Bool
  | [], text => text.isEmpty
  | .anyRun :: tokens, text => someEnd (accepts tokens) text
  | .anySteps :: tokens, text => accepts tokens text || someStep (accepts tokens) text
  | token :: tokens, text =>
    match text with
    | [] => false
    | c :: rest => token.acceptsChar c && accepts tokens rest

/-- The ends of a text, the whole text first and the empty end last. -/
def ends : List Char → List (List Char)
  | [] => [[]]
  | c :: rest => (c :: rest) :: ends rest

/-- At each place, whether something holds there or later. -/
def hereOrLater : List Bool → List Bool
  | [] => []
  | here :: later =>
    let rest := hereOrLater later
    (here || rest.head?.getD false) :: rest

/-- At each end of a text, whether something holds of the empty end or of one further on that starts
right after a separator. -/
def afterStep : List Char → List Bool → List Bool
  | c :: text, _ :: later =>
    let rest := afterStep text later
    ((c == '/' && later.head?.getD false) || rest.head?.getD false) :: rest
  | _, holds => holds

/-- At each end of a text, whether its first character is accepted and something holds after it. -/
def afterChar (token : Token) : List Char → List Bool → List Bool
  | c :: text, _ :: later =>
    (token.acceptsChar c && later.head?.getD false) :: afterChar token text later
  | _, holds => holds.map fun _ => false

/-- Which ends of a text the tokens match. Each token is looked at once for each end. -/
def acceptedEnds : List Token → List Char → List Bool
  | [], text => (ends text).map List.isEmpty
  | token :: tokens, text =>
    let later := acceptedEnds tokens text
    match token with
    | .anyRun => hereOrLater later
    | .anySteps => List.zipWith (· || ·) later (afterStep text later)
    | token => afterChar token text later

theorem head_ends (text : List Char) : (ends text).head? = some text := by
  cases text <;> rfl

theorem hereOrLater_ends (p : List Char → Bool) (text : List Char) :
    hereOrLater ((ends text).map p) = (ends text).map (someEnd p) := by
  induction text with
  | nil => simp [ends, hereOrLater, someEnd]
  | cons c rest ih => simp [ends, hereOrLater, someEnd, ih, head_ends]

theorem afterStep_ends (p : List Char → Bool) (text : List Char) :
    afterStep text ((ends text).map p) = (ends text).map (someStep p) := by
  induction text with
  | nil => simp [ends, afterStep, someStep]
  | cons c rest ih => simp [ends, afterStep, someStep, ih, head_ends]

theorem afterChar_ends (token : Token) (p : List Char → Bool) (text : List Char) :
    afterChar token text ((ends text).map p) =
      (ends text).map fun
        | [] => false
        | c :: rest => token.acceptsChar c && p rest := by
  induction text with
  | nil => simp [ends, afterChar]
  | cons c rest ih => simp [ends, afterChar, ih, head_ends]

theorem acceptedEnds_eq (tokens : List Token) (text : List Char) :
    acceptedEnds tokens text = (ends text).map (accepts tokens) := by
  induction tokens with
  | nil => exact List.map_congr_left fun rest _ => by simp [accepts]
  | cons token tokens ih =>
    simp only [acceptedEnds, ih]
    cases token with
    | anyRun =>
      rw [hereOrLater_ends]
      exact List.map_congr_left fun rest _ => by simp [accepts]
    | anySteps =>
      rw [afterStep_ends, List.zipWith_map_left, List.zipWith_map_right, List.zipWith_self]
      exact List.map_congr_left fun rest _ => by simp [accepts]
    | _ =>
      refine (afterChar_ends _ (accepts tokens) text).trans ?_
      refine List.map_congr_left fun rest _ => ?_
      cases rest <;> simp [accepts]

/-- Whether a pattern that is well formed matches the text. -/
def patternMatches (pattern text : String) : Bool :=
  match parse? pattern.toList with
  | some tokens => (acceptedEnds tokens text.toList).head?.getD false
  | none => false

theorem patternMatches_iff {pattern text : String} :
    patternMatches pattern text = true ↔
      ∃ tokens, parse? pattern.toList = some tokens ∧ accepts tokens text.toList = true := by
  cases parsed : parse? pattern.toList <;>
    simp [patternMatches, parsed, acceptedEnds_eq, head_ends]

end MonorepoCheck.Glob
