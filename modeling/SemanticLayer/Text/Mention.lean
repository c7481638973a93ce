import SemanticLayer.Text.Alphabetic
import SemanticLayer.Text.Blank

/-
# Mentions: places of a text that say something

A finder looks at the start of a text, and sees the character before it.  The
mentions of a text are found from left to right: the next one is looked for
behind the last, so mentions do not overlap.
-/

namespace SemanticLayer.Text

/-- A place of a text and what it says. -/
structure Mention (α : Type) where
  text : List Char
  said : α

/-- What the start of a text says, given the character before, and how many characters behind the
first belong to it. -/
abbrev Finder (α : Type) := Option Char → List Char → Option (α × Nat)

/-- A piece of a text. -/
inductive Piece (α : Type) where
  | char (c : Char)
  | mention (m : Mention α)

/-- A text cut into its mentions and the characters between them. -/
def pieces {α : Type} (find : Finder α) (before : Option Char) : List Char → List (Piece α)
  | [] => []
  | c :: rest =>
    match find before (c :: rest) with
    | some (a, more) =>
      let text := c :: rest.take more
      .mention ⟨text, a⟩ :: pieces find text.getLast? (rest.drop more)
    | none => .char c :: pieces find (some c) rest
termination_by cs => cs.length

/-- The mention that a piece is. -/
def Piece.mention? {α : Type} : Piece α → Option (Mention α)
  | .char _ => none
  | .mention m => some m

/-- The characters of a piece. -/
def Piece.text {α : Type} : Piece α → List Char
  | .char c => [c]
  | .mention m => m.text

/-- A character of the text, or a blank for a mention. -/
def Piece.blanked {α : Type} : Piece α → Char
  | .char c => c
  | .mention _ => ' '

/-- The pieces of a text make up the text. -/
theorem flatMap_text_pieces {α : Type} (find : Finder α) (before : Option Char) (cs : List Char) :
    (pieces find before cs).flatMap Piece.text = cs := by
  fun_induction pieces find before cs with
  | case1 => rfl
  | case2 before c rest a more h text ih => simp [Piece.text, text, ih]
  | case3 before c rest h ih => simp [Piece.text, ih]

/-- The mentions of a text, from left to right. -/
def mentions {α : Type} (find : Finder α) (cs : List Char) : List (Mention α) :=
  (pieces find none cs).filterMap Piece.mention?

/-- A text with a blank in place of every mention. -/
def withoutMentions {α : Type} (find : Finder α) (cs : List Char) : List Char :=
  (pieces find none cs).map Piece.blanked

/-- Whether one text occurs in another. -/
def occursIn (needle : List Char) : List Char → Bool
  | [] => needle.isEmpty
  | c :: rest => needle.isPrefixOf (c :: rest) || occursIn needle rest

/-- Whether a character is a letter of ASCII, in either case or in a form that folds to it. -/
def foldsTo (letter c : Char) : Bool :=
  c.toLower == letter || (letter == 's' && c == 'ſ') || (letter == 'k' && c == '\u212a')

/-- What follows some letters, whatever their case. -/
def afterLetters : List Char → List Char → Option (List Char)
  | [], cs => some cs
  | _ :: _, [] => none
  | letter :: letters, c :: cs => if foldsTo letter c then afterLetters letters cs else none

/-- Whether a word does not go on with the character beside it. -/
def endsWord (beside : Option Char) : Bool := !beside.any isWordChar

end SemanticLayer.Text
