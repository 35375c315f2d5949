import AgentWorkshop.Text.Basic

/-!
# Shell scripts

The parts of the shell's language: words made of pieces, redirections, and the
commands that a `Script` puts together. Every text in them is one of bytes.
-/

namespace AgentWorkshop

namespace Shell

/-- The ways to open a file for a stream. -/
inductive Opening where
  | read
  /-- Writes the file anew, unless a present one is protected. -/
  | write
  /-- Writes the file anew in any case. -/
  | overwrite
  | append
  /-- Reads and writes the file as it is. -/
  | update
  deriving DecidableEq, Repr

mutual

/-- A piece of a word. -/
inductive Piece where
  /-- Text that stands for itself. Unless it is quoted it may be part of a file pattern. -/
  | literal (t : Text) (quoted : Bool)
  /-- The value of a parameter, put to some use. -/
  | parameter (name : Text) (use : Use) (quoted : Bool)
  /-- What a script prints. -/
  | output (script : Script) (quoted : Bool)
  /-- The value of an arithmetic expression. -/
  | arithmetic (expression : List Piece) (quoted : Bool)

/-- What is done with the value of a parameter. A word is in every case one
that stands in the braces around the parameter; with `orEmpty`, an empty value
counts as a missing one. -/
inductive Use where
  /-- The value itself. -/
  | value
  /-- How many bytes it has. -/
  | length
  /-- The word stands in for a missing value. -/
  | substitute (orEmpty : Bool) (word : List Piece)
  /-- As `substitute`, and the parameter gets that value. -/
  | assign (orEmpty : Bool) (word : List Piece)
  /-- The word stands for any value there is. -/
  | alternative (orEmpty : Bool) (word : List Piece)
  /-- A missing value is an error. -/
  | demand (orEmpty : Bool) (word : List Piece)
  /-- A pattern is removed from the start. -/
  | dropStart (longest : Bool) (pattern : List Piece)
  /-- A pattern is removed from the end. -/
  | dropEnd (longest : Bool) (pattern : List Piece)
  /-- Nothing that is known. -/
  | unknown

/-- A redirection of one stream. -/
inductive Redirect where
  | file (descriptor : Nat) (opening : Opening) (path : List Piece)
  /-- The stream goes where another one goes, or is closed. -/
  | duplicate (descriptor : Nat) (target : List Piece)
  /-- The stream comes from a text in the script, a document, which has a number. -/
  | document (descriptor : Nat) (number : Nat)

/-- A command, simple or put together. Some know the line they stand on. -/
inductive Script where
  | nothing
  /-- A program or built-in command. -/
  | simple (line : Nat) (assignments words : List (List Piece)) (redirects : List Redirect)
  /-- Commands that pass their output on to the next. -/
  | pipeline (stages : List Script)
  | negate (body : Script)
  /-- The second runs if the first succeeds. -/
  | both (first second : Script)
  /-- The second runs if the first fails. -/
  | either (first second : Script)
  | sequence (first second : Script)
  | background (body : Script)
  | branch (test yes no : Script)
  /-- Runs again as long as the success of the test is the wanted one. -/
  | loop (wanted : Bool) (test body : Script)
  /-- Runs for each field of the words. -/
  | each (line : Nat) (name : Text) (words : List (List Piece)) (body : Script)
  /-- Runs the command of the first pattern that matches. -/
  | choose (line : Nat) (subject : List Piece) (cases : List (List (List Piece) × Script))
  | subshell (line : Nat) (body : Script) (redirects : List Redirect)
  | redirected (line : Nat) (body : Script) (redirects : List Redirect)
  | define (line : Nat) (name : Text) (body : Script)

end

instance : Inhabited Script := ⟨.nothing⟩

/-- A word before it is expanded. -/
abbrev Word := List Piece

namespace Word

/-- Neighbouring pieces of the same kind of text are one piece. -/
def join : Word → Word
  | .literal s p :: rest =>
    match join rest with
    | .literal t q :: others =>
      if p = q then .literal (s ++ t) p :: others else .literal s p :: .literal t q :: others
    | others => .literal s p :: others
  | piece :: rest => piece :: join rest
  | [] => []

/-- The text of a word that is nothing but unquoted text. -/
def plain? : Word → Option Text
  | [.literal t false] => some t
  | _ => none

/-- The text of a word without its quotes. -/
def bare (w : Word) : Text :=
  w.flatMap fun
    | .literal t _ => t
    | _ => []

/-- A part of the word is quoted. -/
def hasQuotes (w : Word) : Bool :=
  w.any fun
    | .literal _ quoted => quoted
    | .parameter _ _ quoted => quoted
    | .output _ quoted => quoted
    | .arithmetic _ quoted => quoted

end Word

end Shell

end AgentWorkshop
