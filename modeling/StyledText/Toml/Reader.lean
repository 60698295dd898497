/-!
# Readers

A `Reader` takes something off the front of a text, or does not fit there.  Readers are put together
by `do` for one after another and `<|>` for the first that fits; a reader that does not fit takes
nothing.  `many` goes on for as long as its reader fits, which is at most once per character when
each round takes one.
-/

namespace StyledText.Toml

/-- Takes an `α` off the front of a text. -/
abbrev Reader := StateT (List Char) Option

namespace Reader

variable {α : Type}

/-- What a reader makes of a whole text. -/
def readAll? (r : Reader α) (s : String) : Option α :=
  match r s.toList with
  | some (a, []) => some a
  | _ => none

/-- The value, if there is one. -/
def ofOption (value : Option α) : Reader α :=
  match value with
  | some a => pure a
  | none => failure

/-- The next character, which must pass a test. -/
def next (test : Char → Bool) : Reader Char
  | [] => none
  | c :: cs => if test c then some (c, cs) else none

def char (c : Char) : Reader Unit := do
  let _ ← next (· == c)

/-- The characters of a word. -/
def word (s : String) : Reader Unit := s.toList.forM char

/-- All characters up to the first that does not pass a test. -/
def span (test : Char → Bool) : Reader (List Char) := fun cs =>
  some (cs.takeWhile test, cs.dropWhile test)

/-- The end of the text. -/
def atEnd : Reader Unit
  | [] => some ((), [])
  | _ :: _ => none

/-- What a reader takes in at most `rounds` rounds. -/
def upTo (r : Reader α) : Nat → Reader (List α)
  | 0 => pure []
  | rounds + 1 => (do let a ← r; return a :: (← upTo r rounds)) <|> pure []

/-- What a reader takes for as long as it fits. -/
def many (r : Reader α) : Reader (List α) := fun cs => upTo r cs.length cs

/-- What a reader takes `n` times. -/
def times (r : Reader α) : Nat → Reader (List α)
  | 0 => pure []
  | n + 1 => do let a ← r; return a :: (← times r n)

/-- What a reader takes, again and again with a separator between. -/
def separated (r : Reader α) (separator : Reader Unit) : Reader (List α) :=
  (do let a ← r; return a :: (← many (separator *> r))) <|> pure []

end Reader

end StyledText.Toml
