import AssistedInjection.Unicode.Alphabetic
import AssistedInjection.Unicode.Number

/-!
Words and marks. A text is cut, from left to right, into the longest tokens that fit, and blanks
between tokens are dropped:

    suspend A.(`in`: B)->C
    word    w.( qtd : w)a w

A plain identifier starts with a letter or an underscore and goes on with letters, numbers and
underscores. An escaped identifier is anything but a backtick, at least one character of it, between
two backticks. What fits nowhere is a stray character, which no rule of the grammar accepts.
-/

namespace AssistedInjection.Kotlin

open Unicode

/-- The smallest parts of a text. -/
inductive Token where
  /-- A plain identifier. -/
  | word (text : String)
  /-- An escaped identifier, without its backticks. -/
  | quoted (text : String)
  | dot
  | comma
  | colon
  | question
  | star
  | opening
  | closing
  | less
  | greater
  /-- The two characters `->`. -/
  | arrow
  | stray (c : Char)
deriving DecidableEq, Repr

/-- A token and the number of characters before it. -/
structure Lexeme where
  start : Nat
  token : Token
deriving DecidableEq, Repr

/-- Space, tab, carriage return and line feed: what may stand between tokens. -/
def isLayout (c : Char) : Bool := c == ' ' || c == '\t' || c == '\r' || c == '\n'

/-- What a plain identifier starts with. -/
def startsWord (c : Char) : Bool := isAlphabetic c || c == '_'

/-- What a plain identifier goes on with. -/
def continuesWord (c : Char) : Bool := isAlphabetic c || isNumber c || c == '_'

namespace Token

/-- The name an identifier token stands for. -/
def name? : Token → Option String
  | word text => some text
  | quoted text => some text
  | _ => none

/-- How many characters of the text a token takes up. -/
def size : Token → Nat
  | word text => text.length
  | quoted text => text.length + 2
  | arrow => 2
  | _ => 1

/-- The token a single character makes. -/
def ofChar : Char → Token
  | '.' => dot
  | ',' => comma
  | ':' => colon
  | '?' => question
  | '*' => star
  | '(' => opening
  | ')' => closing
  | '<' => less
  | '>' => greater
  | c => stray c

/-- The token at the front of `c :: rest`, where `c` is no layout, and what follows it. -/
def next (c : Char) (rest : List Char) : Token × List Char :=
  if startsWord c then
    (word (.ofList (c :: rest.takeWhile continuesWord)), rest.dropWhile continuesWord)
  else if c = '`' then
    match rest.takeWhile (· != '`'), rest.dropWhile (· != '`') with
    | text@(_ :: _), _ :: after => (quoted (.ofList text), after)
    | _, _ => (stray c, rest)
  else
    match c, rest with
    | '-', '>' :: after => (arrow, after)
    | _, _ => (ofChar c, rest)

theorem length_next_le (c : Char) (rest : List Char) : (next c rest).2.length ≤ rest.length := by
  have drop (p : Char → Bool) : (rest.dropWhile p).length ≤ rest.length :=
    (List.dropWhile_suffix p).length_le
  unfold next
  split
  · exact drop _
  · split
    · split
      next h => exact Nat.le_trans (by simp) (h ▸ drop (· != '`'))
      next => exact Nat.le_refl _
    · split <;> simp

end Token

/-- The lexemes of a text that starts after `start` characters. -/
def lexemes (start : Nat) : List Char → List Lexeme
  | [] => []
  | c :: rest =>
    if isLayout c then lexemes (start + 1) rest
    else
      ⟨start, (Token.next c rest).1⟩ ::
        lexemes (start + (Token.next c rest).1.size) (Token.next c rest).2
termination_by text => text.length
decreasing_by
  · simp
  · exact Nat.lt_succ_of_le (Token.length_next_le c rest)

/-- The tokens of a text. -/
def tokens (text : String) : List Token := (lexemes 0 text.toList).map (·.token)

end AssistedInjection.Kotlin
