import AssistedInjection.Kotlin.Token
import AssistedInjection.Kotlin.Construct

/-!
Parsers over tokens: ordered choice, greedy repetition, and no way back into a repetition that
ended.

A parser reads in two ways. `read` says what it makes of the tokens in front of it. `trace` does the
same and keeps the record of failed attempts on the way; it reads what `read` reads, whatever the
record, so all that is said about results is said of `read`, and the record matters for reports
alone.
-/

namespace AssistedInjection.Kotlin

/-- A way to read a value from the front of some tokens. -/
structure Parser (α : Type) where
  /-- The value and the tokens that remain; `none` if the parser fails. -/
  read : List Token → Option (α × List Token)
  /-- What is read, and the record after it. -/
  trace : Attempts → List Token → Option (α × List Token) × Attempts
  trace_fst : ∀ r ts, (trace r ts).1 = read ts

namespace Parser

variable {α β : Type}

/-- Reads nothing and yields a value. -/
def yield (a : α) : Parser α :=
  ⟨fun ts => some (a, ts), fun r ts => (some (a, ts), r), fun _ _ => rfl⟩

/-- Never succeeds. -/
def never : Parser α := ⟨fun _ => none, fun r _ => (none, r), fun _ _ => rfl⟩

/-- One parser, then another that may look at its value. -/
def andThen (p : Parser α) (f : α → Parser β) : Parser β where
  read ts :=
    match p.read ts with
    | some (a, rest) => (f a).read rest
    | none => none
  trace r ts :=
    match p.trace r ts with
    | (some (a, rest), r) => (f a).trace r rest
    | (none, r) => (none, r)
  trace_fst r ts := by
    rw [← p.trace_fst r ts]
    rcases p.trace r ts with ⟨_ | ⟨a, rest⟩, r'⟩
    · rfl
    · exact (f a).trace_fst r' rest

instance : Monad Parser where
  pure := yield
  bind := andThen

/-- The second parser is tried only where the first fails. -/
def orElse (p q : Parser α) : Parser α where
  read ts :=
    match p.read ts with
    | some result => some result
    | none => q.read ts
  trace r ts :=
    match p.trace r ts with
    | (some result, r) => (some result, r)
    | (none, r) => q.trace r ts
  trace_fst r ts := by
    rw [← p.trace_fst r ts]
    rcases p.trace r ts with ⟨_ | result, r'⟩
    · exact q.trace_fst r' ts
    · rfl

/-- A parser whose failure is not recorded. -/
def silent (read : List Token → Option (α × List Token)) : Parser α :=
  ⟨read, fun r ts => (read ts, r), fun _ _ => rfl⟩

/-- The first of some tokens, if it is accepted. -/
def readToken (accept : Token → Option α) : List Token → Option (α × List Token)
  | [] => none
  | t :: rest => (accept t).map (·, rest)

/-- One token, if it is accepted. -/
def token (accept : Token → Option α) : Parser α := silent (readToken accept)

/-- A mark such as a dot. -/
def mark (t : Token) : Parser Unit := token fun t' => if t' = t then some () else none

/-- Fails unless the given mark comes next; reads nothing. -/
def ahead (t : Token) : Parser Unit :=
  silent fun ts => if ts.head? = some t then some ((), ts) else none

/-- Reads `p` if possible. -/
def optional (p : Parser α) : Parser (Option α) :=
  orElse (andThen p fun a => yield (some a)) (yield none)

/-- Reads `p` as long as possible, at most `n` times. -/
def upTo (p : Parser α) : Nat → Parser (List α)
  | 0 => yield []
  | n + 1 => orElse (andThen p fun a => andThen (upTo p n) fun as => yield (a :: as)) (yield [])

/-- Reads `p` as long as possible. A parser that reads a token each time cannot go on longer than
there are tokens; one time more is tried, so that the last attempt is recorded. -/
def many (p : Parser α) : Parser (List α) where
  read ts := (upTo p (ts.length + 1)).read ts
  trace r ts := (upTo p (ts.length + 1)).trace r ts
  trace_fst r ts := (upTo p (ts.length + 1)).trace_fst r ts

/-- The same parser, recorded as `construct` when it fails. -/
def named (construct : Construct) (p : Parser α) : Parser α where
  read := p.read
  trace r ts :=
    match p.trace r ts with
    | (some result, r') => (some result, r')
    | (none, r') => (none, r'.fail construct ts.length (r.countAt ts.length))
  trace_fst r ts := by
    rw [← p.trace_fst r ts]
    rcases p.trace r ts with ⟨_ | result, r'⟩ <;> rfl

/-- Succeeds where no token is left. -/
def finished : Parser Unit :=
  named .endOfText (silent fun ts => if ts.isEmpty then some ((), ts) else none)

end Parser

end AssistedInjection.Kotlin
