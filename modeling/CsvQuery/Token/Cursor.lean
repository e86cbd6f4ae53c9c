import CsvQuery.Error

/-!
A place in a list of tokens, as the tokens from there on. At the end of the query a cursor stays
where it is, and an empty list reads as the end of an empty query.
-/

namespace CsvQuery

/-- The tokens that have not been passed. -/
abbrev Cursor := List Located

namespace Cursor

def current : Cursor → Located
  | [] => ⟨.eof, 0, 0⟩
  | t :: _ => t

def peek (c : Cursor) : Token :=
  c.current.token

/-- The cursor behind its token, unless that is the end. -/
def advance : Cursor → Cursor
  | [] => []
  | t :: rest => if t.token = .eof then t :: rest else rest

def error (c : Cursor) (wanted : Expectation) : Error :=
  .unexpected c.current.start wanted c.peek

@[simp] theorem error_cons (t : Located) (rest : List Located) (wanted : Expectation) :
    error (t :: rest) wanted = .unexpected t.start wanted t.token := rfl

/-- Whether the cursor is at a token, and the cursor behind it if it is. -/
def accept (c : Cursor) (t : Token) : Bool × Cursor :=
  if c.peek = t then (true, c.advance) else (false, c)

/-- The token at the cursor and the cursor behind it, if it is the wanted one. -/
def expect (c : Cursor) (t : Token) (wanted : Expectation) : Except Error (Located × Cursor) :=
  if c.peek = t then .ok (c.current, c.advance) else .error (c.error wanted)

/-- The name at the cursor and the cursor behind it, if an identifier is there. -/
def identifier (c : Cursor) (wanted : Expectation) : Except Error (String × Cursor) :=
  match c.peek with
  | .identifier name => .ok (name, c.advance)
  | _ => .error (c.error wanted)

end Cursor

end CsvQuery
