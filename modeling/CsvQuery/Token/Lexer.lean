import CsvQuery.Error
import CsvQuery.Text.Integer

/-!
From the text of a query to its tokens. A character that can start no token is skipped wherever
one may start; every token takes as many characters as it can; the list ends with one `eof`.

Two rules are peculiar. A word that is exactly `ORDER`, `GROUP`, `LEFT` or `RIGHT` takes the next
character too, whatever it is, so that `ORDER BY` is one word. A word with an underscore goes on
until a blank, a comma, a dot or a closing parenthesis.
-/

namespace CsvQuery.Token

def isSign (c : Char) : Bool :=
  c == '>' || c == '<' || c == '=' || c == '!'

def ofPunctuation? : Char → Option Token
  | ',' => some comma
  | '.' => some dot
  | '*' => some star
  | '(' => some openParen
  | ')' => some closeParen
  | _ => none

def startsToken (c : Char) : Bool :=
  c.isAlpha || c.isDigit || isSign c || c == '\'' || (ofPunctuation? c).isSome

/-- The words that run on over the next character, each with its last letter first. -/
def pairOpeners : List (List Char) :=
  ["ORDER", "GROUP", "LEFT", "RIGHT"].map (·.toList.reverse)

/-- Whether a character that is not a letter ends a word. -/
def endsWord (underscored : Bool) (c : Char) : Bool :=
  if underscored then
    c == ',' || c == ')' || c == '.' || c == ' ' || c == '\t' || c == '\n' || c == '\r'
  else !c.isDigit

/-- The characters that go on with a word whose characters so far are `taken`, last first. A
hyphen in its way is an error, reported with the number of characters before it. -/
def wordTail (taken : List Char) (underscored : Bool) : List Char → Except Nat (List Char)
  | [] => .ok []
  | c :: rest =>
    if c = '-' then .error taken.length
    else
      let underscored := underscored || c == '_'
      if pairOpeners.contains taken || c.isAlpha || !endsWord underscored c then
        (wordTail (c :: taken) underscored rest).map (c :: ·)
      else .ok []

/-- A token with the number of characters that it takes after its first. -/
structure Lexeme where
  token : Token
  more : Nat
  deriving DecidableEq, Repr

inductive Kind
  | number
  | text
  | word
  | sign
  | punctuation (t : Token)
  /-- No token starts with the character. -/
  | unexpected
  deriving DecidableEq, Repr

def kindOf (c : Char) : Kind :=
  if c.isDigit then .number
  else if c = '\'' then .text
  else if c.isAlpha then .word
  else if isSign c then .sign
  else
    match ofPunctuation? c with
    | some t => .punctuation t
    | none => .unexpected

def scanNumber (position : Nat) (c : Char) (rest : List Char) : Except Error Lexeme :=
  let more := rest.takeWhile Char.isDigit
  let value := Nat.ofDigitChars 10 (c :: more) 0
  if (value : Int) ≤ Integer.greatest then .ok ⟨number value, more.length⟩
  else .error (.numberTooLarge position)

def scanText (rest : List Char) : Lexeme :=
  let content := rest.takeWhile (· != '\'')
  ⟨text (String.ofList content), min (content.length + 1) rest.length⟩

def scanWord (position : Nat) (c : Char) (rest : List Char) : Except Error Lexeme :=
  match wordTail [c] false rest with
  | .ok more => .ok ⟨ofWord (String.ofList (c :: more)), more.length⟩
  | .error before => .error (.hyphen (position + before))

def scanSign (c : Char) (rest : List Char) : Lexeme :=
  let more := rest.takeWhile isSign
  ⟨comparison (Comparison.ofRun (c :: more)), more.length⟩

/-- The token at `position` that starts with `c` and goes on in `rest`. -/
def scan (position : Nat) (c : Char) (rest : List Char) : Except Error Lexeme :=
  match kindOf c with
  | .number => scanNumber position c rest
  | .text => .ok (scanText rest)
  | .word => scanWord position c rest
  | .sign => .ok (scanSign c rest)
  | .punctuation t => .ok ⟨t, 0⟩
  | .unexpected => .error (.unexpectedCharacter position c)

/-- The tokens of a text whose first character is at `position`. -/
def lexFrom (position : Nat) : List Char → Except Error (List Located)
  | [] => .ok [⟨eof, position, position⟩]
  | c :: rest =>
    if startsToken c then
      match scan position c rest with
      | .error e => .error e
      | .ok lexeme =>
        let stop := position + 1 + lexeme.more
        match lexFrom stop (rest.drop lexeme.more) with
        | .error e => .error e
        | .ok others => .ok (⟨lexeme.token, position, stop⟩ :: others)
    else lexFrom (position + 1) rest
termination_by cs => cs.length
decreasing_by all_goals simp only [List.length_drop, List.length_cons]; omega

def lex (query : String) : Except Error (List Located) :=
  lexFrom 0 query.toList

end CsvQuery.Token
