/-!
Blank characters: the twenty-five code points with the Unicode property White_Space. Trimming
removes them at both ends of a text, and a command line is split at the first of them.
-/

namespace CsvQuery.Text

def isBlank (c : Char) : Bool :=
  let n := c.toNat
  (9 ≤ n && n ≤ 13) || n == 0x20 || n == 0x85 || n == 0xA0 || n == 0x1680 ||
  (0x2000 ≤ n && n ≤ 0x200A) || n == 0x2028 || n == 0x2029 || n == 0x202F || n == 0x205F ||
  n == 0x3000

/-- The characters without the blanks before the first and after the last other one. -/
def trimChars (cs : List Char) : List Char :=
  ((cs.dropWhile isBlank).reverse.dropWhile isBlank).reverse

def trim (s : String) : String :=
  String.ofList (trimChars s.toList)

/-- The text before the first character with `p` and the text after it, if there is one. -/
def splitAtFirst (p : Char → Bool) (s : String) : Option (String × String) :=
  match s.toList.dropWhile (fun c => !p c) with
  | [] => none
  | _ :: rest => some (String.ofList (s.toList.takeWhile (fun c => !p c)), String.ofList rest)

def firstWord (s : String) : String × String :=
  match splitAtFirst isBlank s with
  | some (word, rest) => (word, trim rest)
  | none => (s, "")

end CsvQuery.Text
