import DeviceLink.Json.Basic
import DeviceLink.Number.Reading
import DeviceLink.Text.Blank
/-!
# Settings from the environment

Variables with a common beginning name settings, two underscores leading into a table. A value is
a quoted text, a truth value, a number, a list or a table where it has that form, and else the
text itself. The common beginning is `ENV_PREFIX`.
-/
namespace DeviceLink.Environment

abbrev Chars := List Char

/-! ## Values -/

def isBlank (c : Char) : Bool := c == ' ' || ('\t' ≤ c && c ≤ '\r' && c.toNat != 0x0B)

def skipBlanks (cs : Chars) : Chars := cs.dropWhile isBlank

def isSeparator (c : Char) : Bool :=
  c == ',' || c == '[' || c == ']' || c == '\x7b' || c == '\x7d'

def isKeyChar (c : Char) : Bool :=
  ('a' ≤ c && c ≤ 'z') || ('A' ≤ c && c ≤ 'Z') || Number.isDigit c || c == '_' || c == '-'

/-- A text up to its closing quote; what follows a backslash does not end it. -/
def quoted? : Chars → Option (Chars × Chars)
  | [] => none
  | '"' :: rest => some ([], rest)
  | '\\' :: c :: rest => (quoted? rest).map fun (cs, rest) => ('\\' :: c :: cs, rest)
  | c :: rest => (quoted? rest).map fun (cs, rest) => (c :: cs, rest)

/-- An integer of 64 bits, with or without a sign. -/
def integer? (cs : Chars) : Option Int :=
  let (negative, ds) := match cs with
    | '-' :: ds => (true, ds)
    | '+' :: ds => (false, ds)
    | ds => (false, ds)
  if ds ≠ [] ∧ ds.all Number.isDigit then
    let n : Int := if negative then -(Number.natOf ds : Int) else Number.natOf ds
    if Number.fits n then some n else none
  else none

/-- A number where the text is one, else the text. -/
def plain (cs : Chars) : Source :=
  let float? := if cs.contains '.' then Number.float? cs else none
  match float?, integer? cs with
  | some x, _ => .number (.real x)
  | none, some n => .number (.int n)
  | none, none => .string (String.ofList cs)

/-- A key without quotes: one character at least. -/
def bareKey? (cs : Chars) : Option (Chars × Chars) :=
  let key := cs.takeWhile isKeyChar
  if key = [] then none else some (key, cs.dropWhile isKeyChar)

mutual

/-- A value at the start of the text. The fuel exceeds its length. -/
def value? : Nat → Chars → Option (Source × Chars)
  | 0, _ => none
  | fuel + 1, cs =>
    let found : Option (Source × Chars) := match skipBlanks cs with
      | 't' :: 'r' :: 'u' :: 'e' :: rest => some (.bool true, rest)
      | 'f' :: 'a' :: 'l' :: 's' :: 'e' :: rest => some (.bool false, rest)
      | '\x7b' :: rest => table? fuel [] rest
      | '[' :: rest => list? fuel [] rest
      | '"' :: rest => (quoted? rest).map fun (s, rest) => (.string (String.ofList s), rest)
      | '\x27' :: c :: '\x27' :: rest => some (.string (String.ofList [c]), rest)
      | '\x27' :: _ => none
      | cs =>
        let word := cs.takeWhile fun c => !isSeparator c
        some (plain (Text.trimmed word), cs.drop word.length)
    found.map fun (s, rest) => (s, skipBlanks rest)

def list? : Nat → List Source → Chars → Option (Source × Chars)
  | 0, _, _ => none
  | fuel + 1, acc, cs =>
    match cs with
    | ']' :: rest => some (.array acc.reverse, rest)
    | cs =>
      match value? fuel cs with
      | some (s, ',' :: rest) => list? fuel (s :: acc) rest
      | some (s, ']' :: rest) => some (.array (s :: acc).reverse, rest)
      | _ => none

def table? : Nat → List (String × Source) → Chars → Option (Source × Chars)
  | 0, _, _ => none
  | fuel + 1, acc, cs =>
    match cs with
    | '\x7d' :: rest => some (.object acc.reverse, rest)
    | cs =>
      let start := skipBlanks cs
      let key := match start with
        | '"' :: rest => quoted? rest
        | cs => bareKey? cs
      match key with
      | none => none
      | some (key, rest) =>
        match skipBlanks rest with
        | '=' :: rest =>
          let acc := acc.filter fun m => m.1 != String.ofList key
          match value? fuel rest with
          | some (s, ',' :: rest) => table? fuel ((String.ofList key, s) :: acc) rest
          | some (s, '\x7d' :: rest) =>
            some (.object ((String.ofList key, s) :: acc).reverse, rest)
          | _ => none
        | _ => none

end

/-- The value of a variable; a text that has the form of no value is taken as it is. -/
def value (text : String) : Source :=
  let cs := Text.trimmed text.toList
  match value? (2 * cs.length + 2) cs with
  | some (s, []) => s
  | _ => .string (String.ofList cs)

/-! ## Variables -/

def beginning : String := "DRIVER_SDK_"

/-- The parts of a name: two underscores part them, and so does a point. -/
def parts : Chars → Chars → List String
  | acc, [] => [String.ofList acc.reverse]
  | acc, '_' :: '_' :: rest => String.ofList acc.reverse :: parts [] rest
  | acc, '.' :: rest => String.ofList acc.reverse :: parts [] rest
  | acc, c :: rest => parts (c :: acc) rest

/-- The path of the setting that a variable names; letters of either case are the same. -/
def path? (name : String) : Option (List String) :=
  let cs := (Text.trimmed name.toList).map Text.lowerChar
  let head := (Text.lower beginning).toList
  if head.isPrefixOf cs then
    let ps := parts [] (Text.trimmed (cs.drop head.length))
    if ps.any String.isEmpty then none else some ps
  else none

def nest (path : List String) (s : Source) : Source :=
  path.foldr (fun k s => .object [(k, s)]) s

end DeviceLink.Environment
