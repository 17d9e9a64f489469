import DeviceLink.Json.Basic
import DeviceLink.Number.Reading
import DeviceLink.Time.Calendar
/-!
# TOML documents

Reading a document of tables and keys into one tree. A key is set once; a table that was written
out, by a header or inline, is not added to by another one of the same name.
-/
namespace DeviceLink.Toml

abbrev Chars := List Char

/-! ## Blanks and lines -/

def isBlank (c : Char) : Bool := c == ' ' || c == '\t'

def skipBlanks (cs : Chars) : Chars := cs.dropWhile isBlank

/-- Characters that may not stand in comments and strings. -/
def isControl (c : Char) : Bool := (c.toNat < 0x20 && c != '\t') || c.toNat == 0x7F

def newline? : Chars → Option Chars
  | '\n' :: rest => some rest
  | '\r' :: '\n' :: rest => some rest
  | _ => none

/-- The rest of a line that holds nothing but a comment. -/
def lineEnd? (cs : Chars) : Option Chars :=
  let cs := skipBlanks cs
  let cs := match cs with
    | '#' :: rest => rest.dropWhile fun c => !isControl c
    | cs => cs
  match cs with
  | [] => some []
  | cs => newline? cs

/-- What follows blanks, comments and line ends. -/
def skipLines : Nat → Chars → Chars
  | 0, cs => cs
  | fuel + 1, cs =>
    match skipBlanks cs with
    | [] => []
    | cs =>
      match lineEnd? cs with
      | some rest => skipLines fuel rest
      | none => cs

/-! ## Strings -/

def isScalar (n : Nat) : Bool := n < 0xD800 || (0xDFFF < n && n < 0x110000)

def hexNumber? (cs : Chars) : Option Nat :=
  cs.foldlM (fun n c => (Hex.digitValue c).map fun d => 16 * n + d) 0

/-- A character given by its number, in so many digits. -/
def numbered? (digits : Nat) (cs : Chars) : Option (Char × Chars) :=
  let ds := cs.take digits
  if ds.length = digits then
    match hexNumber? ds with
    | some n => if isScalar n then some (Char.ofNat n, cs.drop digits) else none
    | none => none
  else none

/-- The character after a backslash. -/
def escape? : Chars → Option (Char × Chars)
  | 'b' :: rest => some (Char.ofNat 8, rest)
  | 't' :: rest => some ('\t', rest)
  | 'n' :: rest => some ('\n', rest)
  | 'f' :: rest => some (Char.ofNat 12, rest)
  | 'r' :: rest => some ('\r', rest)
  | '"' :: rest => some ('"', rest)
  | '\\' :: rest => some ('\\', rest)
  | 'u' :: rest => numbered? 4 rest
  | 'U' :: rest => numbered? 8 rest
  | _ => none

/-- A string on one line, after its opening quote. -/
def basic? : Nat → Chars → Chars → Option (String × Chars)
  | 0, _, _ => none
  | fuel + 1, acc, cs =>
    match cs with
    | [] => none
    | '"' :: rest => some (String.ofList acc.reverse, rest)
    | '\\' :: rest => (escape? rest).bind fun (c, rest) => basic? fuel (c :: acc) rest
    | c :: rest => if isControl c then none else basic? fuel (c :: acc) rest

def literal? (cs : Chars) : Option (String × Chars) :=
  let body := cs.takeWhile fun c => c != '\x27' && !isControl c
  match cs.drop body.length with
  | '\x27' :: rest => some (String.ofList body, rest)
  | _ => none

/-- Blanks and line ends after a backslash at the end of a line. -/
def isFold (c : Char) : Bool := isBlank c || c == '\n' || c == '\r'

/-- A string over several lines, after its opening; up to two quotes may stand before its end. -/
def multi? (quote : Char) (escapes : Bool) : Nat → Chars → Chars → Option (String × Chars)
  | 0, _, _ => none
  | fuel + 1, acc, cs =>
    match cs with
    | [] => none
    | c :: rest =>
      if c = quote then
        let quotes := (cs.takeWhile (· == quote)).length
        if 5 < quotes then none
        else if 3 ≤ quotes then
          some (String.ofList (List.replicate (quotes - 3) quote ++ acc).reverse, cs.drop quotes)
        else multi? quote escapes fuel (List.replicate quotes quote ++ acc) (cs.drop quotes)
      else if c = '\\' ∧ escapes then
        if (skipBlanks rest).head?.any fun c => c == '\n' || c == '\r' then
          multi? quote escapes fuel acc (rest.dropWhile isFold)
        else (escape? rest).bind fun (c, rest) => multi? quote escapes fuel (c :: acc) rest
      else
        match newline? cs with
        | some rest => multi? quote escapes fuel ('\n' :: acc) rest
        | none => if isControl c then none else multi? quote escapes fuel (c :: acc) rest

/-- A line end right after the opening is left out. -/
def multiStart? (quote : Char) (escapes : Bool) (cs : Chars) : Option (String × Chars) :=
  multi? quote escapes (cs.length + 1) [] ((newline? cs).getD cs)

def string? : Chars → Option (String × Chars)
  | '"' :: '"' :: '"' :: rest => multiStart? '"' true rest
  | '\x27' :: '\x27' :: '\x27' :: rest => multiStart? '\x27' false rest
  | '"' :: rest => basic? (rest.length + 1) [] rest
  | '\x27' :: rest => literal? rest
  | _ => none

/-! ## Keys -/

def isBareChar (c : Char) : Bool :=
  ('a' ≤ c && c ≤ 'z') || ('A' ≤ c && c ≤ 'Z') || Number.isDigit c || c == '_' || c == '-'

def simpleKey? (cs : Chars) : Option (String × Chars) :=
  match cs with
  | '"' :: rest => basic? (rest.length + 1) [] rest
  | '\x27' :: rest => literal? rest
  | cs =>
    let name := cs.takeWhile isBareChar
    if name = [] then none else some (String.ofList name, cs.drop name.length)

/-- Keys joined by points. -/
def key? : Nat → Chars → Option (List String × Chars)
  | 0, _ => none
  | fuel + 1, cs =>
    (simpleKey? (skipBlanks cs)).bind fun (k, rest) =>
      match skipBlanks rest with
      | '.' :: rest => (key? fuel rest).map fun (ks, rest) => (k :: ks, rest)
      | rest => some ([k], rest)

/-! ## Numbers and dates -/

/-- Digits with single underscores between them. -/
def digits? (isDigit : Char → Bool) (cs : Chars) : Option Chars :=
  let ok := cs.foldl (fun (ok, last) c =>
    if c = '_' then (ok && last, false) else (ok && isDigit c, true)) (true, false)
  if ok.1 ∧ ok.2 then some (cs.filter (· != '_')) else none

def inBase? (base : Nat) (cs : Chars) : Option Nat :=
  (digits? (fun c => (Hex.digitValue c).any (· < base)) cs).map fun ds =>
    ds.foldl (fun n c => base * n + (Hex.digitValue c).getD 0) 0

def signed (cs : Chars) : Bool × Chars :=
  match cs with
  | '-' :: rest => (true, rest)
  | '+' :: rest => (false, rest)
  | cs => (false, cs)

def unpadded (ds : Chars) : Bool := ds.length ≤ 1 || ds.head? != some '0'

def integer? (cs : Chars) : Option Int :=
  let n? : Option Int := match cs with
    | '0' :: 'x' :: rest => (inBase? 16 rest).map Int.ofNat
    | '0' :: 'o' :: rest => (inBase? 8 rest).map Int.ofNat
    | '0' :: 'b' :: rest => (inBase? 2 rest).map Int.ofNat
    | cs =>
      let (negative, body) := signed cs
      match digits? Number.isDigit body with
      | some ds =>
        if unpadded ds then
          some (if negative then -(Number.natOf ds : Int) else Number.natOf ds)
        else none
      | none => none
  n?.filter fun n => -(Nat.pow 2 63 : Int) ≤ n && n < (Nat.pow 2 63 : Int)

def isExponentMark (c : Char) : Bool := c == 'e' || c == 'E'

def float? (cs : Chars) : Option Float :=
  let (_, body) := signed cs
  if body = "inf".toList ∨ body = "nan".toList then Number.float? cs
  else
    let mantissa := body.takeWhile fun c => !isExponentMark c
    let exponent := body.drop mantissa.length
    let whole := mantissa.takeWhile (· != '.')
    let fraction := mantissa.drop whole.length
    let part (cs : Chars) : Bool := (digits? Number.isDigit cs).isSome
    if part whole ∧ unpadded (whole.filter (· != '_')) ∧ (fraction = [] ∨ part (fraction.drop 1)) ∧
        (exponent = [] ∨ part (signed (exponent.drop 1)).2) ∧ ¬ (fraction = [] ∧ exponent = []) then
      (Number.float? (cs.filter (· != '_'))).filter Number.isFinite
    else none

/-- A number of two digits, `hi` at most. -/
def pairWithin (hi : Nat) (cs : Chars) : Bool :=
  cs.length == 2 && cs.all Number.isDigit && Number.natOf cs ≤ hi

def isDate (cs : Chars) : Bool :=
  match cs with
  | [a, b, c, d, '-', e, f, '-', g, h] =>
    [a, b, c, d, e, f, g, h].all Number.isDigit &&
      Date.isValid ⟨Number.natOf [a, b, c, d], Number.natOf [e, f], Number.natOf [g, h]⟩
  | _ => false

def isTime (cs : Chars) : Bool :=
  match cs with
  | a :: b :: ':' :: c :: d :: ':' :: e :: f :: rest =>
    pairWithin 23 [a, b] && pairWithin 59 [c, d] && pairWithin 60 [e, f] &&
      (match rest with
        | [] => true
        | '.' :: ds => ds != [] && ds.all Number.isDigit
        | _ => false)
  | _ => false

/-- A time of day, perhaps with its distance from UTC. -/
def isZonedTime (cs : Chars) : Bool :=
  let time := cs.takeWhile fun c => !(c == 'Z' || c == 'z' || c == '+' || c == '-')
  isTime time &&
    (match cs.drop time.length with
      | [] | ['Z'] | ['z'] => true
      | [_, a, b, ':', c, d] => pairWithin 23 [a, b] && pairWithin 59 [c, d]
      | _ => false)

def isMoment (cs : Chars) : Bool :=
  isDate cs || isTime cs ||
    (isDate (cs.take 10) && (cs.drop 10).head?.any (fun c => c == 'T' || c == 't' || c == ' ') &&
      isZonedTime (cs.drop 11))

/-- A moment is kept as a table of its own kind, which no setting takes. -/
def moment (cs : Chars) : Source := .object [("$moment", .string (String.ofList cs))]

def isTokenChar (c : Char) : Bool :=
  isBareChar c || c == '+' || c == '.' || c == ':'

/-- A word, a number or a moment; a date and a time may have one blank between them. -/
def token (cs : Chars) : Chars × Chars :=
  let head := cs.takeWhile isTokenChar
  match isDate head, cs.drop head.length with
  | true, ' ' :: c :: rest =>
    if Number.isDigit c then
      let tail := (c :: rest).takeWhile isTokenChar
      (head ++ ' ' :: tail, (c :: rest).drop tail.length)
    else (head, ' ' :: c :: rest)
  | _, rest => (head, rest)

def scalar? (cs : Chars) : Option (Source × Chars) :=
  let (word, rest) := token cs
  if word = "true".toList then some (.bool true, rest)
  else if word = "false".toList then some (.bool false, rest)
  else
    match integer? word with
    | some n => some (.number (.int n), rest)
    | none =>
      match float? word with
      | some x => some (.number (.real x), rest)
      | none => if isMoment word then some (moment word, rest) else none

/-! ## Trees -/

/-- How a table came about: on the way to another one, by points in a key, or by its header. -/
inductive Origin
  | implied
  | dotted
  | header
deriving DecidableEq

inductive Node
  | leaf (value : Source)
  | table (origin : Origin) (entries : List (String × Node))
  /-- The tables of an array of tables, the latest first. -/
  | tables (items : List (List (String × Node)))

abbrev Entries := List (String × Node)

def Entries.set (es : Entries) (k : String) (n : Node) : Entries :=
  if es.any fun e => e.1 == k then es.map fun e => if e.1 == k then (k, n) else e
  else es ++ [(k, n)]

/-- Points in a key lead through tables that no header wrote out, and the last of them is one
that points made; headers lead through any table. -/
def isPassable (made origin : Origin) (isLast : Bool) : Bool :=
  made != .dotted || origin == .dotted || (origin == .implied && !isLast)

/-- Changes the entries at the end of a path, making tables on the way. -/
def descend (made : Origin) (change : Entries → Option Entries) :
    List String → Entries → Option Entries
  | [], es => change es
  | k :: path, es =>
    match es.lookup k with
    | none => (descend made change path []).map fun inner => es.set k (.table made inner)
    | some (.table origin inner) =>
      if isPassable made origin path.isEmpty then
        (descend made change path inner).map fun inner => es.set k (.table origin inner)
      else none
    | some (.tables (latest :: earlier)) =>
      if isPassable made .implied path.isEmpty then
        (descend made change path latest).map fun latest => es.set k (.tables (latest :: earlier))
      else none
    | some _ => none

def setKey (path : List String) (value : Source) (es : Entries) : Option Entries :=
  match path.getLast? with
  | none => none
  | some k =>
    descend .dotted (fun es =>
      if es.any fun e => e.1 == k then none else some (es.set k (.leaf value))) path.dropLast es

/-- Opens a table by its header. -/
def openTable (path : List String) (es : Entries) : Option Entries :=
  match path.getLast? with
  | none => none
  | some k =>
    descend .implied (fun es =>
      match es.lookup k with
      | none => some (es.set k (.table .header []))
      | some (.table .implied inner) => some (es.set k (.table .header inner))
      | some _ => none) path.dropLast es

/-- Opens the next table of an array of tables. -/
def openItem (path : List String) (es : Entries) : Option Entries :=
  match path.getLast? with
  | none => none
  | some k =>
    descend .implied (fun es =>
      match es.lookup k with
      | none => some (es.set k (.tables [[]]))
      | some (.tables items) => some (es.set k (.tables ([] :: items)))
      | some _ => none) path.dropLast es

/-- Sets a key in the table that was opened last. -/
def setIn (table path : List String) (value : Source) (es : Entries) : Option Entries :=
  descend .implied (setKey path value) table es

mutual

def Node.source : Node → Source
  | .leaf s => s
  | .table _ es => .object (sourceEntries es)
  | .tables items => .array (sourceItems items).reverse

def sourceEntries : List (String × Node) → List (String × Source)
  | [] => []
  | (k, n) :: rest => (k, n.source) :: sourceEntries rest

def sourceItems : List (List (String × Node)) → List Source
  | [] => []
  | es :: rest => .object (sourceEntries es) :: sourceItems rest

end

/-! ## Values -/

mutual

/-- A value at the start of the text. The fuel exceeds its length. -/
def value? : Nat → Chars → Option (Source × Chars)
  | 0, _ => none
  | fuel + 1, cs =>
    match cs with
    | '"' :: _ | '\x27' :: _ => (string? cs).map fun (s, rest) => (.string s, rest)
    | '[' :: rest => items? fuel [] rest
    | '\x7b' :: rest =>
      match skipBlanks rest with
      | '\x7d' :: rest => some (.object [], rest)
      | rest => inline? fuel [] rest
    | cs => scalar? cs

/-- The items of an array over any number of lines, those already read last one first. -/
def items? : Nat → List Source → Chars → Option (Source × Chars)
  | 0, _, _ => none
  | fuel + 1, acc, cs =>
    match skipLines (cs.length + 1) cs with
    | ']' :: rest => some (.array acc.reverse, rest)
    | cs =>
      match value? fuel cs with
      | none => none
      | some (s, rest) =>
        match skipLines (rest.length + 1) rest with
        | ',' :: rest => items? fuel (s :: acc) rest
        | ']' :: rest => some (.array (s :: acc).reverse, rest)
        | _ => none

/-- The entries of an inline table, which ends on its line. -/
def inline? : Nat → Entries → Chars → Option (Source × Chars)
  | 0, _, _ => none
  | fuel + 1, es, cs =>
    match key? (cs.length + 1) cs with
    | some (path, '=' :: rest) =>
      match value? fuel (skipBlanks rest) with
      | none => none
      | some (s, rest) =>
        match setKey path s es with
        | none => none
        | some es =>
          match skipBlanks rest with
          | ',' :: rest => inline? fuel es rest
          | '\x7d' :: rest => some ((Node.table .dotted es).source, rest)
          | _ => none
    | _ => none

end

/-! ## Documents -/

structure Draft where
  /-- The table that was opened last. -/
  table   : List String
  entries : Entries

/-- A header, after its opening bracket. -/
def header? (d : Draft) (cs : Chars) : Option (Draft × Chars) :=
  match cs with
  | '[' :: cs =>
    match key? (cs.length + 1) cs with
    | some (path, ']' :: ']' :: rest) =>
      (openItem path d.entries).map fun es => (⟨path, es⟩, rest)
    | _ => none
  | cs =>
    match key? (cs.length + 1) cs with
    | some (path, ']' :: rest) => (openTable path d.entries).map fun es => (⟨path, es⟩, rest)
    | _ => none

/-- A key with its value. -/
def entry? (d : Draft) (cs : Chars) : Option (Draft × Chars) :=
  match key? (cs.length + 1) cs with
  | some (path, '=' :: rest) =>
    match value? (2 * rest.length + 2) (skipBlanks rest) with
    | none => none
    | some (s, rest) =>
      (setIn d.table path s d.entries).map fun es => ({ d with entries := es }, rest)
  | _ => none

/-- The rest of a document, one statement a line. -/
def lines? : Nat → Draft → Chars → Option Draft
  | 0, _, _ => none
  | fuel + 1, d, cs =>
    match skipLines (cs.length + 1) cs with
    | [] => some d
    | cs =>
      let statement := match cs with
        | '[' :: rest => header? d rest
        | cs => entry? d cs
      match statement with
      | none => none
      | some (d, rest) =>
        match lineEnd? rest with
        | some rest => lines? fuel d rest
        | none => none

/-- A mark at the very beginning that tells the encoding of a text. -/
def byteOrderMark : Char := Char.ofNat 0xFEFF

/-- The tree of a document. -/
def parse? (text : String) : Option Source :=
  let cs := match text.toList with
    | c :: rest => if c = byteOrderMark then rest else c :: rest
    | [] => []
  (lines? (cs.length + 1) ⟨[], []⟩ cs).map fun d => .object (sourceEntries d.entries)

end DeviceLink.Toml
