import SemanticLayer.Text.Quoted

/-
# Addresses of web servers

An address is a scheme and a host, a path, a query behind `?` and a fragment
behind `#`.  In its canonical form the path starts with a slash and has no `.`
and `..` segments, and every character that the part does not allow is written
as the hexadecimal digits of its bytes, each byte behind a percent sign.
-/

namespace SemanticLayer.Text

structure Address where
  scheme : List Char
  host : List Char
  path : List Char
  query : Option (List Char)
  fragment : Option (List Char)
deriving DecidableEq

namespace Address

/-- The part before the first of some characters, and the rest from there on. -/
def cut (stops : List Char) (cs : List Char) : List Char × List Char :=
  cs.span fun c => !stops.contains c

/-- What stands behind a mark, if the text starts with it. -/
def behind (mark : Char) : List Char → Option (List Char)
  | c :: rest => if c = mark then some rest else none
  | [] => none

/-- The characters of an address that count: tabs and line ends are dropped. -/
def relevant (s : String) : List Char :=
  s.toList.filter fun c => !(c == '\t' || c == '\n' || c == '\r')

/-- Splits an address. -/
def ofString (s : String) : Address :=
  let (scheme, rest) := cut [':'] (relevant s)
  let (host, rest) := cut ['/', '\\', '?', '#'] (rest.drop 3)
  let (path, rest) := cut ['?', '#'] rest
  let (query, rest) := cut ['#'] rest
  ⟨scheme, host, path, behind '?' query, behind '#' rest⟩

/-- A byte behind a percent sign. -/
def percent (b : UInt8) : List Char :=
  let ds := (Nat.toDigits 16 b.toNat).map Char.toUpper
  '%' :: (if ds.length < 2 then '0' :: ds else ds)

/-- The characters that no part of an address may hold as they are. -/
def isReserved (c : Char) : Bool :=
  c.toNat ≤ 32 || 127 ≤ c.toNat || c == '"' || c == '<' || c == '>'

/-- A text with reserved characters, and those that the part reserves, as their bytes. -/
def encoded (more : List Char) (cs : List Char) : List Char :=
  cs.flatMap fun c =>
    if isReserved c || more.contains c then (String.singleton c).toUTF8.toList.flatMap percent
    else [c]

/-- The parts of a text between marks; there is one more of them than of the marks. -/
def cutAll (marks : List Char) : List Char → List (List Char)
  | [] => [[]]
  | c :: rest =>
    if marks.contains c then [] :: cutAll marks rest
    else
      match cutAll marks rest with
      | [] => [[c]]
      | s :: more => (c :: s) :: more

/-- The segments of a path, between its slashes. -/
def segments : List Char → List (List Char) := cutAll ['/', '\\']

/-- A text in which a dot that is written as its byte stands as it is. -/
def withDots : List Char → List Char
  | '%' :: '2' :: c :: rest =>
    if c = 'e' ∨ c = 'E' then '.' :: withDots rest else '%' :: '2' :: withDots (c :: rest)
  | c :: rest => c :: withDots rest
  | [] => []

/-- A segment that stands for the directory itself. -/
def isDot (s : List Char) : Bool := withDots s = ['.']

/-- A segment that stands for the directory above. -/
def isDots (s : List Char) : Bool := withDots s = ['.', '.']

/-- The segments without dots; `done` holds the segments before, last first. -/
def resolve (done : List (List Char)) : List (List Char) → List (List Char)
  | [] => done.reverse
  | [s] =>
    if isDots s then ([] :: done.drop 1).reverse
    else if isDot s then ([] :: done).reverse
    else (s :: done).reverse
  | s :: rest =>
    if isDots s then resolve (done.drop 1) rest
    else if isDot s then resolve done rest
    else resolve (s :: done) rest

/-- A path in canonical form. -/
def canonicalPath (path : List Char) : List Char :=
  match segments path with
  | _ :: rest => (resolve [] rest).flatMap ('/' :: ·)
  | [] => []

/-- The target of a request for an address: path and query. -/
def target (a : Address) : String :=
  let path := encoded ['#', '?', '\x7b', '\x7d', '\x60'] (canonicalPath a.path)
  let path := if path.isEmpty then ['/'] else path
  let query := match a.query with
    | some q => '?' :: encoded ['#', '\''] q
    | none => []
  String.ofList (path ++ query)

/-- An address in canonical form. -/
def canonical (a : Address) : String :=
  let fragment := match a.fragment with
    | some f => '#' :: encoded ['\x60'] f
    | none => []
  String.ofList a.scheme ++ "://" ++ String.ofList a.host ++ a.target ++ String.ofList fragment

end Address

end SemanticLayer.Text
