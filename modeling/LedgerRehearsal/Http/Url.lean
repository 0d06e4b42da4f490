/-!
Addresses of requests: absolute ones of the schemes `http` and `https`. The target of a request is
the path with the query; its dots are resolved, its backslashes read as slashes, and characters
that may not be sent as they are become percent escapes of their UTF-8 bytes. What follows a hash is
never sent.
-/

namespace LedgerRehearsal

structure Url where
  scheme : String
  authority : String
  target : String
deriving DecidableEq, Repr

namespace Url

def hexUpper (n : Nat) : Char := Char.ofNat (if n < 10 then 48 + n else 55 + n)

def escapeByte (byte : UInt8) : List Char :=
  ['%', hexUpper (byte.toNat / 16), hexUpper (byte.toNat % 16)]

/-- Escapes a character unless it may stand as it is. -/
def escapeChar (mustEscape : Char → Bool) (c : Char) : List Char :=
  if mustEscape c then (String.singleton c).toUTF8.toList.flatMap escapeByte else [c]

/-- Neither a control nor beyond ASCII. -/
def isPlain (c : Char) : Bool := ' ' ≤ c && c ≤ '~'

def escapedInPath (c : Char) : Bool :=
  !isPlain c || [' ', '"', '#', '<', '>', '?', '\x60', '\x7b', '\x7d'].contains c

def escapedInQuery (c : Char) : Bool := !isPlain c || [' ', '"', '#', '<', '>', '\''].contains c

/-- The segments between slashes, of either kind. -/
def segments : List Char → List (List Char)
  | [] => [[]]
  | c :: rest =>
    if c = '/' ∨ c = '\\' then [] :: segments rest
    else match segments rest with
      | [] => [[c]]
      | segment :: others => (c :: segment) :: others

/-- A dot may be written as an escape. -/
def undot : List Char → List Char
  | '%' :: '2' :: 'e' :: rest | '%' :: '2' :: 'E' :: rest => '.' :: undot rest
  | c :: rest => c :: undot rest
  | [] => []

/-- Resolves the dots of a path. A path that ends in dots ends in a slash. -/
def resolveDots (above : List (List Char)) : List (List Char) → List (List Char)
  | [] => above.reverse
  | segment :: rest =>
    if undot segment = ['.', '.'] then
      if rest.isEmpty then ([] :: above.tail).reverse else resolveDots above.tail rest
    else if undot segment = ['.'] then
      if rest.isEmpty then ([] :: above).reverse else resolveDots above rest
    else resolveDots (segment.flatMap (escapeChar escapedInPath) :: above) rest

/-- The path of a target; what is given starts with a slash or is empty. -/
def pathText (path : List Char) : List Char :=
  (resolveDots [] (segments path.tail)).flatMap ('/' :: ·)

def isLetter (c : Char) : Bool := c.isAlpha

/-- Ends an authority. -/
def endsAuthority (c : Char) : Bool := ['/', '\\', '?', '#'].contains c

/-- A character that no host has. -/
def isForbiddenInHost (c : Char) : Bool :=
  c ≤ ' ' || ['<', '>', '^', '|', '%', '\x60', '\x7b', '\x7d', '"', '\x7f'].contains c

/-- The text as it is read: controls and spaces at the ends, tabs and line ends anywhere are left
out. -/
def clean (text : String) : List Char :=
  let isEdge (c : Char) : Bool := c ≤ ' '
  let trimmed := ((text.toList.dropWhile isEdge).reverse.dropWhile isEdge).reverse
  trimmed.filter fun c => c ≠ '\t' ∧ c ≠ '\n' ∧ c ≠ '\r'

def parse? (text : String) : Option Url :=
  let cs := clean text
  let scheme := String.ofList ((cs.takeWhile (· ≠ ':')).map Char.toLower)
  if scheme ≠ "http" ∧ scheme ≠ "https" then none
  else
    let rest := (cs.dropWhile (· ≠ ':')).tail.dropWhile fun c => c = '/' || c = '\\'
    let authority := rest.takeWhile (!endsAuthority ·)
    let rest := (rest.dropWhile (!endsAuthority ·)).takeWhile (· ≠ '#')
    let path := rest.takeWhile (· ≠ '?')
    let query := match rest.dropWhile (· ≠ '?') with
      | [] => []
      | mark :: query => mark :: query.flatMap (escapeChar escapedInQuery)
    if authority.isEmpty ∨ authority.any isForbiddenInHost then none
    else some ⟨scheme, String.ofList (authority.map Char.toLower), String.ofList (pathText path ++ query)⟩

end Url

end LedgerRehearsal
