import AccessPortal.Text.Numeral

/-!
# Addresses as the prepared server reads them

Where a request leads and what it asks for there, by the text of its address. The text is taken as
address bars take it: blanks around it and line ends in it do not count, backslashes count as
slashes, any number of slashes may follow the protocol, and a character that cannot stand in a path
or a query is written as the bytes of its UTF-8 form, in hexadecimal after percent signs.

A host is taken as it is written: percent signs in it are not decoded, numbers in it are not checked
to be those of an address, and no name is looked up. So this reading serves to tell the requests to
one known server (`PreparedServer.send`), not which addresses can be sent to. The latter is up to
what sends the requests, and what is shown of requests in general does not use this module.
-/

namespace AccessPortal
namespace Http

structure Url where
  secure : Bool
  host : String
  /-- The number of the socket at the host. -/
  socket : Nat
  /-- The path, which starts with a slash, and the query with its question mark, if there is one. -/
  target : String
  deriving DecidableEq, Repr, Inhabited

namespace Url

/-! ## Characters -/

/-- The characters that do not count around an address. -/
def isMargin (c : Char) : Bool :=
  c.toNat ≤ 0x20

/-- The characters that do not count anywhere in an address. -/
def isLineBreak (c : Char) : Bool :=
  c == '\t' || c == '\n' || c == '\r'

def isSlash (c : Char) : Bool :=
  c == '/' || c == '\\'

/-- The characters that no host contains. -/
def isForbiddenInHost (c : Char) : Bool :=
  c.toNat ≤ 0x20 || c.toNat == 0x7f || "#%/:<>?@[\\]^|".toList.contains c

/-- The characters that a host in brackets consists of. -/
def isBracketed (c : Char) : Bool :=
  c == ':' || c == '.' || c.isDigit || ('a' ≤ c && c ≤ 'f') || ('A' ≤ c && c ≤ 'F')

def isPlainInPath (c : Char) : Bool :=
  0x20 < c.toNat && c.toNat < 0x7f && !"\"#<>?`\x7b\x7d".toList.contains c

def isPlainInQuery (c : Char) : Bool :=
  0x20 < c.toNat && c.toNat < 0x7f && !"\"#<>'".toList.contains c

def percent (byte : UInt8) : List Char :=
  let digit (n : Nat) : Char := (Nat.digitChar n).toUpper
  ['%', digit (byte.toNat / 16), digit (byte.toNat % 16)]

/-- The text with every character that is not plain written byte by byte. -/
def encode (isPlain : Char → Bool) (text : List Char) : List Char :=
  text.flatMap fun c => if isPlain c then [c] else (String.utf8EncodeChar c).flatMap percent

/-! ## Parts -/

/-- The part of a text before the first character that ends it, and the rest. -/
def cut (ends : Char → Bool) (text : List Char) : List Char × List Char :=
  text.span fun c => !ends c

/-- Whether a step of a path, written in any way, is a dot. -/
def isDot (step : List Char) : Bool :=
  [".", "%2e"].contains (String.ofList (step.map Char.toLower))

/-- Whether a step of a path, written in any way, is a pair of dots. -/
def isDoubleDot (step : List Char) : Bool :=
  ["..", ".%2e", "%2e.", "%2e%2e"].contains (String.ofList (step.map Char.toLower))

/--
The steps of a path once those that stay in place or go back are gone, given the steps so far from
the last to the first. A path that ends with such a step ends with a slash.
-/
def walk : List (List Char) → List (List Char) → List (List Char)
  | before, [] => before.reverse
  | before, [step] =>
    if isDoubleDot step then ([] :: before.tail).reverse
    else if isDot step then ([] :: before).reverse
    else (step :: before).reverse
  | before, step :: steps =>
    if isDoubleDot step then walk before.tail steps
    else if isDot step then walk before steps
    else walk (step :: before) steps

/-- The path as it is asked for, of a text that starts behind the first slash. -/
def pathText (text : List Char) : List Char :=
  (walk [] (text.splitOnP isSlash)).flatMap fun step => '/' :: encode isPlainInPath step

/-- The host and the socket of a text, where `socket` is meant if none is given. -/
def hostAndSocket? (socket : Nat) (text : List Char) : Option (String × Nat) := do
  let (host, rest) ← match text with
    | '[' :: inner =>
      match cut (· == ']') inner with
      | (host, ']' :: rest) =>
        if host.isEmpty || !host.all isBracketed then none else some ('[' :: host ++ [']'], rest)
      | _ => none
    | _ =>
      let (host, rest) := cut (· == ':') text
      if host.isEmpty || host.any isForbiddenInHost then none else some (host, rest)
  let socket ← match rest with
    | [] | [':'] => some socket
    | ':' :: digits =>
      if digits.all Char.isDigit then
        let number := Text.ofDigits digits
        if number ≤ 65535 then some number else none
      else none
    | _ => none
  return (String.ofList (host.map Char.toLower), socket)

/-- The part of a text before the last `@`, if there is one, and the part behind it. -/
def splitUser (text : List Char) : Option (List Char) × List Char :=
  match text.reverse.span (· != '@') with
  | (host, _ :: user) => (some user.reverse, host.reverse)
  | _ => (none, text)

/-- What an address means behind the colon that ends the protocol. -/
def afterProtocol? (secure : Bool) (text : List Char) : Option Url := do
  let (authority, rest) := cut (fun c => isSlash c || c == '?' || c == '#')
    (text.dropWhile isSlash)
  let (_, place) := splitUser authority
  let (host, socket) ← hostAndSocket? (if secure then 443 else 80) place
  let (path, rest) := cut (fun c => c == '?' || c == '#') rest
  let query := match rest with
    | '?' :: query => '?' :: encode isPlainInQuery (cut (· == '#') query).1
    | _ => []
  return { secure, host, socket, target := String.ofList (pathText path.tail ++ query) }

/-- What an address leads to and asks for, if it is read at all. -/
def parse? (text : String) : Option Url :=
  let text := (text.toList.dropWhile isMargin).reverse.dropWhile isMargin |>.reverse
  match cut (· == ':') (text.filter fun c => !isLineBreak c) with
  | (protocol, _ :: rest) =>
    match String.ofList (protocol.map Char.toLower) with
    | "http" => afterProtocol? false rest
    | "https" => afterProtocol? true rest
    | _ => none
  | _ => none

end Url
end Http
end AccessPortal
