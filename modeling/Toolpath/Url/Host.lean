import Toolpath.Text.Blank
import Toolpath.Text.Digit
import Toolpath.Text.Quoted
/-!
# Hosts in addresses

What may stand between brackets in the host of a URL, and which hosts may not be written because
they could be read as something else.

## Main definitions

* `Toolpath.Url.isIpv4`, `isIpv6` — the two kinds of numeric addresses.
* `Toolpath.Url.Fault` — why the host of a URL is not accepted.
* `Toolpath.Url.checkAuthority` — the check of everything between the slashes.
-/

namespace Toolpath.Url

open Text

/-! ## Faults -/

/-- Why the host of a URL is not accepted. -/
inductive Fault where
  /-- Brackets do not pair up, or something stands next to them. -/
  | brackets
  /-- An address of a future version is not written as one. -/
  | futureAddress
  | noAddress (host : List Char)
  | ipv4InBrackets
  /-- Some characters read as separators once they are normalized. -/
  | ambiguous (authority : List Char)
  deriving DecidableEq, Repr

/-- The wording of a fault. -/
def Fault.message : Fault → String
  | brackets => "Invalid IPv6 URL"
  | futureAddress => "IPvFuture address is invalid"
  | noAddress host =>
    s!"{String.ofList (quoted host)} does not appear to be an IPv4 or IPv6 address"
  | ipv4InBrackets => "An IPv4 address cannot be in brackets"
  | ambiguous authority =>
    s!"netloc '{String.ofList authority}' contains invalid characters under NFKC normalization"

/-! ## Numeric addresses -/

/-- A decimal number below 256 without zeros in front. -/
def isOctet (s : List Char) : Bool :=
  !s.isEmpty && s.length ≤ 3 && s.all Char.isDigit && (s == ['0'] || s.head? != some '0')
    && numberOf (s.filterMap digitValue?) ≤ 255

/-- An address of four decimal numbers. -/
def isIpv4 (s : List Char) : Bool :=
  let parts := pieces '.' s
  parts.length == 4 && parts.all isOctet

/-- A hexadecimal digit. -/
def isHexDigit (c : Char) : Bool :=
  c.isDigit || ('a' ≤ c && c ≤ 'f') || ('A' ≤ c && c ≤ 'F')

/-- One to four hexadecimal digits. -/
def isHextet (s : List Char) : Bool := !s.isEmpty && s.length ≤ 4 && s.all isHexDigit

/-- Parts of an address of eight groups, of which one empty part inside may stand for groups of
zeros. An empty part at an end belongs to it. -/
def isGroups (parts : List (List Char)) : Bool :=
  let inner := (parts.drop 1).dropLast
  match inner.count [] with
  | 0 => parts.length == 8 && parts.all isHextet
  | 1 =>
    let front := parts.take (1 + inner.idxOf [])
    let back := parts.drop (2 + inner.idxOf [])
    let front := if front == [[]] then [] else front
    let back := if back == [[]] then [] else back
    front.length + back.length ≤ 7 && front.all isHextet && back.all isHextet
  | _ => false

/-- The parts of an address between colons, where a decimal address at the end stands for two
groups. -/
def groupsOf (s : List Char) : List (List Char) :=
  let parts := pieces ':' s
  match parts.getLast? with
  | some last => if isIpv4 last then parts.dropLast ++ [['0'], ['0']] else parts
  | none => parts

/-- An address of eight groups, perhaps with a zone behind a percent sign. -/
def isIpv6 (s : List Char) : Bool :=
  let (address, zone) := cutAt '%' s
  zone.all (fun z => !z.isEmpty && !z.contains '%' && !z.contains '/')
    && 3 ≤ (pieces ':' address).length && isGroups (groupsOf address)

/-- An address of a version to come: its number and a point in front. -/
def isFutureAddress : List Char → Bool
  | 'v' :: s =>
    match cutAt '.' s with
    | (version, some rest) =>
      !version.isEmpty && version.all isHexDigit && !rest.isEmpty && !rest.contains '\n'
    | _ => false
  | _ => false

/-- The check of a host between brackets. -/
def checkBracketed (host : List Char) : Except Fault Unit :=
  if host.head? = some 'v' then if isFutureAddress host then .ok () else .error .futureAddress
  else if isIpv4 host then .error .ipv4InBrackets
  else if isIpv6 host then .ok ()
  else .error (.noAddress host)

/-! ## The authority -/

/-- The characters beyond ASCII whose normal form holds a separator of URLs. -/
def disguised : List Nat := [
  0x2047, 0x2048, 0x2049, 0x2100, 0x2101, 0x2105, 0x2106, 0x2A74, 0xFE13, 0xFE16, 0xFE55, 0xFE56,
  0xFE5F, 0xFE6B, 0xFF03, 0xFF0F, 0xFF1A, 0xFF1F, 0xFF20]

/-- What follows the last occurrence of a character; the whole text if there is none. -/
def afterLast (c : Char) (s : List Char) : List Char :=
  (s.reverse.takeWhile (· != c)).reverse

/-- The check of the brackets: they hold the whole host, and only a port may follow. -/
def checkBrackets (authority : List Char) : Except Fault Unit :=
  match authority.contains '[', authority.contains ']' with
  | false, false => .ok ()
  | true, true =>
    match cutAt '[' (afterLast '@' authority) with
    | ([], some bracketed) =>
      match cutAt ']' bracketed with
      | (host, none) => checkBracketed host
      | (host, some []) => checkBracketed host
      | (host, some (c :: _)) => if c = ':' then checkBracketed host else .error .brackets
    | (_, some _) => .error .brackets
    | (host, none) => checkBracketed (cutAt ':' host).1
  | _, _ => .error .brackets

/-- The check of everything between the slashes. -/
def checkAuthority (authority : List Char) : Except Fault Unit := do
  checkBrackets authority
  if authority.any fun c => disguised.contains c.toNat then .error (.ambiguous authority)

end Toolpath.Url
