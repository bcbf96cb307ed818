import ElasticEndpoint.Text.Split

/-!
Addresses of the sixth version of the internet protocol, as text: eight groups of hexadecimal
digits, of which one run of zeros may be left out between two colons and the last two may be an
address of the fourth version. A zone may follow a percent sign.
-/

namespace ElasticEndpoint.Net

def isHexDigit (c : Char) : Bool := c.isDigit || ('a' ≤ c && c ≤ 'f') || ('A' ≤ c && c ≤ 'F')

def isHextet (group : List Char) : Bool :=
  !group.isEmpty && group.length ≤ 4 && group.all isHexDigit

/-- One of the four numbers of an address of the fourth version: at most 255, without leading
zeros. -/
def isOctet (part : List Char) : Bool :=
  !part.isEmpty && part.length ≤ 3 && part.all Char.isDigit && (part == ['0'] || part.head? != some '0') &&
    part.foldl (fun value c => 10 * value + (c.toNat - 48)) 0 ≤ 255

/-- An address of the fourth version: four numbers between points. -/
def isIPv4 (text : List Char) : Bool :=
  let parts := Text.splitOn '.' text
  parts.length == 4 && parts.all isOctet

/-- The groups of an address with an address of the fourth version at its end counted as two. -/
def groups? (text : List Char) : Option (List (List Char)) :=
  let parts := Text.splitOn ':' text
  match parts.getLast? with
  | none => none
  | some last =>
    if parts.length < 3 then none
    else if last.contains '.' then
      if isIPv4 last then some (parts.dropLast ++ [['0'], ['0']]) else none
    else some parts

/-- Whether groups stand for an address. Without a gap there are eight of them. A gap is the only
empty group between two others; at an end of the address it is written as two empty groups; and it
stands for at least one group of zeros. -/
def fitGroups (groups : List (List Char)) : Bool :=
  let inner := (groups.drop 1).dropLast
  match inner.findIdx? List.isEmpty with
  | none => groups.length == 8 && groups.all isHextet
  | some gap =>
    let before := groups.take (gap + 1)
    let after := groups.drop (gap + 2)
    let before := if before == [[]] then [] else before
    let after := if after == [[]] then [] else after
    groups.length ≤ 9 && before.all isHextet && after.all isHextet && before.length + after.length < 8

/-- Whether a text is an address of the sixth version, with or without a zone. -/
def isIPv6 (text : List Char) : Bool :=
  let address := text.takeWhile (· != '%')
  let zone := text.drop address.length
  let zoneFits := zone.isEmpty || (1 < zone.length && !(zone.drop 1).contains '%')
  !text.contains '/' && zoneFits && match groups? address with
    | some groups => fitGroups groups
    | none => false

end ElasticEndpoint.Net
