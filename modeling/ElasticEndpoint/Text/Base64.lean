/-!
Base64. Decoding skips every character outside the alphabet and stops at the padding of the last
group; a group without its padding is an error.
-/

namespace ElasticEndpoint.Text.Base64

def sextet? (c : Char) : Option Nat :=
  if 'A' ≤ c && c ≤ 'Z' then some (c.toNat - 65)
  else if 'a' ≤ c && c ≤ 'z' then some (c.toNat - 71)
  else if c.isDigit then some (c.toNat + 4)
  else if c == '+' then some 62
  else if c == '/' then some 63
  else none

/-- Decoding from inside a group: the number of characters of the group, the bits left over from
them, the number of padding characters, and the number of bytes already written. -/
def decodeFrom (position left pads written : Nat) : List Char → Except String (List UInt8)
  | [] =>
    if position == 0 then .ok []
    else if position == 1 then
      .error ("Invalid base64-encoded string: number of data characters " ++
        s!"({written / 3 * 4 + 1}) cannot be 1 more than a multiple of 4")
    else .error "Incorrect padding"
  | c :: rest =>
    if c == '=' then
      if 2 ≤ position && 4 ≤ position + pads + 1 then .ok []
      else decodeFrom position left (if 2 ≤ position then pads + 1 else pads) written rest
    else match sextet? c with
      | none => decodeFrom position left pads written rest
      | some bits =>
        match position with
        | 0 => decodeFrom 1 bits 0 written rest
        | 1 => (UInt8.ofNat (left * 4 + bits / 16) :: ·) <$> decodeFrom 2 (bits % 16) 0 (written + 1) rest
        | 2 => (UInt8.ofNat (left * 16 + bits / 4) :: ·) <$> decodeFrom 3 (bits % 4) 0 (written + 1) rest
        | _ => (UInt8.ofNat (left * 64 + bits) :: ·) <$> decodeFrom 0 0 0 (written + 1) rest

def decode (text : List Char) : Except String (List UInt8) := decodeFrom 0 0 0 0 text

end ElasticEndpoint.Text.Base64
