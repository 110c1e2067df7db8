import ObliviousRelay.Idna.Domain
import ObliviousRelay.Url.Basic
import ObliviousRelay.Url.Percent

/-!
# Hosts of URLs

The host of a special scheme is a bracketed address of version six, an address of version four in
one of its many spellings, or a domain name, which is brought to its ASCII form. Whether a name is
an address of version four is decided by its last label: a name that ends in a number is one, or
is refused.

The host of any other scheme is kept as it is, percent-encoded.
-/

namespace ObliviousRelay.Url

/-! ## §1 Addresses of version four -/

/-- The labels of a name. -/
def labels (cs : List Char) : List (List Char) :=
  cs.foldr (fun c acc =>
    if c = '.' then [] :: acc
    else match acc with
      | l :: ls => (c :: l) :: ls
      | [] => [[c]]) [[]]

/-- The value of a number in decimal, octal (leading `0`) or hexadecimal (leading `0x`) spelling.
The hexadecimal prefix alone is zero. -/
def number? (cs : List Char) : Option Nat :=
  match cs with
  | [] => none
  | '0' :: 'x' :: digits | '0' :: 'X' :: digits => Text.baseValue? 16 digits
  | '0' :: d :: digits => Text.baseValue? 8 (d :: digits)
  | digits => Text.baseValue? 10 digits

/-- The labels of a name without the empty one after a final dot. -/
def significantLabels (cs : List Char) : List (List Char) :=
  let ls := labels cs
  if ls.getLast? = some [] then ls.dropLast else ls

/-- A name whose last label is a number. -/
def endsInNumber (cs : List Char) : Bool :=
  match (significantLabels cs).getLast? with
  | none => false
  | some last => (!last.isEmpty && last.all Text.isDigit) || (number? last).isSome

/-- The address with a given 32-bit value. -/
def ipv4OfValue (n : Nat) : Net.Ipv4 :=
  ⟨UInt8.ofNat (n / Nat.pow 2 24), UInt8.ofNat (n / Nat.pow 2 16), UInt8.ofNat (n / Nat.pow 2 8),
    UInt8.ofNat n⟩

/-- The address that up to four numbers stand for: all but the last are one byte each, and the last
fills the bytes that are left. -/
def ipv4OfNumbers? (ns : List Nat) : Option Net.Ipv4 :=
  let front := ns.dropLast
  match ns.getLast? with
  | none => none
  | some last =>
    if 4 < ns.length then none
    else if front.any (255 < ·) then none
    else
      let room := Nat.pow 256 (4 - front.length)
      if room ≤ last then none
      else some (ipv4OfValue (front.foldl (fun n x => n * 256 + x) 0 * room + last))

/-- Reads a name that ends in a number. -/
def ipv4? (cs : List Char) : Option Net.Ipv4 :=
  let ls := significantLabels cs
  (ls.mapM number?).bind ipv4OfNumbers?

/-! ## §2 Hosts -/

/-- Reads an address in brackets. -/
def bracketed (cs : List Char) : Except Fault Host :=
  match cs.getLast? with
  | some ']' =>
    match Net.Ipv6.parse? cs.dropLast with
    | some ip => .ok (.ipv6 ip)
    | none => .error .ipv6Address
  | _ => .error .ipv6Address

/-- Reads the host of a special scheme. -/
def Host.parse (cs : List Char) : Except Fault Host :=
  match cs with
  | '[' :: rest => bracketed rest
  | _ =>
    let bytes := percentDecode (String.ofList cs).toUTF8.toList
    match (String.fromUTF8? ⟨bytes.toArray⟩).bind fun s => Idna.toAscii? s.toList with
    | none => .error .internationalName
    | some name =>
      if name.isEmpty then .error .emptyHost
      else if endsInNumber name then
        match ipv4? name with
        | some ip => .ok (.ipv4 ip)
        | none => .error .ipv4Address
      else .ok (.domain (String.ofList name))

/-- A character that no host holds as it is. -/
def isForbiddenInHost (c : Char) : Bool :=
  ['\x00', '\t', '\n', '\r', ' ', '#', '/', ':', '<', '>', '?', '@', '[', '\\', ']', '^', '|'].contains c

/-- Reads the host of a scheme that is not special, which may be empty. -/
def Host.parseOpaque (cs : List Char) : Except Fault (Option Host) :=
  match cs with
  | [] => .ok none
  | '[' :: rest => some <$> bracketed rest
  | _ =>
    if cs.any isForbiddenInHost then .error .domainCharacter
    else .ok (some (.domain (String.ofList (percentEncode controlSet cs))))

end ObliviousRelay.Url
