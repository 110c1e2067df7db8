import ObliviousRelay.Net.Ip

/-!
# Server names

The name under which a server is verified: a DNS name, or an address. A DNS name is made of labels
of 1 to 63 letters, digits, dashes and underscores with no dash at either end; it has at most 253
characters, its last label is not a number, and one trailing dot is allowed.
-/

namespace ObliviousRelay.Net

/-- The name under which a server is verified. -/
inductive ServerName where
  | dns (name : String)
  | ipv4 (ip : Ipv4)
  | ipv6 (ip : Ipv6)
  deriving DecidableEq, Repr

namespace ServerName

/-- A character of a label other than a dash. -/
def isLabelChar (c : Char) : Bool := Text.isAlphanumeric c || c == '_'

/-- A label of a DNS name. -/
def isLabel (cs : List Char) : Bool :=
  1 ≤ cs.length && cs.length ≤ 63 && cs.all (fun c => isLabelChar c || c == '-') &&
  cs.head?.any isLabelChar && cs.getLast?.any isLabelChar

/-- A label that reads as a number: digits, or hexadecimal digits after `0x`. -/
def isNumeric (cs : List Char) : Bool :=
  cs.all Text.isDigit ||
  match cs with
  | '0' :: x :: digits => (x == 'x' || x == 'X') && digits.all Text.isHex
  | _ => false

/-- The parts of a text between its dots. -/
def splitDots (cs : List Char) : List (List Char) :=
  cs.foldr (fun c acc =>
    if c = '.' then [] :: acc
    else match acc with
      | l :: ls => (c :: l) :: ls
      | [] => [[c]]) [[]]

/-- Whether a text is a DNS name. -/
def isDnsName (cs : List Char) : Bool :=
  let labels := splitDots cs
  let labels := if 1 < labels.length && labels.getLast? == some [] then labels.dropLast else labels
  cs.length ≤ 253 && labels.all isLabel && !(labels.getLast?.any isNumeric)

/-- Reads a server name. -/
def parse? (s : String) : Option ServerName :=
  let cs := s.toList
  if isDnsName cs then some (dns s)
  else ((Ipv4.parse? cs).map ipv4).or ((Ipv6.parse? cs).map ipv6)

/-- Whether a server is named and not addressed. -/
def isDns : ServerName → Bool
  | dns _ => true
  | _ => false

/-- The text of a server name. -/
def text : ServerName → String
  | dns name => name
  | ipv4 ip => ip.text
  | ipv6 ip => ip.text

/-- What is said of a host that is no server name. -/
def refusal (host : String) : String := "invalid server name: " ++ host

end ServerName

end ObliviousRelay.Net
