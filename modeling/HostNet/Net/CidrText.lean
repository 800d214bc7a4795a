import HostNet.Net.AddressText
import HostNet.Net.Cidr
/-!
The written form of prefixes: an address, a slash and the length. Reading also takes a bare
address, and for IPv4 a dotted mask in place of the length.
-/
namespace HostNet.Cidr

open HostNet.Text

/-- Why a text is no prefix. -/
inductive Malformed where
  /-- More than one slash. -/
  | slashes (text : String)
  /-- What stands before the slash is no address. -/
  | address (text : String)
  /-- What stands behind the slash is no length or mask. -/
  | length
deriving DecidableEq, Repr

def Malformed.message : Malformed → String
  | slashes text => "invalid cidr format: CIDR must contain a single '/': " ++ text
  | address text => "invalid address: " ++ text
  | length => "invalid prefix"

def splitAtSlashes : List Char → List (List Char)
  | [] => [[]]
  | '/' :: rest => [] :: splitAtSlashes rest
  | c :: rest =>
    match splitAtSlashes rest with
    | [] => [[c]]
    | part :: parts => (c :: part) :: parts

/-- The address part and, behind a single slash, the length part. -/
def splitParts (text : String) : Except Malformed (String × Option String) :=
  match splitAtSlashes text.toList with
  | [address] => .ok (String.ofList address, none)
  | [address, length] => .ok (String.ofList address, some (String.ofList length))
  | _ => .error (.slashes text)

/-- The length of a mask whose ones are contiguous from the top. -/
def maskLength? (mask : Ipv4) : Option Nat :=
  (List.range 33).find? fun length => Address.mask 32 length == mask

/-- The length a text gives for a family. -/
def readLength? (family : Family) (text : String) : Option Nat :=
  match family, Address.readV4? text with
  | .inet, some mask => maskLength? mask
  | _, _ => (readNatural? text.toList).filter (· ≤ 255)

def readAs (family : Family) (text : String) : Except Malformed Cidr := do
  let (addressPart, length?) ← splitParts text
  match Address.readAs? family addressPart with
  | none => throw (.address addressPart)
  | some address =>
    match length? with
    | none => return host address
    | some length =>
      match (readLength? family length).bind (make? address) with
      | none => throw .length
      | some cidr => return cidr

/-- The whole of a text as a prefix of either family, IPv4 tried first. -/
def read? (text : String) : Option Cidr :=
  (readAs .inet text).toOption <|> (readAs .inet6 text).toOption

def text (cidr : Cidr) : String :=
  cidr.address.text ++ "/" ++ toString cidr.length

end HostNet.Cidr
