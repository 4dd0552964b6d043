import EventIntake.Text.Form
import EventIntake.Url.Address
import EventIntake.Url.DomainName
import EventIntake.Url.Percent

/-!
# Hosts

The machine that a URL names. In the schemes that browsers know it is a domain name or an address;
in any other it is a name that nobody looks into.
-/

namespace EventIntake.Url

open EventIntake.Text (Form.percentDecode Utf8.decode? Utf8.encode)

/-- The machine that a URL names. -/
inductive Host where
  /-- a name; never empty -/
  | name (cs : List Char)
  | ipv4 (address : Nat)
  | ipv6 (pieces : List Nat)
  deriving DecidableEq

namespace Host

/-- The text of a host. -/
def text : Host → List Char
  | .name cs => cs
  | .ipv4 address => ipv4Text address
  | .ipv6 pieces => ['['] ++ ipv6Text pieces ++ [']']

/-- The version 6 address that is written after an opening bracket. -/
def bracketed? (cs : List Char) : Option Host :=
  match cs.getLast? with
  | some ']' => Host.ipv6 <$> ipv6? cs.dropLast
  | _ => none

/-- The host that is written with these characters in a scheme that browsers know. -/
def ofDomain? (cs : List Char) : Option Host :=
  match cs with
  | '[' :: rest => bracketed? rest
  | _ => do
    let domain ← domainToAscii? (← Utf8.decode? (Form.percentDecode (Utf8.encode cs)))
    if domain.isEmpty then none
    else if endsInNumber domain then Host.ipv4 <$> ipv4? domain
    else some (.name domain)

/-- Whether a character must not occur in a name that nobody looks into. -/
def isForbiddenInName (c : Char) : Bool :=
  "\x00\t\n\r #/:<>?@[\\]^|".contains c

/-- The host that is written with these characters in any other scheme; none if there are none. -/
def ofOpaque? (cs : List Char) : Option (Option Host) :=
  match cs with
  | [] => some none
  | '[' :: rest => some <$> bracketed? rest
  | _ =>
    if cs.any isForbiddenInName then none else some (some (.name (percentEncode isControl cs)))

end Host

end EventIntake.Url
