import TemplateCatalog.Power
import TemplateCatalog.Text.Digit
import TemplateCatalog.Url.Domain

/-!
# Hosts

The names and numbers by which a URL names a host: domain names, addresses of four numbers, and
addresses of eight groups between square brackets.

Main statements:

* `checkOpaque_of_plain`: a host without special characters names itself.
-/

namespace TemplateCatalog.Url

/-- Why a URL cannot be made out. -/
inductive Fault where
  /-- There is no host where one is needed. -/
  | emptyHost
  /-- The address of four numbers is none. -/
  | address4
  /-- The address of eight groups is none. -/
  | address6
  /-- The host is no domain name. -/
  | domainName
  /-- The host holds a character that no host can hold. -/
  | hostCharacter
  /-- The port is none. -/
  | port
  /-- The URL is to be read from a place that has no path. -/
  | noPath
  deriving DecidableEq, Repr

/-- The message about a URL that cannot be made out. -/
def Fault.message : Fault → String
  | .emptyHost => "empty host"
  | .address4 => "invalid IPv4 address"
  | .address6 => "invalid IPv6 address"
  | .domainName => "invalid international domain name"
  | .hostCharacter => "invalid domain character"
  | .port => "invalid port number"
  | .noPath => "relative URL with a cannot-be-a-base base"

/-! ### Addresses of four numbers -/

/-- The number that a part of an address spells: in digits of base sixteen behind `0x`, in octal
digits behind another zero, and else in decimal digits. -/
def addressNumber? (cs : List Char) : Option Nat :=
  let digits (base : Nat) (cs : List Char) : Option Nat :=
    if cs.isEmpty then some 0 else Text.digits? base cs
  match cs with
  | '0' :: 'x' :: rest | '0' :: 'X' :: rest => digits 16 rest
  | '0' :: c :: rest => digits 8 (c :: rest)
  | cs => Text.digits? 10 cs

/-- The parts of a name between points, without the empty part behind a point at its end. -/
def nameParts (name : List Char) : List (List Char) :=
  match (parts '.' name).reverse with
  | [] :: last :: others => (last :: others).reverse
  | reversed => reversed.reverse

/-- The name ends in a number, so it has to be an address. -/
def endsInNumber (name : List Char) : Bool :=
  match (nameParts name).getLast? with
  | some last => (!last.isEmpty && last.all Char.isDigit) || (addressNumber? last).isSome
  | none => false

/-- The name is an address: up to four numbers, of which the last one stands for all the bytes that
the others leave. -/
def isAddress4 (name : List Char) : Bool :=
  match (nameParts name).mapM addressNumber? with
  | none => false
  | some numbers =>
    match numbers.reverse with
    | [] => false
    | last :: others =>
      others.length < 4 && others.all (· < 256) && last < twoTo (8 * (4 - others.length))

/-! ### Addresses of eight groups -/

/-- The text is a number below 256 in decimal digits without needless zeros. -/
def isByte (cs : List Char) : Bool :=
  cs.all Char.isDigit && (cs.length = 1 || cs.head? != some '0') &&
    (Text.digits? 10 cs).any (· < 256)

/-- The number of groups that a part of an address stands for: one group of up to four digits of
base sixteen, or at the end of the address four numbers that make up two groups. -/
def groupSize? (isLast : Bool) (part : List Char) : Option Nat :=
  if part.length ≤ 4 && (Text.digits? 16 part).isSome then some 1
  else
    let numbers := parts '.' part
    if isLast && numbers.length = 4 && numbers.all isByte then some 2 else none

/-- The number of groups that a list of parts stands for. -/
def groupCount? (atEnd : Bool) : List (List Char) → Option Nat
  | [] => some 0
  | [part] => groupSize? atEnd part
  | part :: others => do
    return (← groupSize? false part) + (← groupCount? atEnd others)

/-- The text before and behind the first two colons in a row. -/
def splitGap : List Char → Option (List Char × List Char)
  | [] => none
  | c :: rest =>
    if c = ':' ∧ rest.head? = some ':' then some ([], rest.drop 1)
    else (splitGap rest).map fun found => (c :: found.1, found.2)

/-- The number of groups in a part of an address, which may be empty. -/
def groupsIn? (atEnd : Bool) (cs : List Char) : Option Nat :=
  if cs.isEmpty then some 0 else groupCount? atEnd (parts ':' cs)

/-- The text is an address of eight groups; two colons in a row stand for one or more groups. -/
def isAddress6 (cs : List Char) : Bool :=
  match splitGap cs with
  | none => groupCount? true (parts ':' cs) = some 8
  | some (before, behind) =>
    match groupsIn? false before, groupsIn? true behind with
    | some m, some n => m + n ≤ 7
    | _, _ => false

/-! ### Hosts -/

/-- An address between square brackets, if the host begins with one. -/
def checkBracketed (host : List Char) : Except Fault Unit :=
  match host.reverse with
  | ']' :: inner => if isAddress6 (inner.reverse.drop 1) then .ok () else .error .address6
  | _ => .error .address6

/-- The bytes of a text, with those that are escaped by a percent sign and two digits. -/
def unescaped : List Char → List UInt8
  | '%' :: a :: b :: rest =>
    match Text.hexDigit? a, Text.hexDigit? b with
    | some m, some n => .ofNat (m * 16 + n) :: unescaped rest
    | _, _ => 0x25 :: unescaped (a :: b :: rest)
  | c :: rest => String.utf8EncodeChar c ++ unescaped rest
  | [] => []

/-- Check the host of a scheme that has domain names. -/
def checkDomain (host : List Char) : Except Fault Unit :=
  if host.head? = some '[' then checkBracketed host
  else
    match (String.fromUTF8? ⟨(unescaped host).toArray⟩).bind
        fun name => Domain.read? name.toList with
    | none => .error .domainName
    | some name =>
      if name.isEmpty then .error .emptyHost
      else if endsInNumber name && !isAddress4 name then .error .address4
      else .ok ()

/-- Check the host of another scheme. -/
def checkOpaque (host : List Char) : Except Fault Unit :=
  if host.head? = some '[' then checkBracketed host
  else if host.any Domain.isHostMark then .error .hostCharacter
  else .ok ()

/-- A host without special characters names itself. -/
theorem checkOpaque_of_plain {host : List Char} (plain : ∀ c ∈ host, Domain.isHostMark c = false) :
    checkOpaque host = .ok () := by
  have bracket : host.head? ≠ some '[' := fun h => by
    have special : Domain.isHostMark '[' = true := by decide
    have member : '[' ∈ host := List.mem_of_mem_head? (by simp [h])
    rw [plain '[' member] at special
    cases special
  have marks : host.any Domain.isHostMark = false := by simpa using plain
  simp [checkOpaque, bracket, marks]

end TemplateCatalog.Url
