import Mathlib.Data.BitVec
import ZepGpu.Foundation.JsonReader

namespace ZepGpu
namespace Foundation

/-!
# IP addresses

Addresses of both versions with their texts, and the address blocks that are
not globally reachable or have a purpose of their own.  A block is private
unless it is one of the exceptions inside a larger block, so that a statement
about a block needs that it overlaps with none of them.
-/

/-- The addresses of one width that share their first bits. -/
structure Network (width : Nat) where
  address : BitVec width
  prefixLength : Nat
  deriving DecidableEq

namespace Network

variable {width : Nat}

/-- `address in network` -/
def contains (network : Network width) (address : BitVec width) : Bool :=
  address >>> (width - network.prefixLength) = network.address >>> (width - network.prefixLength)

/-- The blocks agree in the bits that both of them fix. -/
def overlaps (first second : Network width) : Bool :=
  first.address >>> (width - min first.prefixLength second.prefixLength) =
    second.address >>> (width - min first.prefixLength second.prefixLength)

variable {first second network : Network width} {address : BitVec width}

theorem shift_of_contains (inside : network.contains address = true) {length : Nat}
    (shorter : length ≤ network.prefixLength) :
    address >>> (width - length) = network.address >>> (width - length) := by
  have split : width - length =
      (width - network.prefixLength) + ((width - length) - (width - network.prefixLength)) := by
    omega
  rw [split, BitVec.shiftRight_add, BitVec.shiftRight_add, of_decide_eq_true inside]

theorem overlaps_of_contains (inFirst : first.contains address = true)
    (inSecond : second.contains address = true) : first.overlaps second = true := by
  apply decide_eq_true
  rw [← shift_of_contains inFirst (Nat.min_le_left _ _),
    shift_of_contains inSecond (Nat.min_le_right _ _)]

def listed (networks exceptions : List (Network width)) (address : BitVec width) : Bool :=
  networks.any (fun network => network.contains address) &&
    exceptions.all (fun network => !network.contains address)

theorem listed_of_contains {networks exceptions : List (Network width)} (member : network ∈ networks)
    (apart : exceptions.all (fun exception => !exception.overlaps network) = true)
    (inside : network.contains address = true) : listed networks exceptions address = true := by
  rw [listed, Bool.and_eq_true, List.any_eq_true, List.all_eq_true]
  refine ⟨⟨network, member, inside⟩, fun exception isException => ?_⟩
  rw [Bool.not_eq_true']
  by_contra inException
  have apart := List.all_eq_true.mp apart exception isException
  rw [overlaps_of_contains (Bool.eq_true_of_not_eq_false inException) inside] at apart
  cases apart

end Network

namespace Ipv4

/-- `IPv4Network` of four octets and a prefix length -/
def network (first second third fourth prefixLength : Nat) : Network 32 :=
  ⟨BitVec.ofNat 32 (((first * 256 + second) * 256 + third) * 256 + fourth), prefixLength⟩

def linkLocalNetwork : Network 32 := network 169 254 0 0 16

def loopbackNetwork : Network 32 := network 127 0 0 0 8

def multicastNetwork : Network 32 := network 224 0 0 0 4

def reservedNetwork : Network 32 := network 240 0 0 0 4

/-- `_public_network`, which is neither private nor global -/
def publicNetwork : Network 32 := network 100 64 0 0 10

def privateNetworks : List (Network 32) :=
  [network 0 0 0 0 8, network 10 0 0 0 8, network 127 0 0 0 8, network 169 254 0 0 16,
    network 172 16 0 0 12, network 192 0 0 0 24, network 192 0 0 170 31, network 192 0 2 0 24,
    network 192 168 0 0 16, network 198 18 0 0 15, network 198 51 100 0 24, network 203 0 113 0 24,
    network 240 0 0 0 4, network 255 255 255 255 32]

def privateNetworksExceptions : List (Network 32) :=
  [network 192 0 0 9 32, network 192 0 0 10 32]

variable (address : BitVec 32)

def isPrivate : Bool :=
  Network.listed privateNetworks privateNetworksExceptions address

def isGlobal : Bool :=
  !publicNetwork.contains address && !isPrivate address

def isUnspecified : Bool :=
  address = 0

variable {address}

theorem isPrivate_of_contains {block : Network 32} (member : block ∈ privateNetworks)
    (apart : privateNetworksExceptions.all (fun exception => !exception.overlaps block) = true)
    (inside : block.contains address = true) : isPrivate address = true :=
  Network.listed_of_contains member apart inside

theorem of_isGlobal (isGlobal_ : isGlobal address = true) :
    isPrivate address = false ∧ loopbackNetwork.contains address = false ∧
      linkLocalNetwork.contains address = false ∧ reservedNetwork.contains address = false ∧
      isUnspecified address = false := by
  rw [isGlobal, Bool.and_eq_true, Bool.not_eq_true', Bool.not_eq_true'] at isGlobal_
  have outside : ∀ {block : Network 32}, block ∈ privateNetworks ->
      privateNetworksExceptions.all (fun exception => !exception.overlaps block) = true ->
        block.contains address = false := by
    intro block member apart
    by_contra inside
    rw [isPrivate_of_contains member apart (Bool.eq_true_of_not_eq_false inside)] at isGlobal_
    exact Bool.noConfusion isGlobal_.2
  refine ⟨isGlobal_.2, outside (by decide) (by decide), outside (by decide) (by decide),
    outside (by decide) (by decide), ?_⟩
  have first : (network 0 0 0 0 8).contains address = false := outside (by decide) (by decide)
  by_contra zero
  rw [isUnspecified, decide_eq_false_iff_not, not_not] at zero
  rw [zero] at first
  exact absurd first (by decide)

end Ipv4

namespace Ipv6

/-- `IPv6Network` of eight groups and a prefix length -/
def network (groups : List Nat) (prefixLength : Nat) : Network 128 :=
  ⟨BitVec.ofNat 128 (groups.foldl (fun value group => value * 65536 + group) 0), prefixLength⟩

def linkLocalNetwork : Network 128 := network [0xfe80, 0, 0, 0, 0, 0, 0, 0] 10

def multicastNetwork : Network 128 := network [0xff00, 0, 0, 0, 0, 0, 0, 0] 8

def privateNetworks : List (Network 128) :=
  [network [0, 0, 0, 0, 0, 0, 0, 1] 128, network [0, 0, 0, 0, 0, 0, 0, 0] 128,
    network [0, 0, 0, 0, 0, 0xffff, 0, 0] 96, network [0x64, 0xff9b, 1, 0, 0, 0, 0, 0] 48,
    network [0x100, 0, 0, 0, 0, 0, 0, 0] 64, network [0x2001, 0, 0, 0, 0, 0, 0, 0] 23,
    network [0x2001, 0xdb8, 0, 0, 0, 0, 0, 0] 32, network [0x2002, 0, 0, 0, 0, 0, 0, 0] 16,
    network [0xfc00, 0, 0, 0, 0, 0, 0, 0] 7, network [0xfe80, 0, 0, 0, 0, 0, 0, 0] 10]

def privateNetworksExceptions : List (Network 128) :=
  [network [0x2001, 1, 0, 0, 0, 0, 0, 1] 128, network [0x2001, 1, 0, 0, 0, 0, 0, 2] 128,
    network [0x2001, 3, 0, 0, 0, 0, 0, 0] 32, network [0x2001, 4, 0x112, 0, 0, 0, 0, 0] 48,
    network [0x2001, 0x20, 0, 0, 0, 0, 0, 0] 28, network [0x2001, 0x30, 0, 0, 0, 0, 0, 0] 28]

def reservedNetworks : List (Network 128) :=
  [network [0, 0, 0, 0, 0, 0, 0, 0] 8, network [0x100, 0, 0, 0, 0, 0, 0, 0] 8,
    network [0x200, 0, 0, 0, 0, 0, 0, 0] 7, network [0x400, 0, 0, 0, 0, 0, 0, 0] 6,
    network [0x800, 0, 0, 0, 0, 0, 0, 0] 5, network [0x1000, 0, 0, 0, 0, 0, 0, 0] 4,
    network [0x4000, 0, 0, 0, 0, 0, 0, 0] 3, network [0x6000, 0, 0, 0, 0, 0, 0, 0] 3,
    network [0x8000, 0, 0, 0, 0, 0, 0, 0] 3, network [0xa000, 0, 0, 0, 0, 0, 0, 0] 3,
    network [0xc000, 0, 0, 0, 0, 0, 0, 0] 3, network [0xe000, 0, 0, 0, 0, 0, 0, 0] 4,
    network [0xf000, 0, 0, 0, 0, 0, 0, 0] 5, network [0xf800, 0, 0, 0, 0, 0, 0, 0] 6,
    network [0xfe00, 0, 0, 0, 0, 0, 0, 0] 9]

variable (address : BitVec 128)

/-- The last 32 bits, as an address of version 4. -/
def lowBits : BitVec 32 :=
  address.setWidth 32

def ipv4Mapped : Option (BitVec 32) :=
  if address >>> 32 = 0xffff then some (lowBits address) else none

def isPrivate : Bool :=
  match ipv4Mapped address with
  | some mapped => Ipv4.isPrivate mapped
  | none => Network.listed privateNetworks privateNetworksExceptions address

def isGlobal : Bool :=
  !isPrivate address

def isReserved : Bool :=
  reservedNetworks.any (fun network => network.contains address)

def isLoopback : Bool :=
  address = 1

def isUnspecified : Bool :=
  address = 0

variable {address}

theorem of_isGlobal (plain : ipv4Mapped address = none) (isGlobal_ : isGlobal address = true) :
    isPrivate address = false ∧ isLoopback address = false ∧
      linkLocalNetwork.contains address = false ∧ isUnspecified address = false := by
  rw [isGlobal, Bool.not_eq_true'] at isGlobal_
  have unlisted : Network.listed privateNetworks privateNetworksExceptions address = false := by
    rw [isPrivate, plain] at isGlobal_
    exact isGlobal_
  have outside : ∀ {block : Network 128}, block ∈ privateNetworks ->
      privateNetworksExceptions.all (fun exception => !exception.overlaps block) = true ->
        block.contains address = false := by
    intro block member apart
    by_contra inside
    rw [Network.listed_of_contains member apart (Bool.eq_true_of_not_eq_false inside)] at unlisted
    cases unlisted
  have notOne : (network [0, 0, 0, 0, 0, 0, 0, 1] 128).contains address = false :=
    outside (by decide) (by decide)
  have notZero : (network [0, 0, 0, 0, 0, 0, 0, 0] 128).contains address = false :=
    outside (by decide) (by decide)
  refine ⟨isGlobal_, ?_, outside (by decide) (by decide), ?_⟩
  · by_contra one
    rw [isLoopback, decide_eq_false_iff_not, not_not] at one
    rw [one] at notOne
    exact absurd notOne (by decide)
  · by_contra zero
    rw [isUnspecified, decide_eq_false_iff_not, not_not] at zero
    rw [zero] at notZero
    exact absurd notZero (by decide)

end Ipv6

/-- An address, of version 6 with the zone that it may name. -/
inductive IpAddress where
  | v4 (value : BitVec 32)
  | v6 (value : BitVec 128) (scopeId : Option String)
  deriving DecidableEq

namespace IpAddress

def isLoopback : IpAddress -> Bool
  | .v4 value => Ipv4.loopbackNetwork.contains value
  | .v6 value _ => Ipv6.isLoopback value

def isPrivate : IpAddress -> Bool
  | .v4 value => Ipv4.isPrivate value
  | .v6 value _ => Ipv6.isPrivate value

def isLinkLocal : IpAddress -> Bool
  | .v4 value => Ipv4.linkLocalNetwork.contains value
  | .v6 value _ => Ipv6.linkLocalNetwork.contains value

def isMulticast : IpAddress -> Bool
  | .v4 value => Ipv4.multicastNetwork.contains value
  | .v6 value _ => Ipv6.multicastNetwork.contains value

def isUnspecified : IpAddress -> Bool
  | .v4 value => Ipv4.isUnspecified value
  | .v6 value _ => Ipv6.isUnspecified value

def isReserved : IpAddress -> Bool
  | .v4 value => Ipv4.reservedNetwork.contains value
  | .v6 value _ => Ipv6.isReserved value

def isGlobal : IpAddress -> Bool
  | .v4 value => Ipv4.isGlobal value
  | .v6 value _ => Ipv6.isGlobal value

/-- `_parse_octet` -/
def octet? (text : List Char) : Option Nat :=
  if text = [] ∨ text.any (fun c => !c.isDigit) ∨ 3 < text.length ∨
      (text ≠ ['0'] ∧ text.head? = some '0') then none
  else (some (text.foldl (fun value c => value * 10 + (c.toNat - 48)) 0)).filter (· ≤ 255)

/-- `IPv4Address(text)` -/
def ipv4OfString? (text : List Char) : Option (BitVec 32) :=
  match (text.splitOn '.').mapM octet? with
  | some [first, second, third, fourth] =>
    some (BitVec.ofNat 32 (((first * 256 + second) * 256 + third) * 256 + fourth))
  | _ => none

/-- `_parse_hextet` -/
def hextet? (text : List Char) : Option Nat :=
  if text = [] ∨ 4 < text.length then none
  else
    (text.mapM Json.hexDigit?).map (fun digits =>
      digits.foldl (fun value digit => value * 16 + digit) 0)

def groups? (text : List Char) : Option (List (List Char)) :=
  let parts := text.splitOn ':'
  if parts.length < 3 then none
  else
    match parts.getLast? with
    | some last =>
      if '.' ∈ last then
        (ipv4OfString? last).map (fun value => parts.dropLast ++
          [Nat.toDigits 16 (value.toNat / 65536), Nat.toDigits 16 (value.toNat % 65536)])
      else some parts
    | none => none

/-- The numbers of the groups, with the zeros that `::` stands for. -/
def hextets? (parts : List (List Char)) : Option (List Nat) :=
  let leading := parts.head? = some []
  let trailing := parts.getLast? = some []
  -- the places of empty groups that are not at an end
  match ((parts.zipIdx.drop 1).dropLast.filter (fun part => part.1 = [])).map Prod.snd with
  | [] =>
    if parts.length ≠ 8 ∨ leading ∨ trailing then none
    else parts.mapM hextet?
  | [skipIndex] =>
    let partsHi := if leading then skipIndex - 1 else skipIndex
    let partsLo := if trailing then parts.length - skipIndex - 2 else parts.length - skipIndex - 1
    if (leading ∧ partsHi ≠ 0) ∨ (trailing ∧ partsLo ≠ 0) ∨ 8 < partsHi + partsLo + 1 then none
    else do
      let high ← (parts.take partsHi).mapM hextet?
      let low ← (parts.drop (parts.length - partsLo)).mapM hextet?
      some (high ++ List.replicate (8 - (partsHi + partsLo)) 0 ++ low)
  | _ => none

/-- `IPv6Address(text)` without a zone -/
def ipv6OfString? (text : List Char) : Option (BitVec 128) := do
  let parts ← groups? text
  if 9 < parts.length then none
  let hextets ← hextets? parts
  some (BitVec.ofNat 128 (hextets.foldl (fun value hextet => value * 65536 + hextet) 0))

/-- `ip_address(text)` -/
def ofString? (text : String) : Option IpAddress :=
  if '/' ∈ text.toList then none
  else
    match ipv4OfString? text.toList with
    | some value => some (.v4 value)
    | none =>
      match splitOnce? ['%'] text.toList with
      | none => (ipv6OfString? text.toList).map (fun value => .v6 value none)
      | some (address, scopeId) =>
        if scopeId = [] ∨ '%' ∈ scopeId then none
        else (ipv6OfString? address).map (fun value => .v6 value (some (String.ofList scopeId)))

/-- The longest run of zeros in a list, the first of the longest: where it
starts, and how long it is. -/
def zeroRun (hextets : List Nat) : Nat × Nat :=
  let starts := List.range hextets.length
  let runs := starts.map (fun start => (start, ((hextets.drop start).takeWhile (· = 0)).length))
  runs.foldl (fun best run => if best.2 < run.2 then run else best) (0, 0)

/-- `_compress_hextets`, and the joining of what it leaves -/
def compressHextets (hextets : List Nat) : String :=
  let join := fun part : List Nat => ":".intercalate (part.map (fun hextet =>
    String.ofList (Nat.toDigits 16 hextet)))
  let (start, length) := zeroRun hextets
  if 1 < length then join (hextets.take start) ++ "::" ++ join (hextets.drop (start + length))
  else join hextets

/-- `str(address)` -/
def compressed : IpAddress -> String
  | .v4 value => ".".intercalate ([24, 16, 8, 0].map (fun shift =>
    toString (value.toNat / 2 ^ shift % 256)))
  | .v6 value scopeId =>
    let text := compressHextets ([112, 96, 80, 64, 48, 32, 16, 0].map (fun shift =>
      value.toNat / 2 ^ shift % 65536))
    match scopeId with
    | none => text
    | some scopeId => text ++ "%" ++ scopeId

end IpAddress

end Foundation
end ZepGpu
