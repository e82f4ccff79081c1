import Ectobase.Shared.BitPrefix

namespace Ectobase.Shared

open List

-- IP addresses in text, as Go's net and net/netip packages read them.

def digitValue (c : Char) : Option Nat := if '0' <= c /\ c <= '9' then some (c.toNat - '0'.toNat) else none

def hexValue (c : Char) : Option Nat := if '0' <= c /\ c <= '9' then some (c.toNat - '0'.toNat)
  else if 'a' <= c /\ c <= 'f' then some (c.toNat - 'a'.toNat + 10)
  else if 'A' <= c /\ c <= 'F' then some (c.toNat - 'A'.toNat + 10)
  else none

def splitAtChar (c : Char) : List Char -> List (List Char)
  | [] => [[]]
  | x :: xs =>
    match splitAtChar c xs with
    | [] => [[x]]
    | field :: fields => if x = c then [] :: field :: fields else (x :: field) :: fields

def parseDecimal (s : List Char) : Option Nat := s.foldl (fun acc c => do
  let n <- acc
  let d <- digitValue c
  pure (n * 10 + d)) (some 0)

def parseOctet (s : List Char) : Option UInt8 := match s with
  | [] => none
  | '0' :: _ :: _ => none
  | _ =>
    match parseDecimal s with
    | some n => if n <= 255 then some (UInt8.ofNat n) else none
    | none => none

def parseIPv4Fields (s : List Char) : Option (List UInt8) := let fields := splitAtChar '.' s
  if fields.length = 4 then fields.mapM parseOctet else none

-- The bytes read, where :: stood, and what is left.
def parseIPv6Groups : Nat -> List Char -> List UInt8 -> Option Nat -> Option (List UInt8 × Option Nat × List Char)
  | 0, s, bytes, ellipsis => some (bytes, ellipsis, s)
  | fuel + 1, s, bytes, ellipsis =>
    let digits := s.takeWhile fun c => (hexValue c).isSome
    let rest := s.dropWhile fun c => (hexValue c).isSome
    if digits.length = 0 \/ 4 < digits.length then none
    else
      let acc := digits.foldl (fun n c => n * 16 + (hexValue c).getD 0) 0
      let group := bytes ++ [UInt8.ofNat (acc / 256), UInt8.ofNat acc]
      match rest with
      | '.' :: _ =>
        -- A trailing IPv4 address takes the place of the last two groups.
        if (ellipsis = none /\ bytes.length ≠ 12) \/ 16 < bytes.length + 4 then none
        else (parseIPv4Fields s).map fun v4 => (bytes ++ v4, ellipsis, [])
      | [] => some (group, ellipsis, [])
      | [':'] => none
      | ':' :: ':' :: more =>
        if ellipsis.isSome then none
        else if more = [] then some (group, some group.length, [])
        else parseIPv6Groups fuel more group (some group.length)
      | ':' :: more => parseIPv6Groups fuel more group ellipsis
      | _ => none

def parseIPv6 (s : List Char) : Option (List UInt8) := let start := match s with
  | ':' :: ':' :: more => (some 0, more)
  | _ => (none, s)
  if start = (some 0, []) then some (replicate 16 0)
  else
    match parseIPv6Groups 8 start.2 [] start.1 with
    | some (bytes, ellipsis, []) =>
      match ellipsis with
      | none => if bytes.length = 16 then some bytes else none
      | some i =>
        if bytes.length < 16 then
          some (bytes.take i ++ replicate (16 - bytes.length) 0 ++ bytes.drop i)
        else none
    | _ => none

structure Addr where
  isV4 : Bool
  as16 : List UInt8
  deriving DecidableEq, Repr

-- Without zones, which neither net.ParseIP nor net.ParseCIDR accepts.
def parseAddr (s : List Char) : Option Addr := if '%' ∈ s then none
  else
    match s.find? fun c => c == '.' || c == ':' with
    | some '.' =>
      (parseIPv4Fields s).map fun v4 =>
        { isV4 := true, as16 := replicate 10 0 ++ [0xff, 0xff] ++ v4 }
    | some ':' => (parseIPv6 s).map fun bytes => { isV4 := false, as16 := bytes }
    | _ => none

def parseIP (s : String) : Option (List UInt8) := (parseAddr s.toList).map fun addr => addr.as16

def to4 (ip : List UInt8) : Option (List UInt8) := if ip.length = 4 then some ip
  else if ip.length = 16 /\ ip.take 12 = replicate 10 0 ++ [0xff, 0xff] then some (ip.drop 12)
  else none

structure IPNet where
  ip : List UInt8
  mask : List UInt8
  deriving DecidableEq, Repr

def cidrMask (ones bits : Nat) : List UInt8 :=
  (range (bits / 8)).map fun i => maskByte (bitsInByte ones i)

def maskIP (ip mask : List UInt8) : List UInt8 :=
  let ip := if mask.length = 4 /\ ip.length = 16 /\ ip.take 12 = replicate 10 0 ++ [0xff, 0xff]
    then ip.drop 12 else ip
  (ip.zip mask).map fun (b, m) => b &&& m

def parseCIDR (s : String) : Option IPNet := match splitAtChar '/' s.toList with
  | addr :: rest =>
    if rest = [] then none
    else
      let digits := ['/'].intercalate rest
      match parseAddr addr with
      | none => none
      | some ip =>
        let bits := if ip.isV4 then 32 else 128
        if digits = [] then none
        else
          match parseDecimal digits with
          | some n =>
            if n <= bits then
              some { ip := maskIP ip.as16 (cidrMask n bits), mask := cidrMask n bits }
            else none
          | none => none
  | [] => none

-- IPNet.String is their text.
def networkNumberAndMask (net : IPNet) : Option (List UInt8 × List UInt8) :=
  let ip := (to4 net.ip).getD net.ip
  if net.mask.length = 4 then if ip.length = 4 then some (ip, net.mask) else none
  else if net.mask.length = 16 then
    if ip.length = 4 then some (ip, net.mask.drop 12) else some (ip, net.mask)
  else none

def IPNet.contains (net : IPNet) (ip : List UInt8) : Bool := match networkNumberAndMask net with
  | none => false
  | some (number, mask) =>
    let ip := (to4 ip).getD ip
    decide (ip.length = number.length) && (range ip.length).all fun i =>
        number.getD i 0 &&& mask.getD i 0 == ip.getD i 0 &&& mask.getD i 0

def parsePrefix (s : String) : Option (Addr × Nat) := do
  let fields := splitAtChar '/' s.toList
  let digits <- fields.getLast?
  if fields.length < 2 then none
  else
    let addr <- parseAddr (['/'].intercalate fields.dropLast)
    -- A sign or a leading zero is refused before the number is read.
    if digits = [] \/ (1 < digits.length /\ digits.head? = some '0') then none
    else
      let bits <- parseDecimal digits
      if bits <= (if addr.isV4 then 32 else 128) then some (addr, bits) else none

def ipEqual (a b : List UInt8) : Bool := if a.length = b.length then a == b
  else if a.length = 4 /\ b.length = 16 then b == replicate 10 0 ++ [0xff, 0xff] ++ a
  else if a.length = 16 /\ b.length = 4 then a == replicate 10 0 ++ [0xff, 0xff] ++ b
  else false

example : parseIP "2001:db8::1" = some [0x20, 0x01, 0x0d, 0xb8, 0, 0, 0, 0, 0, 0, 0, 0, 0, 0, 0, 1] := by
  decide +kernel

example : parseIP "1.2.3.04" = none := by
  decide +kernel

end Ectobase.Shared
