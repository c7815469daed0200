import Trustctl.Store.Values
import Trustctl.Systems.Checks
import Mathlib.Algebra.Order.Ring.Int

/-!
# Names in certificates

The matchers by which certificate policies judge subject alternative names, and the names of
extended key usages.  The tenant's profiles (package `profile`) and the operator's (package
`crypto`) each have their own functions; where the two packages repeat the same text, one
definition serves both.

How the standard library reads and prints addresses and prefixes is a parameter; what a prefix
contains is not, since `netip.Prefix` and `net.IPNet` differ on IPv4 addresses in IPv6 form.
-/

namespace Trustctl.Issuing

open Store

/-! ## Text -/

def hasSuffix (p s : String) : Bool := p.toList.isSuffixOf s.toList

def trimSuffix (p s : String) : String :=
  if hasSuffix p s then String.ofList (s.toList.take (s.toList.length - p.toList.length)) else s

def joined (names : List String) : String := String.intercalate ", " names

/-- The `%v` verb on a list of strings. -/
def listString (names : List String) : String := "[" ++ String.intercalate " " names ++ "]"

/-- A `time.Duration`, in nanoseconds. -/
abbrev Duration := Int

def second : Duration := 1000000000

/-- `fmtFrac`: the fraction of `v / 10 ^ prec`, without trailing zeros. -/
def fmtFrac (v prec : Nat) : String :=
  let digits := ((List.range prec).map fun i => v / 10 ^ i % 10).dropWhile fun d => d = 0
  if digits.isEmpty then "" else "." ++ String.join (digits.reverse.map fun d => toString d)

def Duration.string (d : Duration) : String :=
  let u := d.natAbs
  let sign := if d < 0 then "-" else ""
  if u = 0 then "0s"
  else if u < 1000 then sign ++ toString u ++ "ns"
  else if u < 1000000 then sign ++ toString (u / 1000) ++ fmtFrac u 3 ++ "µs"
  else if u < 1000000000 then sign ++ toString (u / 1000000) ++ fmtFrac u 6 ++ "ms"
  else
    let seconds := u / 1000000000
    let hours := if seconds / 3600 = 0 then "" else toString (seconds / 3600) ++ "h"
    let minutes := if seconds / 60 = 0 then "" else toString (seconds / 60 % 60) ++ "m"
    sign ++ hours ++ minutes ++ toString (seconds % 60) ++ fmtFrac u 9 ++ "s"

/-! ## DNS names, mail addresses and URIs -/

/-- A DNS name as the matchers compare it. -/
def canonicalName (name : String) : String := trimSuffix "." (toLower (trimSpace name))

/-- `suffixAllowed`: the name is one of the suffixes, or a subdomain of one. -/
def suffixAllowed (dns : String) (suffixes : List String) : Bool :=
  suffixes.any fun suf =>
    let suf := canonicalName (trimPrefix "." suf)
    suf ≠ "" && (canonicalName dns = suf || hasSuffix ("." ++ suf) (canonicalName dns))

def dnsSuffixPermitted : String → List String → Bool := suffixAllowed

/-- What follows the last `@` of an address that has something on both sides of it. -/
def emailDomain (email : String) : Option String :=
  let domain := (email.toList.reverse.takeWhile fun c => c ≠ '@').reverse
  let at_ := email.toList.length - domain.length - 1
  if domain.length = email.toList.length ∨ at_ = 0 ∨ domain.isEmpty then none
  else some (String.ofList domain)

def emailAllowed (email : String) (domains : List String) : Bool :=
  match emailDomain email with
  | none => false
  | some domain => suffixAllowed domain domains

def emailDomainPermitted : String → List String → Bool := emailAllowed

def uriPrefixAllowed (uri : String) (prefixes : List String) : Bool :=
  prefixes.any fun p => trimSpace p ≠ "" && hasPrefix (trimSpace p) uri

def uriPrefixPermitted : String → List String → Bool := uriPrefixAllowed

/-! ## Addresses -/

/-- An address of a certificate, of four or of sixteen bytes. -/
inductive Ip
  | v4 (a : BitVec 32)
  | v6 (a : BitVec 128)
deriving DecidableEq

/-- `To4`, and what `netip.ParseAddr` makes of the printed address: an IPv4 address in IPv6
form is an IPv4 address. -/
def Ip.to4 : Ip → Ip
  | .v4 a => .v4 a
  | .v6 a => if a >>> 32 = 0xffff then .v4 (a.setWidth 32) else .v6 a

/-- An address and the number of its leading bits that count. -/
structure Prefix where
  ip : Ip
  bits : Nat
deriving DecidableEq

def Prefix.contains (p : Prefix) (a : Ip) : Bool :=
  match p.ip, a with
  | .v4 n, .v4 x => (n ^^^ x) >>> (32 - p.bits) = 0
  | .v6 n, .v6 x => (n ^^^ x) >>> (128 - p.bits) = 0
  | _, _ => false

/-- The network number and mask of a `net.IPNet`: one in IPv6 form counts as an IPv4 network. -/
def Prefix.network (p : Prefix) : Prefix :=
  match p.ip, p.ip.to4 with
  | .v6 _, .v4 a => if 96 ≤ p.bits then { ip := .v4 a, bits := p.bits - 96 } else p
  | _, _ => p

/-- `net.IPNet.Contains`. -/
def Prefix.netContains (p : Prefix) (a : Ip) : Bool := p.network.contains a.to4

/-- The standard library's texts of addresses and prefixes; an error is its text. -/
structure Library where
  /-- `netip.ParsePrefix`. -/
  parsePrefix : String → Except String Prefix
  /-- `net.ParseCIDR`. -/
  parseCidr : String → Except String Prefix
  /-- `net.IP.String`. -/
  ipString : Ip → String

/-- The loop of `parseCIDRSet` and of `parseLeafCIDRs`. -/
def parseCidrs (parse : String → Except String Prefix) (cidrs : List String) :
    Except String (List Prefix) :=
  cidrs.mapM fun raw =>
    match parse (trimSpace raw) with
    | .ok p => .ok p
    | .error err => .error (raw.quote ++ " is not a CIDR prefix: " ++ err)

def parseCidrSet (lib : Library) : List String → Except String (List Prefix) :=
  parseCidrs lib.parsePrefix

def parseLeafCidrs (lib : Library) : List String → Except String (List Prefix) :=
  parseCidrs lib.parseCidr

def ipAllowed (lib : Library) (ip : Ip) (cidrs : List String) : Except String Bool :=
  (parseCidrSet lib cidrs).map fun prefixes => prefixes.any fun p => p.contains ip.to4

def ipInCidrs (ip : Ip) (cidrs : List Prefix) : Bool := cidrs.any fun p => p.netContains ip

/-! ## Extended key usages -/

abbrev Oid := List Nat

def extKeyUsageDefs : List (String × Oid) := [ ("any", [2, 5, 29, 37, 0]),
  ("serverAuth", [1, 3, 6, 1, 5, 5, 7, 3, 1]),
  ("clientAuth", [1, 3, 6, 1, 5, 5, 7, 3, 2]),
  ("codeSigning", [1, 3, 6, 1, 5, 5, 7, 3, 3]),
  ("emailProtection", [1, 3, 6, 1, 5, 5, 7, 3, 4]),
  ("timeStamping", [1, 3, 6, 1, 5, 5, 7, 3, 8]),
  ("ocspSigning", [1, 3, 6, 1, 5, 5, 7, 3, 9])]

def knownExtKeyUsage (name : String) : Option Oid := extKeyUsageDefs.lookup name

/-- A number in decimal digits that fits an `int`. -/
def parseDigits (digits : List Char) : Option Nat :=
  if digits.isEmpty || !digits.all Char.isDigit then none
  else
    let n := digits.foldl (fun n c => n * 10 + (c.toNat - '0'.toNat)) 0
    if n < 2 ^ 63 then some n else none

/-- `strconv.Atoi` on one arc, refused if negative. -/
def parseArc : List Char → Option Nat
  | '+' :: digits => parseDigits digits
  | '-' :: digits => (parseDigits digits).filter fun n => n = 0
  | digits => parseDigits digits

def parseDottedOid (s : String) : Option Oid :=
  match ((trimPrefix "oid:" (trimSpace s)).toList.splitOn '.').mapM parseArc with
  | some (first :: next :: rest) =>
    if 2 < first ∨ first < 2 ∧ 39 < next then none else some (first :: next :: rest)
  | _ => none

def extKeyUsageOid (name : String) : Option Oid :=
  match knownExtKeyUsage name with
  | some oid => some oid
  | none => parseDottedOid name

def extKeyUsageName (oid : Oid) : String :=
  match extKeyUsageDefs.find? fun d => d.2 = oid with
  | some d => d.1
  | none => String.intercalate "." (oid.map fun n => toString n)

end Trustctl.Issuing
