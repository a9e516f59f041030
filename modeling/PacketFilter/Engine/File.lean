import PacketFilter.Config.Types

/-! The configuration file of the single-file engine, packet_filter.cpp: its fields and the entries of its lists. -/

namespace PacketFilter.Engine

open Library Library.Scanning Kernel

def INTERFACE : Text := ['i', 'n', 't', 'e', 'r', 'f', 'a', 'c', 'e', '=']
def IP_BLACKLIST : Text := ['i', 'p', '_', 'b', 'l', 'a', 'c', 'k', 'l', 'i', 's', 't', '=']
def IP_RATE_LIMITS : Text := ['i', 'p', '_', 'r', 'a', 't', 'e', '_', 'l', 'i', 'm', 'i', 't', 's', '=']

structure Fields where
  ifaceName : Option Text
  subnetList : Option Text
  rateLimits : Option Text

def Fields.read (f : Fields) (line : Text) : Fields :=
  if line = [] ∨ line.head? = some '#' then f
  else if INTERFACE.isPrefixOf line then { f with ifaceName := some (line.drop INTERFACE.length) }
  else if IP_BLACKLIST.isPrefixOf line then { f with subnetList := some (line.drop IP_BLACKLIST.length) }
  else if IP_RATE_LIMITS.isPrefixOf line then { f with rateLimits := some (line.drop IP_RATE_LIMITS.length) }
  else f

/-- The fields of a file; of several lines for one field the last one counts. -/
def fieldsOf (text : Text) : Fields := (getlines text).foldl Fields.read ⟨none, none, none⟩

def isTab (c : Char) : Bool := c = ' ' || c = '\t'

def trimTabs (s : Text) : Text := (s.dropWhile isTab).rdropWhile isTab

def entriesOf (list : Text) : List Text := ((pieces ',' list).map trimTabs).filter (· ≠ [])

/-- `std::stoi`, which throws on a text without a numeral or out of the range of `int`. -/
def stoi (s : Text) : Option ℤ := (integer s).filter (fun n => -2 ^ 31 ≤ n ∧ n < 2 ^ 31)

inductive Parsed (α : Type) where
  | threw
  | invalid
  | entry (a : α)
  deriving DecidableEq

instance {α : Type} : (p : Parsed α) → Decidable (∃ a, p = .entry a)
  | .threw => isFalse (by simp)
  | .invalid => isFalse (by simp)
  | .entry a => isTrue ⟨a, rfl⟩

def INET_ADDRSTRLEN : ℕ := 16

def splitSubnet (subnet : Text) : Text × Option ℤ :=
  match splitFirst '/' subnet with
  | some (ipPart, prefixPart) => (ipPart, stoi prefixPart)
  | none => (subnet, some 32)

/-- A subnet of the list; only keys with a prefix length in range get into it. -/
structure SubnetNode where
  key : BpfTrieKey
  le : key.prefixlen.toNat ≤ 32
  deriving DecidableEq

def SubnetNode.network (node : SubnetNode) : Network 32 := .of node.key.prefixlen.toNat node.le node.key.ip

lemma toNat_prefix {n : ℤ} (h : 0 ≤ n ∧ n ≤ 32) : (BitVec.ofInt 32 n).toNat ≤ 32 := by
  have ht := toNat_ofInt32 n
  omega

def subnetNode (ipText : Text) (prefixlen : Option ℤ) : Parsed SubnetNode :=
  match prefixlen with
  | none => .threw
  | some n =>
    match inetPton ipText with
    | none => .invalid
    | some ip => if h : 0 ≤ n ∧ n ≤ 32 then .entry ⟨⟨BitVec.ofInt 32 n, ip⟩, toNat_prefix h⟩ else .invalid

def parseSubnet (subnet : Text) : Parsed SubnetNode := subnetNode (splitSubnet subnet).1 (splitSubnet subnet).2

def parseSubnets : List Text → Option (List SubnetNode)
  | [] => some []
  | subnet :: rest =>
    match parseSubnet subnet with
    | .threw => none
    | .invalid => parseSubnets rest
    | .entry node => (parseSubnets rest).map (node :: ·)

structure RateLimit where
  ip : Addr
  pps : BitVec 32
  intervalNs : BitVec 64
  interval_eq : intervalNs = if 0 < pps.toNat then BitVec.ofNat 64 (1000000000 / pps.toNat) else 0
  deriving DecidableEq

def RateLimit.of (ip : Addr) (pps : BitVec 32) : RateLimit := ⟨ip, pps, _, rfl⟩

def parseRateLimit (entry : Text) : Option RateLimit :=
  match splitFirst ':' entry with
  | none => none
  | some (ipStr, ppsStr) =>
    match inetPton ipStr with
    | none => none
    | some ip =>
      match stoul ppsStr with
      | none => none
      | some v => if 0 < (v.setWidth 32).toNat then some (.of ip (v.setWidth 32)) else none

def parseRateLimits (entries : List Text) : List RateLimit := entries.filterMap parseRateLimit

def Fields.newSubnets (f : Fields) : Option (Option (List SubnetNode)) :=
  match f.subnetList with
  | none => some none
  | some list => (parseSubnets (entriesOf list)).map some

def Fields.newRateLimits (f : Fields) : Option (List RateLimit) :=
  f.rateLimits.map (fun list => parseRateLimits (entriesOf list))

end PacketFilter.Engine
