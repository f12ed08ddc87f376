import Mathlib.Data.UInt

/-!
# The `net/netip` values the machine pollers read

The pollers of `poll.go` keep routes and node addresses as Go `netip.Addr` and
`netip.Prefix` values and store them in `Info` through their `String` methods.  This
module models those two types as the Go standard library defines them:

* an `Addr` is the zero value, an IPv4 address, or an IPv6 address with an optional
  zone (the zone `""` is Go's `z6noz`);
* a `Prefix` is an address and `bitsPlusOne`, built only through `prefixFrom`, so the
  structure carries the facts `PrefixFrom` establishes: the address has no zone, and a
  non-zero length only sits on a non-zero address and never exceeds its bit length.

`Prefix.toString` maps every invalid prefix to the one text `"invalid Prefix"`, whatever
its address: the text of the zero prefix and that of a SideroLink address with an
out-of-range length are the same string, so a text in `Info.Addresses` does not say which
address it came from.  The module also
holds Talos' `network.IsULA` and `net.HardwareAddr.String`, the other two helpers of
the Go standard library and of Talos machinery that the pollers call.
-/

namespace Omni
namespace Net

/-- Go's `netip.Addr`.  An IPv6 address keeps its 128 bits as the two halves `hi` and
`lo`, as Go does. -/
inductive Addr where
  | zero
  | v4 (ip : UInt32)
  | v6 (hi lo : UInt64) (zone : String)
deriving DecidableEq, Repr

namespace Addr

/-- `Addr.IsValid`: every address but the zero value. -/
def isValid : Addr → Bool
  | zero => false
  | _ => true

/-- `Addr.Is6`, true also for IPv4-mapped IPv6 addresses. -/
def is6 : Addr → Bool
  | v6 .. => true
  | _ => false

/-- `Addr.BitLen`. -/
def bitLen : Addr → Nat
  | zero => 0
  | v4 _ => 32
  | v6 .. => 128

/-- `Addr.Zone`. -/
def zone : Addr → String
  | v6 _ _ z => z
  | _ => ""

/-- `Addr.withoutZone`. -/
def withoutZone : Addr → Addr
  | v6 hi lo _ => v6 hi lo ""
  | a => a

/-- Byte `i` of `Addr.As16` for an IPv6 address, most significant first. -/
def byte16 (hi lo : UInt64) (i : Nat) : UInt8 :=
  if i < 8 then (hi >>> (8 * (7 - i)).toUInt64).toUInt8
  else (lo >>> (8 * (15 - i)).toUInt64).toUInt8

/-- `Addr.v6u16`: the 16-bit group `i` of an IPv6 address. -/
def group16 (hi lo : UInt64) (i : Nat) : Nat :=
  (byte16 hi lo (2 * i)).toNat * 256 + (byte16 hi lo (2 * i + 1)).toNat

/-- Dotted-quad text of the 32 bits of an IPv4 address (`appendTo4`). -/
def string4 (ip : UInt32) : String :=
  ".".intercalate
    ([24, 16, 8, 0].map fun (s : Nat) => toString ((ip >>> s.toUInt32) &&& 0xff).toNat)

/-- `Addr.Is4In6`: the IPv6 address lies in `::ffff:0:0/96`. -/
def is4In6 (hi lo : UInt64) : Bool :=
  hi == 0 && lo >>> 32 == 0xffff

/-- The zone suffix `%zone`, empty for `z6noz`. -/
def zoneSuffix (zone : String) : String :=
  if zone = "" then "" else "%" ++ zone

/-- The longest run of at least two zero groups, the first on a tie, as the pair
`(zeroStart, zeroEnd)`; `(255, 255)` when there is none (`appendTo6`). -/
def zeroRun (groups : List Nat) : Nat × Nat :=
  (List.range 8).foldl
    (fun (run : Nat × Nat) i =>
      let j := i + ((groups.drop i).takeWhile (· == 0)).length
      if 2 ≤ j - i ∧ j - i > run.2 - run.1 then (i, j) else run)
    (255, 255)

/-- The RFC 5952 text of eight groups: lowercase hexadecimal without leading zeros, the
run `zeroRun` written as `::` (the group loop of `appendTo6`). -/
def string6Groups (groups : List Nat) : String :=
  let run := zeroRun groups
  let rec go : Nat → Nat → String
    | 0, _ => ""
    | fuel + 1, i =>
      if 8 ≤ i then ""
      else if i = run.1 then
        if 8 ≤ run.2 then "::" else "::" ++ hex (groups.getD run.2 0) ++ go fuel (run.2 + 1)
      else (if i > 0 then ":" else "") ++ hex (groups.getD i 0) ++ go fuel (i + 1)
  go 8 0
where
  /-- `appendHex`. -/
  hex (x : Nat) : String := String.mk (Nat.toDigits 16 x)

/-- `Addr.String`. -/
def toString : Addr → String
  | zero => "invalid IP"
  | v4 ip => string4 ip
  | v6 hi lo z =>
    if is4In6 hi lo then "::ffff:" ++ string4 lo.toUInt32 ++ zoneSuffix z
    else string6Groups ((List.range 8).map (group16 hi lo)) ++ zoneSuffix z

end Addr

/-- The facts `netip.PrefixFrom` establishes about the fields of every `Prefix`. -/
def PrefixWF (ip : Addr) (bitsPlusOne : UInt8) : Prop :=
  ip.zone = "" ∧ (bitsPlusOne = 0 ∨ (ip.isValid ∧ bitsPlusOne.toNat ≤ ip.bitLen + 1))

/-- Go's `netip.Prefix`. -/
structure Prefix where
  ip : Addr
  bitsPlusOne : UInt8
  wf : PrefixWF ip bitsPlusOne

instance : DecidableEq Prefix := fun p q =>
  decidable_of_iff (p.ip = q.ip ∧ p.bitsPlusOne = q.bitsPlusOne) <| by
    cases p; cases q; simp

namespace Prefix

/-- `netip.PrefixFrom`: an out-of-range length (or the zero address) gives an invalid
prefix that still remembers its address. -/
def prefixFrom (ip : Addr) (bits : Int) : Prefix :=
  if h : ip.isValid ∧ 0 ≤ bits ∧ bits ≤ ip.bitLen then
    ⟨ip.withoutZone, (bits.toNat + 1).toUInt8, by
      obtain ⟨hv, h0, hb⟩ := h
      refine ⟨by cases ip <;> rfl, .inr ⟨by cases ip <;> simp_all [Addr.withoutZone, Addr.isValid], ?_⟩⟩
      have hlen : ip.withoutZone.bitLen = ip.bitLen := by cases ip <;> rfl
      have hle : ip.bitLen ≤ 128 := by cases ip <;> simp [Addr.bitLen]
      rw [hlen, Nat.toUInt8, UInt8.toNat_ofNat_of_lt (by simp [UInt8.size]; omega)]
      omega⟩
  else ⟨ip.withoutZone, 0, by refine ⟨by cases ip <;> rfl, .inl rfl⟩⟩

/-- The zero `Prefix{}`. -/
def zeroValue : Prefix := ⟨.zero, 0, ⟨rfl, .inl rfl⟩⟩

/-- `Prefix.Addr`. -/
def addr (p : Prefix) : Addr := p.ip

/-- `Prefix.IsValid`. -/
def isValid (p : Prefix) : Bool := p.bitsPlusOne != 0

/-- `value.IsZero` on a prefix: equality with `Prefix{}`. -/
def isZero (p : Prefix) : Bool := decide (p = zeroValue)

/-- `Prefix.String`. -/
def toString (p : Prefix) : String :=
  if !p.isValid then "invalid Prefix"
  else p.ip.toString ++ "/" ++ Nat.repr (p.bitsPlusOne.toNat - 1)

/-- Every invalid prefix, whatever its address, prints as the same text. -/
theorem toString_of_not_isValid {p : Prefix} (h : p.isValid = false) :
    p.toString = "invalid Prefix" := by
  simp [toString, h]

end Prefix

/-- Talos' `network.ULAPurpose` of the SideroLink overlay. -/
def ulaSideroLink : UInt8 := 0x03

/-- Talos' `network.IsULA`: an IPv6 address under `fd00::/8` whose eighth byte is the
purpose. -/
def isULA (ip : Addr) (purpose : UInt8) : Bool :=
  match ip with
  | .v6 hi lo _ => Addr.byte16 hi lo 0 == 0xfd && Addr.byte16 hi lo 7 == purpose
  | _ => false

/-- `net.HardwareAddr.String`: two lowercase hex digits per byte, separated by `:`. -/
def hardwareAddrString (a : List UInt8) : String :=
  ":".intercalate (a.map fun b => String.mk [Nat.digitChar (b.toNat / 16), Nat.digitChar (b.toNat % 16)])

end Net
end Omni
