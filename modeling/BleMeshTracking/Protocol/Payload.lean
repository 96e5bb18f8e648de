import Mathlib.Data.List.OfFn
import Mathlib.Data.UInt

/-!
# What goes over the air

The manufacturer-data payload of a tag advertisement, the HMAC it carries, and the AD structures
around it, as shared by tag, scanner and gateway.
-/

namespace BleMeshTracking.Protocol

abbrev Bytes := List UInt8

def bmtCidEspressif : UInt16 := 0x02E5

def leBytes (x : UInt16) : Bytes := [x.toUInt8, (x >>> 8).toUInt8]

def u16OfLe (lo hi : UInt8) : UInt16 := lo.toUInt16 ||| (hi.toUInt16 <<< 8)

theorem u16OfLe_leBytes (x : UInt16) : u16OfLe x.toUInt8 (x >>> 8).toUInt8 = x := by
  apply UInt16.toNat_inj.mp
  have hx := x.toNat_lt
  have hlow : x.toNat % 256 < 2 ^ 8 := Nat.mod_lt _ (by omega)
  have hor := Nat.two_pow_add_eq_or_of_lt hlow (x.toNat / 256)
  have hlo : x.toUInt8.toUInt16.toNat = x.toNat % 256 := by simp
  have hhi : ((x >>> 8).toUInt8.toUInt16 <<< 8).toNat = 2 ^ 8 * (x.toNat / 256) := by
    simp only [UInt16.toNat_shiftLeft, UInt8.toNat_toUInt16, UInt16.toNat_toUInt8,
      UInt16.toNat_shiftRight, UInt16.toNat_ofNat, Nat.shiftLeft_eq, Nat.shiftRight_eq_div_pow,
      Nat.reduceMod, Nat.reducePow]
    omega
  rw [u16OfLe, UInt16.toNat_or, hlo, hhi, Nat.or_comm, ← hor]
  omega

@[ext]
structure TagAdvPayload where
  uuid : Fin 16 → UInt8
  battery : UInt16
  minor : UInt16
  txPower : Int8
  sequence : UInt8
  mac16 : UInt16

/-- The bytes under the HMAC: `sizeof(p) - sizeof(p.mac16)` of them. -/
def TagAdvPayload.signedBytes (p : TagAdvPayload) : Bytes :=
  List.ofFn p.uuid ++ leBytes p.battery ++ leBytes p.minor ++ [p.txPower.toUInt8, p.sequence]

def TagAdvPayload.toBytes (p : TagAdvPayload) : Bytes := p.signedBytes ++ leBytes p.mac16

def TagAdvPayload.ofBytes (b : Bytes) : TagAdvPayload where
  uuid i := b.getD i 0
  battery := u16OfLe (b.getD 16 0) (b.getD 17 0)
  minor := u16OfLe (b.getD 18 0) (b.getD 19 0)
  txPower := (b.getD 20 0).toInt8
  sequence := b.getD 21 0
  mac16 := u16OfLe (b.getD 22 0) (b.getD 23 0)

@[simp]
theorem TagAdvPayload.length_signedBytes (p : TagAdvPayload) : p.signedBytes.length = 22 := by
  simp [signedBytes, leBytes]

@[simp]
theorem TagAdvPayload.length_toBytes (p : TagAdvPayload) : p.toBytes.length = 24 := by
  simp [toBytes, leBytes]

theorem TagAdvPayload.take_toBytes (p : TagAdvPayload) : p.toBytes.take 22 = p.signedBytes :=
  List.take_left' p.length_signedBytes

theorem TagAdvPayload.getD_uuid (p : TagAdvPayload) (i : Fin 16) :
    p.toBytes.getD i 0 = p.uuid i := by
  have hi : (i : ℕ) < (List.ofFn p.uuid).length := by simp
  simp only [toBytes, signedBytes, List.getD_eq_getElem?_getD, List.append_assoc]
  rw [List.getElem?_append_left hi, List.getElem?_ofFn, dif_pos i.isLt]
  rfl

/-- Decoding what was encoded gives every field back. -/
theorem TagAdvPayload.ofBytes_toBytes (p : TagAdvPayload) : ofBytes p.toBytes = p := by
  have htail : ∀ k, p.toBytes.getD (16 + k) 0 =
      (leBytes p.battery ++ leBytes p.minor ++ [p.txPower.toUInt8, p.sequence] ++
        leBytes p.mac16).getD k 0 := by
    intro k
    have hlen : (List.ofFn p.uuid).length ≤ 16 + k := by simp
    simp only [toBytes, signedBytes, List.getD_eq_getElem?_getD, List.append_assoc]
    rw [List.getElem?_append_right hlen]
    simp
  have hbattery : u16OfLe (p.toBytes.getD (16 + 0) 0) (p.toBytes.getD (16 + 1) 0) = p.battery := by
    rw [htail, htail]
    exact u16OfLe_leBytes p.battery
  have hminor : u16OfLe (p.toBytes.getD (16 + 2) 0) (p.toBytes.getD (16 + 3) 0) = p.minor := by
    rw [htail, htail]
    exact u16OfLe_leBytes p.minor
  have hmac : u16OfLe (p.toBytes.getD (16 + 6) 0) (p.toBytes.getD (16 + 7) 0) = p.mac16 := by
    rw [htail, htail]
    exact u16OfLe_leBytes p.mac16
  have htx : (p.toBytes.getD (16 + 4) 0).toInt8 = p.txPower := by
    rw [htail]
    rfl
  have hseq : p.toBytes.getD (16 + 5) 0 = p.sequence := htail 5
  exact TagAdvPayload.ext (funext p.getD_uuid) hbattery hminor htx hseq hmac

abbrev Digest := Fin 32 → UInt8

/-- HMAC-SHA256 as the crypto library computes it: key, then message. -/
abbrev Hmac := Bytes → Bytes → Digest

/-- `psa_mac_compute` on a key handle; the null handle and a failing call give no MAC. -/
def psaMacCompute (hmac : Hmac) (ok : Bool) (key : Option Bytes) (data : Bytes) : Option Digest :=
  match key with
  | none => none
  | some k => if ok then some (hmac k data) else none

/-- The MAC truncated to its first two bytes, `(mac[0] << 8) | mac[1]`. -/
def mac16OfDigest (mac : Digest) : UInt16 := ((mac 0).toUInt16 <<< 8) ||| (mac 1).toUInt16

/-- The first 16 bytes of a MAC, imported as a 128-bit key. -/
def keyOfDigest (derived : Digest) : Bytes := (List.ofFn derived).take 16

def epochKey (hmac : Hmac) (master : Bytes) (epoch : UInt16) : Bytes :=
  keyOfDigest (hmac master (leBytes epoch))

def epochMac16 (hmac : Hmac) (master : Bytes) (epoch : UInt16) (data : Bytes) : UInt16 :=
  mac16OfDigest (hmac (epochKey hmac master epoch) data)

def adStructure (type : UInt8) (data : Bytes) : Bytes :=
  UInt8.ofNat (data.length + 1) :: type :: data

end BleMeshTracking.Protocol
