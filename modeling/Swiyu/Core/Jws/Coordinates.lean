import Swiyu.Core.DidDoc.Genesis
import Swiyu.Core.DidLog.Authentic

/-!
# The coordinates of P-256 keys

An EC key gives the coordinates of a point as two texts. Only the length of both together is
checked, so that a point has as many EC keys as there are ways to divide its bytes.

## Main definitions

- `Swiyu.P256PublicKey.OnCurve`: the equation of the curve.
- `Swiyu.JoseCrates.ReadsSec1`: what is relied on for points.

## Main results

- `Swiyu.ecKeyToP256_eq_ok_iff`: which EC keys stand for a point.
- `Swiyu.ecKeyToP256_canonical_iff`: when two EC keys that stand for one point are the same.
-/

namespace Swiyu

/-! ## Points -/

/-- The number that bytes stand for, the most significant byte first. -/
def bigEndian (bytes : Bytes) : ℕ := bytes.foldl (fun n byte => n * 256 + byte.toNat) 0

/-- The prime of P-256. -/
def p256Prime : ℕ := 0xffffffff00000001000000000000000000000000ffffffffffffffffffffffff

/-- The last coefficient of the equation of P-256. -/
def p256Coefficient : ℕ := 0x5ac635d8aa3a93e7b3ebbd55769886bc651d06b0cc53b0f63bce3c3e27d2604b

/-- The coordinates are those of a point of P-256, in their least form. -/
def P256PublicKey.OnCurve (key : P256PublicKey) : Prop :=
  bigEndian key.x < p256Prime ∧ bigEndian key.y < p256Prime ∧
    bigEndian key.y ^ 2 % p256Prime =
      (bigEndian key.x ^ 3 + (p256Prime - 3) * bigEndian key.x + p256Coefficient) % p256Prime

instance (key : P256PublicKey) : Decidable key.OnCurve :=
  inferInstanceAs (Decidable (_ ∧ _ ∧ _))

/-- What `from_sec1_bytes` accepts after the tag of an uncompressed point: the coordinates of a
point, 32 bytes each. -/
structure JoseCrates.ReadsSec1 (X : JoseCrates) : Prop where
  p256FromSec1_eq_ok_iff (bytes : Bytes) (key : P256PublicKey) :
    X.p256FromSec1 (0x04 :: bytes) = .ok key ↔ key.OnCurve ∧ bytes = key.x ++ (key.y : Bytes)

/-- A text for a coordinate: 32 bytes in base64url. -/
def IsCoordinate (text : Text) : Prop :=
  ∃ bytes, Base64Url.decode text = some bytes ∧ bytes.length = 32

/-! ## EC keys -/

variable {X : JoseCrates} {crv x y : Text} {key : P256PublicKey}

/-- The EC keys of a point: the bytes of its coordinates, one after the other, divided in two. -/
theorem ecKeyToP256_eq_ok_iff (hX : X.ReadsSec1) : ecKeyToP256 X crv x y = .ok key ↔
    crv = Text.lit "P-256" ∧ key.OnCurve ∧ ∃ xBytes yBytes, Base64Url.decode x = some xBytes ∧
      Base64Url.decode y = some yBytes ∧ xBytes ++ yBytes = key.x ++ (key.y : Bytes) := by
  unfold ecKeyToP256
  simp only [Except.bind_eq_ok_iff, Except.ensure_eq_ok_iff, Except.mapError_eq_ok_iff,
    JoseCrates.base64Decode_eq_ok_iff, hX.p256FromSec1_eq_ok_iff]
  constructor
  · rintro ⟨_, hcrv, xBytes, hx, yBytes, hy, hcurve, hbytes⟩
    exact ⟨hcrv, hcurve, xBytes, yBytes, hx, hy, hbytes⟩
  · rintro ⟨hcrv, hcurve, xBytes, yBytes, hx, hy, hbytes⟩
    exact ⟨(), hcrv, xBytes, hx, yBytes, hy, hcurve, hbytes⟩

/-- Every division is accepted. -/
theorem ecKeyToP256_divided (hX : X.ReadsSec1) (hcurve : key.OnCurve) (k : ℕ) :
    ecKeyToP256 X "P-256" (Base64Url.encode ((key.x ++ (key.y : Bytes)).take k))
      (Base64Url.encode ((key.x ++ (key.y : Bytes)).drop k)) = .ok key := by
  refine (ecKeyToP256_eq_ok_iff hX).mpr ⟨rfl, hcurve, _, _, Base64Url.decode_encode _,
    Base64Url.decode_encode _, List.take_append_drop _ _⟩

/-- With a first coordinate of 32 bytes, an EC key is that of the coordinates. -/
theorem eq_encode_of_isCoordinate (hX : X.ReadsSec1) (h : ecKeyToP256 X crv x y = .ok key)
    (hx : IsCoordinate x) : x = Base64Url.encode key.x ∧ y = Base64Url.encode key.y := by
  obtain ⟨_, _, xBytes, yBytes, hxBytes, hyBytes, hbytes⟩ := (ecKeyToP256_eq_ok_iff hX).mp h
  obtain ⟨bytes, hdecode, hlength⟩ := hx
  obtain rfl : xBytes = bytes := Option.some.inj (hxBytes.symm.trans hdecode)
  obtain ⟨hfst, hsnd⟩ := List.append_inj hbytes (hlength.trans key.x.2.symm)
  exact ⟨by rw [← hfst, Base64Url.encode_decode hxBytes],
    by rw [← hsnd, Base64Url.encode_decode hyBytes]⟩

theorem isCoordinate_encode (c : FixedBytes 32) : IsCoordinate (Base64Url.encode c) :=
  ⟨c, Base64Url.decode_encode _, c.2⟩

/-- Two EC keys that stand for one point are the same, with coordinates of 32 bytes, exactly when
the first coordinates of both have 32 bytes. The EC key of a point's coordinates stands for it. -/
theorem ecKeyToP256_canonical_iff (hX : X.ReadsSec1) :
    (∀ crv x y crv' x' y' key, ecKeyToP256 X crv x y = .ok key →
      ecKeyToP256 X crv' x' y' = .ok key →
      ((x = x' ∧ y = y' ∧ IsCoordinate x ∧ IsCoordinate y) ↔ IsCoordinate x ∧ IsCoordinate x')) ∧
    ∀ key : P256PublicKey, key.OnCurve → ∀ kid, ∃ crv x y options,
      PublicKeyJWK.fromP256Coordinates key kid = .ec crv x y options ∧
        ecKeyToP256 X crv x y = .ok key := by
  constructor
  · intro crv x y crv' x' y' key h h'
    constructor
    · rintro ⟨hx, _, hcoordinate, _⟩
      exact ⟨hcoordinate, hx ▸ hcoordinate⟩
    · rintro ⟨hx, hx'⟩
      obtain ⟨rfl, rfl⟩ := eq_encode_of_isCoordinate hX h hx
      obtain ⟨rfl, rfl⟩ := eq_encode_of_isCoordinate hX h' hx'
      exact ⟨rfl, rfl, isCoordinate_encode _, isCoordinate_encode _⟩
  · intro key hcurve kid
    refine ⟨_, _, _, _, rfl,
      (ecKeyToP256_eq_ok_iff hX).mpr ⟨rfl, hcurve, key.x, key.y, ?_, ?_, rfl⟩⟩
    · exact Base64Url.decode_encode _
    · exact Base64Url.decode_encode _

/-! ## A sample point -/

namespace Sample

/-- The point with the given coordinates. -/
def pointOf (bytes : Bytes) : Except Text P256PublicKey :=
  if h : bytes.length = 64 then
    let key : P256PublicKey := ⟨⟨bytes.take 32, by simp [h]⟩, ⟨bytes.drop 32, by simp [h]⟩⟩
    if key.OnCurve then .ok key else .error []
  else .error []

/-- Crates that read points. -/
def pointCrates : JoseCrates where
  toCrates := crates
  base64Error _ := []
  serdeJsonBytesError _ := []
  p256FromSec1 bytes := match bytes with
    | 0x04 :: coordinates => pointOf coordinates
    | _ => .error []
  p256Verify _ _ _ := false
  zlibDecode _ := .error []
  rfc3339 _ := none
  debugText t := t

theorem pointOf_append (key : P256PublicKey) :
    pointOf (key.x ++ (key.y : Bytes)) = if key.OnCurve then .ok key else .error [] := by
  obtain ⟨⟨x, hx⟩, ⟨y, hy⟩⟩ := key
  have hlength : (x ++ y).length = 64 := by rw [List.length_append, hx, hy]
  unfold pointOf
  rw [dif_pos hlength]
  simp only [List.take_left' hx, List.drop_left' hx]

theorem readsSec1_pointCrates : pointCrates.ReadsSec1 where
  p256FromSec1_eq_ok_iff bytes key := by
    show pointOf bytes = .ok key ↔ _
    constructor
    · intro h
      obtain ⟨key', rfl⟩ : ∃ key' : P256PublicKey, bytes = key'.x ++ (key'.y : Bytes) := by
        by_cases hlength : bytes.length = 64
        · exact ⟨⟨⟨bytes.take 32, by simp [hlength]⟩, ⟨bytes.drop 32, by simp [hlength]⟩⟩,
            (List.take_append_drop 32 bytes).symm⟩
        · rw [pointOf, dif_neg hlength] at h
          cases h
      rw [pointOf_append] at h
      split_ifs at h with hcurve
      obtain rfl := Except.ok.inj h
      exact ⟨hcurve, rfl⟩
    · rintro ⟨hcurve, hbytes⟩
      rw [hbytes, pointOf_append, if_pos hcurve]

/-- The base point of the curve. -/
def basePoint : P256PublicKey where
  x := bytesOf 32 0x6b17d1f2e12c4247f8bce6e563a440f277037d812deb33a0f4a13945d898c296
  y := bytesOf 32 0x4fe342e2fe1a7f9b8ee7eb4a7c0f9e162bce33576b315ececbb6406837bf51f5

theorem onCurve_basePoint : basePoint.OnCurve := by decide

/-- The base point is read from its coordinates, each of 32 bytes. -/
theorem ecKeyToP256_basePoint : ∃ x y, x = Base64Url.encode basePoint.x ∧
    ecKeyToP256 pointCrates "P-256" x y = .ok basePoint ∧ IsCoordinate x ∧ IsCoordinate y := by
  obtain ⟨hcanonical, hread⟩ := ecKeyToP256_canonical_iff readsSec1_pointCrates
  obtain ⟨crv, x, y, options, hjwk, hkey⟩ := hread basePoint onCurve_basePoint "k"
  obtain ⟨rfl, rfl, rfl, -⟩ := PublicKeyJWK.ec.inj hjwk
  have hx := isCoordinate_encode basePoint.x
  obtain ⟨-, -, -, hy⟩ := (hcanonical _ _ _ _ _ _ _ hkey hkey).mpr ⟨hx, hx⟩
  exact ⟨_, _, rfl, hkey, hx, hy⟩

/-- One byte of the second coordinate may stand with the first. -/
theorem not_canonical : ¬ ∀ crv x y crv' x' y' key,
    ecKeyToP256 pointCrates crv x y = .ok key → ecKeyToP256 pointCrates crv' x' y' = .ok key →
      x = x' ∧ y = y' ∧ IsCoordinate x ∧ IsCoordinate y := by
  intro h
  have hdivided := ecKeyToP256_divided readsSec1_pointCrates onCurve_basePoint
  obtain ⟨hx, -⟩ := h _ _ _ _ _ _ _ (hdivided 32) (hdivided 33)
  revert hx
  decide

end Sample

end Swiyu
