import Swiyu.Core.DidLog.Authentic
import Swiyu.Didtool.KeyStore

/-!
# What is relied on of keys

The properties of third-party functions by which the key that the tool writes is the key that it
reads, and by which its signatures verify.

## Main definitions

- `Swiyu.ToolCrates.Lawful`: the properties that are relied on.

## Main results

- `Swiyu.Sample.lawful_toolCrates`: the sample crates have them.
-/

namespace Swiyu

namespace ToolCrates

/-- What the tool relies on to find the keys that it has made and to have its signatures
accepted. -/
structure Lawful (X : ToolCrates) : Prop where
  /-- The Ed25519 key of a signing key is a point of the curve. -/
  ed25519_point (key : FixedBytes 32) : X.ed25519PointError (X.ed25519VerifyingKey key) = none
  /-- An Ed25519 signature verifies under the key of its signer. -/
  ed25519_verify (key : FixedBytes 32) (message : Bytes) :
    X.ed25519Verify (X.ed25519VerifyingKey key) message (X.ed25519Sign key message) = true
  /-- The P-256 key of a signing key is read back from its coordinates. -/
  p256_sec1 (key : FixedBytes 32) :
    X.p256FromSec1 (0x04 :: ((X.p256VerifyingKey key).x ++ ((X.p256VerifyingKey key).y : Bytes))) =
      .ok (X.p256VerifyingKey key)
  /-- A P-256 signature verifies under the key of its signer. -/
  p256_verify (key : FixedBytes 32) (message : Bytes) :
    X.p256Verify (X.p256VerifyingKey key) message (X.p256Sign key message) = true
  /-- An Ed25519 key is read back from its PEM. -/
  eddsa_pem {key : FixedBytes 32} {pem : Text} :
    X.eddsaPrivateToPem key = .ok pem → X.eddsaPrivateFromPem pem = .ok key
  /-- A P-256 key is read back from its PEM. -/
  ecdsa_pem {key : FixedBytes 32} {pem : Text} :
    X.ecdsaPrivateToPem key = .ok pem → X.ecdsaPrivateFromPem pem = .ok key

end ToolCrates

/-- The PEM of a role's private keys. -/
def privateToPem (X : ToolCrates) : KeyRole → FixedBytes 32 → Except Text Text
  | .authorized => X.eddsaPrivateToPem
  | .authentication => X.ecdsaPrivateToPem
  | .assertion => X.ecdsaPrivateToPem

/-- The key of a role. -/
def StagedKeys.key (staged : StagedKeys) : KeyRole → FixedBytes 32
  | .authorized => staged.authorized
  | .authentication => staged.authentication
  | .assertion => staged.assertion

variable {X : ToolCrates}

/-- A private key is read back from the file that is written for it. -/
theorem ToolCrates.Lawful.parsePrivateKey (hX : X.Lawful) {role : KeyRole} {key : FixedBytes 32}
    {pem : Text} (h : privateToPem X role key = .ok pem) :
    parsePrivateKey X role pem = .ok key := by
  cases role with
  | authorized =>
    show (X.eddsaPrivateFromPem pem).mapError _ = _
    rw [hX.eddsa_pem h]
    rfl
  | authentication =>
    show (X.ecdsaPrivateFromPem pem).mapError _ = _
    rw [hX.ecdsa_pem h]
    rfl
  | assertion =>
    show (X.ecdsaPrivateFromPem pem).mapError _ = _
    rw [hX.ecdsa_pem h]
    rfl

/-! ## Sample crates

Keys, digests and signatures of the logs of two DIDs as the tool writes them: `did:tdw:<SCID>:a.ch`
and, in a space of a registry, `did:tdw:<SCID>:a.ch:18fa7c77`.
The digests and signatures are looked up by the fingerprint of what they are made of. -/

namespace Sample

/-- The secret of `key`. -/
def seed : FixedBytes 32 :=
  bytesOf 32 0x9d61b19deffd5a60ba844af492ec2cc44449c5697b326919703bac031cae7f60

/-- A P-256 signing key. -/
def authenticationSecret : FixedBytes 32 :=
  bytesOf 32 0xc9afa9d845ba75166b5c215767b1d6934e50c3db36e89b127b8a622b120f6721

/-- Another P-256 signing key. -/
def assertionSecret : FixedBytes 32 :=
  bytesOf 32 0x0102030405060708090a0b0c0d0e0f101112131415161718191a1b1c1d1e1f20

/-- A third P-256 signing key. -/
def rotatedSecret : FixedBytes 32 :=
  bytesOf 32 0x1102030405060708090a0b0c0d0e0f101112131415161718191a1b1c1d1e1f20

/-- The P-256 keys of the sample signing keys. -/
def p256PublicKeys : List (FixedBytes 32 × P256PublicKey) := [
  (authenticationSecret,
    ⟨bytesOf 32 0x60fed4ba255a9d31c961eb74c6356d68c049b8923b61fa6ce669622e60f29fb6,
      bytesOf 32 0x7903fe1008b8bc99a41ae9e95628bc64f2f1b20c2d7e9f5177a3c294d4462299⟩),
  (assertionSecret,
    ⟨bytesOf 32 0x515c3d6eb9e396b904d3feca7f54fdcd0cc1e997bf375dca515ad0a6c3b4035f,
      bytesOf 32 0x4536be3a50f318fbf9a5475902a221502bef0d57e08c53b2cc0a56f17d9f9354⟩),
  (rotatedSecret,
    ⟨bytesOf 32 0x6ebdf2542a9692338997284b1417d581608939b3b0619fd706b40ba904f8e83a,
      bytesOf 32 0x0db131e2aba011905de0421840f14c8c557765d3b04dd45011bd24aa49f35b31⟩)]

/-- A PEM block of two or three lines. -/
def pemBlock (label : String) (lines : List String) : Text :=
  Text.lit "-----BEGIN " ++ label ++ "-----\n" ++
    lines.flatMap (fun line => Text.lit line ++ ['\n']) ++
    Text.lit "-----END " ++ label ++ "-----\n"

/-- The PEM of `seed`. -/
def seedPem : Text := pemBlock "PRIVATE KEY" [
  "MFECAQEwBQYDK2VwBCIEIJ1hsZ3v/VpguoRK9JLsLMREScVpezJpGXA7rAMcrn9g",
  "gSEA11qYAYKxCrfVS/7TyWQHOg7hcvPapiMlrwIaaPcHURo="]

/-- The PEM files of the sample P-256 signing keys. -/
def p256Pems : List (FixedBytes 32 × Text) := [
  (authenticationSecret, pemBlock "PRIVATE KEY" [
    "MIGHAgEAMBMGByqGSM49AgEGCCqGSM49AwEHBG0wawIBAQQgya+p2EW6dRZrXCFX",
    "Z7HWk05Qw9s26JsSe4piKxIPZyGhRANCAARg/tS6JVqdMclh63TGNW1owEm4kjth",
    "+mzmaWIuYPKftnkD/hAIuLyZpBrp6VYovGTy8bIMLX6fUXejwpTURiKZ"]),
  (assertionSecret, pemBlock "PRIVATE KEY" [
    "MIGHAgEAMBMGByqGSM49AgEGCCqGSM49AwEHBG0wawIBAQQgAQIDBAUGBwgJCgsM",
    "DQ4PEBESExQVFhcYGRobHB0eHyChRANCAARRXD1uueOWuQTT/sp/VP3NDMHpl783",
    "XcpRWtCmw7QDX0U2vjpQ8xj7+aVHWQKiIVAr7w1X4IxTsswKVvF9n5NU"]),
  (rotatedSecret, pemBlock "PRIVATE KEY" [
    "MIGHAgEAMBMGByqGSM49AgEGCCqGSM49AwEHBG0wawIBAQQgEQIDBAUGBwgJCgsM",
    "DQ4PEBESExQVFhcYGRobHB0eHyChRANCAARuvfJUKpaSM4mXKEsUF9WBYIk5s7Bh",
    "n9cGtAupBPjoOg2xMeKroBGQXeBCGEDxTIxVd2XTsE3UUBG9JKpJ81sx"])]

/-- The PEM files of the sample P-256 verifying keys, by their first coordinates. -/
def p256PublicPems : List (FixedBytes 32 × Text) := [
  (bytesOf 32 0x60fed4ba255a9d31c961eb74c6356d68c049b8923b61fa6ce669622e60f29fb6,
    pemBlock "PUBLIC KEY" [
      "MFkwEwYHKoZIzj0CAQYIKoZIzj0DAQcDQgAEYP7UuiVanTHJYet0xjVtaMBJuJI7",
      "Yfps5mliLmDyn7Z5A/4QCLi8maQa6elWKLxk8vGyDC1+n1F3o8KU1EYimQ=="]),
  (bytesOf 32 0x515c3d6eb9e396b904d3feca7f54fdcd0cc1e997bf375dca515ad0a6c3b4035f,
    pemBlock "PUBLIC KEY" [
      "MFkwEwYHKoZIzj0CAQYIKoZIzj0DAQcDQgAEUVw9brnjlrkE0/7Kf1T9zQzB6Ze/",
      "N13KUVrQpsO0A19FNr46UPMY+/mlR1kCoiFQK+8NV+CMU7LMClbxfZ+TVA=="]),
  (bytesOf 32 0x6ebdf2542a9692338997284b1417d581608939b3b0619fd706b40ba904f8e83a,
    pemBlock "PUBLIC KEY" [
      "MFkwEwYHKoZIzj0CAQYIKoZIzj0DAQcDQgAEbr3yVCqWkjOJlyhLFBfVgWCJObOw",
      "YZ/XBrQLqQT46DoNsTHiq6ARkF3gQhhA8UyMVXdl07BN1FARvSSqSfNbMQ=="])]

/-- The SHA-256 digests of the values that the tool writes in the samples. -/
def toolDigests : List (ℕ × ℕ) := [
  (5266, 0x7f7d447661825f25a280e10f3b63bba03e575d88e50a27257977ceaacad8df7c),
  (7125, 0x1174c9c11abf048636ea57e64ec4debe7c6de35512d5169d9078fdeaaa5acef9),
  (28216, 0x5eaccaad83040ca9e14e2486774afc23e615e3ad382c358ea707ed293b259e40),
  (19250, 0xa99679800b95f0c6ee20482509ee9399c61661ffb8e03168ea3e85feb74b4bf1),
  (61763, 0xafb822bf24a414da0e653ad2da132a20bd32f784deb2570fc0256626a6713b09),
  (57604, 0x3f0249558b3b036d4fe7b6127c1c282b4e6e410bf1a3e22a648dba53220a52fe),
  (56467, 0x51c0c802749c7d3c676a7f5837d5c2b0132e999bcef6fe1c6c459cb0d9023828),
  (4778, 0x461abee6de75b30429806937ca160f4a3250e234d1e6f0e8b42c59a0f27c9282),
  (46602, 0xd559ed22b346f1fc9fe85ba1f4bd616c414386fd0df06538ff9d52b5a1231e5a),
  (20056, 0x9af2e1db56dff97ae1206eacdd0138b2c98b9b91f87351f31598b6d62b29a950),
  (46105, 0x470f40f6c4b243769685b30661efd20b3126b7201458b457e971a6ff1d3a8981),
  (29125, 0x25f30c52e8f246194b00993c23a263ad0f6680bc8e67f7dea53064bbde3d836e),
  (9274, 0x85213b815f960d30c556799d6083069750517c0e3fbf4b2ff611424d45fdd43d),
  (6520, 0x36766a808d93a0174b28f5a31d575b86bc2254ff0393d41e7322103b1bb6198b),
  (2196, 0x29bafe218d0f4eae89e71239fd22cb481d8a1f108c968e32c5e5a23eaf2947b1),
  (59114, 0x45337171154e28687f19389bf483e271d31637bb1c9b36727a96295e7b562216),
  (21511, 0x48c6107c7e8969bd31f2b27759f898ba185ca5dca90eb39b2a9615d52c94c52b),
  (57005, 0x712f7717a6094212c9f2a257601375bbfa9dd3191ecf5d2dbd7a4be076dba301),
  (45593, 0x8967b830bcf88beb864ae95066838fac1f48af6c049c41a23c152a9dd5aa83ef),
  (57094, 0xb44643db061b7a27ccdd45ef07f64383aa4a84053b5a092427127ae2f0148371),
  (42829, 0x5d0f58573d0ee09b945ae1ed06fca323531d6399d70a23fd9448a97502c3f341),
  (20108, 0x2d31e96312a2788d3e4a5c08e05b24d44b6d4e40192308c733b94257021b3e8a),
  (44364, 0x7839bd08dcc0a3596f3276c3cf3e00d8c11bda3d2e1dc2fddec9bf209eee24c7),
  (63796, 0x72630262056d9875a5ec3048dd90f17ebfe7630743da1744a3a874c61aca7878),
  (65452, 0xf6d84c846b17b100cc896fded33db8d4f838cefa6b7318d58d3949df7e3ddfe0),
  (45900, 0x399ab133085e4726f8c4e949137deee4c3221316837c7fedd083746d123abbc9),
  (981, 0x1698bb32eef0987911fd63bb335c87fcfed838b9ab38c6e931310d6542a477fc)]

/-- The signature of the first entry. -/
def createdSignature : FixedBytes 64 :=
  signatureOf 0x58d91f71727ce99abd33afa8c4d0d59c754a9160bdc8c10e0954346c4d74de42
    0x848899833946893de00e611c858816f23a2611c46f1bb7a624ef65ea8fb3d800

/-- The signature of an entry that deactivates the DID. -/
def deactivatedSignature : FixedBytes 64 :=
  signatureOf 0x86b3b5789b12da8b5be14d1e87eeacd88891b594e478a5fcf128091e1d4e361b
    0x5cc493a17e74deb4b0c454440cf523c3de260c4058aeed0ebdb13fd844461b08

/-- The signature of a proof of possession by `authenticationSecret`. -/
def popSignature : FixedBytes 64 :=
  signatureOf 0x6f3b5cc333cd93f1ecd05c913bd168c0fe72f1583516220ee07d3e4ef3d26f23
    0xfb6e5abdafcc5b795e93cac65fe78fdea4a01fdcd9ec199f2abd2d461018830f

/-- The signatures that the tool makes in the samples, all but the last one by `seed`. -/
def toolSignatures : List (ℕ × FixedBytes 64) := [
  (14595, createdSignature),
  (43272, signatureOf 0x330eb6e693ed3b045b6f1f1611828b3e80a134ef4a3cf96dc467a43bb7a44000
    0xa72d914ae6277dc90c741af5affb96c5adbce1ef9a15a5c482c9dd33f8487f0c),
  (13171, deactivatedSignature),
  (57010, signatureOf 0x2750e536ad2e50b64c3523c622e99d580f9cf1b8b84355527aeac32181e9c6a9
    0x4675a44c68458da1db234d0d186cd450e6d724762fb1c69a525182d406813a09),
  (48500, signatureOf 0xf7914bb4f651d258bb611fcfb594dd41cb5ea32e69975bacafc9adcf86e43a97
    0xd7aba7eedc538a63197e5fb86136d5cc6d22fe385c24cdbaaf157ed681063403),
  (22408, signatureOf 0x9a0059c3468e910ebe57d13686162b7826c71bfee4eade8014ab611aa0704643
    0x6ca9ed3e00a1b00cc192c9688d1c82212fdc76b36c80b71e713cc6067c3ebc0c),
  (18458, signatureOf 0x9356fa018b88d781394aba571aecfc6ebb5cbe34c75dd76c155acaa6a04d2c01
    0x978c21c00970a2688dad882e4661611e3c7f8b0147309232b4f81c17e97b0f0f),
  (44957, signatureOf 0x73c4fb775cbad68f3936c51843bd2fb7faebd082d1742e7b6d0e14df71a17156
    0x0545907aee1288d658d494d0178b5f7a59262a34ccc5631bbcc9228932ad380d),
  (53276, signatureOf 0x1f10d8559dfb7da270a6222bd3ef8c09860a3c2e67013fe9ff3f92d4fb89079c
    0xcb8eceed880a6a087e22c29f3ab0d5354788be55a41318ae968022a49bfc670a),
  (10487, signatureOf 0xd17d9968b4b072ddf1e3990dcd7a39f1b141105ca533103d4589cd380e669b03
    0x5524e3afdc57a5e8ac25adbce4b6327047a7915d5d7c17a5c16b7488488c1606),
  (53605, popSignature)]

/-- The signature of a message. -/
def toolSignature (message : Bytes) : FixedBytes 64 :=
  (toolSignatures.lookup (fingerprint message)).getD (signatureOf 0 0)

/-- The P-256 key of a signing key. -/
def toolP256Key (secret : FixedBytes 32) : P256PublicKey :=
  (p256PublicKeys.lookup secret).getD ⟨secret, secret⟩

/-- The BLAKE3 hashes of the DIDs. -/
def toolHashes : List (ℕ × ℕ) := [
  (8704, 0x340422216d80751bef883ae8a5fb81534bf3e5963dfa25d24c578ff82b5c59fc),
  (8103, 0xe6542f09e3b694cc0a634fa23baa3caf53425a75696319beded405ce5e6eca66)]

/-- The instants of the samples, in seconds. -/
def instants : List (ℤ × Text) := [
  (1735689600, "2025-01-01T00:00:00Z"),
  (1735776000, "2025-01-02T00:00:00Z"),
  (1735800045, "2025-01-02T06:40:45Z"),
  (1735862400, "2025-01-03T00:00:00Z"),
  (1735948800, "2025-01-04T00:00:00Z")]

/-- The sample crates of the tool. -/
def toolCrates : ToolCrates where
  toCrates := { cratesOf toolDigests [] with
    ed25519Verify := fun _ message signature => signature = toolSignature message }
  base64Error _ := []
  serdeJsonBytesError _ := []
  p256FromSec1 bytes := match bytes with
    | 0x04 :: rest =>
      if h : rest.length = 64 then
        .ok ⟨⟨rest.take 32, by simp [h]⟩, ⟨rest.drop 32, by simp [h]⟩⟩
      else .error []
    | _ => .error []
  p256Verify _ message signature := signature = toolSignature message
  zlibDecode _ := .error []
  rfc3339 _ := none
  debugText t := t
  ed25519VerifyingKey secret := if secret = seed then key else secret
  ed25519Sign _ := toolSignature
  p256VerifyingKey := toolP256Key
  p256Sign _ := toolSignature
  eddsaPrivateToPem secret := if secret = seed then .ok seedPem else .error []
  eddsaPublicToPem pk :=
    if pk = key then .ok (pemBlock "PUBLIC KEY"
      ["MCowBQYDK2VwAyEA11qYAYKxCrfVS/7TyWQHOg7hcvPapiMlrwIaaPcHURo="])
    else .error []
  ecdsaPrivateToPem secret := (p256Pems.lookup secret).okOr []
  ecdsaPublicToPem pk := (p256PublicPems.lookup pk.x).okOr []
  eddsaPrivateFromPem pem := if pem = seedPem then .ok seed else .error []
  ecdsaPrivateFromPem pem := ((p256Pems.find? fun p => p.2 = pem).map Prod.fst).okOr []
  blake3 bytes := bytesOf 32 ((toolHashes.lookup (fingerprint bytes)).getD 0)
  parseRfc3339 text := (instants.find? fun p => p.2 = text).map fun p => p.1 * 1000000000
  rfc3339Secs ns := (instants.lookup (ns / 1000000000)).getD []

/-- The sample crates can be relied on. -/
theorem lawful_toolCrates : toolCrates.Lawful where
  ed25519_point _ := rfl
  ed25519_verify _ _ := decide_eq_true rfl
  p256_sec1 secret := by
    have hx := (toolCrates.p256VerifyingKey secret).x.2
    have hy := (toolCrates.p256VerifyingKey secret).y.2
    have hlength : ((toolCrates.p256VerifyingKey secret).x ++
        ((toolCrates.p256VerifyingKey secret).y : Bytes)).length = 64 := by
      rw [List.length_append, hx, hy]
    show (if h : _ then _ else _) = _
    rw [dif_pos hlength]
    -- The coordinates are the two halves of what follows the tag.
    congr 2
    · exact Subtype.ext (List.take_left' hx)
    · exact Subtype.ext (List.drop_left' hx)
  p256_verify _ _ := decide_eq_true rfl
  eddsa_pem {secret pem} h := by
    show (if pem = seedPem then Except.ok seed else .error []) = _
    change (if secret = seed then Except.ok seedPem else .error []) = _ at h
    split_ifs at h with hsecret
    obtain rfl := Except.ok.inj h
    rw [if_pos rfl, hsecret]
  ecdsa_pem {secret pem} h := by
    -- No two sample keys have the same PEM text.
    have hfind : ∀ p ∈ p256Pems, p256Pems.find? (fun q => q.2 = p.2) = some p := by decide +kernel
    have hmem : (secret, pem) ∈ p256Pems := by
      obtain ⟨before, after, hpems, -⟩ :=
        List.lookup_eq_some_iff.mp (Option.okOr_eq_ok_iff.mp h)
      rw [hpems]
      exact List.mem_append_right _ List.mem_cons_self
    show ((p256Pems.find? fun p => p.2 = pem).map Prod.fst).okOr [] = _
    rw [hfind _ hmem]
    rfl

end Sample

end Swiyu
