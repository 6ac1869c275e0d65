import Gateway.Config.Basic
import Gateway.Files
import Gateway.Text.Quoted
import Gateway.Tls.Curve
import Gateway.Tls.Element
import Gateway.Tls.Pem

/-! Identities. A listener shows a chain of certificates and proves that it owns the first of them with a private
    key. Both come from files; there has to be a certificate, exactly one key, and the key has to belong to the
    certificate. Keys are on elliptic curves. -/

namespace Gateway.Tls

/-- Why a listener has no identity. -/
inductive IdentityError
  | noCertificateFile (path : String)
  | noKeyFile (path : String)
  /-- A directory stands where a file should be. -/
  | noDocument (path : String)
  /-- A section of the certificate file is broken. -/
  | brokenCertificates
  | noCertificate
  /-- The key file does not hold exactly one key. -/
  | noSingleKey
  /-- A key that is none, or of a kind that is not known. -/
  | unusableKey
  | unusableCertificate
  /-- The key belongs to another certificate. -/
  | foreignKey
deriving DecidableEq, Repr

/-- A missing file is reported with its path. -/
def IdentityError.message? : IdentityError → Option String
  | noCertificateFile path => some ("Certificate file not found: " ++ Text.quotePath path)
  | noKeyFile path => some ("Private key file not found: " ++ Text.quotePath path)
  | _ => none

/-! ### Private keys -/

/-- The name of keys on curves. -/
def curveKeyName : List UInt8 := [0x2a, 0x86, 0x48, 0xce, 0x3d, 0x02, 0x01]

/-- A private key: a number below the order of a curve. -/
structure PrivateKey where
  curve : Curve
  secret : Nat

namespace PrivateKey

/-- What certificates say about the public key that belongs to a private one. -/
def publicBytes (key : PrivateKey) : List UInt8 :=
  let bytes := key.curve.pointBytes (key.curve.publicPoint key.secret)
  let named (name : List UInt8) : List UInt8 := Element.nameTag :: UInt8.ofNat name.length :: name
  let kind := named curveKeyName ++ named key.curve.name
  Element.rowTag :: UInt8.ofNat kind.length :: kind
    ++ Element.bitsTag :: UInt8.ofNat (bytes.length + 1) :: 0 :: bytes

/-- The number of a private key on a curve, which may name that curve and its own public key. -/
def ofSecret? (curve : Curve) (bytes : List UInt8) : Option PrivateKey := do
  match ← Element.onlyRow? bytes with
  | version :: secret :: members =>
    let digits ← secret.of? Element.bytesTag
    let key : PrivateKey := ⟨curve, Element.number digits⟩
    let member? (n : UInt8) : Option (List UInt8) := (members.find? (·.tag == Element.memberTag n)).map (·.content)
    let isNamed := (member? 0).all fun name => Element.only? name == some ⟨Element.nameTag, curve.name⟩
    let isOwn := (member? 1).all fun bits =>
      Element.only? bits == some ⟨Element.bitsTag, 0 :: curve.pointBytes (curve.publicPoint key.secret)⟩
    if version = ⟨Element.integerTag, [1]⟩ ∧ digits.length = curve.size ∧ 0 < key.secret ∧ key.secret < curve.order
        ∧ isNamed ∧ isOwn then
      some key
    else none
  | _ => none

/-- A private key in a wrapping that names its kind and curve. -/
def ofWrapped? (bytes : List UInt8) : Option PrivateKey := do
  match ← Element.onlyRow? bytes with
  | ⟨2, [0]⟩ :: kind :: inner :: _ =>
    match ← Element.row? (← kind.of? Element.rowTag) with
    | [name, curve] =>
      if (← name.of? Element.nameTag) = curveKeyName then
        let curveName ← curve.of? Element.nameTag
        ofSecret? (← Curve.all.find? (·.name == curveName)) (← inner.of? Element.bytesTag)
      else none
    | _ => none
  | _ => none

/-- A private key, wrapped or not. -/
def ofBytes? (bytes : List UInt8) : Option PrivateKey :=
  (ofWrapped? bytes).or (Curve.all.findSome? fun curve => ofSecret? curve bytes)

/-- The labels of private keys. -/
def labels : List String := ["RSA PRIVATE KEY", "PRIVATE KEY", "EC PRIVATE KEY"]

end PrivateKey

/-! ### Certificates -/

/-- What a certificate says about its public key. -/
def certifiedKey? (certificate : List UInt8) : Option (List UInt8) := do
  match ← Element.onlyRow? certificate with
  | [signed, _, _] =>
    match ← Element.row? (← signed.of? Element.rowTag) with
    | version :: _ :: _ :: _ :: _ :: _ :: key :: _ =>
      if version = ⟨Element.memberTag 0, [2, 1, 2]⟩ then key.of? Element.rowTag else none
    | _ => none
  | _ => none

/-! ### Identities -/

structure Identity where
  /-- The certificates, the listener's own first. -/
  chain : List (List UInt8)
  key : PrivateKey

/-- The identity that the contents of two files make. -/
def Identity.ofContents (certificates key : ByteArray) : Except IdentityError Identity := do
  let sections ← (Section.ofBytes certificates).mapM fun s => s.elim (.error .brokenCertificates) .ok
  let chain := (sections.filter (·.label == "CERTIFICATE")).map (·.content)
  let keys := (Section.ofBytes key).filterMap fun s => s.filter fun s => PrivateKey.labels.contains s.label
  let [key] := keys | .error .noSingleKey
  let some key := PrivateKey.ofBytes? key.content | .error .unusableKey
  let own :: _ := chain | .error .noCertificate
  let some certified := certifiedKey? own | .error .unusableCertificate
  if certified = key.publicBytes then return ⟨chain, key⟩ else .error .foreignKey

/-- The bytes of a file that is there. -/
def content (path : String) : File → Except IdentityError ByteArray
  | .document bytes _ => .ok bytes
  | .directory => .error (.noDocument path)

/-- The identity that the files of a configuration make. Both have to be there before either is read. -/
def Identity.load (files : Files) (config : Config.Tls) : Except IdentityError Identity := do
  let some certificates := files config.certificate | .error (.noCertificateFile config.certificate)
  let some key := files config.key | .error (.noKeyFile config.key)
  ofContents (← content config.certificate certificates) (← content config.key key)

end Gateway.Tls
