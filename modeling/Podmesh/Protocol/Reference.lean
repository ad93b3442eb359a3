import Podmesh.Protocol.Verify

namespace Podmesh

namespace Reference

def b64Encode (bytes : Bytes) : String := String.ofList (bytes.map fun b => Char.ofNat b.toNat)

def b64Decode (text : String) : Except String Bytes :=
  if (utf8Bytes text).all fun b => b < 128 then .ok (utf8Bytes text) else .error "invalid encoding"

def hexDigit (n : Nat) : Char := Char.ofNat (if n < 10 then 48 + n else 87 + n)

def lastBytes (count : Nat) (bytes : Bytes) : Bytes :=
  (bytes.reverse ++ List.replicate count 0).take count

def blake3Hex (parts : List Bytes) : String :=
  String.ofList ((lastBytes 32 parts.flatten).flatMap fun b =>
    [hexDigit (b.toNat / 16), hexDigit (b.toNat % 16)])

def signature (key : Bytes) : Bytes := lastBytes 64 key

def platform : Platform where
  b64Encode := b64Encode
  b64Decode := b64Decode
  canonical _ := .ok [1]
  signDomain key _ _ := .ok (signature key)
  verifyDomain key _ _ sig := ensure (sig == signature key) "signature mismatch"
  blake3Hex := blake3Hex
  parseSocketAddr text := some text

def key (n : UInt8) : Bytes := List.replicate 32 n

def owner (n : UInt8) : String := b64Encode (key n)

def signedBy (n : UInt8) : String := b64Encode (signature (key n))

end Reference
end Podmesh
